import NativeInterop.Shell.Pattern
import NativeInterop.Shell.Utility.Files

namespace NativeInterop.Shell.Utility

/-! Utilities that look for files and tell what they are. -/

open Shell.Action

namespace Search

/-! ### Files below a directory -/

/-- What a file has to be in order to be told. -/
inductive Test
  | name (pattern : Bytes) (anyCase : Bool)
  | kind (letter : Char)
  | empty
  | not (test : Test)

/-- Whether a test holds for a name and what stands there. -/
def Test.holds (files : FileSystem) (name : Bytes) (location : Location) (node : Node) : Test → Bool
  | .name pattern anyCase =>
      let folded (text : Bytes) : Bytes := if anyCase then text.map Char.toLower else text
      Pattern.isMatch (folded pattern) (folded name)
  | .kind letter =>
      match letter, node with
      | 'd', .directory | 'f', .file .. | 'f', .program _ | 'c', .special _ => true
      | _, _ => false
  | .empty =>
      match node with
      | .file content _ => content.isEmpty
      | .directory => (System.namesIn files location).isEmpty
      | _ => false
  | .not test => !test.holds files name location node

/-- What is asked for, besides where. -/
structure Wish where
  tests : List Test := []
  shallowest : Nat := 0
  deepest : Option Nat := none
  /-- What ends each path. -/
  ending : Char := '\n'

def missing {α : Type} (name word : Bytes) : Action α :=
  failWith 1 name ("missing argument to \x60".toList ++ word ++ ['\''])

/-- Reads an expression word by word; `negated` stands behind a mark that turns the next test. -/
def wishOf (name : Bytes) (negated : Bool) (wish : Wish) : List Bytes → Action Wish
  | [] => return wish
  | [word] => do
      let add (test : Test) : Wish :=
        { wish with tests := wish.tests ++ [if negated then .not test else test] }
      match String.ofList word with
      | "-print" => return wish
      | "-print0" => return { wish with ending := '\x00' }
      | "-empty" => return add .empty
      | "-name" | "-iname" | "-type" | "-maxdepth" | "-mindepth" => missing name word
      | _ => failWith 1 name ("unknown predicate \x60".toList ++ word ++ ['\''])
  | word :: argument :: rest => do
      let add (test : Test) : Wish :=
        { wish with tests := wish.tests ++ [if negated then .not test else test] }
      let depth : Action Nat :=
        if !argument.isEmpty && argument.all Char.isDigit then pure (valueInBase 10 argument)
        else failWith 1 name ("Expected a positive decimal integer argument to ".toList ++ word ++
          ", but got ".toList ++ Quote.plain argument)
      match String.ofList word with
      | "-name" => wishOf name false (add (.name argument false)) rest
      | "-iname" => wishOf name false (add (.name argument true)) rest
      | "-type" => wishOf name false (add (.kind (argument.headD ' '))) rest
      | "-maxdepth" => wishOf name false { wish with deepest := some (← depth) } rest
      | "-mindepth" => wishOf name false { wish with shallowest := ← depth } rest
      | "-empty" => wishOf name false (add .empty) (argument :: rest)
      | "-print" => wishOf name false wish (argument :: rest)
      | "-print0" => wishOf name false { wish with ending := '\x00' } (argument :: rest)
      | "!" | "-not" => wishOf name true wish (argument :: rest)
      | "-a" | "-and" => wishOf name false wish (argument :: rest)
      | _ => failWith 1 name ("unknown predicate \x60".toList ++ word ++ ['\''])

/-- A path and all paths below it, with how deep they stand. -/
def walk (files : FileSystem) : (fuel depth : Nat) → Bytes → Location → Node →
    List (Nat × Bytes × Location × Node)
  | 0, _, _, _, _ => []
  | fuel + 1, depth, path, location, node =>
      (depth, path, location, node) ::
        if node == .directory then
          ((System.namesIn files location).mergeSort FileNames.precedes).flatMap fun name =>
            match FileSystem.destination location (System.path name).text with
            | .error _ => []
            | .ok there =>
                match System.entryAt? files there with
                | none => []
                | some node => walk files fuel (depth + 1) (Files.join path name) there node
        else []

/-- How deep directories are looked into. -/
def depthLimit : Nat := 200

def find : Utility := fun _ name arguments => do
  let isPath (word : Bytes) : Bool :=
    !(word.head? == some '-' && 1 < word.length) && word != ['!'] && word != ['(']
  let paths := arguments.takeWhile isPath
  let wish ← wishOf name false {} (arguments.drop paths.length)
  let paths := if paths.isEmpty then [['.']] else paths
  let statuses ← paths.mapM fun path => do
    match ← Files.find path with
    | .error error => do
        complain name (Quote.plain path ++ ": ".toList ++ errorText error)
        return 1
    | .ok (location, node) => do
        let files ← files
        let found := (walk files depthLimit 0 path location node).filter
          fun (depth, path, location, node) =>
            wish.shallowest ≤ depth && wish.deepest.all (depth ≤ ·) &&
              wish.tests.all (·.holds files (lastName path) location node)
        put (found.flatMap fun (_, path, _) => path ++ [wish.ending])
        return 0
  return statuses.foldl max 0

/-! ### What a file is -/

def kindText : Node → String
  | .directory => "directory"
  | .file [] _ => "regular empty file"
  | .file .. | .program _ => "regular file"
  | .special _ => "character special file"

/-- The permissions of a file, in octal digits and in letters. -/
def permissions : Node → Nat × String
  | .directory => (755, "drwxr-xr-x")
  | .file _ true | .program _ => (755, "-rwxr-xr-x")
  | .file _ false => (644, "-rw-r--r--")
  | .special _ => (666, "crw-rw-rw-")

/-- Writes what a format asks for. -/
def formatted (path : Bytes) (node : Node) : Bytes → Bytes
  | '%' :: c :: rest =>
      let text := match c with
        | '%' => ['%']
        | 'n' => path
        | 'N' => Quote.shellAlways path
        | 's' => Bytes.ofNat (Condition.sizeOf node)
        | 'F' => (kindText node).toList
        | 'a' => Bytes.ofNat (permissions node).1
        | 'A' => (permissions node).2.toList
        | 'U' | 'G' => "root".toList
        | 'u' | 'g' => ['0']
        | 'h' => ['1']
        | _ => ['?']
      text ++ formatted path node rest
  | c :: rest => c :: formatted path node rest
  | [] => []

def stat : Utility := fun _ name arguments => do
  let table : OptionTable :=
    { letters := "c:fLt"
      names := [("format", .value, 'c'), ("printf", .value, 'P'), ("dereference", .nothing, 'L')] }
  let given ← table.read name arguments
  if given.operands.isEmpty then missingOperand name
  Files.overPaths given.operands fun path => do
    match ← Files.find path with
    | .error error => Files.refusal name "cannot statx" path error
    | .ok (_, node) => do
        if let some format := given.value? 'c' then put (line (formatted path node format))
        else if let some format := given.value? 'P' then
          put (formatted path node (Escape.text true format).1)
        return 0

/-- Nothing is a link, so that only the canonical path of a file can be told. -/
def readlink : Utility := fun _ name arguments => do
  let given ← OptionTable.read { letters := "efmnqsvz" } name arguments
  if given.operands.isEmpty then missingOperand name
  Files.overPaths given.operands fun path => do
    let tells := given.has 'e' || given.has 'f' || given.has 'm'
    if !tells then return 1
    match System.locate (← files) path with
    | .error _ => return 1
    | .ok location => do
        let isThere := (System.entryAt? (← files) location).isSome
        if given.has 'e' && !isThere then return 1
        let text := Builtin.placeText location
        put (if given.has 'n' then text else line text)
        return 0

end Search

end NativeInterop.Shell.Utility
