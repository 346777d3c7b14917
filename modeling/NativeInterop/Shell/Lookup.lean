import NativeInterop.Shell.Builtin
import NativeInterop.Shell.CommandReader

namespace NativeInterop.Shell

/-! What the name of a command means. -/

open Shell.Action

/-- The builtin commands that run other commands. -/
inductive Runner
  | eval | source | exec | command | type | hash
  deriving DecidableEq

inductive Callee
  | function (body : Command)
  | builtin (run : List Bytes → Action Nat)
  | runner (runner : Runner)
  /-- A program, by the path that leads to it. -/
  | program (path : Bytes)
  /-- Nothing of that name; the message tells why. -/
  | missing (message : String)

namespace Lookup

def runners : List (String × Runner) :=
  [("eval", .eval), (".", .source), ("exec", .exec), ("command", .command), ("type", .type),
    ("hash", .hash)]

def isSpecial (name : Bytes) : Bool :=
  specialBuiltins.contains (String.ofList name) || name == "local".toList

def builtin? (name : Bytes) : Option Callee :=
  match runners.lookup (String.ofList name) with
  | some runner => some (.runner runner)
  | none => (Builtin.table.lookup (String.ofList name)).map .builtin

/-- The directories in which programs are looked for. -/
def searchPath : Action (List Bytes) := do
  let path := (← lookup "PATH".toList).getD []
  return Text.segments (· == ':') path

def inDirectory (directory name : Bytes) : Bytes :=
  if directory.isEmpty then name
  else if directory.getLast? == some '/' then directory ++ name
  else directory ++ '/' :: name

/-- The files of a name in directories. -/
def candidatesIn (directories : List Bytes) (name : Bytes) : Action (List (Bytes × Node)) := do
  let files ← files
  return directories.filterMap fun directory =>
    let path := inDirectory directory name
    match System.lookup files path with
    | .ok node => some (path, node)
    | .error _ => none

/-- The files of a name in the directories of the search path. -/
def candidates (name : Bytes) : Action (List (Bytes × Node)) := do
  candidatesIn (← searchPath) name

def isProgram : Node → Bool
  | .program _ | .file _ true => true
  | _ => false

def isRegular : Node → Bool
  | .program _ | .file .. => true
  | _ => false

/-- Remembers that a program has been found. -/
def remember (name : Bytes) : Action Unit :=
  modifyProcess fun process =>
    if process.found.contains name then process
    else { process with found := process.found ++ [name] }

def program (name : Bytes) : Action Callee := do
  if name.contains '/' then return .program name
  let candidates ← candidates name
  match candidates.find? (isProgram ·.2) with
  | some (path, _) => do
      remember name
      return .program path
  | none =>
      return .missing (if candidates.isEmpty then "not found" else "Permission denied")

def callee (name : Bytes) (withFunctions : Bool) : Action Callee := do
  if name.contains '/' then return .program name
  let functions := (← process).functions
  let function := if withFunctions then functions.lookup name else none
  match function, builtin? name with
  | some body, _ => return .function body
  | none, some callee => return callee
  | none, none => program name

/-! ### Telling what a name means -/

/-- Tells what a name means, briefly or in words. -/
def tell (brief : Bool) (name : Bytes) : Action Nat := do
  let inWords (text : String) : Action Nat := do
    emit (if brief then name ++ ['\n'] else name ++ text.toList ++ ['\n'])
    return 0
  let missing : Action Nat := do
    unless brief do emit (name ++ ": not found\n".toList)
    return 127
  if keywords.contains (String.ofList name) then inWords " is a shell keyword"
  else if let some text ← Alias.value? name then
    emit (if brief then "alias ".toList ++ Alias.line name text
      else name ++ " is an alias for ".toList ++ text ++ ['\n'])
    return 0
  else
    let isKnown := (← process).found.contains name
    match ← callee name true with
    | .function _ => inWords " is a shell function"
    | .builtin _ | .runner _ =>
        inWords (if isSpecial name then " is a special shell builtin" else " is a shell builtin")
    | .program path =>
        if (System.lookup (← files) path).isOk then
          let relation := if isKnown then " is a tracked alias for " else " is "
          emit (if brief then path ++ ['\n'] else name ++ relation.toList ++ path ++ ['\n'])
          return 0
        else missing
    | .missing _ => missing

def tellAll : List Bytes → Action Nat
  | [] => return 0
  | name :: rest => do
      let status ← tell false name
      return max status (← tellAll rest)

/-- Looks for programs in advance, or tells which ones have been found. -/
def hash (arguments : List Bytes) : Action Nat := do
  let (options, names) ← optionsOf "r" arguments
  if !options.isEmpty then
    modifyProcess fun process => { process with found := [] }
    return 0
  if names.isEmpty then
    (inBuckets 31 id (← process).found).forM fun name => do
      if let .program path ← program name then emit (path ++ ['\n'])
    return 0
  let statuses ← names.mapM fun name => do
    match ← callee name true with
    | .missing message => do
        warn (name ++ ": ".toList ++ message.toList)
        return 1
    | _ => return 0
  return statuses.foldl max 0

end Lookup

end NativeInterop.Shell
