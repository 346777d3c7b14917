import NativeInterop.Shell.Machine

namespace NativeInterop.Shell

/-- Starts a program by its name, and gives its status. -/
abbrev Launcher := List Bytes → Action (Except IoError Nat)

/-- What a utility does, given the name it was called by and its arguments. -/
abbrev Utility := Launcher → (name : Bytes) → List Bytes → Action Nat

namespace Utility

/-! How the utilities tell what is wrong. -/

open Shell.Action

namespace Quote

def isPrintable (c : Char) : Bool :=
  32 ≤ c.toNat && c.toNat < 127

/-- The characters that mean something to a shell wherever they stand. -/
def isSpecial (c : Char) : Bool :=
  " !\"$&()*;<=>[^\x60|'?\\".contains c || !isPrintable c

/-- Whether a name can be misread by a shell. -/
def needsQuotes (name : Bytes) : Bool :=
  match name with
  | [] => true
  | [c] => isSpecial c || "\x7b\x7d#~".contains c
  | c :: _ => c == '#' || c == '~' || name.any isSpecial

/-- Whether a character stands for itself between double quotes, in a shell and elsewhere. -/
def isCompatible (c : Char) : Bool :=
  c.isAlphanum || " '%+,-./:@]_".contains c

def octal (c : Char) : Bytes :=
  let digits := Nat.toDigits 8 c.toNat
  List.replicate (3 - digits.length) '0' ++ digits

def escape (c : Char) : Bytes :=
  match c with
  | '\x07' => ['\\', 'a']
  | '\x08' => ['\\', 'b']
  | '\x0c' => ['\\', 'f']
  | '\n' => ['\\', 'n']
  | '\r' => ['\\', 'r']
  | '\t' => ['\\', 't']
  | '\x0b' => ['\\', 'v']
  | c => '\\' :: octal c

/-- The characters of a name between single quotes, other quotes being opened for those that cannot
be printed. -/
def shellBody : (escaping : Bool) → Bytes → Bytes
  | _, [] => []
  | escaping, c :: rest =>
      if c == '\'' then "'\\''".toList ++ shellBody false rest
      else if isPrintable c then
        (if escaping then ['\'', '\''] else []) ++ c :: shellBody false rest
      else (if escaping then [] else ['\'', '$', '\'']) ++ escape c ++ shellBody true rest

def shellAlways (name : Bytes) : Bytes :=
  if name.contains '\'' && name.all isCompatible then '"' :: name ++ ['"']
  else '\'' :: shellBody false name ++ ['\'']

/-- A name, between quotes if it needs them. -/
def shell (name : Bytes) : Bytes :=
  if needsQuotes name || name.contains ':' then shellAlways name else name

/-- A text between plain quotes. -/
def plain (text : Bytes) : Bytes :=
  let body := text.flatMap fun c =>
    if c == '\'' || c == '\\' then ['\\', c] else if isPrintable c then [c] else escape c
  '\'' :: body ++ ['\'']

end Quote

/-- Writes a line of complaint with the name of the utility. -/
def complain (name message : Bytes) : Action Unit :=
  Action.complain (name ++ ": ".toList ++ message ++ ['\n'])

def stop {α : Type} (status : Nat) : Action α :=
  throw (.exit status)

def failWith {α : Type} (status : Nat) (name message : Bytes) : Action α := do
  complain name message
  stop status

def helpLine (name : Bytes) : Bytes :=
  "Try '".toList ++ name ++ " --help' for more information.\n".toList

/-- Ends because of wrong arguments. -/
def misuse {α : Type} (status : Nat) (name message : Bytes) : Action α := do
  complain name message
  Action.complain (helpLine name)
  stop status

/-- Remembers what prevents output, to be told at the end. -/
def note (error : Option IoError) : Action Unit := do
  if error.isSome then modifyProcess fun process => { process with unwritten := error }

def put (bytes : Bytes) : Action Unit := do
  unless bytes.isEmpty do note (← write 1 bytes)

/-- Puts out what has been kept. -/
def putKept : Action Unit := do
  note (← flush)

/-! ### Options -/

inductive Takes
  | nothing | value | possibly
  deriving DecidableEq

structure OptionTable where
  /-- The letters, each with a colon behind it if it takes a value. -/
  letters : String
  /-- The long names, with the letters they stand for. -/
  names : List (String × Takes × Char) := []
  /-- The status after wrong arguments. -/
  status : Nat := 1
  /-- Whether options end at the first other argument. -/
  leading : Bool := false
  /-- What wrong arguments are answered with, behind the name. -/
  usage : Option String := none
  /-- Whether the line about help begins with the name as well. -/
  namesHelp : Bool := false
  /-- How digits are refused, and whether that is all that is said about them. -/
  digits : Option (String × Bool) := none

structure Arguments where
  options : List (Char × Bytes)
  operands : List Bytes

namespace Arguments

def has (arguments : Arguments) (letter : Char) : Bool :=
  arguments.options.any (·.1 == letter)

/-- The last value of an option. -/
def value? (arguments : Arguments) (letter : Char) : Option Bytes :=
  (arguments.options.reverse.find? (·.1 == letter)).map (·.2)

def values (arguments : Arguments) (letter : Char) : List Bytes :=
  (arguments.options.filter (·.1 == letter)).map (·.2)

end Arguments

namespace OptionTable

/-- Ends because of wrong options. -/
def misuse {α : Type} (table : OptionTable) (name message : Bytes) : Action α := do
  complain name message
  if let some usage := table.usage then
    Action.complain ("Usage: ".toList ++ name ++ ' ' :: usage.toList ++ ['\n'])
  Action.complain ((if table.namesHelp then name ++ ": ".toList else []) ++ helpLine name)
  stop table.status

/-- The options in a group of letters; the last may have its value in the next argument. -/
def group (table : OptionTable) (name : Bytes) :
    Bytes → List Bytes → Action (List (Char × Bytes) × List Bytes)
  | [], rest => return ([], rest)
  | letter :: letters, rest => do
      let after := table.letters.toList.dropWhile (· != letter)
      if let some (message, isAll) := if letter.isDigit then table.digits else none then
        let message := message.toList ++ " -- ".toList ++ [letter]
        if isAll then failWith table.status name message else misuse table name message
      if after.isEmpty || letter == ':' then
        misuse table name ("invalid option -- '".toList ++ [letter, '\''])
      if after[1]? != some ':' then
        let (more, rest) ← group table name letters rest
        return ((letter, []) :: more, rest)
      else if !letters.isEmpty || after[2]? == some ':' then return ([(letter, letters)], rest)
      else
        match rest with
        | value :: rest => return ([(letter, value)], rest)
        | [] =>
            misuse table name
              ("option requires an argument -- '".toList ++ [letter, '\''])

def long (table : OptionTable) (name text : Bytes) (rest : List Bytes) :
    Action ((Char × Bytes) × List Bytes) := do
  let key := text.takeWhile (· != '=')
  let given := text.drop (key.length + 1)
  let hasValue := text.contains '='
  let exact := table.names.filter (·.1.toList == key)
  let matching := table.names.filter fun entry => key.isPrefixOf entry.1.toList
  let shown := "option '--".toList ++ key ++ ['\'']
  match if exact.isEmpty then matching else exact with
  | [(full, takes, letter)] =>
      let shown := ("option '--" ++ full ++ "'").toList
      match takes with
      | .nothing =>
          if hasValue then misuse table name (shown ++ " doesn't allow an argument".toList)
          return ((letter, []), rest)
      | .possibly => return ((letter, given), rest)
      | .value =>
          if hasValue then return ((letter, given), rest)
          match rest with
          | value :: rest => return ((letter, value), rest)
          | [] => misuse table name (shown ++ " requires an argument".toList)
  | [] => misuse table name ("unrecognized option '--".toList ++ text ++ ['\''])
  | several =>
      let choices := several.flatMap fun entry => (" '--" ++ entry.1 ++ "'").toList
      misuse table name (shown ++ " is ambiguous; possibilities:".toList ++ choices)

def readWithin (table : OptionTable) (name : Bytes) : Nat → List Bytes → Action Arguments
  | 0, rest => return ⟨[], rest⟩
  | fuel + 1, arguments =>
      match arguments with
      | [] => return ⟨[], []⟩
      | ['-', '-'] :: rest => return ⟨[], rest⟩
      | ('-' :: '-' :: text) :: rest => do
          let (option, rest) ← long table name text rest
          let more ← readWithin table name fuel rest
          return { more with options := option :: more.options }
      | ('-' :: letter :: letters) :: rest => do
          let (options, rest) ← group table name (letter :: letters) rest
          let more ← readWithin table name fuel rest
          return { more with options := options ++ more.options }
      | operand :: rest =>
          if table.leading then return ⟨[], operand :: rest⟩
          else do
            let more ← readWithin table name fuel rest
            return { more with operands := operand :: more.operands }

def read (table : OptionTable) (name : Bytes) (arguments : List Bytes) : Action Arguments :=
  readWithin table name (arguments.length + 1) arguments

end OptionTable

def missingOperand {α : Type} (name : Bytes) : Action α :=
  misuse 1 name "missing operand".toList

def extraOperand {α : Type} (name operand : Bytes) : Action α :=
  misuse 1 name ("extra operand ".toList ++ Quote.plain operand)

/-! ### Input -/

/-- Why a file gives no input. -/
inductive InputError
  | opening (error : IoError)
  | reading (error : IoError)

def InputError.error : InputError → IoError
  | opening error | reading error => error

/-- All that a file has; a dash stands for the standard input. -/
def input (path : Bytes) : Action (Except InputError Bytes) := do
  if path == ['-'] || path == "/dev/stdin".toList then
    match ← readAll 0 with
    | some bytes => return .ok bytes
    | none => return .error (.reading (.system 9))
  match System.lookup (← files) path with
  | .error error => return .error (.opening error)
  | .ok .directory => return .error (.reading .isADirectory)
  | .ok (.file content _) => return .ok (Bytes.ofBytes content)
  | .ok (.program _) => return .ok []
  | .ok (.special file) => return .ok file.content

/-- Goes over the files that are named, or the standard input if there are none, and gives the worst
status. -/
def overInputs (paths : List Bytes) (complainAbout : Bytes → InputError → Action Unit)
    (use : Bytes → Bytes → Action Unit) : Action Nat := do
  let paths := if paths.isEmpty then [['-']] else paths
  let statuses ← paths.mapM fun path => do
    match ← input path with
    | .ok bytes =>
        use path bytes
        return 0
    | .error error =>
        complainAbout path error
        return 1
  return statuses.foldl max 0

/-- The complaint that most utilities make about a file. -/
def complainAbout (name path : Bytes) (error : InputError) : Action Unit :=
  complain name (Quote.shell path ++ ": ".toList ++ errorText error.error)

end Utility

end NativeInterop.Shell
