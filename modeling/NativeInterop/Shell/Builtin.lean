import NativeInterop.Shell.Alias
import NativeInterop.Shell.Expansion
import NativeInterop.Shell.FileMode
import NativeInterop.Shell.Printf

namespace NativeInterop.Shell.Builtin

/-! The builtin commands that run no other command. -/

open Shell.Action

/-- Ends with an error unless a text may name a variable. -/
def requireName (name : Bytes) : Action Unit := do
  unless isName name do fail (name.takeWhile (· != '=') ++ ": bad variable name".toList)

/-- Assigns to a variable whose name is read up to the first equals sign. -/
def assignNamed (name value : Bytes) : Action Unit := do
  let name := name.takeWhile (· != '=')
  requireName name
  assign name value

/-! ### Leaving -/

def leave (continues : Bool) (arguments : List Bytes) : Action Nat := do
  let count ← match arguments with
    | [] => pure 1
    | argument :: _ => do
        let count ← Condition.natOf argument
        if count == 0 then fail ("Illegal number: ".toList ++ argument)
        pure count
  let count := min count (← process).loops
  if 0 < count then
    modifyProcess fun process =>
      { process with skip := if continues then .next count else .leave count }
  return 0

def returnNow (arguments : List Bytes) : Action Nat := do
  let status ← match arguments with
    | [] => pure (← process).status
    | argument :: _ => Condition.natOf argument
  modifyProcess fun process => { process with skip := .return }
  return status

def exit (arguments : List Bytes) : Action Nat := do
  match arguments with
  | [] => throw (.exit (← process).status)
  | argument :: _ => throw (.exit (← Condition.natOf argument))

/-! ### Arguments and variables -/

def shift (arguments : List Bytes) : Action Nat := do
  let count ← match arguments with
    | [] => pure 1
    | argument :: _ => Condition.natOf argument
  if (← process).arguments.length < count then fail "can't shift that many".toList
  modifyProcess fun process => { process with arguments := process.arguments.drop count }
  return 0

def variableLine (before : Bytes) (entry : Variable) : Bytes :=
  before ++ entry.name ++ entry.value.elim [] ('=' :: Job.quoted ·) ++ ['\n']

/-- Tells variables in the order of their names. -/
def tellVariables (before : Bytes) (selects : Variable → Bool) : Action Unit := do
  let chosen := (← process).bindings.filter selects
  let sorted := chosen.mergeSort fun a b => FileNames.precedes a.name b.name
  sorted.forM fun entry => emit (variableLine before entry)

def set (arguments : List Bytes) : Action Nat := do
  if arguments.isEmpty then
    tellVariables [] (·.value.isSome)
    return 0
  let reading ← ShellOption.read false (arguments.length + 1) { rest := arguments }
  if reading.ends || !reading.rest.isEmpty then
    modifyProcess fun process => { process with arguments := reading.rest }
  return 0

def mark (command : String) (isMarked : Variable → Bool) (mark : Variable → Variable)
    (arguments : List Bytes) : Action Nat := do
  let (options, names) ← optionsOf "p" arguments
  if names.isEmpty || !options.isEmpty then
    tellVariables (command ++ " ").toList isMarked
  else
    names.forM fun argument => do
      let (name, value) := splitAssignment argument
      requireName name
      if let some value := value then assign name value
      markVariable name mark
  return 0

def exportVariables : List Bytes → Action Nat :=
  mark "export" (·.exported) fun entry => { entry with exported := true }

def readonly : List Bytes → Action Nat :=
  mark "readonly" (·.readOnly) fun entry => { entry with readOnly := true }

def unset (arguments : List Bytes) : Action Nat := do
  let (options, names) ← optionsOf "vf" arguments
  names.forM fun name => do
    if options.any (·.1 == 'f') then
      modifyProcess fun process =>
        { process with functions := process.functions.filter (·.1 != name) }
    else
      requireName name
      Action.unset name
  return 0

/-- Makes variables that end with the function that is under way. -/
def makeLocal (arguments : List Bytes) : Action Nat := do
  if (← process).calls == 0 then fail "not in a function".toList
  arguments.forM fun argument => do
    let (name, value) := splitAssignment argument
    if name == ['-'] then saveOptions
    else
      if value.isSome && !isName name then
        modifyProcess fun process => { process with builtin := none }
      requireName name
      saveVariable name
      match value with
      | some value => assign name value
      | none => markVariable name id
  return 0

/-! ### Reading -/

/-- The line that is read, with backslashes resolved unless they are kept; and whether it has an
end. -/
def readLine (keeps : Bool) : Nat → Expanded → Nat → Action (Expanded × Bool)
  | 0, expanded, start => return (expanded.split start, false)
  | fuel + 1, expanded, start => do
      match (← readByte 0).join with
      | none => return (expanded.split start, false)
      | some '\x00' => readLine keeps fuel expanded start
      | some '\n' => return (expanded.split start, true)
      | some '\\' =>
          if keeps then readLine keeps fuel (expanded.push (.char false '\\')) start
          else
            match (← readByte 0).join with
            | none => return (expanded.split start, false)
            | some '\n' =>
                let expanded := expanded.split start
                readLine keeps fuel expanded expanded.text.size
            | some c =>
                let expanded := (expanded.split start).push (.char true c)
                readLine keeps fuel expanded expanded.text.size
      | some c => readLine keeps fuel (expanded.push (.char false c)) start

/-- The greatest number of characters in a line that is read. -/
def lineLimit : Nat := 1000000

def assignFields : List Bytes → List (List Glyph) → Action Unit
  | [], _ => return
  | name :: names, fields => do
      assignNamed name (Glyph.text (fields.headD []))
      assignFields names fields.tail

def read (arguments : List Bytes) : Action Nat := do
  let (options, names) ← optionsOf "p:r" arguments
  if names.isEmpty then fail "arg count".toList
  let (line, hasEnd) ← readLine (options.any (·.1 == 'r')) lineLimit {} 0
  assignFields names (line.fields (← fieldSeparators) (some names.length))
  return if hasEnd then 0 else 1

/-! ### Directories -/

def placeText (location : Location) : Bytes :=
  if location.isEmpty then ['/'] else location.flatMap fun name => '/' :: System.pathText name

def cd (arguments : List Bytes) : Action Nat := do
  let (_, arguments) ← optionsOf "PL" arguments
  let (target, tells) ← match arguments with
    | [] => pure ((← lookup "HOME".toList).getD [], false)
    | ['-'] :: _ => pure ((← lookup "OLDPWD".toList).getD [], true)
    | target :: _ => pure (target, false)
  let before := (← process).directory
  if target.isEmpty then return 0
  match FileNames.directory? (← files) target with
  | none => fail ("can't cd to ".toList ++ target)
  | some location =>
      modifyProcess fun process => { process with directory := location }
      assign "OLDPWD".toList (placeText before)
      assign "PWD".toList (placeText location)
      if tells then emit (placeText location ++ ['\n'])
      return 0

def pwd (arguments : List Bytes) : Action Nat := do
  let _ ← optionsOf "LP" arguments
  emit (placeText (← process).directory ++ ['\n'])
  return 0

/-! ### Options of scripts -/

/-- Takes the next option letter of the arguments, from an offset in the current one. -/
def getopts (arguments : List Bytes) : Action Nat := do
  match arguments with
  | allowed :: name :: rest => do
      let words ← if rest.isEmpty then pure (← process).arguments else pure rest
      let index := valueInBase 10 (((← lookup "OPTIND".toList).getD ['1']).filter Char.isDigit)
      let offset := (← process).optionOffset
      let index := max index 1
      let word := (words[index - 1]?).getD []
      let finish (index offset : Nat) (letter : Bytes) (status : Nat) : Action Nat := do
        assign "OPTIND".toList (Bytes.ofNat index)
        modifyProcess fun process => { process with optionOffset := offset }
        assignNamed name letter
        return status
      let (letters, isEnd) := match word with
        | '-' :: letters => (letters.drop offset, letters.isEmpty || letters == ['-'])
        | _ => ([], true)
      if isEnd then finish (if word == ['-', '-'] then index + 1 else index) 0 ['?'] 1
      else
        let letter := letters.headD '?'
        let isQuiet := allowed.head? == some ':'
        let further := letters.drop 1
        let (next, nextOffset) :=
          if further.isEmpty then (index + 1, 0) else (index, offset + 1)
        if letter == ':' || !allowed.contains letter then
          if isQuiet then assign "OPTARG".toList [letter]
          else
            complain ("Illegal option -".toList ++ [letter, '\n'])
            Action.unset "OPTARG".toList
          finish next nextOffset ['?'] 0
        else if (allowed.dropWhile (· != letter))[1]? == some ':' then
          match further, words[index]? with
          | [], none =>
              if isQuiet then
                assign "OPTARG".toList [letter]
                finish (index + 1) 0 [':'] 0
              else
                complain ("No arg for -".toList ++ [letter] ++ " option\n".toList)
                Action.unset "OPTARG".toList
                finish (index + 1) 0 ['?'] 0
          | [], some value =>
              assign "OPTARG".toList value
              finish (index + 2) 0 [letter] 0
          | value, _ =>
              assign "OPTARG".toList value
              finish (index + 1) 0 [letter] 0
        else
          assign "OPTARG".toList []
          finish next nextOffset [letter] 0
  | _ => fail "Usage: getopts optstring var [arg...]".toList

/-! ### The rest -/

def umask (arguments : List Bytes) : Action Nat := do
  let (options, arguments) ← optionsOf "S" arguments
  let mask := (← process).mask
  match arguments with
  | [] => do
      let allowed := FileMode.allBits - mask
      let told := if options.isEmpty then FileMode.octal mask else FileMode.letters allowed
      emit (told ++ ['\n'])
  | text :: _ => do
      let mask ←
        if text.head?.any Char.isDigit then
          if text.all isOctalDigit then pure (valueInBase 8 text % 512)
          else fail ("Illegal number: ".toList ++ text)
        else
          match FileMode.ofClauses? text (FileMode.allBits - mask) with
          | some allowed => pure (FileMode.allBits - allowed)
          | none => fail ("Illegal mode: ".toList ++ text)
      modifyProcess fun process => { process with mask }
  return 0

/-- Takes the options for limits, of which there are none to tell. -/
def ulimit (arguments : List Bytes) : Action Nat := do
  let _ ← optionsOf "HSatfdscmlpnvwr" arguments
  return 0

def succeed (_ : List Bytes) : Action Nat :=
  return 0

def refuse (_ : List Bytes) : Action Nat :=
  return 1

/-- The builtin commands of this module and of those it imports, by name. -/
def table : List (String × (List Bytes → Action Nat)) :=
  [(":", succeed), ("[", Condition.bracket), ("alias", Alias.define), ("bg", Job.resume),
    ("break", leave false), ("cd", cd), ("chdir", cd), ("continue", leave true),
    ("echo", Printf.echo), ("exit", exit), ("export", exportVariables), ("false", refuse),
    ("fg", Job.resume), ("getopts", getopts), ("jobs", Job.jobs), ("kill", Job.kill),
    ("local", makeLocal), ("printf", Printf.printf), ("pwd", pwd), ("read", read),
    ("readonly", readonly), ("return", returnNow), ("set", set), ("shift", shift),
    ("test", Condition.test), ("times", succeed), ("trap", Job.trap), ("true", succeed),
    ("ulimit", ulimit), ("umask", umask), ("unalias", Alias.remove), ("unset", unset),
    ("wait", Job.wait)]

end NativeInterop.Shell.Builtin
