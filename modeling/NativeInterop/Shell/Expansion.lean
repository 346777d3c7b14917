import NativeInterop.Shell.Arithmetic
import NativeInterop.Shell.Fields
import NativeInterop.Shell.FileNames
import NativeInterop.Shell.Variables

namespace NativeInterop.Shell.Expansion

/-! What words stand for. -/

open Shell.Action

/-- What a word is expanded for. -/
structure Mode where
  /-- Its text is split into fields. -/
  splits : Bool := false
  /-- A tilde at its beginning stands for a directory. -/
  tilde : Bool := false
  /-- The same goes for a tilde behind a colon. -/
  isAssignment : Bool := false
  /-- It stands in for the value of a parameter, so that its own text is split. -/
  isFallback : Bool := false

/-- Runs a command and gives what it writes. -/
abbrev OutputOf := Command → Action Bytes

/-- The letters of the options that are on, in the order in which they are told. -/
def optionLetters : List Char :=
  "ubaCEVvxsnmiIfe".toList

/-! ### Parameters -/

/-- What stands between arguments that are taken together. Where they are split again, it is a mark
that no argument contains. -/
def argumentSeparator (name : Bytes) (quoted splits : Bool) : Action Bytes := do
  let separators ← Action.lookup "IFS".toList
  if quoted && splits && name == ['@'] then return ['\x00']
  match separators with
  | none => return [' ']
  | some separators => return if !quoted && splits then ['\x00'] else separators.take 1

def specialParameter? (name : Bytes) (quoted splits : Bool) : Action (Option (Option Bytes)) := do
  let process ← process
  match name with
  | ['$'] => return some (some (Bytes.ofNat process.number))
  | ['?'] => return some (some (Bytes.ofNat process.status))
  | ['#'] => return some (some (Bytes.ofNat process.arguments.length))
  | ['!'] => return some (process.jobs.head?.map fun job => Bytes.ofNat job.1)
  | ['-'] => return some (some (optionLetters.filter process.options.contains))
  | ['@'] | ['*'] =>
      let separator ← argumentSeparator name quoted splits
      return some (some (joinWith separator process.arguments))
  | _ => return none

/-- The value of a parameter, if it has one. -/
def valueOf? (name : Bytes) (quoted splits : Bool) : Action (Option Bytes) := do
  match ← specialParameter? name quoted splits with
  | some value => return value
  | none =>
      if name.head?.any Char.isDigit then
        let process ← process
        match valueInBase 10 name with
        | 0 => return some process.name
        | number + 1 => return process.arguments[number]?
      else Action.lookup name

/-- Adds a value, which is split unless it is quoted. -/
def addValue (name : Bytes) (quoted : Bool) (value : Bytes) (expanded : Expanded) :
    Action Expanded := do
  let added := expanded.append (value.map (Glyph.char quoted))
  if !quoted then return added.split expanded.text.size
  if name == ['@'] && !(← process).arguments.isEmpty then
    return added.split expanded.text.size true
  return added

/-- Ends with an error if parameters must be set. -/
def requireSet (name : Bytes) : Action Unit := do
  if ← hasOption 'u' then fail (name ++ ": parameter not set".toList)

/-! ### Arithmetic -/

def computed (bindings : List Variable) (name : Bytes) : Bytes :=
  ((bindings.find? (·.name == name)).bind (·.value)).getD []

/-- Computes an expression and makes its assignments. -/
def compute (expression : Bytes) : Action Int := do
  let process ← process
  match Arithmetic.evaluate (computed process.bindings) expression with
  | .error (.malformed message) =>
      fail ("arithmetic expression: ".toList ++ message.toList ++ ": \"".toList ++ expression ++
        ['"'])
  | .error (.notANumber text) => fail ("Illegal number: ".toList ++ text)
  | .ok (value, assigned) =>
      assigned.reverse.forM fun (name, value) => assign name (Bytes.ofInt value.toInt)
      return value.toInt

/-! ### Words -/

def homeOf (name : Bytes) : Action (Option Bytes) := do
  if name.isEmpty then Action.lookup "HOME".toList
  else if name == "root".toList then return some "/root".toList
  else return none

/-- The directory that a tilde at the beginning stands for, and the rest of the word. -/
def tilde? (isAssignment : Bool) (word : Word) : Action (Option (Bytes × Word)) := do
  match word with
  | .char false '~' :: rest =>
      let inName : Part → Bool
        | .char false c => c != '/' && !(isAssignment && c == ':')
        | _ => false
      let after := rest.dropWhile inName
      let ends := match after with
        | [] => true
        | .char quoted _ :: _ => !quoted
        | _ => false
      if !ends then return none
      return (← homeOf (Word.characters (rest.takeWhile inName))).map (·, after)
  | _ => return none

def isPlain : Part → Bool
  | .char false _ => true
  | _ => false

/-- The plain characters that a word begins with: up to a colon in an assignment, because a tilde
may follow it. -/
def plainRun (isAssignment : Bool) (word : Word) : Bytes × Word :=
  let run := word.takeWhile isPlain
  let text := Word.characters run
  let count :=
    if isAssignment then min ((text.takeWhile (· != ':')).length + 1) text.length
    else text.length
  (text.take count, word.drop count)

/-- What a part that begins a word stands for, given how to expand words inside it. -/
def parameter (inner : Mode → Word → Expanded → Action Expanded) (mode : Mode) (quoted : Bool)
    (name : Bytes) (use : Use) (expanded : Expanded) : Action Expanded := do
  let value ← valueOf? name quoted mode.splits
  let fallback := { mode with isFallback := !quoted, tilde := true }
  match use with
  | .invalid => fail "Bad substitution".toList
  | .value =>
      if value.isNone then requireSet name
      addValue name quoted (value.getD []) expanded
  | .length =>
      if value.isNone then requireSet name
      addValue name quoted (Bytes.ofNat (value.getD []).length) expanded
  | .cut atEnd longest pattern =>
      if value.isNone then
        requireSet name
        return expanded
      let pattern := Glyph.pattern (← inner { tilde := true } pattern {}).text.toList
      addValue name quoted (Pattern.cut pattern atEnd longest (value.getD [])) expanded
  | .fallback kind unlessEmpty word =>
      let present := value.any fun text => !(unlessEmpty && text.isEmpty)
      match kind, present with
      | .replace, true | .use, false => inner fallback word expanded
      | .replace, false => return expanded
      | .use, true | .assign, true | .complain, true =>
          addValue name quoted (value.getD []) expanded
      | .assign, false => do
          let text := Glyph.text (← inner { tilde := true } word {}).text.toList
          if !isName name then fail (name ++ ": bad variable name".toList)
          assign name text
          addValue name quoted text expanded
      | .complain, false => do
          let text := Glyph.text (← inner { tilde := true } word {}).text.toList
          let message :=
            if !word.isEmpty then text
            else if unlessEmpty then "parameter not set or null".toList
            else "parameter not set".toList
          fail (name ++ ": ".toList ++ message)

def trimLines (text : Bytes) : Bytes :=
  (text.reverse.dropWhile (· == '\n')).reverse

def addResult (quoted : Bool) (text : Bytes) (expanded : Expanded) : Expanded :=
  let added := expanded.append (text.map (Glyph.char quoted))
  if quoted then added else added.split expanded.text.size

/-- Adds what the parts of a word stand for. -/
def word (output : OutputOf) : Nat → Mode → Word → Expanded → Action Expanded
  | 0, _, _, expanded => return expanded
  | fuel + 1, mode, parts, expanded => do
      let start ← if mode.tilde then tilde? mode.isAssignment parts else pure none
      let rest := { mode with tilde := false }
      match start with
      | some (home, parts) =>
          word output fuel rest parts (expanded.append (home.map (Glyph.char true)))
      | none =>
          match parts with
          | [] => return expanded
          | .quotes :: .parameter true ['@'] .value :: .quotes :: parts =>
              let expanded ←
                parameter (word output fuel) rest true ['@'] .value expanded
              word output fuel rest parts expanded
          | .quotes :: parts => word output fuel rest parts (expanded.push .quotes)
          | .char true c :: parts => word output fuel rest parts (expanded.push (.char true c))
          | .char false c :: parts =>
              let (run, parts) := plainRun mode.isAssignment (.char false c :: parts)
              let added := expanded.append (run.map (Glyph.char false))
              let rest := { rest with tilde := mode.isAssignment && run.getLast? == some ':' }
              word output fuel rest parts
                (if mode.isFallback then added.split expanded.text.size else added)
          | .parameter quoted name use :: parts =>
              let expanded ← parameter (word output fuel) rest quoted name use expanded
              word output fuel rest parts expanded
          | .output quoted body :: parts =>
              let text := (trimLines (← output body)).filter (· != '\x00')
              word output fuel rest parts (addResult quoted text expanded)
          | .arithmetic quoted expression :: parts =>
              let text := Glyph.text (← word output fuel {} expression {}).text.toList
              let value ← compute text
              word output fuel rest parts (addResult quoted (Bytes.ofInt value) expanded)

mutual

/-- How many parts a word has, with those inside it. -/
def partSize : Part → Nat
  | .parameter _ _ use => useSize use + 1
  | .arithmetic _ expression => wordSize expression + 1
  | .char .. | .quotes | .output .. => 1

def useSize : Use → Nat
  | .fallback _ _ word => wordSize word
  | .cut _ _ pattern => wordSize pattern
  | .value | .length | .invalid => 0

def wordSize : List Part → Nat
  | [] => 0
  | part :: rest => partSize part + wordSize rest

end

def expanded (output : OutputOf) (mode : Mode) (parts : Word) : Action Expanded :=
  word output (wordSize parts + 2) mode parts {}

/-- The text of a word that is not split. -/
def text (output : OutputOf) (mode : Mode) (parts : Word) : Action Bytes := do
  return Glyph.text (← expanded output mode parts).text.toList

/-- The value of an assignment. -/
def assigned (output : OutputOf) (parts : Word) : Action Bytes :=
  text output { tilde := true, isAssignment := true } parts

def pattern (output : OutputOf) (parts : Word) : Action Pattern := do
  return Glyph.pattern (← expanded output { tilde := true } parts).text.toList

def mayBePattern (field : List Glyph) : Bool :=
  field.any fun
    | .char false c => c == '*' || c == '?' || c == '['
    | _ => false

/-- The names of files that a field stands for, or its own text. -/
def fileNames (field : List Glyph) : Action (List Bytes) := do
  if (← hasOption 'f') || !mayBePattern field then return [Glyph.text field]
  match FileNames.find (← files) (Glyph.pattern field) with
  | [] => return [Glyph.text field]
  | found => return found

/-- The fields that a word stands for. -/
def fields (output : OutputOf) (parts : Word) : Action (List Bytes) := do
  let expanded ← expanded output { splits := true, tilde := true } parts
  let fields := expanded.fields (← fieldSeparators) none
  return (← fields.mapM fileNames).flatten

end NativeInterop.Shell.Expansion
