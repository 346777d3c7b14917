import NativeInterop.Shell.Machine

namespace NativeInterop.Shell.Action

/-! Variables. -/

def variableOf? (name : Bytes) : Action (Option Variable) := do
  return (← process).bindings.find? (·.name == name)

def lookup (name : Bytes) : Action (Option Bytes) := do
  return (← variableOf? name).bind (·.value)

/-- Puts a variable in the place of the one of its name, or takes that one away. Programs that have
been found are looked for again if the search path changes. -/
def replaceVariable (name : Bytes) (entry : Option Variable) : Action Unit :=
  modifyProcess fun process =>
    let before := process.bindings
    let bindings := match entry with
      | none => before.filter (·.name != name)
      | some entry =>
          if before.any (·.name == name) then
            before.map fun other => if other.name == name then entry else other
          else before ++ [entry]
    { process with
      bindings
      found := if name == "PATH".toList then [] else process.found }

def requireWritable (name : Bytes) : Action Unit := do
  if (← variableOf? name).any (·.readOnly) then fail (name ++ ": is read only".toList)

/-- Gives a variable a value. -/
def assign (name value : Bytes) : Action Unit := do
  requireWritable name
  let exportsAll ← hasOption 'a'
  let before := (← variableOf? name).getD { name, value := none }
  if name == "OPTIND".toList then modifyProcess fun process => { process with optionOffset := 0 }
  replaceVariable name (some
    { before with value := some value, exported := before.exported || exportsAll })

def unset (name : Bytes) : Action Unit := do
  requireWritable name
  replaceVariable name none

/-- Changes the marks of a variable, which is made if it is missing. -/
def markVariable (name : Bytes) (mark : Variable → Variable) : Action Unit := do
  replaceVariable name (some (mark ((← variableOf? name).getD { name, value := none })))

/-- Keeps a variable, to be put back at the end of the innermost call. -/
def saveVariable (name : Bytes) : Action Unit := do
  let before ← variableOf? name
  modifyProcess fun process =>
    match process.saved with
    | call :: rest =>
        if call.bindings.any (·.1 == name) then process
        else
          { process with
            saved := { call with bindings := (name, before) :: call.bindings } :: rest }
    | [] => process

/-- Keeps the options, to be put back at the end of the innermost call. -/
def saveOptions : Action Unit :=
  modifyProcess fun process =>
    match process.saved with
    | call :: rest =>
        { process with
          saved := { call with options := call.options.or (some process.options) } :: rest }
    | [] => process

def beginSaving : Action Unit :=
  modifyProcess fun process => { process with saved := {} :: process.saved }

/-- Puts back what has been saved since the innermost call began. -/
def restoreSaved : Action Unit := do
  match (← process).saved with
  | [] => return
  | call :: rest =>
      modifyProcess fun process =>
        { process with saved := rest, options := call.options.getD process.options }
      call.bindings.forM fun (name, before) => replaceVariable name before

/-- The bucket that a name falls into, of so many. Tables are told in the order of buckets. -/
def bucket (count : Nat) (name : Bytes) : Nat :=
  (name.foldl (fun sum c => sum + c.toNat) ((name.headD '\x00').toNat * 16)) % count

def inBuckets {α : Type} (count : Nat) (name : α → Bytes) (entries : List α) : List α :=
  entries.mergeSort fun a b => bucket count (name a) ≤ bucket count (name b)

/-- The variables that programs are given. -/
def exportedVariables : Action (List Variable) := do
  return (inBuckets 39 (·.name) (← process).bindings).filter fun entry =>
    entry.exported && entry.value.isSome

/-- The variables of a program, as they are given to it. -/
def environment : Action (List Bytes) := do
  return (← process).bindings.filterMap fun entry =>
    match entry.exported, entry.value with
    | true, some value => some (entry.name ++ '=' :: value)
    | _, _ => none

/-- The characters that separate fields. -/
def fieldSeparators : Action Bytes := do
  return (← lookup "IFS".toList).getD [' ', '\t', '\n']

/-- Splits a text at its first equals sign. -/
def splitAssignment (text : Bytes) : Bytes × Option Bytes :=
  match text.dropWhile (· != '=') with
  | [] => (text, none)
  | _ :: value => (text.takeWhile (· != '='), some value)

end NativeInterop.Shell.Action
