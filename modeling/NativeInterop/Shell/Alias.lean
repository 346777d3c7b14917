import NativeInterop.Shell.Jobs

namespace NativeInterop.Shell.Alias

/-! Names of commands that stand for other text. -/

open Shell.Action

def line (name text : Bytes) : Bytes :=
  name ++ '=' :: Job.quoted text ++ ['\n']

def value? (name : Bytes) : Action (Option Bytes) := do
  return (← process).aliases.lookup name

def set (name text : Bytes) : Action Unit :=
  modifyProcess fun process =>
    if process.aliases.any (·.1 == name) then
      { process with
        aliases := process.aliases.map fun entry =>
          if entry.1 == name then (name, text) else entry }
    else { process with aliases := process.aliases ++ [(name, text)] }

def tellMissing (command : String) (name : Bytes) : Action Nat := do
  complain (command.toList ++ ": ".toList ++ name ++ " not found\n".toList)
  return 1

/-- Defines aliases, or tells what they stand for. -/
def define (arguments : List Bytes) : Action Nat := do
  if arguments.isEmpty then
    (inBuckets 39 (·.1) (← process).aliases).forM fun (name, text) => emit (line name text)
    return 0
  let statuses ← arguments.mapM fun argument => do
    match splitAssignment argument with
    | (name, some text) => do
        set name text
        return 0
    | (name, none) => do
        match ← value? name with
        | some text => do
            emit (line name text)
            return 0
        | none => tellMissing "alias" name
  return statuses.foldl max 0

def remove (arguments : List Bytes) : Action Nat := do
  let (options, names) ← optionsOf "a" arguments
  if !options.isEmpty then
    modifyProcess fun process => { process with aliases := [] }
    return 0
  let statuses ← names.mapM fun name => do
    match ← value? name with
    | none => tellMissing "unalias" name
    | some _ => do
        modifyProcess fun process =>
          { process with aliases := process.aliases.filter (·.1 != name) }
        return 0
  return statuses.foldl max 0

end NativeInterop.Shell.Alias
