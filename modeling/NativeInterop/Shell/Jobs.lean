import NativeInterop.Shell.Condition
import NativeInterop.Shell.Options
import NativeInterop.Shell.Signal

namespace NativeInterop.Shell.Job

/-! The builtin commands for signals and for commands in the background. -/

open Shell.Action

/-- A text between quotation marks, so that it stands for itself in a script. -/
def quoted (text : Bytes) : Bytes :=
  let body := text.flatMap fun c => if c == '\'' then "'\"'\"'".toList else [c]
  '\'' :: body ++ ['\'']

/-! ### Traps -/

def trapLine (trap : Trap) : Bytes :=
  "trap -- ".toList ++ quoted trap.action ++ ' ' :: (Signal.name trap.signal).toList ++ ['\n']

def setTrap (signal : Nat) (action : Option Bytes) : Action Unit :=
  modifyProcess fun process =>
    let others := process.traps.filter (·.signal != signal)
    { process with traps := others ++ (action.map fun action => ⟨signal, action⟩).toList }

def setTraps (action : Option Bytes) : List Bytes → Action Nat
  | [] => return 0
  | name :: rest => do
      match Signal.parse? name with
      | none => do
          complain ("trap: ".toList ++ name ++ ": bad trap\n".toList)
          return 1
      | some signal => do
          setTrap signal action
          setTraps action rest

def trap (arguments : List Bytes) : Action Nat := do
  let (_, arguments) ← optionsOf "" arguments
  match arguments with
  | [] => do
      let sorted := (← process).traps.mergeSort fun a b => a.signal ≤ b.signal
      sorted.forM fun trap => emit (trapLine trap)
      return 0
  | [name] => setTraps none [name]
  | action :: names =>
      if action == ['-'] || (!action.isEmpty && action.all Char.isDigit) then
        setTraps none (if action == ['-'] then names else action :: names)
      else setTraps (some action) names

/-! ### Signals -/

/-- Sends a signal to the shell itself. -/
def signalSelf (signal : Nat) : Action Unit := do
  let process ← process
  match process.traps.find? (·.signal == signal), Signal.canBeTrapped signal with
  | some trap, true =>
      unless trap.action.isEmpty do
        modifyProcess fun process => { process with signals := process.signals ++ [signal] }
  | _, _ =>
      unless signal == 0 || Signal.isHarmless signal do throw (.killed process.number signal)

/-- Ends because of a name of a job. There are no jobs to be named. -/
def missing {α : Type} (name : Bytes) : Action α :=
  match String.ofList name with
  | "%" | "%%" | "%+" => fail "No current job".toList
  | "%-" => fail "No previous job".toList
  | _ => fail ("No such job: ".toList ++ name)

def isJobName (text : Bytes) : Bool :=
  text.head? == some '%'

def signalProcess (signal : Nat) (target : Bytes) : Action Nat := do
  if isJobName target then missing target
  let process ← process
  let number ← Condition.numberOf target
  if number == (process.number : Int) then
    signalSelf signal
    return 0
  else if process.jobs.any fun job => (job.1 : Int) == number then
    modifyProcess fun process =>
      { process with jobs := process.jobs.map fun job =>
          if (job.1 : Int) == number && signal != 0 then (job.1, 128 + signal) else job }
    return 0
  else
    warn "No such process\n".toList
    return 1

def killUsage : Bytes :=
  ("Usage: kill [-s sigspec | -signum | -sigspec] [pid | job]... or\n" ++
    "kill -l [exitstatus]").toList

def signalAll (signal : Nat) : List Bytes → Action Nat
  | [] => return 0
  | target :: rest => do
      let status ← signalProcess signal target
      return max status (← signalAll signal rest)

def tellSignals (arguments : List Bytes) : Action Nat := do
  match arguments with
  | [] => do
      emit ['0', '\n']
      (List.range Signal.count).forM fun index =>
        emit ((Signal.name (index + 1)).toList ++ ['\n'])
      return 0
  | argument :: _ => do
      let number ← Condition.natOf argument
      let signal := if 128 < number then number - 128 else number
      if signal == 0 || Signal.count < signal then
        fail ("invalid signal number or exit status: ".toList ++ argument)
      emit ((Signal.name signal).toList ++ ['\n'])
      return 0

def kill (arguments : List Bytes) : Action Nat := do
  let send (signal : Nat) (targets : List Bytes) : Action Nat :=
    if targets.isEmpty then fail killUsage else signalAll signal targets
  match arguments with
  | [] => fail killUsage
  | ['-', 'l'] :: rest => tellSignals rest
  | [['-', 's']] => fail "No arg for -s option".toList
  | ['-', 's'] :: name :: targets =>
      match Signal.parse? name with
      | some signal => send signal targets
      | none => fail ("invalid signal number or name: ".toList ++ name)
  | ['-', '-'] :: targets => send Signal.terminate targets
  | ('-' :: name) :: targets =>
      match Signal.parse? name with
      | some signal => send signal targets
      | none => fail ("Illegal option -".toList ++ name.take 1)
  | targets => signalAll Signal.terminate targets

/-! ### Commands in the background -/

/-- Tells how a signal has ended a program. -/
def tellKilled (signal : Nat) : Action Unit := do
  unless signal == Signal.interrupt || signal == Signal.brokenPipe do
    complain ((Signal.description signal).toList ++ ['\n'])

def wait (arguments : List Bytes) : Action Nat := do
  match arguments.getLast? with
  | none => return 0
  | some target => do
      if isJobName target then missing target
      let number ← Condition.numberOf target
      match (← process).jobs.find? fun job => (job.1 : Int) == number with
      | none => return 127
      | some (_, status) => do
          if 128 < status then tellKilled (status - 128)
          return status

/-- Brings a command to the fore or to the back; without control of jobs there is none. -/
def resume (arguments : List Bytes) : Action Nat := do
  match arguments with
  | [] => fail "No current job".toList
  | target :: _ => missing target

def jobs (arguments : List Bytes) : Action Nat := do
  match (← optionsOf "lp" arguments).2 with
  | [] => return 0
  | target :: _ => missing target

end NativeInterop.Shell.Job
