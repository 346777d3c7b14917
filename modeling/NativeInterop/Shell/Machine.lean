import NativeInterop.Shell.Syntax
import NativeInterop.Shell.System

namespace NativeInterop.Shell

/-! The state that scripts work on. Subshells have a process of their own and share the rest. -/

structure Variable where
  name : Bytes
  /-- A variable without a value may still be exported or read only. -/
  value : Option Bytes
  exported : Bool := false
  readOnly : Bool := false

/-- A way out of the commands under way. -/
inductive Skip
  | none
  /-- Out of so many loops. -/
  | leave (count : Nat)
  /-- Out of all but the last of so many loops, and on with that one. -/
  | next (count : Nat)
  /-- Out of a function or a script. -/
  | return
  deriving DecidableEq

/-- What to do at the end, or at a signal. -/
structure Trap where
  /-- The number of the signal; zero stands for the end. -/
  signal : Nat
  /-- Nothing to do if the text is empty. -/
  action : Bytes

/-- What is put back at the end of a call. -/
structure Saved where
  bindings : List (Bytes × Option Variable) := []
  options : Option (List Char) := none

structure Process where
  /-- The name that messages begin with. -/
  name : Bytes
  /-- The builtin command under way. -/
  builtin : Option Bytes := none
  line : Nat := 1
  /-- The number that `$$` tells. Subshells have that of the script. -/
  number : Nat
  arguments : List Bytes := []
  bindings : List Variable := []
  functions : List (Bytes × Command) := []
  /-- The letters of the options that are on. -/
  options : List Char := []
  /-- Which stream each descriptor stands for. -/
  descriptors : List (Nat × Nat) := []
  directory : Location
  status : Nat := 0
  /-- The status of the last command whose output was taken, within the current command. -/
  outputStatus : Nat := 0
  skip : Skip := .none
  loops : Nat := 0
  /-- How many functions are under way. -/
  calls : Nat := 0
  traps : List Trap := []
  /-- Signals that have come and wait for their traps. -/
  signals : List Nat := []
  /-- What is to be put back, for each call under way. -/
  saved : List Saved := []
  jobs : List (Nat × Nat) := []
  isSubshell : Bool := false
  optionOffset : Nat := 0
  /-- Names of commands that stand for other text, with that text. -/
  aliases : List (Bytes × Bytes) := []
  /-- The names of programs that have been found before. -/
  found : List Bytes := []
  /-- The permissions that new files do not get. -/
  mask : Nat := 18
  /-- Why output could not be put out, if a program has output that could not. -/
  unwritten : Option IoError := none

inductive Device
  | special (file : SpecialFile)
  | pipe (index : Nat)
  | file (location : Location) (appends : Bool)

structure Stream where
  device : Device
  readable : Bool
  writable : Bool
  position : Nat := 0

structure Pipe where
  content : Array Char := #[]
  position : Nat := 0

structure Machine where
  process : Process
  files : FileSystem
  streams : Array Stream
  pipes : Array Pipe
  /-- What a builtin command has written and not yet put out. -/
  output : Bytes := []
  documents : Array Word := #[]
  /-- The line up to which the script under way has been read. -/
  inputLine : Nat := 1
  /-- How many processes have been begun. -/
  processes : Nat := 0

/-- The abrupt end of a command. -/
inductive Stop
  /-- An error of the shell itself. -/
  | failure (status : Nat)
  | exit (status : Nat)
  /-- Another program has taken the place of the shell and come to its end. -/
  | replaced (status : Nat)
  /-- A signal has ended the process of a number. -/
  | killed (process signal : Nat)

abbrev Action := EStateM Stop Machine

namespace Action

def process : Action Process := do
  return (← get).process

def modifyProcess (change : Process → Process) : Action Unit :=
  modify fun machine => { machine with process := change machine.process }

def files : Action FileSystem := do
  let machine ← get
  return { machine.files with workingDirectory := machine.process.directory }

def setFiles (files : FileSystem) : Action Unit :=
  modify fun machine =>
    { machine with files := { files with workingDirectory := machine.files.workingDirectory } }

def setStatus (status : Nat) : Action Unit :=
  modifyProcess fun process => { process with status }

def hasOption (letter : Char) : Action Bool := do
  return (← process).options.contains letter

/-! ### Streams -/

def streamOf? (descriptor : Nat) : Action (Option Nat) := do
  return (← process).descriptors.lookup descriptor

def setDescriptor (descriptor : Nat) (stream : Option Nat) : Action Unit :=
  modifyProcess fun process =>
    let others := process.descriptors.filter (·.1 != descriptor)
    { process with
      descriptors := match stream with
        | some stream => (descriptor, stream) :: others
        | none => others }

def newStream (stream : Stream) : Action Nat := do
  modify fun machine => { machine with streams := machine.streams.push stream }
  return (← get).streams.size - 1

/-- A new pipe and a stream that leads to it. -/
def newPipe : Action (Nat × Nat) := do
  modify fun machine => { machine with pipes := machine.pipes.push {} }
  let pipe := (← get).pipes.size - 1
  return (pipe, ← newStream ⟨.pipe pipe, true, true, 0⟩)

def fileContent (location : Location) : Action (List UInt8) := do
  match (← get).files.entryAt? location with
  | some (.file content _) => return content
  | _ => return []

def moveStream (index count : Nat) : Action Unit :=
  modify fun machine =>
    { machine with
      streams := machine.streams.modify index fun stream =>
        { stream with position := stream.position + count } }

/-- The new content of a file after writing at a position. -/
def overwritten (content new : List UInt8) (position : Nat) : List UInt8 :=
  content.take position ++ List.replicate (position - content.length) 0 ++ new ++
    content.drop (position + new.length)

def writeFile (index : Nat) (stream : Stream) (location : Location) (appends : Bool)
    (bytes : Bytes) : Action Unit := do
  match (← get).files.entryAt? location with
  | some (.file content executable) =>
      let position := if appends then content.length else stream.position
      let content := overwritten content (Bytes.toBytes bytes) position
      modify fun machine =>
        { machine with
          files := machine.files.put location (.file content executable)
          streams := machine.streams.setIfInBounds index
            { stream with position := position + bytes.length } }
  | _ => return

/-- Writes to a descriptor, and gives what prevents it. -/
def write (descriptor : Nat) (bytes : Bytes) : Action (Option IoError) := do
  let some index ← streamOf? descriptor | return some (.system 9)
  let some stream := (← get).streams[index]? | return some (.system 9)
  if !stream.writable then return some (.system 9)
  match stream.device with
  | .special .full => return some (.system 28)
  | .special _ => return none
  | .pipe pipe =>
      modify fun machine =>
        { machine with
          pipes := machine.pipes.modify pipe fun pipe =>
            { pipe with content := pipe.content ++ bytes } }
      return none
  | .file location appends =>
      writeFile index stream location appends bytes
      return none

/-- What can still be read from a descriptor; nothing at all if it cannot be read from. -/
def remaining (descriptor : Nat) : Action (Option Bytes) := do
  let some index ← streamOf? descriptor | return none
  let some stream := (← get).streams[index]? | return none
  if !stream.readable then return none
  match stream.device with
  | .special file => return some file.content
  | .pipe pipe =>
      match (← get).pipes[pipe]? with
      | some pipe => return some (pipe.content.toList.drop pipe.position)
      | none => return some []
  | .file location _ =>
      return some (Bytes.ofBytes ((← fileContent location).drop stream.position))

/-- Goes on behind so many bytes that have been read. -/
def consume (descriptor count : Nat) : Action Unit := do
  let some index ← streamOf? descriptor | return
  let some stream := (← get).streams[index]? | return
  match stream.device with
  | .special _ => return
  | .pipe pipe =>
      modify fun machine =>
        { machine with
          pipes := machine.pipes.modify pipe fun pipe =>
            { pipe with position := pipe.position + count } }
  | .file .. => moveStream index count

/-- Reads one byte; nothing at the end. -/
def readByte (descriptor : Nat) : Action (Option (Option Char)) := do
  let some index ← streamOf? descriptor | return none
  let some stream := (← get).streams[index]? | return none
  if !stream.readable then return none
  let c ← match stream.device with
    | .special file => pure file.content.head?
    | .pipe pipe =>
        pure ((← get).pipes[pipe]?.bind fun pipe => pipe.content[pipe.position]?)
    | .file location _ =>
        pure ((← fileContent location)[stream.position]?.map fun byte => Char.ofNat byte.toNat)
  if c.isSome then consume descriptor 1
  return some c

/-- Reads all that is left. -/
def readAll (descriptor : Nat) : Action (Option Bytes) := do
  match ← remaining descriptor with
  | none => return none
  | some bytes =>
      consume descriptor bytes.length
      return some bytes

/-- Keeps what a builtin command writes until it is put out. -/
def emit (bytes : Bytes) : Action Unit :=
  modify fun machine => { machine with output := machine.output ++ bytes }

/-- Puts out what has been kept, and gives what prevents it. -/
def flush : Action (Option IoError) := do
  let bytes := (← get).output
  modify fun machine => { machine with output := [] }
  if bytes.isEmpty then return none else write 1 bytes

def complain (bytes : Bytes) : Action Unit := do
  let _ ← write 2 bytes

/-! ### Messages -/

/-- A message with the name of the script, the line and the builtin command under way. -/
def warn (message : Bytes) : Action Unit := do
  let process ← process
  let place := process.name ++ ": ".toList ++ Bytes.ofNat process.line ++ ": ".toList
  let command := process.builtin.elim [] (· ++ ": ".toList)
  complain (place ++ command ++ message ++ ['\n'])

/-- Ends with an error of the shell. -/
def failWith {α : Type} (status : Nat) (message : Bytes) : Action α := do
  warn message
  throw (.failure status)

def fail {α : Type} (message : Bytes) : Action α :=
  failWith 2 message

end Action

end NativeInterop.Shell
