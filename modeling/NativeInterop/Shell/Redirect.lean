import NativeInterop.Shell.Expansion

namespace NativeInterop.Shell

/-! Where descriptors lead to. -/

open Shell.Action Expansion

/-- A redirection whose words have been expanded, except for those of a document. -/
inductive Route
  | file (descriptor : Nat) (mode : OpenMode) (path : Bytes)
  | duplicate (descriptor : Nat) (source : Option Nat)
  | document (descriptor : Nat) (word : Word)

namespace Route

def descriptor : Route → Nat
  | file descriptor .. | duplicate descriptor _ | document descriptor _ => descriptor

/-- The descriptor that an expanded word names. -/
def source (word : Bytes) : Action (Option Nat) := do
  match word with
  | ['-'] => return none
  | [c] =>
      if c.isDigit then return some (digitValue c) else malformed
  | _ => malformed
where
  malformed : Action (Option Nat) := do
    let line := (← get).inputLine
    modifyProcess fun process => { process with line }
    fail "Syntax error: Bad fd number".toList

def ofRedirection (output : OutputOf) : Redirection → Action Route
  | .file descriptor mode name => do
      return .file descriptor mode (← Expansion.text output { tilde := true } name)
  | .duplicate descriptor source => return .duplicate descriptor source
  | .duplicateWord descriptor word => do
      return .duplicate descriptor (← source (← Expansion.text output { tilde := true } word))
  | .document descriptor index => do
      return .document descriptor (((← get).documents[index]?).getD [])

/-- The text of an error, as it is told when a file is opened or made. -/
def openError (creates : Bool) (error : IoError) : Bytes :=
  if error == .notFound || error == .notADirectory then
    (if creates then "Directory nonexistent" else "No such file").toList
  else errorText error

/-- The descriptor that a path of the system stands for. -/
def descriptorOf? (path : Bytes) : Option Nat :=
  match String.ofList path with
  | "/dev/stdin" => some 0
  | "/dev/stdout" => some 1
  | "/dev/stderr" => some 2
  | _ =>
      match "/dev/fd/".toList.isPrefixOf? path with
      | some digits =>
          if !digits.isEmpty && digits.all Char.isDigit then some (valueInBase 10 digits) else none
      | none => none

/-- Makes an empty file where nothing is, or empties the one that is there. -/
def prepare (location : Location) (empties : Bool) : Action (Except IoError Unit) := do
  let machine ← get
  let put (executable : Bool) : Action Unit :=
    modify fun machine =>
      { machine with files := machine.files.put location (.file [] executable) }
  match System.entryAt? machine.files location with
  | none =>
      put false
      return .ok ()
  | some .directory => return .error .isADirectory
  | some (.file _ executable) =>
      if empties then put executable
      return .ok ()
  | some _ => return .ok ()

def openFile (mode : OpenMode) (path : Bytes) : Action (Except IoError Stream) := do
  let files ← files
  let stream (device : Device) : Stream :=
    ⟨device, mode == .read || mode == .update, mode != .read, 0⟩
  match System.locate files path with
  | .error error => return .error error
  | .ok location =>
      match mode, System.entryAt? files location with
      | _, some (.special node) => return .ok (stream (.special node))
      | .read, none => return .error .notFound
      | .read, _ => return .ok (stream (.file location false))
      | .write, some (.file ..) =>
          if ← hasOption 'C' then return .error .fileExists
          return (← prepare location true).map fun _ => stream (.file location false)
      | mode, _ =>
          if path.getLast? == some '/' then return .error .isADirectory
          return (← prepare location (mode == .write || mode == .overwrite)).map fun _ =>
            stream (.file location (mode == .append))

/-- Makes a descriptor lead where a route says. What it led to before may have been put away, so
that nothing can be told through it if the route fails. -/
def apply (output : OutputOf) (putsAway : Bool) (route : Route) : Action Unit := do
  match route with
  | duplicate descriptor none => setDescriptor descriptor none
  | duplicate descriptor (some source) =>
      match ← streamOf? source with
      | some stream => setDescriptor descriptor (some stream)
      | none => do
          if putsAway then setDescriptor descriptor none
          fail (Bytes.ofNat source ++ ": Bad file descriptor".toList)
  | document descriptor word => do
      let content ← Expansion.text output {} word
      let (pipe, stream) ← newPipe
      modify fun machine =>
        { machine with pipes := machine.pipes.setIfInBounds pipe ⟨content.toArray, 0⟩ }
      setDescriptor descriptor (some stream)
  | file descriptor mode path => do
      match descriptorOf? path with
      | some source => setDescriptor descriptor (← streamOf? source)
      | none =>
          match ← openFile mode path with
          | .ok stream => setDescriptor descriptor (some (← newStream stream))
          | .error error =>
              let creates := mode != .read && mode != .update
              fail ((if creates then "cannot create " else "cannot open ").toList ++ path ++
                ": ".toList ++ openError creates error)

end Route

/-- What some descriptors led to before. -/
abbrev Undo := List (Nat × Option Nat)

namespace Route

def undoOf (routes : List Route) : Action Undo :=
  routes.mapM fun route => do return (route.descriptor, ← streamOf? route.descriptor)

def restore (undo : Undo) : Action Unit :=
  undo.reverse.forM fun (descriptor, stream) => setDescriptor descriptor stream

/-- Follows routes in order. After a failure the descriptors lead where they led before. -/
def applyAll (output : OutputOf) (routes : List Route) : Action (Except Nat Undo) := do
  let undo ← undoOf routes
  try
    routes.forM (apply output true)
    return .ok undo
  catch
    | .failure status => do
        restore undo
        return .error status
    | stop => throw stop

end Route

end NativeInterop.Shell
