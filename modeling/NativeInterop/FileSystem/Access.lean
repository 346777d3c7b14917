import NativeInterop.Error
import NativeInterop.Path
import NativeInterop.Text.Utf8

namespace NativeInterop

/-! Directories and files, each under the names that lead to it from the root. There are no links,
so a location has no other names. -/

abbrev Location := List (List Char)

inductive Entry
  | directory
  | file (content : List UInt8) (executable : Bool)
  deriving DecidableEq

structure FileSystem where
  /-- Where relative paths begin. -/
  workingDirectory : Location
  entries : List (Location × Entry)

namespace FileSystem

/-- What stands at a location; the root is always there. -/
def entryAt? (files : FileSystem) (location : Location) : Option Entry :=
  if location.isEmpty then some .directory
  else (files.entries.find? fun entry => entry.1 == location).map (·.2)

def put (files : FileSystem) (location : Location) (entry : Entry) : FileSystem :=
  { files with entries := (location, entry) :: files.entries.filter (·.1 != location) }

/-- Takes away a location and everything below it. -/
def removeAt (files : FileSystem) (location : Location) : FileSystem :=
  { files with entries := files.entries.filter fun entry => !location.isPrefixOf entry.1 }

/-- Nothing but a working directory and the directories around it. -/
def atDirectory (location : Location) : FileSystem :=
  ⟨location,
    (List.range location.length).map fun depth => (location.take (depth + 1), .directory)⟩

def ensureAt (files : FileSystem) (location : Location) : FileSystem :=
  if (files.entryAt? location).isSome then files else files.put location .directory

/-- Puts an entry at a location, and directories around it where nothing is. -/
def place (files : FileSystem) (location : Location) (entry : Entry) : FileSystem :=
  let around := (List.range (location.length - 1)).map fun depth => location.take (depth + 1)
  (around.foldl ensureAt files).put location entry

/-- What stands below the working directory, with the names that lead there from it. -/
def contents (files : FileSystem) : List (Location × Entry) :=
  files.entries.filterMap fun (location, entry) =>
    match files.workingDirectory.isPrefixOf? location with
    | some (name :: names) => some (name :: names, entry)
    | _ => none

theorem find?_filter_ne {location other : Location} (different : other ≠ location)
    (entries : List (Location × Entry)) :
    (entries.filter (·.1 != location)).find? (·.1 == other) = entries.find? (·.1 == other) := by
  induction entries with
  | nil => rfl
  | cons entry rest ih =>
      by_cases same : entry.1 = location
      · simp [same, ih, Ne.symm different]
      · simp [List.find?_cons, same, ih]

theorem entryAt?_put_self {location : Location} (inside : location ≠ []) (files : FileSystem)
    (entry : Entry) : (files.put location entry).entryAt? location = some entry := by
  simp [entryAt?, put, inside]

theorem entryAt?_put_of_ne {location other : Location} (different : other ≠ location)
    (files : FileSystem) (entry : Entry) :
    (files.put location entry).entryAt? other = files.entryAt? other := by
  have missed : (location == other) = false := by simpa using Ne.symm different
  simp only [entryAt?, put, List.find?_cons, missed, find?_filter_ne different]

end FileSystem

end NativeInterop

namespace NativeInterop.FileSystem

/-! From paths to locations. All names of a path but the last must lead through directories. -/

open Text

/-- The greatest number of bytes in a name. -/
def nameLimit : Nat := 255

/-- The number of bytes from which on a path is too long. -/
def pathLimit : Nat := 4096

/-- The location that a name leads to, which may be empty. The parent of the root is the root. -/
def destination (here : Location) (name : List Char) : Except IoError Location :=
  if name == ['.'] then .ok here
  else if name == ['.', '.'] then .ok here.dropLast
  else if nameLimit < Utf8.size name then .error .nameTooLong
  else .ok (here ++ [name])

/-- Goes into a directory. -/
def enter (files : FileSystem) (here : Location) (name : List Char) : Except IoError Location := do
  let there ← destination here name
  match files.entryAt? there with
  | none => throw .notFound
  | some (.file ..) => throw .notADirectory
  | some .directory => return there

def locate (files : FileSystem) (path : Path) : Except IoError Location :=
  if path.text.contains '\x00' then .error .nulInFileName
  else if path.text.isEmpty then .error .notFound
  else if pathLimit ≤ Utf8.size path.text then .error .nameTooLong
  else
    let start := if path.isAbsolute then [] else files.workingDirectory
    match path.names.getLast? with
    | none => .ok start
    | some last => do
        let directory ← path.names.dropLast.foldlM files.enter start
        destination directory last

/-- What a path leads to. With a slash at its end it leads to directories only. -/
def lookup (files : FileSystem) (path : Path) : Except IoError Entry := do
  match files.entryAt? (← files.locate path) with
  | none => throw .notFound
  | some .directory => return .directory
  | some (.file content executable) =>
      if path.endsInSlash then throw .notADirectory else return .file content executable

/-! Reading, writing and making files and directories. -/

def read (files : FileSystem) (path : Path) : Except IoError (List UInt8) := do
  match ← files.lookup path with
  | .directory => throw .isADirectory
  | .file content _ => return content

def readText (files : FileSystem) (path : Path) : Except IoError (List Char) := do
  match Utf8.decode? (← files.read path) with
  | some text => return text
  | none => throw .invalidUtf8

/-- Gives a file new content, and makes it if it is missing. -/
def write (files : FileSystem) (path : Path) (content : List UInt8) :
    Except IoError FileSystem := do
  let location ← files.locate path
  if path.endsInSlash then throw .isADirectory
  match files.entryAt? location with
  | none => return files.put location (.file content false)
  | some (.file _ executable) => return files.put location (.file content executable)
  | some .directory => throw .isADirectory

def createDirectory (files : FileSystem) (path : Path) : Except IoError FileSystem := do
  let location ← files.locate path
  match files.entryAt? location with
  | none => return files.put location .directory
  | some _ => throw .fileExists

def isDirectory (files : FileSystem) (path : Path) : Bool :=
  match files.lookup path with
  | .ok .directory => true
  | _ => false

/-- Makes a directory, unless it is there already. -/
def ensureDirectory (files : FileSystem) (path : Path) : Except IoError Unit × FileSystem :=
  match files.createDirectory path with
  | .ok files => (.ok (), files)
  | .error error => (if files.isDirectory path then .ok () else .error error, files)

/-- Makes a directory and those around it that are missing. What has been made stays when a later
step fails. -/
def createDirectories (files : FileSystem) (path : Path) : Except IoError Unit × FileSystem :=
  if path.text.isEmpty then (.ok (), files)
  else
    match files.ensureDirectory path with
    | (.error .notFound, files) =>
        match parent : path.parent? with
        | none => (.error .notFound, files)
        | some around =>
            have := Path.parent?_length parent
            match files.createDirectories around with
            | (.ok (), files) => files.ensureDirectory path
            | failed => failed
    | finished => finished
termination_by path.text.length

/-- Takes away what a path leads to. -/
def remove (files : FileSystem) (path : Path) : Except IoError FileSystem := do
  let location ← files.locate path
  if (files.entryAt? location).isNone then throw .notFound
  return files.removeAt location

end NativeInterop.FileSystem
