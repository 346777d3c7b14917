import NativeInterop.CommandLine.Run
import NativeInterop.Shell.Start
import NativeInterop.Log.Logged

namespace NativeInterop.CommandLine

/-! The paths that a command looks at. Which ones they are may depend on what is in the first. -/

open Generation

namespace Command

def firstPaths : Command → List Path
  | generate manifest _ _ _ => [manifest]
  | decode listing _ => [listing]
  | normalize _ => []
  | exports binary => [binary]

end Command

def GenerationPlan.paths (plan : GenerationPlan) : List Path :=
  let outputs := plan.targets.filterMap fun target =>
    target.outputKey?.map fun key => plan.outDir.join ⟨key⟩
  plan.tool.toList ++ plan.targets.map (·.binary) ++ plan.outDir :: outputs

/-- The other paths, found by what the first ones lead to. -/
def Command.morePaths (command : Command) (files : FileSystem) : List Path :=
  match command with
  | .generate manifest outDir source tool =>
      match (plan manifest outDir source tool files).value with
      | .ok plan => plan.paths
      | .error _ => []
  | .decode .. | .normalize _ | .exports _ => []

def Environment.paths (environment : Environment) : List Path :=
  (environment.logFile.map LogSetup.directory).toList

end NativeInterop.CommandLine

namespace NativeInterop.Program

/-! The program: takes up the files that a command looks at, runs the command, and puts back what it
has changed. -/

open CommandLine

def placeText (location : Location) : String :=
  "/" ++ "/".intercalate (location.map String.ofList)

/-- Takes up what stands at a location. Scripts count as executable. -/
def loadAt (files : FileSystem) (location : Location) : IO FileSystem := do
  let place := (← IO.currentDir) / placeText location
  if ← place.isDir then return files.put location .directory
  if !(← place.pathExists) then return files
  let content := (← IO.FS.readBinFile place).toList
  return files.put location (.file content (['#'.toUInt8, '!'.toUInt8].isPrefixOf content))

/-- Takes up all that a path leads through. -/
def loadPath (files : FileSystem) (path : Path) : IO FileSystem := do
  let mut files := files
  let mut here := if path.isAbsolute then [] else files.workingDirectory
  for name in path.names do
    match FileSystem.destination here name with
    | .error _ => return files
    | .ok there =>
        here := there
        files ← loadAt files there
  return files

def loadPaths (files : FileSystem) (paths : List Path) : IO FileSystem :=
  paths.foldlM loadPath files

/-- Puts back an entry that was not there before. -/
def storeAt (before : FileSystem) (location : Location) (entry : Entry) : IO Unit := do
  if before.entryAt? location != some entry then
    let place := (← IO.currentDir) / placeText location
    match entry with
    | .directory => IO.FS.createDir place
    | .file content _ => IO.FS.writeBinFile place content.toByteArray

def store (before after : FileSystem) : IO Unit :=
  after.entries.reverse.forM fun (location, entry) => storeAt before location entry

def environment : IO Environment := do
  return {
    logFilter := ← IO.getEnv "RUST_LOG"
    logFormat := ← IO.getEnv "DLLBIND_LOG_FORMAT"
    logFile := (← IO.getEnv "DLLBIND_LOG_FILE").map Path.ofString }

def loadFiles (arguments : List (List Char)) (environment : Environment) : IO FileSystem := do
  let files := FileSystem.atDirectory (Path.ofString (← IO.currentDir).toString).names
  match Invocation.parse arguments with
  | .error _ => return files
  | .ok invocation => do
      let files ← loadPaths files (environment.paths ++ invocation.command.firstPaths)
      loadPaths files (invocation.command.morePaths files)

def usage : String :=
  "Usage: dllbind [--log-level <LEVEL>] <COMMAND>\n\n" ++
  "  generate [-m <MANIFEST>] [-o <DIR>] [-s dumpbin|pe|text] [--tool <TOOL>]\n" ++
  "  decode <LISTING> [--literal <LITERAL>]\n" ++
  "  normalize <NAMES>...\n" ++
  "  exports <BINARY>\n"

def printUsage (error : UsageError) : IO UInt32 := do
  match error with
  | .help => do
      IO.print usage
      return 0
  | .version => do
      IO.println "dllbind"
      return 0
  | _ => do
      IO.eprint usage
      return 2

def printOutcome (outcome : Outcome) : IO UInt32 := do
  for event in outcome.log do
    IO.eprintln (String.ofList (event.line outcome.format))
  IO.print (String.ofList outcome.stdout)
  IO.eprint (String.ofList outcome.stderr)
  return UInt32.ofNat outcome.exitCode

end NativeInterop.Program

def main (arguments : List String) : IO UInt32 := do
  let arguments := arguments.map String.toList
  let environment ← NativeInterop.Program.environment
  let files ← NativeInterop.Program.loadFiles arguments environment
  let runner := NativeInterop.Shell.Start.runner
  match NativeInterop.CommandLine.run runner arguments environment files with
  | .error error => NativeInterop.Program.printUsage error
  | .ok outcome => do
      NativeInterop.Program.store files outcome.files
      NativeInterop.Program.printOutcome outcome
