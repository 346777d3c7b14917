import NativeInterop.Binding.Declaration
import NativeInterop.CommandLine.Invocation
import NativeInterop.FileSystem.Access
import NativeInterop.Generation.Generate
import NativeInterop.Log.Filter
import NativeInterop.Manifest.Resolve
import NativeInterop.Manifest.Schema

namespace NativeInterop.CommandLine

/-! Setting up the log before a command runs. -/

open Log

/-- The variables that the log looks at. -/
structure Environment where
  logFilter : Option String
  logFormat : Option String
  logFile : Option Path

structure LogSetup where
  filter : Filter
  format : Format

namespace LogSetup

/-- A level on the command line decides the format too. -/
def ofLevel (level : Log.Level) : LogSetup :=
  ⟨.ofLevel level, .pretty⟩

def ofEnvironment (environment : Environment) : LogSetup :=
  ⟨.ofVariable environment.logFilter, .ofVariable environment.logFormat⟩

/-- The directory of a log file. -/
def directory (path : Path) : Path :=
  match path.parent? with
  | some parent => if parent.text.isEmpty then .ofString "." else parent
  | none => .ofString "."

/-- Makes a place for the log file. Its directory is made before its name is looked at. -/
def prepareFile (files : FileSystem) (path : Path) : Except String Unit × FileSystem :=
  match files.createDirectories (directory path) with
  | (.error error, files) => (.error ("File logging error: " ++ error.message), files)
  | (.ok (), files) =>
      match path.fileName? with
      | none => (.error ("Invalid log file: " ++ path.display), files)
      | some _ => (.ok (), files)

def prepare (environment : Environment) (files : FileSystem) : Except String Unit × FileSystem :=
  match environment.logFile with
  | none => (.ok (), files)
  | some path => prepareFile files path

end LogSetup

/-! Running a command: what it prints, logs and writes. -/

open Binding Generation Text

/-- What a command prints when it comes to its end. -/
structure Printed where
  stdout : List Char
  stderr : List Char
  /-- Whether all of its work was done. -/
  isSuccess : Bool

def printed (lines : List (List Char)) : List Char :=
  lines.flatMap (· ++ ['\n'])

def rejectedText (line : RejectedLine) : List Char :=
  "line ".toList ++ decimal line.number ++ ": ".toList ++ line.error.message.toList ++
    " (".toList ++ line.text ++ [')']

/-- Prints the declarations of a captured listing. -/
def printListing (listing : Path) (literal : List Char) (files : FileSystem) :
    Logged (Except BindingError Printed) := do
  match ← Source.textListing listing files with
  | .error error => return .error error
  | .ok text => do
      let report ← Log.decodeListing text
      let declarations := report.exports.map fun e => (Declaration.ofExport e).render literal
      let complaints := report.rejected.map rejectedText
      return .ok ⟨printed declarations, printed complaints, report.isClean⟩

def printNames (names : List (List Char)) : Printed :=
  ⟨printed (names.map Identifier.canonical), [], true⟩

def printExports (binary : Path) (files : FileSystem) : Logged (Except BindingError Printed) := do
  return (← Source.imageListing binary files).map fun listing =>
    ⟨printed [listing], [], true⟩

/-- What the options and the manifest decide together. Options count most. -/
structure GenerationPlan where
  source : SourceKind
  tool : Option Path
  outDir : Path
  targets : List Target

/-- The directory that the paths of a manifest begin in. -/
def baseDirectory (manifest : Path) : Path :=
  manifest.parent?.getD (.ofString ".")

def defaultOutDir : Path :=
  .ofString "generated"

def plan (manifest : Path) (outDir : Option Path) (source : Option SourceKind) (tool : Option Path)
    (files : FileSystem) : Logged (Except BindingError GenerationPlan) := do
  match ← Manifest.load files manifest with
  | .error error => return .error error
  | .ok content =>
      let base := baseDirectory manifest
      let settings := content.generator
      return (content.resolve base).map fun targets =>
        { source := (source.or settings.source).getD .default
          tool := tool.or settings.tool
          outDir := outDir.getD (base.join (settings.outDir.getD defaultOutDir))
          targets }

def writtenText (file : WrittenFile) : List Char :=
  file.path.text ++ " (".toList ++ decimal file.declarations ++ " declarations)".toList

def rejectedExportText (rejected : RejectedExport) : List Char :=
  rejected.target ++ ": line ".toList ++ decimal rejected.line.number ++ ": ".toList ++
    rejected.line.error.message.toList

def failedText (failed : FailedTarget) : List Char :=
  failed.target.qualifiedName ++ ": ".toList ++ failed.error.message.toList

/-- Lines that could not be decoded are told, but are no failure. -/
def printReport (report : GenerationReport) : Printed where
  stdout := printed (report.written.map writtenText)
  stderr := printed (report.rejected.map rejectedExportText ++ report.failed.map failedText)
  isSuccess := report.isSuccess

def runPlan (runner : Runner) (plan : GenerationPlan) (files : FileSystem) :
    Logged (Effect Printed) := do
  Logged.log (.generating plan.targets.length plan.source)
  let effect ← Generation.generate (plan.source.source runner plan.tool) plan.outDir plan.targets
    files
  return ⟨effect.result.map printReport, effect.files⟩

def Command.run (command : Command) (runner : Runner) (files : FileSystem) :
    Logged (Effect Printed) := do
  match command with
  | .generate manifest outDir source tool =>
      match ← plan manifest outDir source tool files with
      | .error error => return ⟨.error error, files⟩
      | .ok plan => runPlan runner plan files
  | .decode listing literal => return ⟨← printListing listing literal files, files⟩
  | .normalize names => return ⟨.ok (printNames names), files⟩
  | .exports binary => return ⟨← printExports binary files, files⟩

/-- The end of a run of the program. -/
structure Outcome where
  exitCode : Nat
  stdout : List Char
  stderr : List Char
  format : Format
  log : List Event
  files : FileSystem

namespace Outcome

/-- A run that ends before its command. -/
def refused (exitCode : Nat) (message : String) (files : FileSystem) : Outcome :=
  ⟨exitCode, [], message.toList ++ ['\n'], .pretty, [], files⟩

def ofCommand (setup : LogSetup) (logged : Logged (Effect Printed)) : Outcome :=
  let events := setup.filter.select logged.events
  let files := logged.value.files
  match logged.value.result with
  | .ok end_ =>
      ⟨if end_.isSuccess then 0 else 1, end_.stdout, end_.stderr, setup.format, events, files⟩
  | .error error =>
      ⟨1, [], ("Error: " ++ error.message ++ "\n").toList, setup.format, events, files⟩

end Outcome

/-- How to log, or why the level on the command line is none. -/
def Invocation.logSetup (invocation : Invocation) (environment : Environment) :
    Except String LogSetup :=
  match invocation.logLevel with
  | none => .ok (.ofEnvironment environment)
  | some name => (Log.Level.parse (String.ofList name)).map .ofLevel

def Invocation.run (invocation : Invocation) (runner : Runner) (environment : Environment)
    (files : FileSystem) : Outcome :=
  match invocation.logSetup environment with
  | .error message => .refused 2 message files
  | .ok setup =>
      match LogSetup.prepare environment files with
      | (.error message, files) =>
          .refused 1 ("Failed to initialize logging: " ++ message) files
      | (.ok (), files) => .ofCommand setup (invocation.command.run runner files)

/-- The whole program, on a system that runs the tools which it asks for. -/
def run (runner : Runner) (arguments : List (List Char)) (environment : Environment)
    (files : FileSystem) : Except UsageError Outcome :=
  (Invocation.parse arguments).map fun invocation => invocation.run runner environment files

end NativeInterop.CommandLine
