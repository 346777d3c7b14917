import NativeInterop.Log.Logged
import NativeInterop.Pe.Image
import NativeInterop.Pe.Listing
import NativeInterop.FileSystem.Access
import NativeInterop.Source.Kind

namespace NativeInterop

/-! Sources of export listings. -/

open Log Text

/-- A result and the files as they are then. What was done before a failure stays done. -/
structure Effect (α : Type) where
  result : Except BindingError α
  files : FileSystem

namespace Effect

/-- A result that leaves the files as they were. -/
def reading {α : Type} (files : FileSystem) (result : Except BindingError α) : Effect α :=
  ⟨result, files⟩

end Effect

structure ExportSource where
  kind : SourceKind
  listing : Path → FileSystem → Logged (Effect (List Char))

/-- How a process comes to its end. -/
inductive Ending
  | exited (status : Nat)
  | killed (signal : Nat) (dumpedCore : Bool)
  deriving DecidableEq

/-- What a process leaves behind. -/
structure Finished where
  ending : Ending
  stdout : List UInt8
  stderr : List UInt8
  files : FileSystem

/-- What the system does when a program is to be run to its end with some arguments. A name without
a slash is looked for where the system has its programs; any other leads to a file. -/
abbrev Runner :=
  FileSystem → Path → List (List Char) → Except IoError Finished

namespace Ending

/-- The signals that have a name, from number 1 on. -/
def signalNames : List String :=
  ["HUP", "INT", "QUIT", "ILL", "TRAP", "ABRT", "BUS", "FPE", "KILL", "USR1", "SEGV", "USR2", "PIPE",
    "ALRM", "TERM", "STKFLT", "CHLD", "CONT", "STOP", "TSTP", "TTIN", "TTOU", "URG", "XCPU", "XFSZ",
    "VTALRM", "PROF", "WINCH", "IO", "PWR", "SYS"]

def signalText : Nat → String
  | 0 => ""
  | number + 1 => (signalNames[number]?.map fun name => " (SIG" ++ name ++ ")").getD ""

def text : Ending → String
  | exited status => "exit status: " ++ toString status
  | killed signal dumpedCore =>
      "signal: " ++ toString signal ++ signalText signal ++
        if dumpedCore then " (core dumped)" else ""

end Ending

namespace Source

/-- The listing tool, if no other is named. -/
def defaultTool : Path :=
  .ofString "dumpbin.exe"

def exportsOption : List Char :=
  "/EXPORTS".toList

def hasNul (text : List Char) : Bool :=
  text.contains '\x00'

/-- Runs a tool, if the system can be told of it: texts end where they hold a zero. -/
def runTool (runner : Runner) (files : FileSystem) (tool : Path) (arguments : List (List Char)) :
    Except IoError Finished :=
  if hasNul tool.text || arguments.any hasNul then .error .nulInArgument
  else runner files tool arguments

/-- What a tool said, if it succeeded. -/
def toolListing (tool : Path) (finished : Finished) : Except BindingError (List Char) :=
  if finished.ending == .exited 0 then .ok (Utf8.decodeLossy finished.stdout)
  else
    .error (.toolFailed tool.display finished.ending.text
      (String.ofList (trim (Utf8.decodeLossy finished.stderr))))

/-- Asks a tool for the listing. The tool may change files. -/
def toolSource (runner : Runner) (tool : Path) : ExportSource where
  kind := .dumpbin
  listing binary files := do
    Logged.log (.runningTool tool binary)
    match runTool runner files tool [exportsOption, binary.text] with
    | .error error => return ⟨.error (.io error), files⟩
    | .ok finished =>
        match toolListing tool finished with
        | .error error => return ⟨.error error, finished.files⟩
        | .ok listing => do
            Logged.log (.capturedListing (Utf8.size listing))
            return ⟨.ok listing, finished.files⟩

def exportTableError (binary : Path) (fault : Pe.Fault) : BindingError :=
  .exportTable (binary.display ++ ": " ++ fault.message)

/-- The lines for an image of either width. -/
def imageLines (binary : Path) (bytes : List UInt8) : Except BindingError (List (List Char)) := do
  match ← (Pe.FileKind.ofBytes bytes).mapError (exportTableError binary) with
  | .other => throw (.notPortableExecutable binary.display)
  | .image width => (Pe.exportLines width bytes).mapError (exportTableError binary)

/-- The listing of the export table of the binary itself. -/
def imageListing (binary : Path) (files : FileSystem) :
    Logged (Except BindingError (List Char)) := do
  match (files.read binary).mapError BindingError.io >>= imageLines binary with
  | .error error => return .error error
  | .ok lines => do
      Logged.log (.readExportTable binary lines.length)
      return .ok (List.intercalate ['\n'] lines)

def imageSource : ExportSource where
  kind := .pe
  listing binary files := do
    return .reading files (← imageListing binary files)

/-- A listing that was captured earlier. -/
def textListing (path : Path) (files : FileSystem) : Logged (Except BindingError (List Char)) := do
  match (files.readText path).mapError BindingError.io with
  | .error error => return .error error
  | .ok text => do
      Logged.log (.readListing path (Utf8.size text))
      return .ok text

/-- Takes the binary for a listing. -/
def textSource : ExportSource where
  kind := .text
  listing path files := do
    return .reading files (← textListing path files)

end Source

/-- The source of a kind. The tool matters to one kind only. -/
def SourceKind.source (kind : SourceKind) (runner : Runner) (tool : Option Path) : ExportSource :=
  match kind with
  | .dumpbin => Source.toolSource runner (tool.getD Source.defaultTool)
  | .pe => Source.imageSource
  | .text => Source.textSource

end NativeInterop
