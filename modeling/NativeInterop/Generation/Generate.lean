import NativeInterop.Binding.SourceUnit
import NativeInterop.Source.ExportSource

namespace NativeInterop.Generation

/-! Rendering targets into units: one unit for each output file, in the order in which the files are
first named by a target that succeeds. A target that fails leaves the others alone. -/

open Binding Log

structure RejectedExport where
  /-- The qualified name of the target. -/
  target : List Char
  line : RejectedLine
  deriving DecidableEq

structure FailedTarget where
  target : Target
  error : BindingError
  deriving DecidableEq

structure RenderedUnits where
  units : List SourceUnit
  rejected : List RejectedExport
  failed : List FailedTarget
  deriving DecidableEq

/-- The scope that a listing gives for a target, and the lines that could not be decoded. -/
def scopeOfListing (kind : SourceKind) (target : Target) (listing : List Char) :
    Logged (Scope × List RejectedLine) := do
  let report ← Log.decodeListing listing
  let declarations := report.exports.map Declaration.ofExport
  Logged.log (.assembled target kind declarations.length report.rejected.length)
  return (.ofTarget target declarations, report.rejected)

/-- The scope of a target and the lines of its listing that could not be decoded. -/
def renderTarget (source : ExportSource) (target : Target) (files : FileSystem) :
    Logged (Effect (Scope × List RejectedLine)) := do
  let listed ← source.listing target.binary files
  match listed.result with
  | .error error => return ⟨.error error, listed.files⟩
  | .ok listing => return ⟨.ok (← scopeOfListing source.kind target listing), listed.files⟩

/-- What is rendered so far, and beside it the place of each key's unit. -/
structure Rendering extends RenderedUnits where
  places : List (List Char × Nat)

namespace Rendering

def empty : Rendering :=
  ⟨⟨[], [], []⟩, []⟩

/-- The place of a key's unit. A key that has none gets one at the end. -/
def place (rendering : Rendering) (key : List Char) : Rendering × Nat :=
  match rendering.places.lookup key with
  | some index => (rendering, index)
  | none =>
      let index := rendering.units.length
      ({ rendering with
          units := rendering.units ++ [SourceUnit.empty key]
          places := (key, index) :: rendering.places }, index)

def succeed (rendering : Rendering) (target : Target) (key : List Char) (scope : Scope)
    (rejected : List RejectedLine) : Rendering :=
  let (rendering, index) := rendering.place key
  { rendering with
    units := rendering.units.modify index (·.push scope)
    rejected := rendering.rejected ++ rejected.map (⟨target.qualifiedName, ·⟩) }

def fail (rendering : Rendering) (target : Target) (error : BindingError) : Rendering :=
  { rendering with failed := rendering.failed ++ [⟨target, error⟩] }

end Rendering

/-- The output key of a target with what was rendered for it. A target without a key is not even
listed. -/
def renderKeyed (source : ExportSource) (target : Target) (files : FileSystem) :
    Logged (Effect (List Char × Scope × List RejectedLine)) := do
  match target.outputKey? with
  | none => return .reading files (.error (.invalidTarget (.noOutputFile target.library)))
  | some key => do
      let rendered ← renderTarget source target files
      return ⟨rendered.result.map (key, ·), rendered.files⟩

def addTarget (source : ExportSource) (reached : Rendering × FileSystem) (target : Target) :
    Logged (Rendering × FileSystem) := do
  let effect ← renderKeyed source target reached.2
  match effect.result with
  | .ok (key, scope, rejected) =>
      return (reached.1.succeed target key scope rejected, effect.files)
  | .error error => do
      Logged.log (.targetFailed target error)
      return (reached.1.fail target error, effect.files)

/-- Renders all targets, and gives the files as the source leaves them. -/
def renderUnits (source : ExportSource) (targets : List Target) (files : FileSystem) :
    Logged (RenderedUnits × FileSystem) := do
  let (rendering, files) ← targets.foldlM (addTarget source) (.empty, files)
  return (rendering.toRenderedUnits, files)

/-! ### Writing

The units of all targets go into one directory. All listings are read before the first file is
written. -/

open Binding Log

structure WrittenFile where
  path : Path
  declarations : Nat
  deriving DecidableEq

structure GenerationReport where
  written : List WrittenFile
  rejected : List RejectedExport
  failed : List FailedTarget
  deriving DecidableEq

def GenerationReport.isSuccess (report : GenerationReport) : Bool :=
  report.failed.isEmpty

/-- Writes units in order, up to the first that cannot be written. -/
def writeUnits (outDir : Path) (files : FileSystem) :
    List SourceUnit → Logged (Effect (List WrittenFile))
  | [] => return ⟨.ok [], files⟩
  | unit :: rest => do
      let path := outDir.join ⟨unit.key⟩
      match files.write path (Text.Utf8.encode unit.render) with
      | .error error => return ⟨.error (.io error), files⟩
      | .ok files => do
          Logged.log (.wroteBindings path unit.declarationCount)
          let effect ← writeUnits outDir files rest
          return { effect with result := effect.result.map (⟨path, unit.declarationCount⟩ :: ·) }

def generate (source : ExportSource) (outDir : Path) (targets : List Target)
    (files : FileSystem) : Logged (Effect GenerationReport) := do
  let (rendered, files) ← renderUnits source targets files
  match files.createDirectories outDir with
  | (.error error, files) => return ⟨.error (.io error), files⟩
  | (.ok (), files) => do
      let effect ← writeUnits outDir files rendered.units
      match effect.result with
      | .error error => return ⟨.error error, effect.files⟩
      | .ok written => do
          unless rendered.failed.isEmpty do
            Logged.log (.targetsFailed rendered.failed.length)
          return ⟨.ok ⟨written, rendered.rejected, rendered.failed⟩, effect.files⟩

end NativeInterop.Generation
