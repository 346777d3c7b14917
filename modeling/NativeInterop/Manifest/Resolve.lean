import NativeInterop.Binding.Declaration
import NativeInterop.Error
import NativeInterop.Path
import NativeInterop.Source.Kind

namespace NativeInterop

/-! Manifests: which classes want the functions of which libraries, and how to list those. -/

structure GeneratorSettings where
  source : Option SourceKind
  tool : Option Path
  outDir : Option Path
  deriving DecidableEq

structure TargetEntry where
  namespaceName : List Char
  /-- A class and the classes around it, with dots between them. -/
  className : List Char
  library : List Char
  literal : Option (List Char)
  binary : Option Path
  deriving DecidableEq

structure Manifest where
  generator : GeneratorSettings
  targets : List TargetEntry
  deriving DecidableEq

/-! From the entries of a manifest to targets. -/

open Text Binding

def classNames (className : List Char) : List (List Char) :=
  ((segments (· == '.') className).map trim).filter (!·.isEmpty)

namespace TargetEntry

def fault? (entry : TargetEntry) : Option TargetFault :=
  if (classNames entry.className).isEmpty then some (.noClass entry.library)
  else if isBlankText entry.library then some (.noLibrary entry.className)
  else if (libraryFileName? entry.library).isNone then
    some (.noFileName entry.library entry.className)
  else none

def target (base : Path) (entry : TargetEntry) : Target where
  namespaceName := trim entry.namespaceName
  nesting := classNames entry.className
  literal := entry.literal.getD (stringLiteral entry.library)
  library := entry.library
  binary := base.join (entry.binary.getD ⟨entry.library⟩)

def resolve (base : Path) (entry : TargetEntry) : Except BindingError Target :=
  match entry.fault? with
  | some fault => .error (.invalidTarget fault)
  | none => .ok (entry.target base)

end TargetEntry

/-- The targets of all entries, or the fault of the first entry that has one. -/
def Manifest.resolve (base : Path) (manifest : Manifest) : Except BindingError (List Target) :=
  manifest.targets.mapM (TargetEntry.resolve base)

end NativeInterop
