import NativeInterop.Export.Listing
import NativeInterop.Identifier.Canonical
import NativeInterop.Path
import NativeInterop.Text.Basic

namespace NativeInterop.Binding

/-! Classes that ask for the functions of a library. -/

open Text

structure Target where
  /-- Empty for the global namespace. -/
  namespaceName : List Char
  /-- The class and the classes around it, outermost first. -/
  nesting : List (List Char)
  /-- The library as the declarations write it. -/
  literal : List Char
  library : List Char
  binary : Path
  deriving DecidableEq

def isPathSeparator (c : Char) : Bool :=
  c == '/' || c == '\\'

/-- The last segment of a library's name that is not blank. -/
def libraryFileName? (library : List Char) : Option (List Char) :=
  ((segments isPathSeparator library).filter (!isBlankText ·)).getLast?

def outputSuffix : List Char :=
  ".g.cs".toList

namespace Target

/-- The file that the bindings of the target go to. -/
def outputKey? (target : Target) : Option (List Char) :=
  (libraryFileName? target.library).map (· ++ outputSuffix)

def scopeNames (target : Target) : List (List Char) :=
  if target.namespaceName.isEmpty then target.nesting else target.namespaceName :: target.nesting

def qualifiedName (target : Target) : List Char :=
  List.intercalate ['.'] target.scopeNames

end Target

/-! Regular string literals of the target language. -/

def escapedChar (c : Char) : List Char :=
  if c == '\\' || c == '"' then ['\\', c] else [c]

def stringLiteral (value : List Char) : List Char :=
  '"' :: value.flatMap escapedChar ++ ['"']

/-! Declarations that bind a function by the ordinal of its export. -/

open Signature Text

structure Declaration where
  ordinal : UInt32
  name : List Char
  rawName : List Char
  returnType : NativeType
  parameters : List NativeType
  requiresUnsafe : Bool
  deriving DecidableEq

namespace Declaration

def ofExport (e : Export) : Declaration where
  ordinal := e.ordinal
  name := Identifier.canonical e.identifier
  rawName := e.identifier
  returnType := e.returnType
  parameters := e.parameters
  requiresUnsafe := e.requiresUnsafe

def importAttribute (ordinal : UInt32) (literal : List Char) : List Char :=
  "[DllImport(".toList ++ literal ++ ", EntryPoint = \"#".toList ++ decimal ordinal.toNat ++
    "\")]".toList

def modifiers (requiresUnsafe : Bool) : List Char :=
  if requiresUnsafe then "public unsafe extern static".toList else "public extern static".toList

/-- The parameters from position `index` on, each named for its position. -/
def parameterList : Nat → List NativeType → List (List Char)
  | _, [] => []
  | index, type :: rest =>
      (type.text.toList ++ " param".toList ++ decimal index) :: parameterList (index + 1) rest

/-- What stands after the attribute: modifiers, return type, name and parameters. -/
def signature (declaration : Declaration) : List Char :=
  modifiers declaration.requiresUnsafe ++ ' ' :: declaration.returnType.text.toList ++
    ' ' :: declaration.name ++
    '(' :: List.intercalate [',', ' '] (parameterList 1 declaration.parameters) ++ [')', ';']

def render (declaration : Declaration) (literal : List Char) : List Char :=
  importAttribute declaration.ordinal literal ++ ' ' :: declaration.signature

end Declaration

end NativeInterop.Binding
