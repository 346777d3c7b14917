import NativeInterop.Binding.Declaration

namespace NativeInterop.Binding

/-! The declarations of one target inside its namespace and classes. -/

structure Scope where
  namespaceName : List Char
  nesting : List (List Char)
  literal : List Char
  declarations : List Declaration
  deriving DecidableEq

/-- Four blanks for each level. -/
def indent (depth : Nat) (line : List Char) : List Char :=
  List.replicate (4 * depth) ' ' ++ line

/-- A block for each header, each inside the one before, around the innermost lines. -/
def nestedBlocks (depth : Nat) (body : List (List Char)) : List (List Char) → List (List Char)
  | [] => body.map (indent depth)
  | header :: inner =>
      indent depth header :: indent depth ['\x7b'] ::
        (nestedBlocks (depth + 1) body inner ++ [indent depth ['\x7d']])

def unlines (lines : List (List Char)) : List Char :=
  lines.flatMap (· ++ ['\n'])

/-- A text that grows by lines, and the level that its next line stands at. -/
structure Draft where
  text : List Char
  depth : Nat
  deriving DecidableEq

namespace Draft

def addLine (draft : Draft) (line : List Char) : Draft :=
  ⟨draft.text ++ indent draft.depth line ++ ['\n'], draft.depth⟩

def openBlock (draft : Draft) (header : List Char) : Draft :=
  let opened := (draft.addLine header).addLine ['\x7b']
  ⟨opened.text, opened.depth + 1⟩

/-- The text after closing the blocks around a level, innermost first. -/
def closeBlocks (text : List Char) : Nat → List Char
  | 0 => text
  | depth + 1 => closeBlocks (text ++ indent depth ['\x7d'] ++ ['\n']) depth

end Draft

namespace Scope

def ofTarget (target : Target) (declarations : List Declaration) : Scope :=
  ⟨target.namespaceName, target.nesting, target.literal, declarations⟩

def headers (scope : Scope) : List (List Char) :=
  (if scope.namespaceName.isEmpty then [] else ["namespace ".toList ++ scope.namespaceName]) ++
    scope.nesting.map ("partial class ".toList ++ ·)

def lines (scope : Scope) : List (List Char) :=
  nestedBlocks 0 (scope.declarations.map (·.render scope.literal)) scope.headers

def render (scope : Scope) : List Char :=
  unlines scope.lines

/-- Writes the scope line by line at the end of a text. -/
def renderInto (scope : Scope) (text : List Char) : List Char :=
  let opened := scope.headers.foldl Draft.openBlock ⟨text, 0⟩
  let declared := scope.declarations.foldl
    (fun draft declaration => draft.addLine (declaration.render scope.literal)) opened
  Draft.closeBlocks declared.text declared.depth

end Scope

/-! Generated files: the scopes of all targets that name one library. -/

structure SourceUnit where
  key : List Char
  scopes : List Scope
  deriving DecidableEq

namespace SourceUnit

def empty (key : List Char) : SourceUnit :=
  ⟨key, []⟩

def push (unit : SourceUnit) (scope : Scope) : SourceUnit :=
  { unit with scopes := unit.scopes ++ [scope] }

def declarationCount (unit : SourceUnit) : Nat :=
  (unit.scopes.flatMap (·.declarations)).length

def usingLine : List Char :=
  "using System.Runtime.InteropServices;\n".toList

def render (unit : SourceUnit) : List Char :=
  usingLine ++ unit.scopes.flatMap fun scope => '\n' :: scope.render

end SourceUnit

end NativeInterop.Binding
