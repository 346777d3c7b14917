namespace NativeInterop.Signature

/-! Tables of codes and their meanings, and the longest code that a text begins with. -/

abbrev CodeTable (α : Type) := List (List Char × α)

namespace CodeTable

variable {α : Type}

def byLength (table : CodeTable α) : CodeTable α :=
  table.mergeSort fun earlier later => later.1.length ≤ earlier.1.length

def firstPrefix? (table : CodeTable α) (text : List Char) : Option (List Char × α) :=
  table.find? fun entry => entry.1.isPrefixOf text

def longest? (table : CodeTable α) (text : List Char) : Option (List Char × α) :=
  table.byLength.firstPrefix? text

end CodeTable

/-! The built-in value types, their codes in decorated names and their keywords. -/

inductive Primitive
  | void | char | byte | short | ushort | int | uint | float | double | bool | long | ulong
  deriving DecidableEq, Repr

namespace Primitive

def all : List Primitive :=
  [void, char, byte, short, ushort, int, uint, float, double, bool, long, ulong]

def keyword : Primitive → String
  | void => "void"
  | char => "char"
  | byte => "byte"
  | short => "short"
  | ushort => "ushort"
  | int => "int"
  | uint => "uint"
  | float => "float"
  | double => "double"
  | bool => "bool"
  | long => "long"
  | ulong => "ulong"

def ofKeyword? (keyword : String) : Option Primitive :=
  all.find? fun primitive => primitive.keyword == keyword

def codeTable : CodeTable Primitive :=
  [(['X'], void), (['D'], char), (['E'], byte), (['F'], short), (['G'], ushort), (['H'], int),
    (['I'], uint), (['M'], float), (['N'], double), (['_', 'N'], bool), (['_', 'J'], long),
    (['_', 'K'], ulong)]

def codesByLength : CodeTable Primitive :=
  codeTable.byLength

def code (primitive : Primitive) : List Char :=
  ((codeTable.find? fun entry => entry.2 == primitive).map (·.1)).getD []

def longestCode? (text : List Char) : Option (List Char × Primitive) :=
  codesByLength.firstPrefix? text

theorem longestCode?_eq (text : List Char) :
    longestCode? text = codeTable.longest? text := rfl

theorem code_ne_nil_of_mem {code : List Char} {primitive : Primitive}
    (member : (code, primitive) ∈ codeTable) : code ≠ [] := by
  simp only [codeTable, List.mem_cons, Prod.mk.injEq, List.not_mem_nil, or_false] at member
  rcases member with h | h | h | h | h | h | h | h | h | h | h | h <;> simp [h.1]

theorem length_pos_of_longestCode? {text code : List Char} {primitive : Primitive}
    (found : longestCode? text = some (code, primitive)) : 0 < code.length := by
  have member := List.mem_of_find?_eq_some found
  simp only [codesByLength, CodeTable.byLength, List.mem_mergeSort] at member
  exact List.length_pos_iff.mpr (code_ne_nil_of_mem member)

end Primitive

/-! Types of a signature: a primitive behind any number of pointers. -/

def pointerMarker : List Char :=
  ['P', 'E', 'A']

def pointerMarkers (count : Nat) : List Char :=
  (List.replicate count pointerMarker).flatten

structure NativeType where
  primitive : Primitive
  depth : Nat
  deriving DecidableEq, Repr

namespace NativeType

def isPointer (type : NativeType) : Bool :=
  0 < type.depth

def text (type : NativeType) : String :=
  type.primitive.keyword ++ String.ofList (List.replicate type.depth '*')

/-- The code of the type in a decorated name: a marker for each pointer, then the primitive. -/
def encode (type : NativeType) : List Char :=
  pointerMarkers type.depth ++ type.primitive.code

def width (type : NativeType) : Nat :=
  type.encode.length

end NativeType

def encodeTypes (types : List NativeType) : List Char :=
  types.flatMap NativeType.encode

end NativeInterop.Signature
