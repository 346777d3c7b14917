import Mathlib
import NativeInterop.Proofs.Binding.DeclarationLines
import NativeInterop.Proofs.Identifier.Settling
import NativeInterop.Proofs.Text.Backtracking
import NativeInterop.Proofs.Text.Segments

namespace NativeInterop.Binding

open Text Signature

/-! Reading a declaration back. What a declaration tells of a function is its prototype; the text of
the declaration determines it, because no part is written with the characters that end it. -/

structure Prototype where
  ordinal : UInt32
  returnType : NativeType
  name : List Char
  parameters : List NativeType
  deriving DecidableEq

namespace Prototype

def ofExport (e : Export) : Prototype :=
  ⟨e.ordinal, e.returnType, Identifier.canonical e.identifier, e.parameters⟩

/-- A keyword with a star for each pointer. -/
def readType? (text : List Char) : Option NativeType :=
  let stars := text.dropWhile (· != '*')
  if stars.all (· == '*') then
    (Primitive.ofKeyword? (String.ofList (text.takeWhile (· != '*')))).map (⟨·, stars.length⟩)
  else none

/-- The texts of the parameters in a list that parts them by a comma and a blank. -/
def parameterTexts (text : List Char) : List (List Char) :=
  if text.isEmpty then []
  else
    match segments (· == ',') text with
    | [] => []
    | first :: others => first :: others.map List.tail

/-- The types of parameters that are named for their positions, from `index` on. -/
def readParameters? : Nat → List (List Char) → Option (List NativeType)
  | _, [] => some []
  | index, parameter :: others =>
      if parameter.dropWhile (· != ' ') = " param".toList ++ decimal index then do
        let type ← readType? (parameter.takeWhile (· != ' '))
        let types ← readParameters? (index + 1) others
        return type :: types
      else none

/-- The return type, the name and the parameters of a text that begins after the modifiers. -/
def readFunction? (ordinal : UInt32) (text : List Char) : Option Prototype := do
  let returnType ← readType? (text.takeWhile (· != ' '))
  let named := (text.dropWhile (· != ' ')).tail
  let listed := (named.dropWhile (· != '(')).tail
  if listed.dropWhile (· != ')') = [')', ';'] then
    let parameters ← readParameters? 1 (parameterTexts (listed.takeWhile (· != ')')))
    return ⟨ordinal, returnType, named.takeWhile (· != '('), parameters⟩
  else none

/-- The prototype in a declaration that imports from the library of this literal. -/
def read? (literal text : List Char) : Option Prototype := do
  let numbered ← text.dropPrefix? ("[DllImport(".toList ++ literal ++ ", EntryPoint = \"#".toList)
  let ordinal ← word32? (numbered.takeWhile Char.isDigit)
  let modified ← (numbered.dropWhile Char.isDigit).dropPrefix? "\")] public ".toList
  let declared ←
    ((modified.dropPrefix? "unsafe ".toList).getD modified).dropPrefix? "extern static ".toList
  readFunction? ordinal declared

/-! ### Parts -/

theorem dropPrefix?_append (start rest : List Char) :
    (start ++ rest).dropPrefix? start = some rest :=
  List.dropPrefix?_append_of_beq rest (by simp)

theorem ofKeyword?_keyword (primitive : Primitive) :
    Primitive.ofKeyword? primitive.keyword = some primitive := by
  cases primitive <;> rfl

/-- A part that does not hold the character after it ends there. -/
theorem takeWhile_until {stop : Char} {part : List Char} (absent : stop ∉ part) (rest : List Char)
    (ends : ∀ c ∈ rest.head?, c = stop) :
    (part ++ rest).takeWhile (· != stop) = part ∧ (part ++ rest).dropWhile (· != stop) = rest := by
  have inside : ∀ c ∈ part, (c != stop) = true := fun c member =>
    bne_iff_ne.mpr (ne_of_mem_of_not_mem member absent)
  have stopped : ∀ c ∈ rest.head?, (c != stop) = false := fun c head => by simp [ends c head]
  exact ⟨takeWhile_append_stop inside stopped, dropWhile_append_stop inside stopped⟩

theorem readType?_text (type : NativeType) : readType? type.text.toList = some type := by
  have keyword : '*' ∉ type.primitive.keyword.toList := fun star =>
    absurd (isLower_of_mem_keyword star) (by decide)
  have stars : ∀ c ∈ (List.replicate type.depth '*').head?, c = '*' := fun _ head =>
    List.eq_of_mem_replicate (List.mem_of_mem_head? head)
  obtain ⟨taken, dropped⟩ := takeWhile_until keyword _ stars
  rw [readType?, NativeType.text, String.toList_append, String.toList_ofList, taken, dropped,
    String.ofList_toList, ofKeyword?_keyword]
  simp

/-- A type that a blank ends. -/
theorem takeWhile_typeText (type : NativeType) (rest : List Char) :
    (type.text.toList ++ ' ' :: rest).takeWhile (· != ' ') = type.text.toList ∧
      (type.text.toList ++ ' ' :: rest).dropWhile (· != ' ') = ' ' :: rest :=
  takeWhile_until (fun blank => absurd (mem_typeText blank) (by decide)) _ (by simp)

theorem readParameters?_parameterList (index : Nat) (types : List NativeType) :
    readParameters? index (Declaration.parameterList index types) = some types := by
  induction types generalizing index with
  | nil => rfl
  | cons type others ih =>
      have named : " param".toList ++ decimal index = ' ' :: ("param".toList ++ decimal index) := rfl
      obtain ⟨taken, dropped⟩ := takeWhile_typeText type ("param".toList ++ decimal index)
      rw [Declaration.parameterList, readParameters?, List.append_assoc, named, dropped, if_pos rfl,
        taken, readType?_text, ih]
      rfl

theorem parameterTexts_intercalate {parts : List (List Char)} (apart : ∀ part ∈ parts, ',' ∉ part)
    (filled : parts.head? ≠ some []) : parameterTexts ([',', ' '].intercalate parts) = parts := by
  cases parts with
  | nil => rfl
  | cons first others =>
      have joined : ∀ part ∈ first :: others, ∀ c ∈ part, (c == ',') = false :=
        fun part inside c member => beq_false_of_ne (ne_of_mem_of_not_mem member (apart part inside))
      have nonempty : ([',', ' '].intercalate (first :: others)).isEmpty = false := by
        have start : first ≠ [] := by simpa using filled
        cases others <;> simp [start]
      rw [parameterTexts, nonempty, segments_intercalate rfl (by simp) joined]
      simp [Function.comp_def]

/-! ### Whole declarations -/

/-- A declaration from its return type on. -/
def functionText (prototype : Prototype) : List Char :=
  prototype.returnType.text.toList ++ ' ' :: prototype.name ++
    '(' :: List.intercalate [',', ' '] (Declaration.parameterList 1 prototype.parameters) ++
    [')', ';']

theorem readFunction?_functionText {prototype : Prototype}
    (named : Identifier.IsWord prototype.name) :
    readFunction? prototype.ordinal prototype.functionText = some prototype := by
  obtain ⟨ordinal, returnType, name, parameters⟩ := prototype
  let listed := List.intercalate [',', ' '] (Declaration.parameterList 1 parameters)
  have inName : '(' ∉ name := fun bracket => absurd (named _ bracket) (by decide)
  have inList : ')' ∉ listed := notMem_intercalate (by decide) fun _ inside bracket =>
    absurd (isParameterChar_of_mem inside bracket) (by decide)
  have text : functionText ⟨ordinal, returnType, name, parameters⟩ =
      returnType.text.toList ++ ' ' :: (name ++ '(' :: (listed ++ [')', ';'])) := by
    simp [functionText, listed]
  obtain ⟨typeTaken, typeDropped⟩ :=
    takeWhile_typeText returnType (name ++ '(' :: (listed ++ [')', ';']))
  obtain ⟨nameTaken, nameDropped⟩ :=
    takeWhile_until inName ('(' :: (listed ++ [')', ';'])) (by simp)
  obtain ⟨listTaken, listDropped⟩ := takeWhile_until inList [')', ';'] (by simp)
  have types : readParameters? 1 (parameterTexts listed) = some parameters := by
    have apart : ∀ parameter ∈ Declaration.parameterList 1 parameters, ',' ∉ parameter :=
      fun _ inside comma => absurd (isParameterChar_of_mem inside comma) (by decide)
    have filled : (Declaration.parameterList 1 parameters).head? ≠ some [] := by
      cases parameters <;> simp [Declaration.parameterList]
    rw [parameterTexts_intercalate apart filled, readParameters?_parameterList]
  rw [text, readFunction?, typeTaken, typeDropped, readType?_text]
  simp [nameTaken, nameDropped, listTaken, listDropped, types]

theorem importAttribute_eq (ordinal : UInt32) (literal : List Char) :
    Declaration.importAttribute ordinal literal =
      "[DllImport(".toList ++ literal ++ ", EntryPoint = \"#".toList ++ decimal ordinal.toNat ++
        "\")]".toList := rfl

theorem render_ofExport (literal : List Char) (e : Export) :
    (Declaration.ofExport e).render literal =
      Declaration.importAttribute e.ordinal literal ++
        ' ' :: (Declaration.modifiers e.requiresUnsafe ++ ' ' :: (ofExport e).functionText) := by
  simp [Declaration.render, Declaration.signature, Declaration.ofExport, functionText, ofExport]

theorem read?_render (literal : List Char) (e : Export) :
    read? literal ((Declaration.ofExport e).render literal) = some (ofExport e) := by
  let function := (ofExport e).functionText
  let unsafely := if e.requiresUnsafe then "unsafe ".toList else []
  let modified := unsafely ++ ("extern static ".toList ++ function)
  have modifiers : Declaration.modifiers e.requiresUnsafe ++ ' ' :: function =
      "public ".toList ++ modified := by
    simp only [modified, unsafely]
    cases e.requiresUnsafe <;> rfl
  have text : (Declaration.ofExport e).render literal =
      "[DllImport(".toList ++ literal ++ ", EntryPoint = \"#".toList ++
        (decimal e.ordinal.toNat ++ ("\")] public ".toList ++ modified)) := by
    have closing : ∀ later, "\")]".toList ++ ' ' :: ("public ".toList ++ later) =
        "\")] public ".toList ++ later := fun _ => rfl
    rw [render_ofExport, modifiers]
    simp only [importAttribute_eq, List.append_assoc, closing]
  have digits : ∀ c ∈ decimal e.ordinal.toNat, c.isDigit = true := fun _ => isDigit_of_mem_decimal
  have stop : ∀ c ∈ ("\")] public ".toList ++ modified).head?, c.isDigit = false := by
    intro c head
    obtain rfl : '"' = c := Option.some.inj head
    rfl
  have number : word32? (decimal e.ordinal.toNat) = some e.ordinal :=
    word32?_eq_some_iff.mpr ⟨digits, digitsValue_decimal _⟩
  have declared : ((modified.dropPrefix? "unsafe ".toList).getD modified).dropPrefix?
      "extern static ".toList = some function := by
    simp only [modified, unsafely]
    cases e.requiresUnsafe with
    | false => exact dropPrefix?_append _ _
    | true => rw [if_pos rfl, dropPrefix?_append]; exact dropPrefix?_append _ _
  have named : Identifier.IsWord (ofExport e).name := Identifier.isWord_canonical _
  rw [text, read?, dropPrefix?_append]
  simp only [Option.bind_eq_bind, Option.bind_some, takeWhile_append_stop digits stop,
    dropWhile_append_stop digits stop, number, dropPrefix?_append, declared]
  exact readFunction?_functionText named

end Prototype

/-- A declaration determines the function that it binds, up to the spelling of its name: the
prototype is read back from the text. So declarations of different ordinals, types or names differ
whatever the literal is. -/
theorem render_determines_prototype :
    (∀ literal e, Prototype.read? literal ((Declaration.ofExport e).render literal) =
      some (Prototype.ofExport e)) ∧
    ∀ literal e other,
      (Declaration.ofExport e).render literal = (Declaration.ofExport other).render literal →
        e.ordinal = other.ordinal ∧ e.returnType = other.returnType ∧
        e.parameters = other.parameters ∧
        Identifier.canonical e.identifier = Identifier.canonical other.identifier := by
  refine ⟨Prototype.read?_render, fun literal e other same => ?_⟩
  have read := Prototype.read?_render literal e
  rw [same, Prototype.read?_render literal other] at read
  obtain ⟨ordinal, returnType, name, parameters⟩ := Prototype.mk.inj (Option.some.inj read)
  exact ⟨ordinal.symm, returnType.symm, parameters.symm, name.symm⟩

theorem render_determines_prototype_underscore :
    let e : Export := ⟨7, "get_value".toList, ⟨.int, 1⟩, [⟨.uint, 0⟩, ⟨.char, 2⟩]⟩
    let other : Export := ⟨7, "getValue".toList, ⟨.int, 1⟩, [⟨.uint, 0⟩, ⟨.char, 2⟩]⟩
    let literal := "\"m.dll\"".toList
    (Declaration.ofExport e).render literal = (Declaration.ofExport other).render literal ∧
      e.ordinal = other.ordinal ∧ e.returnType = other.returnType ∧
      e.parameters = other.parameters ∧
      Identifier.canonical e.identifier = Identifier.canonical other.identifier := by
  intro e other literal
  have name : Identifier.canonical "get_value".toList = Identifier.canonical "getValue".toList := by
    decide +kernel
  have same : (Declaration.ofExport e).render literal = (Declaration.ofExport other).render literal := by
    simp only [Declaration.render, Declaration.signature, Declaration.ofExport, e, other, name]
    rfl
  exact ⟨same, render_determines_prototype.2 literal e other same⟩

end NativeInterop.Binding
