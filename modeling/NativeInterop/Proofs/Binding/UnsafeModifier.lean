import Mathlib
import NativeInterop.Proofs.Binding.StringLiteral
import NativeInterop.Proofs.Export.Decoding
import NativeInterop.Proofs.Text.Occurrences

namespace NativeInterop.Binding

open Text Signature

/-! When a declaration is unsafe. Each pointer marker of the type run is a star of the declaration
and nothing else is, so a declaration is unsafe exactly if its line held a marker. -/

variable {line literal : List Char} {e : Export}

def totalDepth (types : List NativeType) : Nat :=
  (types.map NativeType.depth).sum

theorem totalDepth_cons (type : NativeType) (types : List NativeType) :
    totalDepth (type :: types) = type.depth + totalDepth types := rfl

/-! ### Markers of a run -/

theorem marker_notMem_code (primitive : Primitive) : 'P' ∉ primitive.code := by
  cases primitive <;> decide

theorem occurrences_pointerMarkers (count : Nat) (text : List Char) :
    occurrences pointerMarker (pointerMarkers count ++ text) =
      count + occurrences pointerMarker text := by
  induction count with
  | zero => rw [pointerMarkers_zero, List.nil_append, Nat.zero_add]
  | succ count ih =>
      have marked := occurrences_append_self 'P' ['E', 'A'] (pointerMarkers count ++ text)
      rw [pointerMarkers_succ, List.append_assoc]
      refine marked.trans ?_
      rw [← pointerMarker, ih]
      omega

/-- A marker begins with a letter that no code has, so it does not reach over the end of a type. -/
theorem occurrences_encodeTypes (types : List NativeType) :
    occurrences pointerMarker (encodeTypes types) = totalDepth types := by
  induction types with
  | nil => rfl
  | cons type types ih =>
      have codeFree := occurrences_append_of_not_mem (marker_notMem_code type.primitive) ['E', 'A']
        (encodeTypes types)
      rw [encodeTypes_cons, NativeType.encode, List.append_assoc, occurrences_pointerMarkers,
        totalDepth_cons, ← ih]
      exact congrArg (type.depth + ·) codeFree

/-! ### Stars of a declaration -/

theorem count_star_typeText (type : NativeType) : type.text.toList.count '*' = type.depth := by
  have keyword : '*' ∉ type.primitive.keyword.toList := fun star =>
    absurd (isLower_of_mem_keyword star) (by decide)
  rw [NativeType.text, String.toList_append, String.toList_ofList, List.count_append,
    List.count_eq_zero_of_not_mem keyword, List.count_replicate_self, Nat.zero_add]

theorem count_intercalate {c : Char} {separator : List Char} (apart : c ∉ separator)
    (parts : List (List Char)) :
    (separator.intercalate parts).count c = (parts.map (List.count c)).sum := by
  induction parts with
  | nil => rfl
  | cons first parts ih =>
      cases parts with
      | nil => simp
      | cons second parts =>
          rw [List.intercalate_cons_cons, List.count_append, List.count_append, ih,
            List.count_eq_zero_of_not_mem apart]
          simp

theorem count_star_parameterList (index : Nat) (types : List NativeType) :
    ((Declaration.parameterList index types).map (List.count '*')).sum = totalDepth types := by
  induction types generalizing index with
  | nil => rfl
  | cons type types ih =>
      have name : " param".toList.count '*' = 0 := by decide
      have number : (decimal index).count '*' = 0 := List.count_eq_zero_of_not_mem fun star =>
        absurd (isDigit_of_mem_decimal star) (by decide)
      rw [Declaration.parameterList, List.map_cons, List.sum_cons, ih, List.count_append,
        List.count_append, count_star_typeText, name, number, totalDepth_cons]
      rfl

theorem count_star_signature {declaration : Declaration}
    (named : Identifier.IsWord declaration.name) :
    declaration.signature.count '*' =
      totalDepth (declaration.returnType :: declaration.parameters) := by
  have modifiers : (Declaration.modifiers declaration.requiresUnsafe).count '*' = 0 := by
    cases declaration.requiresUnsafe <;> decide
  have name : declaration.name.count '*' = 0 := List.count_eq_zero_of_not_mem fun star =>
    absurd (named _ star) (by decide)
  have parameters : (List.intercalate [',', ' ']
      (Declaration.parameterList 1 declaration.parameters)).count '*' =
      totalDepth declaration.parameters := by
    rw [count_intercalate (by decide), count_star_parameterList]
  simp [Declaration.signature, modifiers, name, parameters, count_star_typeText, totalDepth_cons]

/-! ### The modifier -/

theorem any_isPointer_iff (types : List NativeType) :
    types.any NativeType.isPointer = true ↔ 0 < totalDepth types := by
  induction types with
  | nil => simp [totalDepth]
  | cons type types ih =>
      rw [List.any_cons, Bool.or_eq_true, ih, totalDepth_cons, NativeType.isPointer,
        decide_eq_true_eq]
      omega

theorem requiresUnsafe_iff :
    e.requiresUnsafe = true ↔ 0 < totalDepth (e.returnType :: e.parameters) := by
  rw [← any_isPointer_iff]
  rfl

theorem unsafe_prefix_signature_iff (declaration : Declaration) :
    "public unsafe extern static ".toList <+: declaration.signature ↔
      declaration.requiresUnsafe = true := by
  cases modifier : declaration.requiresUnsafe <;>
    simp [Declaration.signature, modifier, Declaration.modifiers]

/-- The declaration of a decoded function is unsafe exactly if the type run of its line holds a
pointer marker; behind the attribute it has a star for each marker. -/
theorem unsafe_iff_marked (decoded : decodeLine line = .ok (some e)) (literal : List Char) :
    ∃ fields after, ExportLine.parse? line = some fields ∧
      afterAttribute? literal ((Declaration.ofExport e).render literal) = some after ∧
      [pointerMarker <:+: fields.typeRun, e.requiresUnsafe = true,
        "public unsafe extern static ".toList <+: after, '*' ∈ after].TFAE ∧
      after.count '*' = occurrences pointerMarker fields.typeRun ∧
      (Utf8.size line < 3 * 2 ^ 32 →
        ∀ type ∈ e.returnType :: e.parameters, type.depth < 2 ^ 32) := by
  let declaration := Declaration.ofExport e
  have named : Identifier.IsWord declaration.name := Identifier.isWord_canonical e.identifier
  have markers := occurrences_encodeTypes (e.returnType :: e.parameters)
  have stars : declaration.signature.count '*' = totalDepth (e.returnType :: e.parameters) :=
    count_star_signature named
  refine ⟨_, declaration.signature, decodeLine_eq_some_iff.mp decoded,
    afterAttribute?_render declaration literal, ?_, stars.trans markers.symm,
    depth_lt_of_decodeLine decoded⟩
  tfae_have 1 ↔ 2 := by
    rw [requiresUnsafe_iff, ← markers]
    exact (occurrences_pos_iff (List.cons_ne_nil _ _)).symm
  tfae_have 2 ↔ 3 := (unsafe_prefix_signature_iff declaration).symm
  tfae_have 2 ↔ 4 := by rw [requiresUnsafe_iff, ← stars, List.count_pos_iff]
  tfae_finish

/-- A pointer is returned, and the markers stand beside a code of one of their own letters. -/
theorem unsafe_iff_marked_pointerToByte :
    decodeLine "7 ?f@@YAPEAPEAEEPEAX@Z".toList =
      .ok (some ⟨7, ['f'], ⟨.byte, 2⟩, [⟨.byte, 0⟩, ⟨.void, 1⟩]⟩) ∧
    Utf8.size "7 ?f@@YAPEAPEAEEPEAX@Z".toList < 3 * 2 ^ 32 ∧
    ∃ fields after, ExportLine.parse? "7 ?f@@YAPEAPEAEEPEAX@Z".toList = some fields ∧
      afterAttribute? ['M'] ((Declaration.ofExport
        ⟨7, ['f'], ⟨.byte, 2⟩, [⟨.byte, 0⟩, ⟨.void, 1⟩]⟩).render ['M']) = some after ∧
      "public unsafe extern static ".toList <+: after ∧
      after.count '*' = occurrences pointerMarker fields.typeRun ∧
      ∀ type ∈ [(⟨.byte, 2⟩ : NativeType), ⟨.byte, 0⟩, ⟨.void, 1⟩], type.depth < 2 ^ 32 := by
  have decoded : decodeLine "7 ?f@@YAPEAPEAEEPEAX@Z".toList =
      .ok (some ⟨7, ['f'], ⟨.byte, 2⟩, [⟨.byte, 0⟩, ⟨.void, 1⟩]⟩) :=
    decodeLine_eq_some_iff.mpr (by cbv)
  have short : Utf8.size "7 ?f@@YAPEAPEAEEPEAX@Z".toList < 3 * 2 ^ 32 := by decide
  obtain ⟨fields, after, parsed, read, same, stars, depths⟩ := unsafe_iff_marked decoded ['M']
  exact ⟨decoded, short, fields, after, parsed, read, (same.out 1 2).mp rfl, stars, depths short⟩

end NativeInterop.Binding
