import Mathlib.Data.List.Infix
import NativeInterop.Proofs.Text.ByteOffset
import NativeInterop.Signature.Cursor

namespace NativeInterop.Signature

/-! Reading one type is the inverse of writing it in front of any text. The code table is free of
prefixes, and no code begins like a pointer marker. -/

namespace Primitive

theorem mem_codeTable_iff {code : List Char} {primitive : Primitive} :
    (code, primitive) ∈ codeTable ↔ code = primitive.code := by
  constructor
  · intro member
    simp only [codeTable, List.mem_cons, Prod.mk.injEq, List.not_mem_nil, or_false] at member
    rcases member with h | h | h | h | h | h | h | h | h | h | h | h <;>
      (rw [h.1, h.2]; decide)
  · intro same
    subst same
    cases primitive <;> decide

theorem mem_codesByLength_iff {code : List Char} {primitive : Primitive} :
    (code, primitive) ∈ codesByLength ↔ code = primitive.code := by
  rw [codesByLength, CodeTable.byLength, List.mem_mergeSort, mem_codeTable_iff]

theorem eq_of_code_starts {first second : Primitive} (starts : first.code <+: second.code) :
    first = second := by
  revert starts
  cases first <;> cases second <;> decide

theorem eq_of_codes_start {first second : Primitive} {text : List Char}
    (one : first.code <+: text) (other : second.code <+: text) : first = second := by
  rcases List.prefix_or_prefix_of_prefix one other with starts | starts
  · exact eq_of_code_starts starts
  · exact (eq_of_code_starts starts).symm

theorem longestCode?_eq_some_iff {text code : List Char} {primitive : Primitive} :
    longestCode? text = some (code, primitive) ↔ code = primitive.code ∧ code <+: text := by
  constructor
  · intro found
    have starts := List.find?_some found
    exact ⟨mem_codesByLength_iff.mp (List.mem_of_find?_eq_some found),
      List.isPrefixOf_iff_prefix.mp starts⟩
  · rintro ⟨rfl, starts⟩
    cases found : longestCode? text with
    | none =>
        have listed : (primitive.code, primitive) ∈ codesByLength := mem_codesByLength_iff.mpr rfl
        exact absurd (List.isPrefixOf_iff_prefix.mpr starts) (List.find?_eq_none.mp found _ listed)
    | some entry =>
        obtain ⟨code, other⟩ := entry
        have same := mem_codesByLength_iff.mp (List.mem_of_find?_eq_some found)
        have matched := List.find?_some found
        subst same
        rw [eq_of_codes_start (List.isPrefixOf_iff_prefix.mp matched) starts]

theorem longestCode?_eq_none_iff {text : List Char} :
    longestCode? text = none ↔ ∀ primitive : Primitive, ¬ primitive.code <+: text := by
  constructor
  · intro missing primitive starts
    have found := longestCode?_eq_some_iff.mpr ⟨rfl, starts⟩
    rw [missing] at found
    contradiction
  · intro absent
    cases found : longestCode? text with
    | none => rfl
    | some entry =>
        obtain ⟨code, primitive⟩ := entry
        obtain ⟨rfl, starts⟩ := longestCode?_eq_some_iff.mp found
        exact absurd starts (absent primitive)

theorem code_ne_nil (primitive : Primitive) : primitive.code ≠ [] :=
  code_ne_nil_of_mem (mem_codeTable_iff.mpr rfl)

theorem not_pointerMarker_prefix_code (primitive : Primitive) (text : List Char) :
    ¬ pointerMarker <+: primitive.code ++ text := by
  rw [← List.isPrefixOf_iff_prefix]
  cases primitive <;> simp [Primitive.code, codeTable, pointerMarker]

end Primitive

@[simp] theorem pointerMarkers_zero : pointerMarkers 0 = [] := rfl

theorem pointerMarkers_succ (count : Nat) :
    pointerMarkers (count + 1) = pointerMarker ++ pointerMarkers count := by
  simp [pointerMarkers, List.replicate_succ]

@[simp] theorem length_pointerMarkers (count : Nat) :
    (pointerMarkers count).length = pointerMarker.length * count := by
  simp [pointerMarkers, Nat.mul_comm]

theorem pointerMarkers_add (count more : Nat) :
    pointerMarkers (count + more) = pointerMarkers count ++ pointerMarkers more := by
  rw [pointerMarkers, List.replicate_add, List.flatten_append]
  rfl

theorem encodeTypes_cons (type : NativeType) (types : List NativeType) :
    encodeTypes (type :: types) = type.encode ++ encodeTypes types :=
  List.flatMap_cons

theorem encodeTypes_append (types later : List NativeType) :
    encodeTypes (types ++ later) = encodeTypes types ++ encodeTypes later :=
  List.flatMap_append

/-! ### Characters of an encoding -/

section Characters

variable {accepts : Char → Bool} (marker : pointerMarker.all accepts = true)
  (codes : ∀ primitive : Primitive, primitive.code.all accepts = true)

include marker

theorem all_pointerMarkers (count : Nat) : (pointerMarkers count).all accepts = true := by
  rw [pointerMarkers, List.all_flatten, List.all_eq_true]
  intro part copied
  rw [List.eq_of_mem_replicate copied]
  exact marker

include codes

theorem all_encodeTypes (types : List NativeType) : (encodeTypes types).all accepts = true := by
  rw [encodeTypes, List.all_flatMap, List.all_eq_true]
  intro type _
  rw [NativeType.encode, List.all_append, all_pointerMarkers marker, codes]
  rfl

end Characters

theorem size_pointerMarkers (count : Nat) :
    Text.Utf8.size (pointerMarkers count) = pointerMarker.length * count := by
  rw [Text.Utf8.size_eq_length (all_pointerMarkers (by decide) count), length_pointerMarkers]

theorem size_encodeTypes (types : List NativeType) :
    Text.Utf8.size (encodeTypes types) = (encodeTypes types).length := by
  refine Text.Utf8.size_eq_length (all_encodeTypes (by decide) (fun primitive => ?_) types)
  cases primitive <;> decide

/-! ### Pointer markers -/

theorem stripMarkers_spec (text : List Char) :
    text = pointerMarkers (stripMarkers text).1 ++ (stripMarkers text).2 ∧
      ¬ pointerMarker <+: (stripMarkers text).2 := by
  fun_induction stripMarkers text with
  | case1 rest ih =>
      obtain ⟨whole, unmarked⟩ := ih
      refine ⟨?_, unmarked⟩
      rw [pointerMarkers_succ, List.append_assoc, ← whole]
      rfl
  | case2 text other =>
      refine ⟨rfl, ?_⟩
      rintro ⟨rest, same⟩
      exact other rest same.symm

theorem stripMarkers_append (count : Nat) {text : List Char}
    (unmarked : ¬ pointerMarker <+: text) :
    stripMarkers (pointerMarkers count ++ text) = (count, text) := by
  induction count with
  | zero =>
      rw [pointerMarkers_zero, List.nil_append]
      unfold stripMarkers
      split
      · exact absurd ⟨_, rfl⟩ unmarked
      · rfl
  | succ count ih =>
      rw [pointerMarkers_succ, List.append_assoc]
      simp only [pointerMarker, List.cons_append, List.nil_append, stripMarkers, ih]

/-! ### One type -/

theorem readType_encode_append (type : NativeType) (rest : List Char) :
    readType (type.encode ++ rest) = .type type rest := by
  have stripped :
      stripMarkers (type.encode ++ rest) = (type.depth, type.primitive.code ++ rest) := by
    rw [NativeType.encode, List.append_assoc]
    exact stripMarkers_append _ (type.primitive.not_pointerMarker_prefix_code rest)
  have found : Primitive.longestCode? (type.primitive.code ++ rest) =
      some (type.primitive.code, type.primitive) :=
    Primitive.longestCode?_eq_some_iff.mpr ⟨rfl, List.prefix_append _ _⟩
  simp only [readType, stripped, found, List.drop_left]

theorem readType_eq_type_iff {text rest : List Char} {type : NativeType} :
    readType text = .type type rest ↔ text = type.encode ++ rest := by
  constructor
  · intro read
    obtain ⟨whole, _⟩ := stripMarkers_spec text
    unfold readType at read
    split at read
    · rename_i code primitive found
      obtain ⟨rfl, after, starts⟩ := Primitive.longestCode?_eq_some_iff.mp found
      injection read with sameType sameRest
      subst sameType sameRest
      rw [NativeType.encode, List.append_assoc, ← starts, List.drop_left, starts]
      exact whole
    · contradiction
  · rintro rfl
    exact readType_encode_append type rest

theorem readType_eq_unrecognized_iff {text code : List Char} {depth : Nat} :
    readType text = .unrecognized depth code ↔
      text = pointerMarkers depth ++ code ∧ ¬ pointerMarker <+: code ∧
        ∀ primitive : Primitive, ¬ primitive.code <+: code := by
  constructor
  · intro read
    obtain ⟨whole, unmarked⟩ := stripMarkers_spec text
    unfold readType at read
    split at read
    · contradiction
    · rename_i missing
      injection read with sameDepth sameCode
      subst sameDepth sameCode
      exact ⟨whole, unmarked, Primitive.longestCode?_eq_none_iff.mp missing⟩
  · rintro ⟨rfl, unmarked, absent⟩
    have missing := Primitive.longestCode?_eq_none_iff.mpr absent
    simp only [readType, stripMarkers_append depth unmarked, missing]

end NativeInterop.Signature
