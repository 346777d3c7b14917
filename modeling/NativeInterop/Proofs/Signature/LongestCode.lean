import Mathlib
import NativeInterop.Signature.NativeType
import NativeInterop.Text.Utf8

namespace NativeInterop.Signature

open Text

/-! The longest code that a text begins with, in tables where codes may begin other codes. Wherever
no code stands before a longer one that it begins, the first to match is the longest, so the order
in which a table is written never matters. -/

namespace CodeTable

variable {α : Type} {table sorted : CodeTable α} {text : List Char} {entry : List Char × α}

/-- No code is listed twice. -/
def Distinct (table : CodeTable α) : Prop :=
  (table.map (·.1)).Nodup

/-- The code of the entry begins the text, and no longer code of the table does. -/
structure IsLongest (table : CodeTable α) (text : List Char) (entry : List Char × α) : Prop where
  listed : entry ∈ table
  begins : entry.1 <+: text
  longest : ∀ other ∈ table, other.1 <+: text → other.1.length ≤ entry.1.length

/-- A code that begins a later one is no shorter than it. -/
def LongerFirst (table : CodeTable α) : Prop :=
  table.Pairwise fun earlier later => earlier.1 <+: later.1 → later.1.length ≤ earlier.1.length

/-! ### The longest code -/

theorem Distinct.of_perm (distinct : table.Distinct) (same : sorted.Perm table) :
    sorted.Distinct :=
  (same.map Prod.fst).nodup_iff.mpr distinct

theorem IsLongest.of_perm (found : IsLongest table text entry) (same : sorted.Perm table) :
    IsLongest sorted text entry where
  listed := same.mem_iff.mpr found.listed
  begins := found.begins
  longest other listed := found.longest other (same.mem_iff.mp listed)

/-- A text has one beginning of each length, so two longest codes are the same. -/
theorem IsLongest.unique {other : List Char × α} (distinct : table.Distinct)
    (found : IsLongest table text entry) (again : IsLongest table text other) : entry = other := by
  have bound := again.longest entry found.listed found.begins
  have bound' := found.longest other again.listed again.begins
  have begins : entry.1 <+: other.1 :=
    List.prefix_of_prefix_length_le found.begins again.begins bound
  have sameCode : entry.1 = other.1 := begins.eq_of_length_le bound'
  exact List.inj_on_of_nodup_map distinct found.listed again.listed sameCode

/-! ### The first code that matches -/

theorem firstPrefix?_eq_none_iff :
    table.firstPrefix? text = none ↔ ∀ entry ∈ table, ¬ entry.1 <+: text := by
  simp only [firstPrefix?, List.find?_eq_none, List.isPrefixOf_iff_prefix]

theorem LongerFirst.isLongest (ordered : table.LongerFirst)
    (found : table.firstPrefix? text = some entry) : IsLongest table text entry := by
  obtain ⟨matched, earlier, later, rfl, missed⟩ := List.find?_eq_some_iff_append.mp found
  have begins : entry.1 <+: text := List.isPrefixOf_iff_prefix.mp matched
  refine ⟨by simp, begins, fun other listed starts => ?_⟩
  rcases List.mem_append.mp listed with before | listed
  · -- The entries before the first match do not match.
    have unmatched := missed other before
    rw [List.isPrefixOf_iff_prefix.mpr starts] at unmatched
    contradiction
  · rcases List.mem_cons.mp listed with rfl | after
    · exact Nat.le_refl _
    · have first := (List.pairwise_append.mp ordered).2.1
      have noLonger := List.rel_of_pairwise_cons first after
      rcases List.prefix_or_prefix_of_prefix begins starts with inside | inside
      · exact noLonger inside
      · exact inside.length_le

theorem LongerFirst.firstPrefix?_eq_some_iff (ordered : table.LongerFirst)
    (distinct : table.Distinct) :
    table.firstPrefix? text = some entry ↔ IsLongest table text entry := by
  refine ⟨ordered.isLongest, fun longest => ?_⟩
  cases found : table.firstPrefix? text with
  | none => exact absurd longest.begins (firstPrefix?_eq_none_iff.mp found entry longest.listed)
  | some first => rw [(ordered.isLongest found).unique distinct longest]

theorem LongerFirst.firstPrefix?_eq (ordered : sorted.LongerFirst) (orderly : table.LongerFirst)
    (distinct : table.Distinct) (same : sorted.Perm table) (text : List Char) :
    sorted.firstPrefix? text = table.firstPrefix? text := by
  ext entry
  rw [ordered.firstPrefix?_eq_some_iff (distinct.of_perm same),
    orderly.firstPrefix?_eq_some_iff distinct]
  exact ⟨fun longest => longest.of_perm same.symm, fun longest => longest.of_perm same⟩

/-! ### Sorting -/

/-- Sorting by a size that grows with each character puts longer codes first. -/
theorem longerFirst_mergeSort {size : List Char → Nat}
    (grows : ∀ code after, after ≠ [] → size code < size (code ++ after)) (table : CodeTable α) :
    LongerFirst (table.mergeSort fun earlier later => size later.1 ≤ size earlier.1) := by
  refine (List.pairwise_mergeSort ?_ ?_ table).imp fun {earlier later} ordered starts => ?_
  · intro first second third one two
    simp only [decide_eq_true_eq] at one two ⊢
    exact Nat.le_trans two one
  · intro first second
    simpa using Nat.le_total (size second.1) (size first.1)
  · obtain ⟨after, whole⟩ := starts
    have smaller : size later.1 ≤ size earlier.1 := by simpa using ordered
    by_cases more : after = []
    · simp [← whole, more]
    · have larger := grows earlier.1 after more
      rw [whole] at larger
      omega

theorem longerFirst_byLength (table : CodeTable α) : table.byLength.LongerFirst := by
  refine longerFirst_mergeSort (fun code after more => ?_) table
  have positive := List.length_pos_iff.mpr more
  rw [List.length_append]
  omega

theorem longerFirst_bySize (table : CodeTable α) :
    LongerFirst (table.mergeSort fun earlier later =>
      Utf8.size later.1 ≤ Utf8.size earlier.1) := by
  refine longerFirst_mergeSort (fun code after more => ?_) table
  have positive := List.length_pos_iff.mpr more
  have bytes := Utf8.length_le_size after
  rw [Utf8.size_append]
  omega

theorem byLength_perm (table : CodeTable α) : table.byLength.Perm table :=
  List.mergeSort_perm ..

theorem longest?_eq_some_iff (distinct : table.Distinct) :
    table.longest? text = some entry ↔ IsLongest table text entry := by
  have same := table.byLength_perm
  rw [longest?, (longerFirst_byLength table).firstPrefix?_eq_some_iff (distinct.of_perm same)]
  exact ⟨fun longest => longest.of_perm same.symm, fun longest => longest.of_perm same⟩

theorem longest?_eq_none_iff :
    table.longest? text = none ↔ ∀ entry ∈ table, ¬ entry.1 <+: text := by
  simp only [longest?, firstPrefix?_eq_none_iff, table.byLength_perm.mem_iff]

theorem longest?_eq_firstPrefix? (distinct : table.Distinct) (same : sorted.Perm table)
    (ordered : sorted.LongerFirst) (text : List Char) :
    table.longest? text = sorted.firstPrefix? text := by
  have reordered := table.byLength_perm.trans same.symm
  exact (longerFirst_byLength table).firstPrefix?_eq ordered (distinct.of_perm same) reordered text

theorem longest?_eq_of_perm (distinct : table.Distinct) (same : sorted.Perm table)
    (text : List Char) : sorted.longest? text = table.longest? text :=
  longest?_eq_firstPrefix? (distinct.of_perm same) (table.byLength_perm.trans same.symm)
    (longerFirst_byLength table) text

end CodeTable

namespace Primitive

theorem distinct_codeTable : codeTable.Distinct := by
  simp [CodeTable.Distinct, codeTable]

end Primitive

open CodeTable

/-- In every table of distinct codes the longest code that a text begins with is found, and none
only if no code begins the text. The result is the same for every order of the table, also when it
is sorted by the bytes of its codes. Codes of primitives are looked up in this way. -/
theorem longest?_finds_longest :
    (∀ {α : Type} (table : CodeTable α), table.Distinct → ∀ text,
      (∀ entry, table.longest? text = some entry ↔ IsLongest table text entry) ∧
      (table.longest? text = none ↔ ∀ entry ∈ table, ¬ entry.1 <+: text) ∧
      (∀ other : CodeTable α, other.Perm table → other.longest? text = table.longest? text) ∧
      table.longest? text = firstPrefix? (table.mergeSort fun earlier later =>
        Utf8.size later.1 ≤ Utf8.size earlier.1) text) ∧
    Primitive.codeTable.Distinct ∧
    ∀ text, Primitive.longestCode? text = Primitive.codeTable.longest? text := by
  refine ⟨fun table distinct text => ⟨fun entry => longest?_eq_some_iff distinct,
    longest?_eq_none_iff, fun other same => longest?_eq_of_perm distinct same text,
    longest?_eq_firstPrefix? distinct (List.mergeSort_perm ..) (longerFirst_bySize table) text⟩,
    Primitive.distinct_codeTable, Primitive.longestCode?_eq⟩

/-- A code of two characters is preferred to each of its beginnings, wherever it stands. -/
theorem longest?_finds_longest_overlapping :
    let table : CodeTable Primitive := [(['N'], .double), (['N', 'A'], .bool), (['A'], .char)]
    let other : CodeTable Primitive := [(['A'], .char), (['N', 'A'], .bool), (['N'], .double)]
    table.Distinct ∧ other.Perm table ∧
      table.longest? ['N', 'A', 'A'] = some (['N', 'A'], .bool) ∧
      other.longest? ['N', 'A', 'A'] = some (['N', 'A'], .bool) ∧
      other.longest? ['N', 'N', 'A'] = some (['N'], .double) ∧ table.longest? ['X', 'A'] = none := by
  intro table other
  have distinct : table.Distinct := by simp [CodeTable.Distinct, table]
  have same : other.Perm table := by decide
  obtain ⟨double, _, anyOrder, _⟩ := longest?_finds_longest.1 table distinct ['N', 'A', 'A']
  obtain ⟨single, _, anyOrder', _⟩ := longest?_finds_longest.1 table distinct ['N', 'N', 'A']
  obtain ⟨_, missing, _, _⟩ := longest?_finds_longest.1 table distinct ['X', 'A']
  have found : table.longest? ['N', 'A', 'A'] = some (['N', 'A'], .bool) :=
    (double _).mpr ⟨by decide, by decide, by decide⟩
  have foundShort : table.longest? ['N', 'N', 'A'] = some (['N'], .double) :=
    (single _).mpr ⟨by decide, by decide, by decide⟩
  exact ⟨distinct, same, found, (anyOrder other same).trans found,
    (anyOrder' other same).trans foundShort, missing.mpr (by decide)⟩

end NativeInterop.Signature
