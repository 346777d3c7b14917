import Mathlib.Data.List.Infix

namespace NativeInterop.Text

/-! Counting a word in a text from left to right, where no two occurrences share a character. -/

variable {first c : Char} {word others before text : List Char}

/-- The occurrences behind so many characters, which belong to one that is counted already. -/
def occurrencesBehind (word : List Char) : Nat → List Char → Nat
  | _, [] => 0
  | taken + 1, _ :: rest => occurrencesBehind word taken rest
  | 0, c :: rest =>
      if word.isPrefixOf (c :: rest) then occurrencesBehind word (word.length - 1) rest + 1
      else occurrencesBehind word 0 rest

def occurrences (word text : List Char) : Nat :=
  occurrencesBehind word 0 text

theorem occurrences_nil (word : List Char) : occurrences word [] = 0 := rfl

theorem occurrencesBehind_append (word before text : List Char) :
    occurrencesBehind word before.length (before ++ text) = occurrences word text := by
  induction before with
  | nil => rfl
  | cons c before ih => rw [List.length_cons, List.cons_append, occurrencesBehind, ih]

theorem occurrences_cons_of_match (starts : word <+: c :: text) :
    occurrences word (c :: text) = occurrencesBehind word (word.length - 1) text + 1 := by
  rw [occurrences, occurrencesBehind, if_pos (List.isPrefixOf_iff_prefix.mpr starts)]

theorem occurrences_cons_of_mismatch (differs : ¬ word <+: c :: text) :
    occurrences word (c :: text) = occurrences word text := by
  rw [occurrences, occurrencesBehind, if_neg (by rwa [List.isPrefixOf_iff_prefix])]
  rfl

theorem occurrences_append_self (first : Char) (others text : List Char) :
    occurrences (first :: others) (first :: others ++ text) =
      occurrences (first :: others) text + 1 := by
  have starts : first :: others <+: first :: (others ++ text) := List.prefix_append _ text
  rw [List.cons_append, occurrences_cons_of_match starts]
  exact congrArg (· + 1) (occurrencesBehind_append (first :: others) others text)

/-- No occurrence begins in a text that does not hold the first character of the word. -/
theorem occurrences_append_of_not_mem (absent : first ∉ before) (others text : List Char) :
    occurrences (first :: others) (before ++ text) = occurrences (first :: others) text := by
  induction before with
  | nil => rfl
  | cons c before ih =>
      obtain ⟨different, later⟩ := List.ne_and_not_mem_of_not_mem_cons absent
      have differs : ¬ first :: others <+: c :: (before ++ text) := fun starts =>
        different (List.cons_prefix_cons.mp starts).1
      rw [List.cons_append, occurrences_cons_of_mismatch differs, ih later]

theorem occurrences_pos_iff (nonempty : word ≠ []) : 0 < occurrences word text ↔ word <:+: text := by
  induction text with
  | nil => simp [occurrences_nil, nonempty]
  | cons c text ih =>
      rw [List.infix_cons_iff]
      by_cases starts : word <+: c :: text
      · simp [occurrences_cons_of_match starts, starts]
      · simp [occurrences_cons_of_mismatch starts, starts, ih]

end NativeInterop.Text
