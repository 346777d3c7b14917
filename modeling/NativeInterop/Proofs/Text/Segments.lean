import Mathlib.Data.List.Infix
import NativeInterop.Text.Basic

namespace NativeInterop.Text

/-! Segments hold no separator, and each is a part of the text. -/

variable {isSeparator : Char → Bool} {text before segment : List Char}

theorem segments_cons_of_separator {c : Char} (separates : isSeparator c = true)
    (rest : List Char) : segments isSeparator (c :: rest) = [] :: segments isSeparator rest := by
  simp [segments, separates]

theorem segments_cons_of_not_separator {c : Char} (joins : isSeparator c = false)
    {rest first : List Char} {others : List (List Char)}
    (cut : segments isSeparator rest = first :: others) :
    segments isSeparator (c :: rest) = (c :: first) :: others := by
  simp [segments, joins, cut]

theorem segments_append {first : List Char} {others : List (List Char)}
    (unseparated : ∀ c ∈ before, isSeparator c = false)
    (cut : segments isSeparator text = first :: others) :
    segments isSeparator (before ++ text) = (before ++ first) :: others := by
  induction before with
  | nil => exact cut
  | cons c before ih =>
      rw [List.forall_mem_cons] at unseparated
      exact segments_cons_of_not_separator unseparated.1 (ih unseparated.2)

theorem segments_of_unseparated (unseparated : ∀ c ∈ text, isSeparator c = false) :
    segments isSeparator text = [text] := by
  simpa using segments_append unseparated (rfl : segments isSeparator [] = [[]])

/-- Text on either side of a separator is cut for itself. -/
theorem segments_append_separator {c : Char} (separates : isSeparator c = true)
    (before text : List Char) :
    segments isSeparator (before ++ c :: text) =
      segments isSeparator before ++ segments isSeparator text := by
  induction before with
  | nil => exact segments_cons_of_separator separates text
  | cons d before ih =>
      rw [List.cons_append]
      cases joins : isSeparator d with
      | true =>
          rw [segments_cons_of_separator joins, segments_cons_of_separator joins, ih,
            List.cons_append]
      | false =>
          obtain ⟨first, others, cut⟩ :=
            List.exists_cons_of_ne_nil (segments_ne_nil isSeparator before)
          rw [cut, List.cons_append] at ih
          rw [segments_cons_of_not_separator joins ih, segments_cons_of_not_separator joins cut,
            List.cons_append]

/-- The first segment begins the text, and a separator precedes any other. Each goes up to a
separator or the end of the text. -/
theorem segments_parts {first : List Char} {others : List (List Char)}
    (cut : segments isSeparator text = first :: others) :
    (∃ after, text = first ++ after ∧ ∀ c ∈ after.head?, isSeparator c = true) ∧
      ∀ other ∈ others, ∃ before after, text = before ++ other ++ after ∧
        (∃ c ∈ before.getLast?, isSeparator c = true) ∧
        ∀ c ∈ after.head?, isSeparator c = true := by
  induction text generalizing first others with
  | nil =>
      cases cut
      simp
  | cons c rest ih =>
      obtain ⟨next, later, cutRest⟩ := List.exists_cons_of_ne_nil (segments_ne_nil isSeparator rest)
      obtain ⟨⟨after, whole, stops⟩, parts⟩ := ih cutRest
      have moved : ∀ other ∈ later, ∃ before after, c :: rest = before ++ other ++ after ∧
          (∃ c ∈ before.getLast?, isSeparator c = true) ∧
          ∀ c ∈ after.head?, isSeparator c = true := by
        intro other member
        obtain ⟨before, after, whole, ⟨d, last, separates⟩, stops⟩ := parts other member
        refine ⟨c :: before, after, by rw [whole]; rfl, ⟨d, ?_, separates⟩, stops⟩
        exact List.mem_getLast?_cons last
      cases separates : isSeparator c with
      | true =>
          rw [segments_cons_of_separator separates, cutRest] at cut
          cases cut
          refine ⟨⟨c :: rest, rfl, by simpa using separates⟩, fun other member => ?_⟩
          rcases List.mem_cons.mp member with rfl | member
          · exact ⟨[c], after, by rw [whole]; rfl, ⟨c, rfl, separates⟩, stops⟩
          · exact moved other member
      | false =>
          rw [segments_cons_of_not_separator separates cutRest] at cut
          cases cut
          exact ⟨⟨after, by rw [whole]; rfl, stops⟩, moved⟩

/-- A segment stands between separators or the ends of the text. -/
theorem surroundings_of_mem_segments (member : segment ∈ segments isSeparator text) :
    ∃ before after, text = before ++ segment ++ after ∧
      (∀ c ∈ before.getLast?, isSeparator c = true) ∧
      ∀ c ∈ after.head?, isSeparator c = true := by
  obtain ⟨first, others, cut⟩ := List.exists_cons_of_ne_nil (segments_ne_nil isSeparator text)
  obtain ⟨⟨after, whole, stops⟩, parts⟩ := segments_parts cut
  rw [cut] at member
  rcases List.mem_cons.mp member with rfl | member
  · exact ⟨[], after, whole, by simp, stops⟩
  · obtain ⟨before, after, whole, ⟨c, last, separates⟩, stops⟩ := parts segment member
    refine ⟨before, after, whole, fun d last' => ?_, stops⟩
    obtain rfl : c = d := Option.some.inj (last.symm.trans last')
    exact separates

theorem unseparated_of_mem_segments (member : segment ∈ segments isSeparator text) :
    ∀ c ∈ segment, isSeparator c = false := by
  induction text generalizing segment with
  | nil =>
      rw [segments, List.mem_singleton] at member
      simp [member]
  | cons c rest ih =>
      cases separates : isSeparator c with
      | true =>
          rw [segments_cons_of_separator separates] at member
          rcases List.mem_cons.mp member with rfl | member
          · simp
          · exact ih member
      | false =>
          obtain ⟨first, others, cut⟩ :=
            List.exists_cons_of_ne_nil (segments_ne_nil isSeparator rest)
          rw [segments_cons_of_not_separator separates cut] at member
          rcases List.mem_cons.mp member with rfl | member
          · exact List.forall_mem_cons.mpr ⟨separates, ih (by simp [cut])⟩
          · exact ih (by simp [cut, member])

/-- Cutting loses the separators and nothing else. -/
theorem flatten_segments (isSeparator : Char → Bool) (text : List Char) :
    (segments isSeparator text).flatten = text.filter (!isSeparator ·) := by
  induction text with
  | nil => rfl
  | cons c rest ih =>
      cases separates : isSeparator c with
      | true =>
          rw [segments_cons_of_separator separates, List.flatten_cons, List.nil_append, ih,
            List.filter_cons_of_neg (by simp [separates])]
      | false =>
          obtain ⟨first, others, cut⟩ :=
            List.exists_cons_of_ne_nil (segments_ne_nil isSeparator rest)
          rw [cut, List.flatten_cons] at ih
          rw [segments_cons_of_not_separator separates cut, List.flatten_cons, List.cons_append, ih,
            List.filter_cons_of_pos (by simp [separates])]

/-- Joined segments are found again, each but the first behind what joins them. -/
theorem segments_intercalate {c : Char} (separates : isSeparator c = true) {gap : List Char}
    (unbroken : ∀ d ∈ gap, isSeparator d = false) {first : List Char} {others : List (List Char)}
    (unseparated : ∀ part ∈ first :: others, ∀ d ∈ part, isSeparator d = false) :
    segments isSeparator (List.intercalate (c :: gap) (first :: others)) =
      first :: others.map (gap ++ ·) := by
  induction others generalizing first with
  | nil => simpa using segments_of_unseparated (unseparated first List.mem_cons_self)
  | cons second others ih =>
      rw [List.forall_mem_cons] at unseparated
      rw [List.intercalate_cons_cons, List.append_assoc, List.cons_append,
        segments_append_separator separates, segments_of_unseparated unseparated.1,
        segments_append unbroken (ih unseparated.2)]
      rfl

end NativeInterop.Text
