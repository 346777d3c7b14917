import Mathlib.Data.List.Basic
import Mathlib.Data.List.TakeWhile
import NativeInterop.Text.Basic

namespace NativeInterop.Text

/-! Trimming takes the blanks off both ends of a text and nothing else. -/

variable {text inner : List Char} {c : Char}

/-- No blank stands at either end. -/
structure IsUnpadded (text : List Char) : Prop where
  begins : ∀ c ∈ text.head?, isBlank c = false
  ends : ∀ c ∈ text.getLast?, isBlank c = false

/-- The text inside the blanks at both ends of another one. -/
structure IsTrimmed (text inner : List Char) : Prop where
  inside : ∃ before after, text = before ++ inner ++ after ∧
    isBlankText before = true ∧ isBlankText after = true
  unpadded : IsUnpadded inner

theorem isBlankText_append (before after : List Char) :
    isBlankText (before ++ after) = (isBlankText before && isBlankText after) :=
  List.all_append

theorem isBlankText_reverse (text : List Char) : isBlankText text.reverse = isBlankText text :=
  List.all_reverse

theorem isBlankText_takeWhile (text : List Char) : isBlankText (text.takeWhile isBlank) = true :=
  List.all_takeWhile

theorem head?_dropWhile_isBlank (text : List Char) :
    ∀ c ∈ (text.dropWhile isBlank).head?, isBlank c = false := by
  intro c first
  have stopped := List.head?_dropWhile_not isBlank text
  rw [Option.mem_def.mp first] at stopped
  exact stopped

/-- The blanks at the end are those at the beginning of the reversed text. -/
theorem exists_append_trim (text : List Char) :
    ∃ after, text.dropWhile isBlank = trim text ++ after ∧ isBlankText after = true := by
  let backward := (text.dropWhile isBlank).reverse
  refine ⟨(backward.takeWhile isBlank).reverse, ?_, ?_⟩
  · rw [trim, ← List.reverse_append, List.takeWhile_append_dropWhile, List.reverse_reverse]
  · rw [isBlankText_reverse]
    exact isBlankText_takeWhile backward

theorem isTrimmed_trim (text : List Char) : IsTrimmed text (trim text) := by
  obtain ⟨after, kept, blank⟩ := exists_append_trim text
  refine ⟨⟨text.takeWhile isBlank, after, ?_, isBlankText_takeWhile text, blank⟩, ?_, ?_⟩
  · rw [List.append_assoc, ← kept, List.takeWhile_append_dropWhile]
  · intro c first
    refine head?_dropWhile_isBlank text c ?_
    rw [kept]
    exact List.mem_head?_append_of_mem_head? first
  · intro c last
    refine head?_dropWhile_isBlank (text.dropWhile isBlank).reverse c ?_
    rwa [trim, List.getLast?_reverse] at last

theorem IsTrimmed.isBlankText_eq (trimmed : IsTrimmed text inner) :
    isBlankText text = isBlankText inner := by
  obtain ⟨before, after, rfl, blankBefore, blankAfter⟩ := trimmed.inside
  rw [isBlankText_append, isBlankText_append, blankBefore, blankAfter]
  simp

theorem IsTrimmed.mem (trimmed : IsTrimmed text inner) (member : c ∈ inner) : c ∈ text := by
  obtain ⟨before, after, rfl, _, _⟩ := trimmed.inside
  simp [member]

theorem IsUnpadded.eq_nil_iff (unpadded : IsUnpadded text) :
    text = [] ↔ isBlankText text = true := by
  constructor
  · rintro rfl
    rfl
  · intro blank
    cases text with
    | nil => rfl
    | cons c rest =>
        have visible := unpadded.begins c rfl
        have invisible := List.all_eq_true.mp blank c List.mem_cons_self
        rw [visible] at invisible
        contradiction

theorem trim_eq_nil_iff : trim text = [] ↔ isBlankText text = true := by
  have trimmed := isTrimmed_trim text
  rw [trimmed.unpadded.eq_nil_iff, trimmed.isBlankText_eq]

theorem trim_append_of_isBlankText (blank : isBlankText text = true) (line : List Char) :
    trim (line ++ text) = trim line := by
  by_cases empty : line.dropWhile isBlank = []
  · have nothing : isBlankText line = true :=
      List.all_eq_true.mpr (List.dropWhile_eq_nil_iff.mp empty)
    have whole : isBlankText (line ++ text) = true := by
      rw [isBlankText_append, nothing, blank]
      rfl
    rw [trim_eq_nil_iff.mpr whole, trim_eq_nil_iff.mpr nothing]
  · have kept : (line ++ text).dropWhile isBlank = line.dropWhile isBlank ++ text := by
      rw [List.dropWhile_append, if_neg (by simpa using empty)]
    have backward : ∀ c ∈ text.reverse, isBlank c = true := by
      rw [← isBlankText_reverse] at blank
      exact List.all_eq_true.mp blank
    rw [trim, trim, kept, List.reverse_append, List.dropWhile_append_of_pos backward]

end NativeInterop.Text
