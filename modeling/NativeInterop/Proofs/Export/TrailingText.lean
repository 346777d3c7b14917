import Mathlib
import NativeInterop.Proofs.Export.Decoding
import NativeInterop.Proofs.Export.Listing
import NativeInterop.Proofs.Text.LineEnds
import NativeInterop.Proofs.Text.Trimming

namespace NativeInterop

open Text Signature

/-! Text at the end of a line that is no part of a decorated name. It changes nothing that is read
of the line, so a report does not depend on how the lines of a listing are ended. -/

variable {line text after written : List Char}

namespace ExportLine

/-- The text goes on with no name and has no name of its own. -/
structure IsTrailing (after : List Char) : Prop where
  apart : ∀ c ∈ after.head?, isIdentifierPart c = false ∧ c ≠ '@'
  unmarked : '?' ∉ after
  unbroken : '\n' ∉ after

theorem IsTrailing.separated (trailing : IsTrailing after) : Separated after := by
  intro c head
  obtain ⟨outside, different⟩ := trailing.apart c head
  refine ⟨?_, different⟩
  simp only [isIdentifierPart, isRunChar, Char.isAlphanum, Char.isAlpha, Bool.or_eq_false_iff]
    at outside ⊢
  exact ⟨outside.1, outside.2.1.1⟩

/-- A word that could not go on into the text behind is found only before it. -/
theorem isPrefixOf_append {word : List Char} (apart : ∀ c ∈ after.head?, c ∉ word)
    (text : List Char) : word.isPrefixOf (text ++ after) = word.isPrefixOf text := by
  induction word generalizing text with
  | nil => cases text <;> cases after <;> rfl
  | cons w word ih =>
      have later : ∀ c ∈ after.head?, c ∉ word := fun c head member =>
        apart c head (List.mem_cons_of_mem w member)
      cases text with
      | cons c rest =>
          rw [List.cons_append, List.isPrefixOf_cons_cons, List.isPrefixOf_cons_cons, ih later]
      | nil =>
          cases after with
          | nil => rfl
          | cons c rest =>
              have different : (w == c) = false :=
                beq_eq_false_iff_ne.mpr fun same => apart c rfl (by simp [same])
              rw [List.nil_append, List.isPrefixOf_cons_cons, different]
              rfl

theorem IsTrailing.head_notMem (trailing : IsTrailing after) {word : List Char}
    (named : word.all fun c => isIdentifierPart c || c == '@') : ∀ c ∈ after.head?, c ∉ word := by
  intro c head member
  obtain ⟨outside, different⟩ := trailing.apart c head
  have part := List.all_eq_true.mp named c member
  rw [outside, Bool.false_or, beq_iff_eq] at part
  exact different part

theorem typeRun?_append_trailing (trailing : IsTrailing after) (text : List Char) :
    typeRun? (text ++ after) = typeRun? text := by
  induction text with
  | nil => exact typeRun?_of_separated trailing.separated
  | cons c rest ih =>
      -- An end mark cannot begin in the run and end in the text behind.
      have ended : endsRun (c :: rest ++ after) = endsRun (c :: rest) := by
        rw [endsRun, endsRun, isPrefixOf_append (trailing.head_notMem (by decide)),
          isPrefixOf_append (trailing.head_notMem (by decide))]
      rw [typeRun?_cons, ← ended, ← ih, List.cons_append, typeRun?_cons]

theorem decoratedName?_append_trailing (trailing : IsTrailing after) (text : List Char) :
    decoratedName? (text ++ after) = decoratedName? text := by
  have stop : ∀ c ∈ after.head?, isIdentifierPart c = false := fun c head =>
    (trailing.apart c head).1
  have markAhead : ∀ c ∈ after.head?, c ∉ freeFunctionMark := trailing.head_notMem (by decide)
  have mark := isPrefixOf_append markAhead (text.dropWhile isIdentifierPart)
  simp only [decoratedName?, takeWhile_append_of_stop stop, dropWhile_append_of_stop stop, mark]
  by_cases marked : freeFunctionMark <+: text.dropWhile isIdentifierPart
  · obtain ⟨rest, cut⟩ := marked
    rw [← cut, List.append_assoc, List.drop_left, List.drop_left, typeRun?_append_trailing trailing]
  · rw [← List.isPrefixOf_iff_prefix, Bool.not_eq_true] at marked
    rw [marked, Bool.and_false]
    rfl

theorem findName?_of_unmarked (unmarked : '?' ∉ text) : findName? text = none := by
  have passed := findName?_append unmarked []
  rwa [List.append_nil] at passed

theorem findName?_append_trailing (trailing : IsTrailing after) (text : List Char) :
    findName? (text ++ after) = findName? text := by
  induction text with
  | nil => exact findName?_of_unmarked trailing.unmarked
  | cons c rest ih =>
      rw [List.cons_append, findName?_cons, findName?_cons, ih,
        decoratedName?_append_trailing trailing]

theorem fields?_of_missing
    (missing : findName? ((line.dropWhile (!isDecimalDigit ·)).dropWhile isDecimalDigit) = none) :
    fields? line = none := by
  rw [fields?, missing]
  rfl

/-- What comes after the first digits is the same but for the text at the end. If nothing came after
them, no name comes after those that the text at the end may have. -/
theorem fields?_append_trailing (trailing : IsTrailing after) (line : List Char) :
    fields? (line ++ after) = fields? line := by
  have nameless (row : List Char) (ending : row <:+ after) : findName? row = none :=
    findName?_of_unmarked fun member => trailing.unmarked (ending.subset member)
  by_cases unnumbered : line.dropWhile (!isDecimalDigit ·) = []
  · have moved : (line ++ after).dropWhile (!isDecimalDigit ·) =
        after.dropWhile (!isDecimalDigit ·) :=
      List.dropWhile_append_of_pos (List.dropWhile_eq_nil_iff.mp unnumbered)
    have missing := nameless ((after.dropWhile (!isDecimalDigit ·)).dropWhile isDecimalDigit)
      ((List.dropWhile_suffix _).trans (List.dropWhile_suffix _))
    rw [fields?_of_missing (by rw [moved, missing]), fields?_of_missing (by rw [unnumbered]; rfl)]
  · have numbered := dropWhile_append_of_ne_nil unnumbered after
    by_cases ended : (line.dropWhile (!isDecimalDigit ·)).dropWhile isDecimalDigit = []
    · have moved : (line.dropWhile (!isDecimalDigit ·) ++ after).dropWhile isDecimalDigit =
          after.dropWhile isDecimalDigit :=
        List.dropWhile_append_of_pos (List.dropWhile_eq_nil_iff.mp ended)
      have missing := nameless (after.dropWhile isDecimalDigit) (List.dropWhile_suffix _)
      rw [fields?_of_missing (by rw [numbered, moved, missing]),
        fields?_of_missing (by rw [ended]; rfl)]
    · have filled : (line.dropWhile (!isDecimalDigit ·) ++ after).isEmpty = false := by
        simp [unnumbered]
      have unfilled : (line.dropWhile (!isDecimalDigit ·)).isEmpty = false := by
        simp [unnumbered]
      simp only [fields?, numbered, dropWhile_append_of_ne_nil ended,
        takeWhile_append_of_ne_nil ended, findName?_append_trailing trailing, filled, unfilled]

theorem parse?_append_trailing (trailing : IsTrailing after) (unbroken : '\n' ∉ line) :
    parse? (line ++ after) = parse? line := by
  have whole : '\n' ∉ line ++ after := by
    rw [List.mem_append, not_or]
    exact ⟨unbroken, trailing.unbroken⟩
  rw [parse?_of_unbroken whole, parse?_of_unbroken unbroken, fields?_append_trailing trailing]

end ExportLine

open ExportLine

theorem decodeLine_append_trailing (trailing : IsTrailing after) (unbroken : '\n' ∉ line) :
    decodeLine (line ++ after) = decodeLine line := by
  rw [decodeLine, decodeLine, parse?_append_trailing trailing unbroken]

/-! ### Line ends -/

theorem isTrailing_of_returns (returns : ∀ c ∈ after, c = '\r') : IsTrailing after where
  apart := by
    intro c head
    obtain rfl := returns c (List.mem_of_mem_head? head)
    decide
  unmarked := fun member => absurd (returns _ member) (by decide)
  unbroken := fun member => absurd (returns _ member) (by decide)

theorem isBlankText_of_returns (returns : ∀ c ∈ after, c = '\r') : isBlankText after = true := by
  refine List.all_eq_true.mpr fun c member => ?_
  rw [returns c member]
  rfl

theorem ofLine_withoutReturns (number : Nat) (unbroken : '\n' ∉ line) :
    LineOutcome.ofLine number (withoutReturns line) = LineOutcome.ofLine number line := by
  obtain ⟨returns, whole, only⟩ := exists_append_withoutReturns line
  have bare : '\n' ∉ withoutReturns line := fun member =>
    unbroken (whole ▸ List.mem_append_left returns member)
  have decoded := decodeLine_append_trailing (isTrailing_of_returns only) bare
  have told := trim_append_of_isBlankText (isBlankText_of_returns only) (withoutReturns line)
  rw [← whole] at decoded told
  rw [LineOutcome.ofLine, LineOutcome.ofLine, decoded, told]

theorem lineOutcomes_withoutReturns {rows : List (List Char)} (number : Nat)
    (unbroken : ∀ row ∈ rows, '\n' ∉ row) :
    lineOutcomes number (rows.map withoutReturns) = lineOutcomes number rows := by
  induction rows generalizing number with
  | nil => rfl
  | cons row rows ih =>
      obtain ⟨first, others⟩ := List.forall_mem_cons.mp unbroken
      rw [List.map_cons, lineOutcomes, lineOutcomes, ofLine_withoutReturns number first,
        ih (number + 1) others]

theorem lineOutcomes_bareLines (number : Nat) (text : List Char) :
    lineOutcomes number (bareLines text) = lineOutcomes number (lines text) :=
  lineOutcomes_withoutReturns number fun _ => feed_notMem_of_mem_lines

theorem decodeListing_of_returnsAdded (added : ReturnsAdded text written) :
    decodeListing written = decodeListing text := by
  simp only [decodeListing, ← lineOutcomes_bareLines, added.bareLines_eq]

theorem decodeListing_append_feed (text : List Char) :
    decodeListing (text ++ ['\n']) = decodeListing text := by
  have empty : decodeLine [] = .ok none := rfl
  rcases bareLines_append_feed text with same | more
  · simp only [decodeListing, ← lineOutcomes_bareLines, same]
  · simp only [decodeListing, ← lineOutcomes_bareLines, more, lineOutcomes_append,
      List.filterMap_append, lineOutcomes, LineOutcome.ofLine, empty]
    simp [LineOutcome.export?, LineOutcome.rejected?]

end NativeInterop
