import Mathlib
import NativeInterop.Proofs.Text.Lines

namespace NativeInterop.Text

/-! Two ways to end a line. Lines are the same, up to carriage returns at their ends, whether or not
a carriage return stands before each line feed. -/

variable {text written line : List Char} {c : Char}

/-- The same text with a carriage return before some of its line feeds. -/
inductive ReturnsAdded : List Char → List Char → Prop
  | nil : ReturnsAdded [] []
  | keep {text written : List Char} (c : Char) (rest : ReturnsAdded text written) :
      ReturnsAdded (c :: text) (c :: written)
  | add {text written : List Char} (rest : ReturnsAdded text written) :
      ReturnsAdded ('\n' :: text) ('\r' :: '\n' :: written)

theorem ReturnsAdded.refl (text : List Char) : ReturnsAdded text text := by
  induction text with
  | nil => exact .nil
  | cons c rest ih => exact .keep c ih

theorem returnsAdded_everywhere (text : List Char) :
    ReturnsAdded text (text.flatMap fun c => if c = '\n' then ['\r', '\n'] else [c]) := by
  induction text with
  | nil => exact .nil
  | cons c rest ih =>
      rw [List.flatMap_cons]
      split
      · rename_i feed
        subst feed
        exact .add ih
      · exact .keep c ih

/-! ### Carriage returns at the end of a line -/

def withoutReturns (line : List Char) : List Char :=
  line.rdropWhile (· == '\r')

theorem exists_append_withoutReturns (line : List Char) :
    ∃ returns, line = withoutReturns line ++ returns ∧ ∀ c ∈ returns, c = '\r' := by
  refine ⟨line.rtakeWhile (· == '\r'), List.rdropWhile_append_rtakeWhile.symm, fun c member => ?_⟩
  simpa using List.mem_rtakeWhile_imp member

theorem withoutReturns_cons_withoutReturns (c : Char) (line : List Char) :
    withoutReturns (c :: withoutReturns line) = withoutReturns (c :: line) := by
  simp only [withoutReturns, List.rdropWhile, List.reverse_cons, List.reverse_reverse,
    List.dropWhile_append, List.dropWhile_idempotent]

def bareLines (text : List Char) : List (List Char) :=
  (lines text).map withoutReturns

theorem bareLines_feed (text : List Char) : bareLines ('\n' :: text) = [] :: bareLines text := by
  rw [bareLines, lines, List.map_cons]
  rfl

theorem bareLines_return_feed (text : List Char) :
    bareLines ('\r' :: '\n' :: text) = [] :: bareLines text := by
  rw [bareLines, lines, List.map_cons]
  rfl

/-- A character that ends no line begins one, also a carriage return that is dropped. -/
theorem bareLines_cons (joins : c ≠ '\n') (text : List Char) :
    bareLines (c :: text) =
      withoutReturns (c :: (bareLines text).headD []) :: (bareLines text).tail := by
  by_cases apart : c = '\r' → text.head? ≠ some '\n'
  · rw [bareLines, lines_cons joins apart, bareLines]
    cases lines text with
    | nil => rfl
    | cons first others =>
        rw [List.map_cons, List.map_cons, List.headD_cons, List.headD_cons,
          withoutReturns_cons_withoutReturns]
        rfl
  · -- The return is dropped with the feed, and would be dropped from an empty line.
    push Not at apart
    obtain ⟨rfl, head⟩ := apart
    obtain ⟨rest, rfl⟩ := List.head?_eq_some_iff.mp head
    rw [bareLines_return_feed, bareLines_feed]
    rfl

theorem ReturnsAdded.bareLines_eq (added : ReturnsAdded text written) :
    bareLines written = bareLines text := by
  induction added with
  | nil => rfl
  | @keep text written c _ ih =>
      by_cases feed : c = '\n'
      · rw [feed, bareLines_feed, bareLines_feed, ih]
      · rw [bareLines_cons feed, bareLines_cons feed, ih]
  | add _ ih => rw [bareLines_return_feed, bareLines_feed, ih]

/-- A line feed at the end ends the last line, or an empty one after it. -/
theorem bareLines_append_feed (text : List Char) :
    bareLines (text ++ ['\n']) = bareLines text ∨
      bareLines (text ++ ['\n']) = bareLines text ++ [[]] := by
  induction text with
  | nil => exact .inr rfl
  | cons c rest ih =>
      rw [List.cons_append]
      by_cases feed : c = '\n'
      · rw [feed, bareLines_feed, bareLines_feed, List.cons_append]
        exact ih.imp (congrArg ([] :: ·)) (congrArg ([] :: ·))
      · rw [bareLines_cons feed, bareLines_cons feed]
        rcases ih with same | more
        · exact .inl (by rw [same])
        · rw [more]
          cases bareLines rest with
          | nil => exact .inl rfl
          | cons first others => exact .inr rfl

end NativeInterop.Text
