import Mathlib
import NativeInterop.Log.Filter
import NativeInterop.Proofs.Identifier.Casing
import NativeInterop.Proofs.Text.Segments

namespace NativeInterop.Log

/-! Filters that are one level for everything. What such a filter lets through does not depend on
where an event comes from. -/

open Text

variable {level : Level} {text : List Char} {c : Char}

theorem Level.verbosity_le_trace (level : Level) : level.verbosity ≤ Level.trace.verbosity := by
  cases level <;> decide

theorem Level.isUpper_label (level : Level) : ∀ c ∈ level.label.toList, c.isUpper = true := by
  cases level <;> simp [Level.label]

namespace Filter

theorem admits_ofLevel (level : Level) (event : Event) :
    (ofLevel level).admits event = decide (event.level.verbosity ≤ level.verbosity) := by
  have concerned : (⟨none, [], some level⟩ : Directive).concerns event = true := rfl
  simp only [admits, ofLevel, List.find?_cons, concerned, Option.any_some, Directive.admits]

theorem select_ofLevel (level : Level) (events : List Event) :
    (ofLevel level).select events =
      events.filter fun event => event.level.verbosity ≤ level.verbosity := by
  rw [select]
  exact List.filter_congr fun event _ => admits_ofLevel level event

theorem select_ofLevel_trace (events : List Event) : (ofLevel .trace).select events = events := by
  rw [select_ofLevel, List.filter_eq_self]
  exact fun event _ => decide_eq_true event.level.verbosity_le_trace

end Filter

/-! ### Levels as texts -/

/-- A text of letters and digits that is the name of a level, in any case, or its number. -/
structure IsLevelText (text : List Char) (level : Level) : Prop where
  word : ∀ c ∈ text, c.isAlphanum = true
  level : Level.ofFilterText? text = some (some level)

theorem ne_nil_of_isLevelText (plain : IsLevelText text level) : text ≠ [] := by
  rintro rfl
  have unread : Level.ofFilterText? [] = none := by decide
  simpa [unread] using plain.level

theorem isLevelText_of_map_toUpper (named : text.map Char.toUpper = level.label.toList) :
    IsLevelText text level := by
  have capital : ∀ c ∈ text, c.toUpper.isUpper = true := fun c member =>
    level.isUpper_label _ (named ▸ List.mem_map_of_mem member)
  refine ⟨fun c member => ?_, ?_⟩
  · have letter := capital c member
    rw [Char.isUpper_toUpper_eq_isAlpha] at letter
    rw [Char.isAlphanum, letter, Bool.true_or]
  · cases text with
    | nil => cases level <;> simp [Level.label] at named
    | cons first rest =>
        have digit : first.isDigit = false := by
          rw [← Identifier.isDigit_toUpper]
          exact Identifier.isDigit_of_isUpper (capital first List.mem_cons_self)
        unfold Level.ofFilterText?
        split
        · rename_i same
          obtain ⟨rfl, _⟩ := List.cons.inj same
          exact absurd (capital '+' List.mem_cons_self) (by decide)
        · simp only [List.all_cons, digit, Bool.false_and, Bool.and_false, named,
            Bool.false_eq_true, if_false]
          cases level <;> decide

theorem Directive.read?_of_isLevelText (plain : IsLevelText text level) :
    read? text = some (some ⟨none, [], some level⟩) := by
  have trimmed : trim text = text :=
    trim_of_unblank fun c member => Identifier.isBlank_of_isAlphanum (plain.word c member)
  have named : ofName text = ⟨none, [], some level⟩ := by
    rw [ofName, plain.level]
  have unscoped : ∀ c ∈ text, (c != '=' && c != '[') = true := by
    intro c member
    have letter := plain.word c member
    rw [Bool.and_eq_true, bne_iff_ne, bne_iff_ne]
    constructor <;> rintro rfl <;> exact absurd letter (by decide)
  rw [read?, trimmed]
  cases text with
  | nil => exact absurd rfl (ne_nil_of_isLevelText plain)
  | cons c rest =>
      have letter := plain.word c List.mem_cons_self
      have whole : (c :: rest).takeWhile (fun c => c != '=' && c != '[') = c :: rest :=
        List.takeWhile_eq_self_iff.mpr unscoped
      have begins : beginsOrigin c = true := by simp [beginsOrigin, letter]
      split
      · contradiction
      · rename_i same
        obtain ⟨rfl, _⟩ := List.cons.inj same
        exact absurd letter (by decide)
      · rename_i same
        obtain ⟨rfl, _⟩ := List.cons.inj same
        simp only [whole, begins, List.drop_length, named]
        rfl

theorem Filter.ofText?_of_isLevelText (plain : IsLevelText text level) :
    ofText? text = some (ofLevel level) := by
  have whole : segments (· == ',') text = [text] := by
    refine segments_of_unseparated fun c member => ?_
    rw [beq_eq_false_iff_ne]
    rintro rfl
    exact absurd (plain.word ',' member) (by decide)
  have written : text.isEmpty = false :=
    List.isEmpty_eq_false_iff.mpr (ne_nil_of_isLevelText plain)
  simp only [ofText?, whole, List.filter_cons, written, List.filter_nil, Bool.not_false, if_true,
    List.mapM_cons, Directive.read?_of_isLevelText plain]
  rfl

end NativeInterop.Log
