import Mathlib
import NativeInterop.Proofs.Identifier.Passes
import NativeInterop.Text.Basic

namespace NativeInterop.Identifier

/-! What the casing passes keep: the letters up to their case, the first character, and, once there
is none, the absence of lower-case letters after digits. -/

variable {c : Char} {word text : List Char} {afterDigit afterCapital : Bool}

/-! ### Letters and digits -/

theorem isUpper_of_isDigit (digit : c.isDigit = true) : c.isUpper = false := by
  simp [Char.isUpper, Char.isDigit, UInt32.le_iff_toNat_le] at digit ⊢
  omega

theorem isLower_of_isDigit (digit : c.isDigit = true) : c.isLower = false := by
  simp [Char.isLower, Char.isDigit, UInt32.le_iff_toNat_le] at digit ⊢
  omega

theorem isDigit_of_isUpper (capital : c.isUpper = true) : c.isDigit = false := by
  cases digit : c.isDigit with
  | false => rfl
  | true => simp [isUpper_of_isDigit digit] at capital

theorem isDigit_of_isLower (small : c.isLower = true) : c.isDigit = false := by
  cases digit : c.isDigit with
  | false => rfl
  | true => simp [isLower_of_isDigit digit] at small

theorem isUpper_of_isLower (small : c.isLower = true) : c.isUpper = false := by
  simpa using Char.not_isUpper_of_isLower small

theorem isLower_of_isAlphanum (letter : c.isAlphanum = true) (capital : ¬ c.isUpper = true)
    (digit : ¬ c.isDigit = true) : c.isLower = true := by
  simpa [Char.isAlphanum, Char.isAlpha, capital, digit] using letter

theorem isBlank_of_isAlphanum (letter : c.isAlphanum = true) : Text.isBlank c = false := by
  have range : 48 ≤ c.toNat ∧ c.toNat ≤ 122 := by
    simp [Char.isAlphanum, Char.isAlpha, Char.isUpper, Char.isLower, Char.isDigit,
      UInt32.le_iff_toNat_le] at letter
    omega
  simp [Text.isBlank]
  omega

theorem isDigit_toLower (c : Char) : c.toLower.isDigit = c.isDigit := by
  by_cases capital : c.isUpper = true
  · have lowered : c.toLower.isLower = true := by
      rw [Char.isLower_toLower_eq_isAlpha, Char.isAlpha, capital, Bool.true_or]
    rw [isDigit_of_isUpper capital, isDigit_of_isLower lowered]
  · rw [Char.toLower_eq_of_not_isUpper capital]

theorem isDigit_toUpper (c : Char) : c.toUpper.isDigit = c.isDigit := by
  by_cases small : c.isLower = true
  · have raised : c.toUpper.isUpper = true := by
      rw [Char.isUpper_toUpper_eq_isAlpha, Char.isAlpha, small, Bool.or_true]
    rw [isDigit_of_isLower small, isDigit_of_isUpper raised]
  · rw [Char.toUpper_eq_of_not_isLower small]

theorem isAlphanum_toLower (c : Char) : c.toLower.isAlphanum = c.isAlphanum := by
  rw [Char.isAlphanum, Char.isAlphanum, isDigit_toLower, Char.isAlpha_toLower_eq_isAlpha]

/-! ### Letters up to their case -/

theorem map_toLower_capitalizeLeading (word : List Char) :
    (capitalizeLeading word).map Char.toLower = word.map Char.toLower := by
  cases word with
  | nil => rfl
  | cons c rest => simp [capitalizeLeading]

theorem map_toLower_lowerTail (word : List Char) :
    (lowerTail word).map Char.toLower = word.map Char.toLower := by
  induction word with
  | nil => rfl
  | cons c rest ih =>
      rw [lowerTail]
      split
      · simp
      · rw [List.map_cons, ih, List.map_cons]

theorem map_toLower_capitalizeAfterDigit (afterDigit : Bool) (word : List Char) :
    (capitalizeAfterDigit afterDigit word).map Char.toLower = word.map Char.toLower := by
  induction word generalizing afterDigit with
  | nil => rfl
  | cons c rest ih =>
      rw [capitalizeAfterDigit, List.map_cons, ih, List.map_cons]
      split
      · rw [Char.toLower_toUpper_eq_toLower]
      · rfl

theorem map_toLower_lowerInterior (afterCapital : Bool) (word : List Char) :
    (lowerInterior afterCapital word).map Char.toLower = word.map Char.toLower := by
  induction word generalizing afterCapital with
  | nil => rfl
  | cons c rest ih =>
      rw [lowerInterior, List.map_cons, ih, List.map_cons]
      split
      · rw [Char.toLower_toLower_eq_toLower]
      · rfl

theorem map_toLower_recase (word : List Char) :
    (recase word).map Char.toLower = word.map Char.toLower := by
  rw [recase_eq, map_toLower_lowerInterior, map_toLower_capitalizeAfterDigit,
    map_toLower_lowerTail]

/-- A text of ASCII letters and digits. -/
def IsWord (text : List Char) : Prop :=
  ∀ c ∈ text, c.isAlphanum = true

theorem isWord_of_map_toLower (same : text.map Char.toLower = word.map Char.toLower)
    (accepted : IsWord word) : IsWord text := by
  intro c member
  have lowered : c.toLower ∈ word.map Char.toLower := same ▸ List.mem_map_of_mem member
  obtain ⟨d, inside, sameLetter⟩ := List.mem_map.mp lowered
  rw [← isAlphanum_toLower, ← sameLetter, isAlphanum_toLower]
  exact accepted d inside

/-! ### The first character -/

theorem head?_lowerTail (word : List Char) : (lowerTail word).head? = word.head? := by
  cases word with
  | nil => rfl
  | cons c rest =>
      rw [lowerTail]
      split <;> rfl

theorem head?_recase (word : List Char) : (recase word).head? = word.head? := by
  rw [recase_eq, ← head?_lowerTail word]
  cases lowerTail word <;> rfl

/-! ### Letters after digits -/

/-- No lower-case letter comes after a digit; `afterDigit` tells of the character before the
text. -/
def Raised (afterDigit : Bool) : List Char → Prop
  | [] => True
  | c :: rest => (afterDigit = true → c.isLower = false) ∧ Raised c.isDigit rest

theorem raised_iff :
    Raised afterDigit text ↔
      (afterDigit = true → ∀ c ∈ text.head?, c.isLower = false) ∧ Raised false text := by
  cases text <;> simp [Raised]

theorem raised_of_raised_true (raised : Raised true text) : Raised afterDigit text := by
  obtain ⟨first, later⟩ := raised_iff.mp raised
  exact raised_iff.mpr ⟨fun _ => first rfl, later⟩

theorem raised_append (raised : Raised afterDigit word) (next : Raised true text) :
    Raised afterDigit (word ++ text) := by
  induction word generalizing afterDigit with
  | nil => exact raised_of_raised_true next
  | cons c rest ih => exact ⟨raised.1, ih raised.2⟩

theorem raised_capitalizeAfterDigit (afterDigit : Bool) (word : List Char) :
    Raised afterDigit (capitalizeAfterDigit afterDigit word) := by
  induction word generalizing afterDigit with
  | nil => trivial
  | cons c rest ih =>
      cases afterDigit with
      | false => exact ⟨by simp, ih c.isDigit⟩
      | true =>
          refine ⟨fun _ => Char.isLower_toUpper_eq_false c, ?_⟩
          rw [if_pos rfl, isDigit_toUpper]
          exact ih c.isDigit

/-- A letter that is lowered comes after a capital, so not after a digit. -/
theorem raised_lowerInterior (raised : Raised afterDigit word)
    (apart : afterCapital = true → afterDigit = false) :
    Raised afterDigit (lowerInterior afterCapital word) := by
  induction word generalizing afterDigit afterCapital with
  | nil => trivial
  | cons c rest ih =>
      have tail := ih raised.2 fun capital => isDigit_of_isUpper capital
      rw [lowerInterior]
      split
      · rename_i lowered
        have capital : afterCapital = true := by
          simp only [Bool.and_eq_true] at lowered
          exact lowered.1.1
        refine ⟨by simp [apart capital], ?_⟩
        rw [isDigit_toLower]
        exact tail
      · exact ⟨raised.1, tail⟩

theorem raised_recase (word : List Char) : Raised false (recase word) := by
  rw [recase_eq]
  exact raised_lowerInterior (raised_capitalizeAfterDigit ..) (by simp)

theorem raised_recase_capitalizeLeading (word : List Char) :
    Raised true (recase (capitalizeLeading word)) := by
  refine raised_iff.mpr ⟨fun _ => ?_, raised_recase _⟩
  rw [head?_recase]
  cases word with
  | nil => simp [capitalizeLeading]
  | cons c rest => simp [capitalizeLeading]

end NativeInterop.Identifier
