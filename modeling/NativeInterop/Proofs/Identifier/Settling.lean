import NativeInterop.Proofs.Identifier.Casing
import NativeInterop.Proofs.Text.Segments

namespace NativeInterop.Identifier

/-! Settling takes one round. Recasing a word without lower-case letters after digits leaves two
capitals together only where a new word begins, and such a word is recased to itself. -/

open Text

variable {raw word text : List Char} {afterDigit afterCapital : Bool}

/-! ### Two capitals together -/

/-- A lower-case letter follows any two capitals that stand together; `afterCapital` tells of the
character before the text. -/
def Paired (afterCapital : Bool) : List Char → Prop
  | [] => True
  | c :: rest =>
      (afterCapital = true → c.isUpper = true → rest.head?.any Char.isLower = true) ∧
        Paired c.isUpper rest

def Settled (word : List Char) : Prop :=
  Raised false word ∧ Paired false word

/-- The last two characters are capitals; `afterCapital` tells of the character before the text. -/
def endsInCapitals (afterCapital : Bool) : List Char → Bool
  | [] => false
  | c :: rest => if rest.isEmpty then afterCapital && c.isUpper else endsInCapitals c.isUpper rest

theorem endsInCapitals_cons (afterCapital : Bool) (c : Char) (nonempty : text ≠ []) :
    endsInCapitals afterCapital (c :: text) = endsInCapitals c.isUpper text := by
  rw [endsInCapitals, if_neg (by simpa using nonempty)]

/-! ### The passes on a settled word -/

theorem reachesBreak_of_isLower (small : text.head?.any Char.isLower = true) :
    reachesBreak text = false := by
  cases text with
  | nil => rfl
  | cons c rest =>
      have lower : c.isLower = true := by simpa using small
      rw [reachesBreak, isDigit_of_isLower lower, isUpper_of_isLower lower]
      rfl

theorem lowerInterior_eq_self (paired : Paired afterCapital word) :
    lowerInterior afterCapital word = word := by
  induction word generalizing afterCapital with
  | nil => rfl
  | cons c rest ih =>
      rw [lowerInterior, ih paired.2, if_neg]
      intro lowered
      simp only [Bool.and_eq_true] at lowered
      obtain ⟨⟨capital, upper⟩, reaches⟩ := lowered
      rw [reachesBreak_of_isLower (paired.1 capital upper)] at reaches
      exact absurd reaches (by decide)

theorem isLower_of_isCapitalOrDigit {c : Char} (accepted : isCapitalOrDigit c = true) :
    c.isLower = false := by
  rcases Bool.or_eq_true_iff.mp accepted with upper | digit
  · simpa using Char.not_isLower_of_isUpper upper
  · exact isLower_of_isDigit digit

theorem isDigit_eq_of_isCapitalOrDigit {c : Char} (accepted : isCapitalOrDigit c = true) :
    c.isDigit = !c.isUpper := by
  rcases Bool.or_eq_true_iff.mp accepted with upper | digit
  · rw [isDigit_of_isUpper upper, upper]
    rfl
  · rw [isUpper_of_isDigit digit, digit]
    rfl

/-- In a tail of capitals and digits no lower-case letter follows two capitals. -/
theorem isUpper_of_paired_tail {c : Char} (paired : Paired true (c :: text))
    (tail : text.all isCapitalOrDigit = true) : c.isUpper = false := by
  cases upper : c.isUpper with
  | false => rfl
  | true =>
      have small := paired.1 rfl upper
      cases text with
      | nil => simp at small
      | cons d rest =>
          have accepted : isCapitalOrDigit d = true := List.all_eq_true.mp tail d (by simp)
          simp [isLower_of_isCapitalOrDigit accepted] at small

/-- Each capital of such a tail comes after a digit, so raising undoes lowering. -/
theorem capitalizeAfterDigit_map_toLower (tail : text.all isCapitalOrDigit = true)
    (paired : Paired afterCapital text) :
    capitalizeAfterDigit (!afterCapital) (text.map Char.toLower) = text := by
  induction text generalizing afterCapital with
  | nil => rfl
  | cons c rest ih =>
      obtain ⟨accepted, inside⟩ := Bool.and_eq_true_iff.mp tail
      rw [List.map_cons, capitalizeAfterDigit, isDigit_toLower,
        isDigit_eq_of_isCapitalOrDigit accepted, ih inside paired.2]
      cases afterCapital with
      | true =>
          have notUpper : ¬ c.isUpper = true := by simp [isUpper_of_paired_tail paired inside]
          rw [Char.toLower_eq_of_not_isUpper notUpper]
          rfl
      | false =>
          have notLower : ¬ c.isLower = true := by simp [isLower_of_isCapitalOrDigit accepted]
          rw [Char.toUpper_toLower_eq_toUpper, Char.toUpper_eq_of_not_isLower notLower]
          rfl

theorem capitalizeAfterDigit_cons {c : Char} (raised : Raised afterDigit (c :: word))
    (rest : List Char) :
    capitalizeAfterDigit afterDigit (c :: rest) = c :: capitalizeAfterDigit c.isDigit rest := by
  rw [capitalizeAfterDigit]
  split
  · rename_i digit
    rw [Char.toUpper_eq_of_not_isLower (by simp [raised.1 digit])]
  · rfl

theorem capitalizeAfterDigit_lowerTail (raised : Raised afterDigit word)
    (paired : Paired afterCapital word) :
    capitalizeAfterDigit afterDigit (lowerTail word) = word := by
  induction word generalizing afterDigit afterCapital with
  | nil => rfl
  | cons c rest ih =>
      rw [lowerTail]
      split
      · rename_i begins
        obtain ⟨upper, tail⟩ := Bool.and_eq_true_iff.mp begins
        have raisedTail := capitalizeAfterDigit_map_toLower tail paired.2
        rw [upper] at raisedTail
        rw [capitalizeAfterDigit_cons raised, isDigit_of_isUpper upper]
        exact congrArg (c :: ·) raisedTail
      · rw [capitalizeAfterDigit_cons raised, ih raised.2 paired.2]

theorem recase_eq_self (settled : Settled word) : recase word = word := by
  rw [recase_eq, capitalizeAfterDigit_lowerTail settled.1 settled.2,
    lowerInterior_eq_self settled.2]

/-! ### What recasing leaves -/

/-- Capitals that do not reach up to the end of a word go on to a digit or a new word. -/
theorem reachesBreak_of_capital {c : Char} (accepted : IsWord text) (upper : c.isUpper = true)
    (openEnd : endsInCapitals true (c :: text) = false) : reachesBreak (c :: text) = true := by
  induction text generalizing c with
  | nil => simp [endsInCapitals, upper] at openEnd
  | cons d rest ih =>
      obtain ⟨letter, inside⟩ := List.forall_mem_cons.mp accepted
      rw [endsInCapitals_cons _ _ (by simp), upper] at openEnd
      rw [reachesBreak, upper]
      by_cases capital : d.isUpper = true
      · simp [ih inside capital openEnd]
      · by_cases digit : d.isDigit = true
        · simp [reachesBreak, digit]
        · simp [isLower_of_isAlphanum letter capital digit]

theorem isLower_of_not_reachesBreak {c : Char} (accepted : IsWord (c :: text))
    (openEnd : endsInCapitals true (c :: text) = false)
    (blocked : reachesBreak (c :: text) = false) : c.isLower = true := by
  obtain ⟨letter, inside⟩ := List.forall_mem_cons.mp accepted
  by_cases capital : c.isUpper = true
  · rw [reachesBreak_of_capital inside capital openEnd] at blocked
    exact absurd blocked (by decide)
  · by_cases digit : c.isDigit = true
    · simp [reachesBreak, digit] at blocked
    · exact isLower_of_isAlphanum letter capital digit

/-- The flag of the result is true less often than that of the word, since letters are lowered. -/
theorem paired_lowerInterior {before : Bool} (accepted : IsWord word)
    (openEnd : endsInCapitals before word = false)
    (fewer : afterCapital = true → before = true) :
    Paired afterCapital (lowerInterior before word) := by
  induction word generalizing before afterCapital with
  | nil => trivial
  | cons c rest ih =>
      have inside : IsWord rest := (List.forall_mem_cons.mp accepted).2
      have later : endsInCapitals c.isUpper rest = false := by
        cases rest with
        | nil => rfl
        | cons d rest => rwa [endsInCapitals_cons _ _ (by simp)] at openEnd
      rw [lowerInterior]
      split
      · exact ⟨by simp, ih inside later (by simp)⟩
      · rename_i kept
        refine ⟨fun capital upper => ?_, ih inside later (fun upper => upper)⟩
        rw [fewer capital, upper] at kept
        rw [upper] at later ⊢
        -- A second capital that stays is neither the end of the word nor before a digit or capital.
        cases rest with
        | nil => simp [endsInCapitals, fewer capital, upper] at openEnd
        | cons d rest =>
            have small := isLower_of_not_reachesBreak inside later (by simpa using kept)
            simp [lowerInterior, isUpper_of_isLower small, small]

theorem endsInCapitals_capitalizeAfterDigit (lowered : ∀ c ∈ text, c.isUpper = false)
    (apart : afterCapital = true → afterDigit = false) :
    endsInCapitals afterCapital (capitalizeAfterDigit afterDigit text) = false := by
  induction text generalizing afterCapital afterDigit with
  | nil => rfl
  | cons c rest ih =>
      obtain ⟨small, inside⟩ := List.forall_mem_cons.mp lowered
      rw [capitalizeAfterDigit]
      cases rest with
      | nil =>
          cases afterCapital with
          | false => rfl
          | true =>
              rw [apart rfl]
              exact small
      | cons d rest =>
          refine ih inside fun upper => ?_
          split at upper
          · rw [← isDigit_toUpper]
            exact isDigit_of_isUpper upper
          · exact isDigit_of_isUpper upper

/-- Lowering the tail leaves no two capitals at the end, and raising adds none where no lower-case
letter comes after a digit. -/
theorem endsInCapitals_lowerTail (raised : Raised afterDigit word)
    (continued : afterCapital = true → word.all isCapitalOrDigit = false) :
    endsInCapitals afterCapital (capitalizeAfterDigit afterDigit (lowerTail word)) =
      false := by
  induction word generalizing afterDigit afterCapital with
  | nil => rfl
  | cons c rest ih =>
      rw [lowerTail]
      split
      · rename_i begins
        obtain ⟨upper, tail⟩ := Bool.and_eq_true_iff.mp begins
        rw [capitalizeAfterDigit_cons raised]
        cases rest with
        | nil =>
            have apart : afterCapital = false := by
              cases afterCapital with
              | false => rfl
              | true => simp [isCapitalOrDigit, upper] at continued
            rw [apart]
            rfl
        | cons d rest =>
            refine endsInCapitals_capitalizeAfterDigit (fun e member => ?_) isDigit_of_isUpper
            obtain ⟨original, _, rfl⟩ := List.mem_map.mp member
            exact Char.isUpper_toLower_eq_false original
      · rename_i begins
        rw [capitalizeAfterDigit_cons raised]
        -- A capital at the very end would have begun the tail.
        cases rest with
        | nil =>
            have notUpper : c.isUpper = false := by simpa using begins
            simp [lowerTail, capitalizeAfterDigit, endsInCapitals, notUpper]
        | cons d rest =>
            have nonempty :
                capitalizeAfterDigit c.isDigit (lowerTail (d :: rest)) ≠ [] := by
              intro empty
              have same := map_toLower_capitalizeAfterDigit c.isDigit
                (lowerTail (d :: rest))
              rw [empty, map_toLower_lowerTail] at same
              simp at same
            rw [endsInCapitals_cons _ _ nonempty]
            exact ih raised.2 fun upper => by simpa [upper] using begins

theorem settled_recase (accepted : IsWord word) (raised : Raised false word) :
    Settled (recase word) := by
  refine ⟨raised_recase word, ?_⟩
  rw [recase_eq]
  refine paired_lowerInterior ?_ ?_ (fun capital => capital)
  · refine isWord_of_map_toLower ?_ accepted
    rw [map_toLower_capitalizeAfterDigit, map_toLower_lowerTail]
  · exact endsInCapitals_lowerTail raised (by simp)

/-! ### Words of a name -/

theorem isSeparator_of_isAlphanum {c : Char} (letter : c.isAlphanum = true) :
    isSeparator c = false := by
  have notUnderscore : (c == '_') = false := by
    rw [beq_eq_false_iff_ne]
    rintro rfl
    exact absurd letter (by decide)
  rw [isSeparator, notUnderscore, isBlank_of_isAlphanum letter]
  rfl

theorem isWord_of_mem_words (member : word ∈ words raw) : IsWord word := by
  have segment := (List.mem_filter.mp member).1
  obtain ⟨before, after, whole, _⟩ := surroundings_of_mem_segments segment
  intro c inside
  have kept : c ∈ raw.filter fun c => isSeparator c || c.isAlphanum := by
    rw [whole]
    simp [inside]
  have apart := unseparated_of_mem_segments segment c inside
  simpa [apart] using (List.mem_filter.mp kept).2

theorem isWord_recase (accepted : IsWord word) : IsWord (recase word) :=
  isWord_of_map_toLower (map_toLower_recase word) accepted

/-- A recased word begins with a capital or a digit, so no digit before it meets a lower-case
letter. -/
theorem joined_capitalized {parts : List (List Char)} (accepted : ∀ part ∈ parts, IsWord part) :
    IsWord (parts.flatMap fun part => recase (capitalizeLeading part)) ∧
      Raised true (parts.flatMap fun part => recase (capitalizeLeading part)) := by
  induction parts with
  | nil => exact ⟨by simp [IsWord], trivial⟩
  | cons part parts ih =>
      obtain ⟨first, others⟩ := List.forall_mem_cons.mp accepted
      obtain ⟨joined, raised⟩ := ih others
      rw [List.flatMap_cons]
      refine ⟨List.forall_mem_append.mpr ⟨?_, joined⟩, ?_⟩
      · exact isWord_recase (isWord_of_map_toLower (map_toLower_capitalizeLeading part) first)
      · exact raised_append (raised_recase_capitalizeLeading part) raised

theorem isWord_joinWords (raw : List Char) : IsWord (joinWords raw) :=
  (joined_capitalized fun _ => isWord_of_mem_words).1

theorem raised_joinWords (raw : List Char) : Raised true (joinWords raw) :=
  (joined_capitalized fun _ => isWord_of_mem_words).2

/-- A word is the only word of itself. -/
theorem joinWords_of_isWord (accepted : IsWord word) :
    joinWords word = recase (capitalizeLeading word) := by
  have kept : word.filter (fun c => isSeparator c || c.isAlphanum) = word :=
    List.filter_eq_self.mpr fun c member => by simp [accepted c member]
  have single : rawWords word = [word] := by
    rw [rawWords, kept]
    exact segments_of_unseparated fun c member => isSeparator_of_isAlphanum (accepted c member)
  rw [joinWords, words, single]
  cases word with
  | nil => exact recase_nil.symm
  | cons c rest => simp

/-! ### The settling loop -/

/-- The round, counted from zero, in which settling sees no change; `none` when the rounds run out
before. -/
def settledRound? : Nat → List Char → Option Nat
  | 0, _ => none
  | rounds + 1, word =>
      if recase word = word then some 0 else (settledRound? rounds (recase word)).map (· + 1)

theorem settle_of_settledRound? {rounds round : Nat}
    (stopped : settledRound? rounds word = some round) :
    settle rounds word = recase^[round] word ∧
      recase (settle rounds word) = settle rounds word := by
  induction rounds generalizing word round with
  | zero => simp [settledRound?] at stopped
  | succ rounds ih =>
      rw [settledRound?] at stopped
      rw [settle]
      split at stopped
      · rename_i fixed
        obtain rfl : 0 = round := Option.some.inj stopped
        rw [if_pos fixed]
        exact ⟨rfl, fixed⟩
      · rename_i changed
        obtain ⟨later, found, rfl⟩ := Option.map_eq_some_iff.mp stopped
        rw [if_neg changed]
        exact ih found

/-- Recasing once is enough when the result is recased to itself. -/
theorem settledRound?_of_fixed (rounds : Nat) (fixed : recase (recase word) = recase word) :
    ∃ round ≤ 1, settledRound? (rounds + 2) word = some round ∧
      recase^[round] word = recase word := by
  by_cases unchanged : recase word = word
  · exact ⟨0, by decide, by rw [settledRound?, if_pos unchanged], unchanged.symm⟩
  · refine ⟨1, by decide, ?_, rfl⟩
    rw [settledRound?, if_neg unchanged, settledRound?, if_pos fixed]
    rfl

theorem recase_recase_joinWords (raw : List Char) :
    recase (recase (joinWords raw)) = recase (joinWords raw) :=
  recase_eq_self
    (settled_recase (isWord_joinWords raw) (raised_of_raised_true (raised_joinWords raw)))

theorem canonical_eq_recase (raw : List Char) : canonical raw = recase (joinWords raw) := by
  obtain ⟨round, _, stopped, same⟩ := settledRound?_of_fixed 6 (recase_recase_joinWords raw)
  exact (settle_of_settledRound? stopped).1.trans same

theorem settled_canonical (raw : List Char) : Settled (canonical raw) := by
  rw [canonical_eq_recase]
  exact settled_recase (isWord_joinWords raw) (raised_of_raised_true (raised_joinWords raw))

theorem isWord_canonical (raw : List Char) : IsWord (canonical raw) := by
  rw [canonical_eq_recase]
  exact isWord_recase (isWord_joinWords raw)

theorem leading_canonical (raw : List Char) :
    ∀ c ∈ (canonical raw).head?, c.isLower = false := by
  rw [canonical_eq_recase, head?_recase]
  exact (raised_iff.mp (raised_joinWords raw)).1 rfl

theorem joinWords_eq_self (accepted : IsWord word) (leading : ∀ c ∈ word.head?, c.isLower = false)
    (settled : Settled word) : joinWords word = word := by
  have begun : capitalizeLeading word = word := by
    cases word with
    | nil => rfl
    | cons c rest =>
        rw [capitalizeLeading, Char.toUpper_eq_of_not_isLower (by simp [leading c rfl])]
  rw [joinWords_of_isWord accepted, begun, recase_eq_self settled]

theorem joinWords_canonical (raw : List Char) : joinWords (canonical raw) = canonical raw :=
  joinWords_eq_self (isWord_canonical raw) (leading_canonical raw) (settled_canonical raw)

/-- The canonical form is its own canonical form. The loop leaves by seeing no change, in its first
or second round; recasing a word that was not joined settles after two rounds. -/
theorem canonical_settles :
    (∀ raw, canonical (canonical raw) = canonical raw) ∧
    (∀ raw, recase (recase (joinWords raw)) = recase (joinWords raw)) ∧
    (∀ raw, ∃ round ≤ 1, settledRound? settleRounds (joinWords raw) = some round ∧
      canonical raw = recase^[round] (joinWords raw)) ∧
    ∀ word, IsWord word → recase (recase (recase word)) = recase (recase word) := by
  refine ⟨fun raw => ?_, recase_recase_joinWords, fun raw => ?_, fun word accepted => ?_⟩
  · rw [canonical_eq_recase (canonical raw), joinWords_canonical,
      recase_eq_self (settled_canonical raw)]
  · obtain ⟨round, bound, stopped, _⟩ := settledRound?_of_fixed 6 (recase_recase_joinWords raw)
    exact ⟨round, bound, stopped, (settle_of_settledRound? stopped).1⟩
  · exact recase_eq_self (settled_recase (isWord_recase accepted) (raised_recase word))

/-- Two rounds are needed where raising makes two capitals at the end. -/
theorem canonical_settles_raisedEnd :
    IsWord "A1bC".toList ∧ recase "A1bC".toList ≠ recase (recase "A1bC".toList) ∧
      recase (recase (recase "A1bC".toList)) = recase (recase "A1bC".toList) := by
  have accepted : IsWord "A1bC".toList := by simp [IsWord]
  refine ⟨accepted, ?_, canonical_settles.2.2.2 _ accepted⟩
  rw [recase_eq, recase_eq]
  decide

end NativeInterop.Identifier
