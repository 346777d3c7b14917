import Mathlib.Data.List.DropRight
import NativeInterop.Identifier.Canonical

namespace NativeInterop.Identifier

/-! The passes that lower acronyms look for them by place. Each does what a single walk over the
characters does. -/

variable {word before tail digits rest text : List Char} {place stop : Nat} {c : Char}

/-! ### The tail -/

/-- Lowers what follows the first capital behind which only capitals and digits are left. -/
def lowerTail : List Char → List Char
  | [] => []
  | c :: rest =>
      if c.isUpper && rest.all isCapitalOrDigit then c :: rest.map Char.toLower
      else c :: lowerTail rest

/-- The longest tail of capitals and digits, and the word before it. -/
structure AcronymTail (word before tail : List Char) : Prop where
  whole : word = before ++ tail
  inside : ∀ c ∈ tail, isCapitalOrDigit c = true
  begins : ∀ c ∈ before.getLast?, isCapitalOrDigit c = false

theorem exists_acronymTail (word : List Char) : ∃ before tail, AcronymTail word before tail := by
  refine ⟨word.rdropWhile isCapitalOrDigit, word.rtakeWhile isCapitalOrDigit,
    List.rdropWhile_append_rtakeWhile.symm, fun c => List.mem_rtakeWhile_imp, ?_⟩
  intro c last
  obtain ⟨nonempty, rfl⟩ := List.mem_getLast?_eq_getLast last
  simpa using List.rdropWhile_last_not isCapitalOrDigit word nonempty

theorem exists_first_capital (some : ∃ c ∈ tail, c.isUpper = true) :
    ∃ digits capital rest, tail = digits ++ capital :: rest ∧ (∀ c ∈ digits, c.isUpper = false) ∧
      capital.isUpper = true := by
  obtain ⟨capital, found⟩ := Option.isSome_iff_exists.mp (List.find?_isSome.mpr some)
  obtain ⟨upper, digits, rest, whole, small⟩ := List.find?_eq_some_iff_append.mp found
  exact ⟨digits, capital, rest, whole, fun c member => by simpa using small c member, upper⟩

theorem lowerTail_append_digits (small : ∀ c ∈ digits, c.isUpper = false) (text : List Char) :
    lowerTail (digits ++ text) = digits ++ lowerTail text := by
  induction digits with
  | nil => rfl
  | cons c digits ih =>
      rw [List.forall_mem_cons] at small
      rw [List.cons_append, lowerTail, small.1, ih small.2]
      rfl

/-- Up to the tail, each character is no capital itself or has one that is neither capital nor digit
after it. -/
theorem lowerTail_append (begins : ∀ c ∈ before.getLast?, isCapitalOrDigit c = false)
    (text : List Char) : lowerTail (before ++ text) = before ++ lowerTail text := by
  induction before with
  | nil => rfl
  | cons c before ih =>
      have blocked : (c.isUpper && (before ++ text).all isCapitalOrDigit) = false := by
        cases before with
        | nil =>
            have refused : isCapitalOrDigit c = false := begins c rfl
            rw [isCapitalOrDigit, Bool.or_eq_false_iff] at refused
            rw [refused.1, Bool.false_and]
        | cons d before =>
            obtain ⟨last, ends⟩ := Option.isSome_iff_exists.mp
              (by simp : (d :: before).getLast?.isSome = true)
            have refused := begins last (by rwa [List.getLast?_cons_cons])
            have member : last ∈ d :: before := List.mem_of_getLast? ends
            rw [Bool.and_eq_false_iff, List.all_eq_false]
            exact .inr ⟨last, List.mem_append_left _ member, by simp [refused]⟩
      have later : ∀ d ∈ before.getLast?, isCapitalOrDigit d = false := by
        cases before with
        | nil => simp
        | cons d before => rwa [List.getLast?_cons_cons] at begins
      rw [List.cons_append, lowerTail, blocked, ih later]
      rfl

theorem AcronymTail.lowerTail_eq (cut : AcronymTail word before (digits ++ c :: rest))
    (small : ∀ d ∈ digits, d.isUpper = false) (capital : c.isUpper = true) :
    lowerTail word = (before ++ digits ++ [c]) ++ rest.map Char.toLower := by
  have accepted : rest.all isCapitalOrDigit = true :=
    List.all_eq_true.mpr fun d member => cut.inside d (by simp [member])
  rw [cut.whole, lowerTail_append cut.begins, lowerTail_append_digits small, lowerTail, capital,
    accepted]
  simp

theorem AcronymTail.lowerTail_eq_self (cut : AcronymTail word before tail)
    (small : ∀ c ∈ tail, c.isUpper = false) : lowerTail word = word := by
  have unchanged := lowerTail_append_digits small []
  rw [List.append_nil, lowerTail, List.append_nil] at unchanged
  rw [cut.whole, lowerTail_append cut.begins, unchanged]

/-! ### The tail by place -/

theorem getElem?_length_append (before : List Char) (c : Char) (text : List Char) :
    (before ++ c :: text)[before.length]? = some c := by
  simp

/-- The scan goes back through the tail and stops where it begins. -/
theorem AcronymTail.tailStart_eq (cut : AcronymTail word before tail) :
    tailStart word word.length = before.length := by
  have reached (left right : List Char) (split : tail = left ++ right) :
      tailStart word (before ++ left).length = before.length := by
    induction left using List.reverseRecOn generalizing right with
    | nil =>
        rw [List.append_nil]
        cases before using List.reverseRecOn with
        | nil => rfl
        | append_singleton before last =>
            have refused : isCapitalOrDigit last = false := cut.begins last (by simp)
            rw [List.length_append, List.length_singleton, tailStart, cut.whole, List.append_assoc,
              List.singleton_append, getElem?_length_append, Option.any_some, refused]
            rfl
    | append_singleton left c ih =>
        have accepted : isCapitalOrDigit c = true := cut.inside c (by simp [split])
        have whole : word = (before ++ left) ++ c :: right := by simp [cut.whole, split]
        rw [← List.append_assoc, List.length_append, List.length_singleton, tailStart]
        rw [show word[(before ++ left).length]? = some c by rw [whole, getElem?_length_append]]
        rw [Option.any_some, if_pos accepted]
        exact ih (c :: right) (by simp [split])
  have whole := reached tail [] (List.append_nil tail).symm
  rwa [← cut.whole] at whole

theorem isCapitalAt_append_length (before : List Char) (c : Char) (text : List Char) :
    isCapitalAt (before ++ c :: text) before.length = c.isUpper := by
  rw [isCapitalAt, getElem?_length_append, Option.any_some]

/-- From the last character before the tail up to the first capital in it. -/
theorem AcronymTail.isCapitalAt_eq_false (cut : AcronymTail word before (digits ++ rest))
    (small : ∀ c ∈ digits, c.isUpper = false) (behind : before.length ≤ place + 1)
    (within : place < before.length + digits.length) : isCapitalAt word place = false := by
  rw [isCapitalAt, cut.whole]
  rcases Nat.lt_or_ge place before.length with earlier | later
  · have last : before[place]? = before.getLast? := by
      rw [List.getLast?_eq_getElem?]
      congr 1
      omega
    rw [List.getElem?_append_left earlier, last, Option.any_eq_false]
    intro c ends
    have refused := cut.begins c ends
    rw [isCapitalOrDigit, Bool.or_eq_false_iff] at refused
    simp [refused.1]
  · have inside : place - before.length < digits.length := by omega
    rw [List.getElem?_append_right later, List.getElem?_append_left inside,
      List.getElem?_eq_getElem inside, Option.any_some]
    exact small _ (List.getElem_mem inside)

/-- The places behind which the first capital is looked for. -/
theorem AcronymTail.find?_eq_none (cut : AcronymTail word before (digits ++ rest))
    (small : ∀ c ∈ digits, c.isUpper = false) (short : rest.length ≤ 1) :
    (List.range' (max before.length 1) (word.length - max before.length 1)).find?
      (fun place => isCapitalAt word (place - 1)) = none := by
  have length : word.length = before.length + (digits.length + rest.length) := by
    rw [cut.whole, List.length_append, List.length_append]
  rw [List.find?_eq_none]
  intro place member
  rw [List.mem_range'_1] at member
  rw [cut.isCapitalAt_eq_false small (by omega) (by omega)]
  exact Bool.false_ne_true

theorem AcronymTail.find?_eq_some (cut : AcronymTail word before (digits ++ c :: rest))
    (small : ∀ d ∈ digits, d.isUpper = false) (capital : c.isUpper = true) (more : rest ≠ []) :
    (List.range' (max before.length 1) (word.length - max before.length 1)).find?
      (fun place => isCapitalAt word (place - 1)) = some (before.length + digits.length + 1) := by
  have whole : word = (before ++ digits) ++ c :: rest := by
    rw [cut.whole, List.append_assoc]
  have length : word.length = before.length + digits.length + (rest.length + 1) := by
    rw [whole, List.length_append, List.length_append, List.length_cons]
  have positive : 0 < rest.length := List.length_pos_iff.mpr more
  rw [List.find?_range'_eq_some]
  refine ⟨?_, ?_, fun place behind within => ?_⟩
  · rw [Nat.add_sub_cancel, whole, ← List.length_append, isCapitalAt_append_length, capital]
  · rw [List.mem_range'_1]
    omega
  · rw [cut.isCapitalAt_eq_false small (by omega) (by omega)]
    rfl

theorem AcronymTail.lowerTrailingAcronym_eq_self (cut : AcronymTail word before tail)
    (small : ∀ c ∈ tail, c.isUpper = false) : lowerTrailingAcronym word = word := by
  rw [← List.append_nil tail] at cut
  have nothing := cut.find?_eq_none small (Nat.zero_le 1)
  rw [lowerTrailingAcronym, cut.tailStart_eq]
  simp only [nothing]

theorem AcronymTail.lowerTrailingAcronym_eq (cut : AcronymTail word before (digits ++ c :: rest))
    (small : ∀ d ∈ digits, d.isUpper = false) (capital : c.isUpper = true) :
    lowerTrailingAcronym word = (before ++ digits ++ [c]) ++ rest.map Char.toLower := by
  have whole : word = (before ++ digits ++ [c]) ++ rest := by simp [cut.whole]
  rw [lowerTrailingAcronym, cut.tailStart_eq]
  by_cases single : rest = []
  · subst single
    have nothing := cut.find?_eq_none small (Nat.le_refl 1)
    simp only [nothing]
    rw [whole, List.map_nil]
  · have found := cut.find?_eq_some small capital single
    have first : before.length + digits.length + 1 = (before ++ digits ++ [c]).length := by
      simp [Nat.add_assoc]
    simp only [found]
    rw [lowerBetween, first, List.take_length, List.drop_length, List.append_nil, whole,
      List.take_left, List.drop_left]

theorem lowerTrailingAcronym_eq_lowerTail (word : List Char) :
    lowerTrailingAcronym word = lowerTail word := by
  obtain ⟨before, tail, cut⟩ := exists_acronymTail word
  by_cases some : ∃ c ∈ tail, c.isUpper = true
  · obtain ⟨digits, capital, rest, rfl, small, upper⟩ := exists_first_capital some
    rw [cut.lowerTrailingAcronym_eq small upper, cut.lowerTail_eq small upper]
  · have small : ∀ c ∈ tail, c.isUpper = false := by simpa using some
    rw [cut.lowerTrailingAcronym_eq_self small, cut.lowerTail_eq_self small]

/-! ### The interior -/

/-- The capitals at the beginning of the text reach a digit, or a capital among them begins a new
word: a lower-case letter comes right after it. -/
def reachesBreak : List Char → Bool
  | [] => false
  | c :: rest => c.isDigit || (c.isUpper && (rest.head?.any Char.isLower || reachesBreak rest))

/-- Lowers each capital after a capital whose row of capitals goes on to a digit or a new word;
`afterCapital` tells of the character before the text. -/
def lowerInterior (afterCapital : Bool) : List Char → List Char
  | [] => []
  | c :: rest =>
      (if afterCapital && c.isUpper && reachesBreak rest then c.toLower else c) ::
        lowerInterior c.isUpper rest

theorem acronymEnd?_eq_none (nothing : acronymEnd? place text = none) :
    reachesBreak text = false := by
  induction text generalizing place with
  | nil => rfl
  | cons c rest ih =>
      rw [acronymEnd?] at nothing
      split at nothing
      · contradiction
      · rename_i shut
        simp only [Bool.or_eq_true, Bool.and_eq_true, not_or, Bool.not_eq_true, not_and] at shut
        rw [reachesBreak, shut.2]
        split at nothing
        · rename_i capital
          rw [capital, shut.1 capital, ih nothing]
          rfl
        · rename_i small
          rw [Bool.not_eq_true] at small
          rw [small]
          rfl

/-- The run up to the end of an acronym, and the rest, which begins with a break. -/
theorem exists_run_of_acronymEnd? (found : acronymEnd? place text = some stop) :
    ∃ run after, text = run ++ after ∧ stop = place + run.length ∧
      (∀ c ∈ run, c.isUpper = true) ∧ reachesBreak after = true := by
  induction text generalizing place with
  | nil => contradiction
  | cons c rest ih =>
      rw [acronymEnd?] at found
      split at found
      · rename_i opens
        obtain rfl := Option.some.inj found
        refine ⟨[], c :: rest, rfl, rfl, by simp, ?_⟩
        rw [reachesBreak]
        rcases Bool.or_eq_true_iff.mp opens with newWord | digit
        · obtain ⟨capital, small⟩ := Bool.and_eq_true_iff.mp newWord
          simp [capital, small]
        · simp [digit]
      · split at found
        · rename_i capital
          obtain ⟨run, after, rfl, rfl, capitals, reaches⟩ := ih found
          refine ⟨c :: run, after, rfl, ?_, List.forall_mem_cons.mpr ⟨capital, capitals⟩, reaches⟩
          rw [List.length_cons]
          omega
        · contradiction

theorem reachesBreak_capitals_append {run after : List Char}
    (capitals : ∀ c ∈ run, c.isUpper = true) (reaches : reachesBreak after = true) :
    reachesBreak (run ++ after) = true := by
  induction run with
  | nil => exact reaches
  | cons c run ih =>
      obtain ⟨capital, others⟩ := List.forall_mem_cons.mp capitals
      rw [List.cons_append, reachesBreak, capital, ih others]
      simp

theorem lowerInterior_capitals_append {run after : List Char}
    (capitals : ∀ c ∈ run, c.isUpper = true) (reaches : reachesBreak after = true) :
    lowerInterior true (run ++ after) = run.map Char.toLower ++ lowerInterior true after := by
  induction run with
  | nil => rfl
  | cons c run ih =>
      obtain ⟨capital, others⟩ := List.forall_mem_cons.mp capitals
      rw [List.cons_append, lowerInterior, capital, reachesBreak_capitals_append others reaches,
        ih others]
      rfl

theorem isCapitalAt_add (word : List Char) (place further : Nat) :
    isCapitalAt word (place + further) = isCapitalAt (word.drop place) further := by
  rw [isCapitalAt, isCapitalAt, List.getElem?_drop]

theorem isCapitalAt_eq (inside : place < word.length) :
    isCapitalAt word place = word[place].isUpper := by
  rw [isCapitalAt, List.getElem?_eq_getElem inside, Option.any_some]

theorem isCapitalAt_of_capitals {run : List Char} (capitals : ∀ c ∈ run, c.isUpper = true)
    (within : place < run.length) (after : List Char) :
    isCapitalAt (run ++ after) place = true := by
  rw [isCapitalAt, List.getElem?_append_left within, List.getElem?_eq_getElem within,
    Option.any_some]
  exact capitals _ (List.getElem_mem within)

/-- An acronym is a row of capitals that a break comes after. -/
theorem exists_row_of_acronymAt? (inside : place < word.length)
    (found : acronymAt? word place = some stop) :
    ∃ row after, word.drop place = row ++ after ∧ place + row.length = stop ∧
      (∀ c ∈ row, c.isUpper = true) ∧ reachesBreak after = true ∧
      isCapitalAt word (place - 1) = true ∧ isCapitalAt word (stop - 1) = true := by
  rw [acronymAt?] at found
  split at found
  · rename_i capitals
    obtain ⟨previous, first⟩ := Bool.and_eq_true_iff.mp capitals
    obtain ⟨run, after, cut, rfl, others, reaches⟩ := exists_run_of_acronymEnd? found
    rw [isCapitalAt_eq inside] at first
    have text : word.drop place = (word[place] :: run) ++ after := by
      rw [List.drop_eq_getElem_cons inside, cut, List.cons_append]
    have row : ∀ c ∈ word[place] :: run, c.isUpper = true :=
      List.forall_mem_cons.mpr ⟨first, others⟩
    have last : isCapitalAt word (place + run.length) = true := by
      rw [isCapitalAt_add, text]
      exact isCapitalAt_of_capitals row (by simp) after
    refine ⟨word[place] :: run, after, text, ?_, row, reaches, previous, ?_⟩
    · rw [List.length_cons]
      omega
    · rwa [show place + 1 + run.length - 1 = place + run.length by omega]
  · contradiction

theorem not_lowered_of_acronymAt? (inside : place < word.length)
    (nothing : acronymAt? word place = none) :
    (isCapitalAt word (place - 1) && word[place].isUpper &&
      reachesBreak (word.drop (place + 1))) = false := by
  rw [acronymAt?, isCapitalAt_eq inside] at nothing
  split at nothing
  · rw [acronymEnd?_eq_none nothing, Bool.and_false]
  · rename_i apart
    rw [Bool.not_eq_true] at apart
    rw [apart, Bool.false_and]

theorem lowerBetween_append {first middle : List Char} (starts : first.length = place)
    (stops : place + middle.length = stop) (last : List Char) :
    lowerBetween place stop (first ++ (middle ++ last)) =
      first ++ middle.map Char.toLower ++ last := by
  rw [lowerBetween, ← stops, ← starts, List.take_left, ← List.length_append, ← List.append_assoc,
    List.take_left, List.drop_left, List.drop_left]

/-- The copy is the word from the place on; what comes before it is done with. -/
theorem lowerAcronyms_eq {copy : List Char} (done : List Char) (later : 0 < place)
    (length : done.length = place) (agrees : copy = done ++ word.drop place) :
    lowerAcronyms word place copy =
      done ++ lowerInterior (isCapitalAt word (place - 1)) (word.drop place) := by
  -- On the rounds of the loop: it goes on behind an acronym, or at the next place.
  fun_induction lowerAcronyms word place copy generalizing done with
  | case1 place copy inside stop found ih =>
      obtain ⟨row, after, text, size, capitals, reaches, previous, last⟩ :=
        exists_row_of_acronymAt? inside found
      have remaining : word.drop stop = after := by
        rw [← size, ← List.drop_drop, text, List.drop_left]
      have lowered : lowerBetween place stop copy = done ++ row.map Char.toLower ++ after := by
        rw [agrees, text, lowerBetween_append length size]
      have lengthened : (done ++ row.map Char.toLower).length = stop := by
        rw [List.length_append, List.length_map, length, size]
      rw [ih (done ++ row.map Char.toLower) (by omega) lengthened (by rw [remaining, lowered]),
        last, remaining, previous, text, lowerInterior_capitals_append capitals reaches,
        List.append_assoc]
  | case2 place copy inside nothing ih =>
      have text : word.drop place = word[place] :: word.drop (place + 1) :=
        List.drop_eq_getElem_cons inside
      rw [ih (done ++ [word[place]]) (Nat.succ_pos place) (by simp [length])
        (by rw [agrees, text]; simp), text, lowerInterior, not_lowered_of_acronymAt? inside nothing,
        Nat.add_sub_cancel, isCapitalAt_eq inside]
      simp
  | case3 place copy beyond =>
      have nothing : word.drop place = [] := List.drop_eq_nil_of_le (Nat.le_of_not_lt beyond)
      rw [agrees, nothing]
      rfl

/-- The first character has none before it, and the loop does not look at it. -/
theorem lowerInteriorAcronyms_eq_lowerInterior (word : List Char) :
    lowerInteriorAcronyms word = lowerInterior false word := by
  cases word with
  | nil => rw [lowerInteriorAcronyms, lowerAcronyms]; rfl
  | cons c rest =>
      have walked : lowerAcronyms (c :: rest) 1 (c :: rest) =
          [c] ++ lowerInterior (isCapitalAt (c :: rest) 0) rest :=
        lowerAcronyms_eq [c] Nat.one_pos rfl rfl
      exact walked

theorem recase_eq (word : List Char) :
    recase word = lowerInterior false (capitalizeAfterDigit false (lowerTail word)) := by
  rw [recase, lowerInteriorAcronyms_eq_lowerInterior, lowerTrailingAcronym_eq_lowerTail]

theorem recase_nil : recase [] = [] := by
  rw [recase_eq]
  rfl

end NativeInterop.Identifier
