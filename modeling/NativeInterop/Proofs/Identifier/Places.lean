import Mathlib
import NativeInterop.Proofs.Identifier.NormalForm
import NativeInterop.Proofs.Text.Scan

namespace NativeInterop.Identifier

open Text

/-! Which characters the two lowering passes lower, told by their places in the word. The interior
pass looks at each character by itself, and so does what a scan for acronyms would do. -/

variable {word before tail text lowered : List Char} {place first stop : Nat} {c : Char}
  {places : Nat → Prop}

/-- The characters at these places are lowered, and nothing else has changed. -/
structure LoweredAt (places : Nat → Prop) (word lowered : List Char) : Prop where
  inside : ∀ place, places place → lowered[place]? = word[place]?.map Char.toLower
  outside : ∀ place, ¬ places place → lowered[place]? = word[place]?

theorem LoweredAt.congr {other : Nat → Prop} (lowers : LoweredAt places word lowered)
    (same : ∀ place, other place ↔ places place) : LoweredAt other word lowered where
  inside place inside := lowers.inside place ((same place).mp inside)
  outside place outside := lowers.outside place fun inside => outside ((same place).mpr inside)

/-! ### The tail -/

def AfterTailCapital (word : List Char) (place : Nat) : Prop :=
  ∃ before digits capital rest, AcronymTail word before (digits ++ capital :: rest) ∧
    (∀ c ∈ digits, c.isUpper = false) ∧ capital.isUpper = true ∧
    before.length + digits.length < place

theorem loweredAt_lowerTrailingAcronym (word : List Char) :
    LoweredAt (AfterTailCapital word) word (lowerTrailingAcronym word) where
  inside place after := by
    obtain ⟨before, digits, capital, rest, cut, small, upper, behind⟩ := after
    have beyond : (before ++ digits ++ [capital]).length ≤ place := by
      simp only [List.length_append, List.length_singleton]
      omega
    have whole : word = (before ++ digits ++ [capital]) ++ rest := by simp [cut.whole]
    rw [cut.lowerTrailingAcronym_eq small upper, List.getElem?_append_right beyond,
      List.getElem?_map, whole, List.getElem?_append_right beyond]
  outside place notAfter := by
    obtain ⟨before, tail, cut⟩ := exists_acronymTail word
    by_cases some : ∃ c ∈ tail, c.isUpper = true
    · obtain ⟨digits, capital, rest, rfl, small, upper⟩ := exists_first_capital some
      have within : place < (before ++ digits ++ [capital]).length := by
        by_contra beyond
        refine notAfter ⟨before, digits, capital, rest, cut, small, upper, ?_⟩
        simp only [List.length_append, List.length_singleton] at beyond
        omega
      have whole : word = (before ++ digits ++ [capital]) ++ rest := by simp [cut.whole]
      rw [cut.lowerTrailingAcronym_eq small upper, List.getElem?_append_left within, whole,
        List.getElem?_append_left within]
    · rw [cut.lowerTrailingAcronym_eq_self (by simpa using some)]

/-! ### The interior -/

/-- The character before the place is a capital; `afterCapital` tells of the one before the text. -/
def capitalBefore (afterCapital : Bool) (text : List Char) : Nat → Bool
  | 0 => afterCapital
  | place + 1 => text[place]?.any Char.isUpper

theorem capitalBefore_cons (afterCapital : Bool) (c : Char) (text : List Char) (place : Nat) :
    capitalBefore afterCapital (c :: text) (place + 1) = capitalBefore c.isUpper text place := by
  cases place <;> rfl

/-- Each character is looked at by itself, in the text as it was. -/
theorem getElem?_lowerInterior (afterCapital : Bool) (text : List Char) (place : Nat) :
    (lowerInterior afterCapital text)[place]? = text[place]?.map fun c =>
      if capitalBefore afterCapital text place && c.isUpper &&
        reachesBreak (text.drop (place + 1)) then c.toLower else c := by
  induction text generalizing afterCapital place with
  | nil => rfl
  | cons c rest ih =>
      cases place with
      | zero => rfl
      | succ place =>
          rw [lowerInterior, List.getElem?_cons_succ, ih, List.getElem?_cons_succ,
            capitalBefore_cons, List.drop_succ_cons]

def CapitalAt (word : List Char) (place : Nat) : Prop :=
  ∃ c ∈ word[place]?, c.isUpper = true

/-- The place has a capital after a capital, and from there the capitals go on to a digit or a new
word. -/
structure MeetsBreak (word : List Char) (place : Nat) : Prop where
  follows : ∃ earlier, earlier + 1 = place ∧ CapitalAt word earlier
  capital : CapitalAt word place
  reaches : reachesBreak (word.drop (place + 1)) = true

theorem loweredAt_lowerInteriorAcronyms (word : List Char) :
    LoweredAt (MeetsBreak word) word (lowerInteriorAcronyms word) where
  inside place meets := by
    obtain ⟨⟨earlier, rfl, previous, first, capitalFirst⟩, ⟨c, found, capital⟩, reaches⟩ := meets
    rw [lowerInteriorAcronyms_eq_lowerInterior, getElem?_lowerInterior, Option.mem_def.mp found]
    simp [capitalBefore, Option.mem_def.mp first, capitalFirst, capital, reaches]
  outside place apart := by
    rw [lowerInteriorAcronyms_eq_lowerInterior, getElem?_lowerInterior]
    cases found : word[place]? with
    | none => rfl
    | some c =>
        rw [Option.map_some, if_neg]
        intro lowers
        simp only [Bool.and_eq_true] at lowers
        obtain ⟨⟨before, capital⟩, reaches⟩ := lowers
        refine apart ⟨?_, ⟨c, found, capital⟩, reaches⟩
        cases place with
        | zero => contradiction
        | succ earlier => exact ⟨earlier, rfl, Option.any_eq_true _ _ |>.mp before⟩

/-! ### Rows of capitals -/

theorem exists_cut (bound : place + 1 < text.length) :
    ∃ left a c right, text = left ++ a :: c :: right ∧ left.length = place := by
  have earlier : place < text.length := Nat.lt_of_succ_lt bound
  refine ⟨text.take place, text[place], text[place + 1], text.drop (place + 2), ?_, ?_⟩
  · rw [← List.drop_eq_getElem_cons bound, ← List.drop_eq_getElem_cons earlier,
      List.take_append_drop]
  · rw [List.length_take, Nat.min_eq_left (Nat.le_of_lt earlier)]

theorem drop_cut (left right : List Char) (a c : Char) :
    (left ++ a :: c :: right).drop (left.length + 1 + 1) = right := by
  rw [Nat.add_assoc, List.drop_length_add_append]
  rfl

theorem meetsBreak_iff_cut :
    MeetsBreak word place ↔ ∃ left a c right, word = left ++ a :: c :: right ∧
      left.length + 1 = place ∧ a.isUpper = true ∧ c.isUpper = true ∧
      reachesBreak right = true := by
  constructor
  · rintro ⟨⟨earlier, rfl, a, foundA, capitalA⟩, ⟨c, foundC, capitalC⟩, reaches⟩
    obtain ⟨bound, _⟩ := List.getElem?_eq_some_iff.mp foundC
    obtain ⟨left, a', c', right, rfl, rfl⟩ := exists_cut bound
    obtain rfl : a' = a := by simpa using foundA
    obtain rfl : c' = c := by simpa using foundC
    rw [drop_cut] at reaches
    exact ⟨left, a', c', right, rfl, rfl, capitalA, capitalC, reaches⟩
  · rintro ⟨left, a, c, right, rfl, rfl, capitalA, capitalC, reaches⟩
    refine ⟨⟨left.length, rfl, a, by simp, capitalA⟩, ⟨c, by simp, capitalC⟩, ?_⟩
    rwa [drop_cut]

/-- Capitals that no further one follows reach a digit, and if there are any, a new word that begins
with the last of them. -/
theorem reachesBreak_append {run after : List Char} (capitals : ∀ c ∈ run, c.isUpper = true)
    (ends : ∀ c ∈ after.head?, c.isUpper = false) :
    reachesBreak (run ++ after) =
      (after.head?.any Char.isDigit || (!run.isEmpty && after.head?.any Char.isLower)) := by
  induction run with
  | nil =>
      cases after with
      | nil => rfl
      | cons c rest =>
          have notCapital : c.isUpper = false := ends c rfl
          simp [reachesBreak, notCapital]
  | cons c run ih =>
      obtain ⟨capital, others⟩ := List.forall_mem_cons.mp capitals
      rw [List.cons_append, reachesBreak, capital, isDigit_of_isUpper capital, ih others]
      cases run with
      | nil => simp [Bool.or_comm]
      | cons d run =>
          have notSmall : d.isLower = false := by
            simpa using Char.not_isLower_of_isUpper (others d List.mem_cons_self)
          simp [notSmall]

/-- The place is inside a row of capitals: after its first letter where a digit comes after the row,
and between its first and its last letter where a lower-case letter does. -/
def InsideRun (word : List Char) (place : Nat) : Prop :=
  ∃ before run after, CapitalRun word before run after ∧ before.length < place ∧
    ((∃ c ∈ after.head?, c.isDigit = true) ∧ place < before.length + run.length ∨
      (∃ c ∈ after.head?, c.isLower = true) ∧ place + 1 < before.length + run.length)

theorem meetsBreak_of_insideRun (inside : InsideRun word place) : MeetsBreak word place := by
  obtain ⟨before, run, after, found, behind, follows⟩ := inside
  have room : place - before.length - 1 + 1 < run.length := by omega
  obtain ⟨left, a, c, right, rfl, length⟩ := exists_cut room
  have capitals := found.capitals
  simp only [List.forall_mem_append, List.forall_mem_cons] at capitals
  obtain ⟨_, capitalA, capitalC, others⟩ := capitals
  refine meetsBreak_iff_cut.mpr ⟨before ++ left, a, c, right ++ after, ?_, ?_, capitalA, capitalC, ?_⟩
  · rw [found.whole]
    simp
  · rw [List.length_append]
    omega
  · rw [reachesBreak_append others found.ends, Bool.or_eq_true, Bool.and_eq_true,
      Option.any_eq_true, Option.any_eq_true]
    rcases follows with ⟨digit, _⟩ | ⟨small, within⟩
    · exact .inl digit
    · -- The capital at the place is not the last, since one more is left.
      refine .inr ⟨?_, small⟩
      cases right with
      | nil =>
          simp only [List.length_append, List.length_cons, List.length_nil] at within
          omega
      | cons => rfl

theorem insideRun_of_meetsBreak (meets : MeetsBreak word place) : InsideRun word place := by
  obtain ⟨before, a, c, text, whole, rfl, capitalA, capitalC, reaches⟩ := meetsBreak_iff_cut.mp meets
  have cut : word = before ++ [a, c] ++ text := by simpa using whole
  obtain ⟨left, right, earlier, later, rfl, rfl, found⟩ :=
    exists_capitalRun cut (by simp) (by simp [capitalA, capitalC])
  have others : ∀ d ∈ right, d.isUpper = true := fun d member =>
    found.capitals d (List.mem_append_right _ member)
  rw [reachesBreak_append others found.ends, Bool.or_eq_true, Bool.and_eq_true,
    Option.any_eq_true, Option.any_eq_true] at reaches
  refine ⟨earlier, left ++ [a, c] ++ right, later, found, ?_, ?_⟩
  · rw [List.length_append]
    omega
  · simp only [List.length_append, List.length_cons, List.length_nil]
    rcases reaches with digit | ⟨more, small⟩
    · exact .inl ⟨digit, by omega⟩
    · have positive : 0 < right.length := by
        rw [List.length_pos_iff]
        simpa using more
      exact .inr ⟨small, by omega⟩

/-! ### Scanning for acronyms -/

/-- A digit or a capital with a lower-case letter after it. -/
def OpensAt (word : List Char) (place : Nat) : Prop :=
  (∃ c ∈ word[place]?, c.isDigit = true) ∨
    CapitalAt word place ∧ ∃ c ∈ word[place + 1]?, c.isLower = true

/-- A row of capitals that comes after a capital and goes up to a digit or a new word. -/
structure IsAcronym (word : List Char) (first stop : Nat) : Prop where
  follows : ∃ earlier, earlier + 1 = first ∧ CapitalAt word earlier
  nonempty : first < stop
  capitals : ∀ place, first ≤ place → place < stop → CapitalAt word place
  opens : OpensAt word stop

theorem capitalAt_drop (word : List Char) (start place : Nat) :
    CapitalAt (word.drop start) place ↔ CapitalAt word (start + place) := by
  rw [CapitalAt, CapitalAt, List.getElem?_drop]

theorem opensAt_drop (word : List Char) (start place : Nat) :
    OpensAt (word.drop start) place ↔ OpensAt word (start + place) := by
  rw [OpensAt, OpensAt, capitalAt_drop, List.getElem?_drop, List.getElem?_drop, Nat.add_assoc]

theorem reachesBreak_iff :
    reachesBreak text = true ↔
      ∃ stop, (∀ place < stop, CapitalAt text place) ∧ OpensAt text stop := by
  induction text with
  | nil => simp [reachesBreak, OpensAt, CapitalAt]
  | cons c rest ih =>
      have here : OpensAt (c :: rest) 0 ↔
          c.isDigit = true ∨ c.isUpper = true ∧ rest.head?.any Char.isLower = true := by
        simp [OpensAt, CapitalAt, Option.any_eq_true, List.head?_eq_getElem?]
      simp only [reachesBreak, Bool.or_eq_true, Bool.and_eq_true, ih]
      constructor
      · rintro (digit | ⟨capital, small | ⟨stop, capitals, opens⟩⟩)
        · exact ⟨0, by simp, here.mpr (.inl digit)⟩
        · exact ⟨0, by simp, here.mpr (.inr ⟨capital, small⟩)⟩
        · refine ⟨stop + 1, fun place bound => ?_, opens⟩
          cases place with
          | zero => exact ⟨c, rfl, capital⟩
          | succ place => exact capitals place (Nat.lt_of_succ_lt_succ bound)
      · rintro ⟨stop, capitals, opens⟩
        cases stop with
        | zero =>
            rcases here.mp opens with digit | ⟨capital, small⟩
            · exact .inl digit
            · exact .inr ⟨capital, .inl small⟩
        | succ stop =>
            obtain ⟨d, same, capital⟩ := capitals 0 (Nat.succ_pos stop)
            obtain rfl : c = d := Option.some.inj same
            exact .inr ⟨capital, .inr ⟨stop, fun place bound =>
              capitals (place + 1) (Nat.succ_lt_succ bound), opens⟩⟩

theorem meetsBreak_iff_isAcronym :
    MeetsBreak word place ↔ ∃ stop, IsAcronym word place stop := by
  constructor
  · rintro ⟨follows, capital, reaches⟩
    obtain ⟨more, capitals, opens⟩ := reachesBreak_iff.mp reaches
    refine ⟨place + 1 + more, follows, by omega, fun other behind bound => ?_,
      (opensAt_drop ..).mp opens⟩
    rcases Nat.eq_or_lt_of_le behind with rfl | further
    · exact capital
    · obtain ⟨offset, rfl⟩ := Nat.exists_eq_add_of_lt further
      have inside := (capitalAt_drop word (place + 1) offset).mp (capitals offset (by omega))
      rwa [Nat.add_right_comm] at inside
  · rintro ⟨stop, follows, nonempty, capitals, opens⟩
    refine ⟨follows, capitals place (Nat.le_refl _) nonempty, reachesBreak_iff.mpr ?_⟩
    obtain ⟨more, rfl⟩ := Nat.exists_eq_add_of_lt nonempty
    refine ⟨more, fun other bound => (capitalAt_drop ..).mpr (capitals _ (by omega) (by omega)),
      (opensAt_drop ..).mpr ?_⟩
    rwa [Nat.add_right_comm]

theorem IsAcronym.inner (found : IsAcronym word first stop) (behind : first ≤ place)
    (within : place < stop) : IsAcronym word place stop where
  follows := by
    rcases Nat.eq_or_lt_of_le behind with rfl | further
    · exact found.follows
    · exact ⟨place - 1, by omega, found.capitals _ (by omega) (by omega)⟩
  nonempty := within
  capitals other later bound := found.capitals other (by omega) bound
  opens := found.opens

theorem IsAcronym.stop_lt (found : IsAcronym word first stop) : stop < word.length := by
  rcases found.opens with ⟨c, here, _⟩ | ⟨⟨c, here, _⟩, _⟩ <;>
    exact (List.getElem?_eq_some_iff.mp here).1

theorem exists_scan_isAcronym (word : List Char) : ∃ parts, Scan (IsAcronym word) 0 parts := by
  have bounded : ∀ first stop, IsAcronym word first stop → first < stop ∧ stop ≤ word.length :=
    fun _ _ found => ⟨found.nonempty, Nat.le_of_lt found.stop_lt⟩
  exact exists_scan bounded 0

theorem loweredAt_covered {parts : List (Nat × Nat)} (scan : Scan (IsAcronym word) 0 parts) :
    LoweredAt (Covered parts) word (lowerInteriorAcronyms word) := by
  refine (loweredAt_lowerInteriorAcronyms word).congr fun place => ?_
  rw [meetsBreak_iff_isAcronym]
  exact scan.covered_iff (Nat.zero_le place) fun _ _ _ found behind within =>
    found.inner behind within

/-- Of the longest tail of capitals and digits, what comes after its first capital is lowered. Of
each row of capitals the interior pass lowers all but the first letter before a digit, and all but
the first and the last before a lower-case letter. This is also what a scan does that takes the
leftmost acronym, the shortest that begins there, and goes on after it. -/
theorem passes_lower_places (word : List Char) :
    LoweredAt (AfterTailCapital word) word (lowerTrailingAcronym word) ∧
    LoweredAt (InsideRun word) word (lowerInteriorAcronyms word) ∧
    (∃! parts, Scan (IsAcronym word) 0 parts) ∧
    ∀ parts, Scan (IsAcronym word) 0 parts →
      LoweredAt (Covered parts) word (lowerInteriorAcronyms word) := by
  refine ⟨loweredAt_lowerTrailingAcronym word, ?_, ?_, fun _ scan => loweredAt_covered scan⟩
  · exact (loweredAt_lowerInteriorAcronyms word).congr fun _ =>
      ⟨meetsBreak_of_insideRun, insideRun_of_meetsBreak⟩
  · obtain ⟨parts, scan⟩ := exists_scan_isAcronym word
    exact ⟨parts, scan, fun other again => again.unique scan⟩

/-- Two capitals follow the first one, and the last begins a new word. -/
theorem passes_lower_places_beforeWord :
    AfterTailCapital ['G', 'e', 't', 'I', 'D'] 4 ∧
    (lowerTrailingAcronym ['G', 'e', 't', 'I', 'D'])[4]? = some 'd' ∧
    InsideRun ['A', 'B', 'C', 'd'] 1 ∧ Scan (IsAcronym ['A', 'B', 'C', 'd']) 0 [(1, 2)] ∧
    (lowerInteriorAcronyms ['A', 'B', 'C', 'd'])[1]? = some 'b' ∧
    (lowerInteriorAcronyms ['A', 'B', 'C', 'd'])[2]? = some 'C' := by
  have after : AfterTailCapital ['G', 'e', 't', 'I', 'D'] 4 :=
    ⟨['G', 'e', 't'], [], 'I', ['D'], ⟨rfl, by simp [isCapitalOrDigit], by simp [isCapitalOrDigit]⟩,
      by simp, rfl, by decide⟩
  have inside : InsideRun ['A', 'B', 'C', 'd'] 1 :=
    ⟨[], ['A', 'B', 'C'], ['d'], ⟨rfl, by simp, by simp, by simp, by simp⟩, by decide,
      .inr ⟨⟨'d', rfl, rfl⟩, by decide⟩⟩
  have acronym : IsAcronym ['A', 'B', 'C', 'd'] 1 2 := by
    refine ⟨⟨0, rfl, 'A', rfl, by decide⟩, by decide, fun place behind within => ?_,
      .inr ⟨⟨'C', rfl, by decide⟩, 'd', rfl, by decide⟩⟩
    obtain rfl : place = 1 := by omega
    exact ⟨'B', rfl, by decide⟩
  have scan : Scan (IsAcronym ['A', 'B', 'C', 'd']) 0 [(1, 2)] := by
    refine .next ⟨acronym, by decide, fun other later _ found => ?_, fun other found => ?_⟩
      (.done fun first stop behind found => ?_)
    · obtain ⟨earlier, rfl, _⟩ := found.follows
      omega
    · exact found.nonempty
    · have short : stop < 4 := found.stop_lt
      have ordered := found.nonempty
      obtain rfl : stop = 3 := by omega
      rcases found.opens with ⟨c, here, digit⟩ | ⟨⟨c, here, capital⟩, _⟩ <;>
        obtain rfl : 'd' = c := Option.some.inj here
      · exact absurd digit (by decide)
      · exact absurd capital (by decide)
  obtain ⟨tail, interior, _, scanned⟩ := passes_lower_places ['A', 'B', 'C', 'd']
  have uncovered : ¬ Covered [(1, 2)] 2 := by simp [Covered]
  exact ⟨after, (passes_lower_places ['G', 'e', 't', 'I', 'D']).1.inside 4 after, inside, scan,
    interior.inside 1 inside, (scanned _ scan).outside 2 uncovered⟩

end NativeInterop.Identifier
