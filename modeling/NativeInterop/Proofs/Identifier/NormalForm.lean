import Mathlib.Data.List.DropRight
import NativeInterop.Proofs.Identifier.Settling

namespace NativeInterop.Identifier

/-! The shape of canonical forms. Every canonical form has it, and a word that has it is the
canonical form of itself: in its rows of capitals only the last letter can begin a word, and only
the one before it can be a word. -/

variable {word text before run after : List Char} {afterCapital : Bool}

/-! ### Letters after digits -/

theorem raised_false_iff :
    Raised false word ↔ ∀ d c, [d, c] <:+: word → d.isDigit = true → c.isLower = false := by
  induction word with
  | nil => simp [Raised]
  | cons x rest ih =>
      have next : ∀ c, [c] <+: rest ↔ c ∈ rest.head? := by
        intro c
        cases rest <;> simp [List.cons_prefix_cons, eq_comm]
      rw [Raised, raised_iff, ih]
      constructor
      · rintro ⟨_, first, later⟩ d c pair digit
        rcases List.infix_cons_iff.mp pair with begins | inside
        · obtain ⟨rfl, follows⟩ := List.cons_prefix_cons.mp begins
          exact first digit c ((next c).mp follows)
        · exact later d c inside digit
      · intro apart
        refine ⟨by simp, fun digit c follows => ?_, fun d c inside digit => ?_⟩
        · have begins : [x, c] <+: x :: rest :=
            List.cons_prefix_cons.mpr ⟨rfl, (next c).mpr follows⟩
          exact apart x c (List.infix_cons_iff.mpr (.inl begins)) digit
        · exact apart d c (List.infix_cons_iff.mpr (.inr inside)) digit

/-! ### Rows of capitals -/

/-- A row of capitals in a word that goes on to neither side. -/
structure CapitalRun (word before run after : List Char) : Prop where
  whole : word = before ++ run ++ after
  nonempty : run ≠ []
  capitals : ∀ c ∈ run, c.isUpper = true
  begins : ∀ c ∈ before.getLast?, c.isUpper = false
  ends : ∀ c ∈ after.head?, c.isUpper = false

theorem exists_capitalRun (whole : word = before ++ run ++ after) (nonempty : run ≠ [])
    (capitals : ∀ c ∈ run, c.isUpper = true) :
    ∃ left right earlier later, before = earlier ++ left ∧ after = right ++ later ∧
      CapitalRun word earlier (left ++ run ++ right) later := by
  refine ⟨before.rtakeWhile Char.isUpper, after.takeWhile Char.isUpper,
    before.rdropWhile Char.isUpper, after.dropWhile Char.isUpper,
    List.rdropWhile_append_rtakeWhile.symm, List.takeWhile_append_dropWhile.symm, ?_⟩
  refine ⟨?_, by simp [nonempty], ?_, ?_, ?_⟩
  · calc word = before ++ run ++ after := whole
      _ = (before.rdropWhile Char.isUpper ++ before.rtakeWhile Char.isUpper) ++ run ++
          (after.takeWhile Char.isUpper ++ after.dropWhile Char.isUpper) := by
        rw [List.rdropWhile_append_rtakeWhile, List.takeWhile_append_dropWhile]
      _ = _ := by simp only [List.append_assoc]
  · intro c member
    rcases List.mem_append.mp member with member | right
    · rcases List.mem_append.mp member with left | middle
      · exact List.mem_rtakeWhile_imp left
      · exact capitals c middle
    · exact List.mem_takeWhile_imp right
  · intro c last
    obtain ⟨inside, rfl⟩ := List.mem_getLast?_eq_getLast last
    simpa using List.rdropWhile_last_not Char.isUpper before inside
  · intro c first
    have stops := List.head?_dropWhile_not Char.isUpper after
    rw [Option.mem_def.mp first] at stops
    exact stops

theorem paired_iff :
    Paired afterCapital text ↔
      (afterCapital = true → ∀ c rest, text = c :: rest → c.isUpper = true →
        ∃ next ∈ rest.head?, next.isLower = true) ∧ Paired false text := by
  cases text <;> simp [Paired, Option.any_eq_true]

/-- A word is paired if each two capitals that stand together come before a lower-case letter. -/
theorem paired_false_iff :
    Paired false word ↔
      ∀ before c d after, word = before ++ c :: d :: after → c.isUpper = true →
        d.isUpper = true → ∃ next ∈ after.head?, next.isLower = true := by
  induction word with
  | nil => simp [Paired]
  | cons x rest ih =>
      rw [Paired, paired_iff, ih]
      constructor
      · rintro ⟨_, first, later⟩ before c d after whole upper
        cases before with
        | nil =>
            obtain ⟨rfl, tail⟩ := List.cons_eq_cons.mp whole
            exact first upper d after tail
        | cons y before =>
            obtain ⟨rfl, tail⟩ := List.cons_eq_cons.mp whole
            exact later before c d after tail upper
      · intro pairs
        refine ⟨by simp, fun upper d after tail => ?_, fun before c d after tail => ?_⟩
        · exact pairs [] x d after (congrArg (x :: ·) tail) upper
        · exact pairs (x :: before) c d after (congrArg (x :: ·) tail)

/-- A row of capitals is one word's beginning, or that of a word after a word of one letter. -/
def ShortRun (run after : List Char) : Prop :=
  run.length = 1 ∨ run.length = 2 ∧ ∃ c ∈ after.head?, c.isLower = true

theorem shortRun_of_paired (paired : Paired false word) (found : CapitalRun word before run after) :
    ShortRun run after := by
  have pairs := paired_false_iff.mp paired
  obtain ⟨whole, nonempty, capitals, _, _⟩ := found
  match run, nonempty with
  | [c], _ => exact .inl rfl
  | [c, d], _ =>
      have split : word = before ++ c :: d :: after := by simpa using whole
      exact .inr ⟨rfl, pairs before c d after split (capitals c (by simp)) (capitals d (by simp))⟩
  | c :: d :: e :: others, _ =>
      -- The third capital would have to be a lower-case letter.
      have split : word = before ++ c :: d :: (e :: others ++ after) := by simpa using whole
      obtain ⟨next, follows, small⟩ :=
        pairs before c d _ split (capitals c (by simp)) (capitals d (by simp))
      obtain rfl : e = next := Option.some.inj follows
      have upper := capitals e (by simp)
      rw [isUpper_of_isLower small] at upper
      exact absurd upper (by decide)

theorem paired_of_shortRun
    (short : ∀ before run after, CapitalRun word before run after → ShortRun run after) :
    Paired false word := by
  refine paired_false_iff.mpr fun before c d after whole first second => ?_
  have split : word = before ++ [c, d] ++ after := by simpa using whole
  obtain ⟨left, right, earlier, later, _, rightOf, found⟩ :=
    exists_capitalRun split (by simp) (by simp [first, second])
  -- The two capitals are a part of a row of at most two letters, so they are all of it.
  rcases short _ _ _ found with single | ⟨double, follows⟩
  · simp only [List.length_append, List.length_cons, List.length_nil] at single
    omega
  · have nothing : right = [] := by
      simp only [List.length_append, List.length_cons, List.length_nil] at double
      exact List.length_eq_zero_iff.mp (by omega)
    rw [rightOf, nothing]
    exact follows

/-! ### The shape -/

structure CanonicalShape (word : List Char) : Prop where
  letters : IsWord word
  leading : ∀ c ∈ word.head?, c.isLower = false
  raised : ∀ d c, [d, c] <:+: word → d.isDigit = true → c.isLower = false
  runs : ∀ before run after, CapitalRun word before run after → ShortRun run after

theorem canonicalShape_canonical (raw : List Char) : CanonicalShape (canonical raw) where
  letters := isWord_canonical raw
  leading := leading_canonical raw
  raised := raised_false_iff.mp (settled_canonical raw).1
  runs := fun _ _ _ found => shortRun_of_paired (settled_canonical raw).2 found

theorem CanonicalShape.settled (shape : CanonicalShape word) : Settled word :=
  ⟨raised_false_iff.mpr shape.raised, paired_of_shortRun shape.runs⟩

theorem CanonicalShape.canonical_eq_self (shape : CanonicalShape word) :
    canonical word = word := by
  rw [canonical_eq_recase, joinWords_eq_self shape.letters shape.leading shape.settled,
    recase_eq_self shape.settled]

/-- The canonical forms are the words of canonical shape. So none has three capitals together, nor
two before a digit or at its end. -/
theorem exists_canonical_iff_shape :
    (∀ word, (∃ raw, canonical raw = word) ↔ CanonicalShape word) ∧
    (∀ raw a b c, [a, b, c] <:+: canonical raw → a.isUpper = true → b.isUpper = true →
      c.isUpper = false ∧ c.isDigit = false) ∧
    ∀ raw a b, [a, b] <:+ canonical raw → a.isUpper = true → b.isUpper = false := by
  have pairs (raw : List Char) := paired_false_iff.mp (settled_canonical raw).2
  refine ⟨fun word => ⟨?_, fun shape => ⟨word, shape.canonical_eq_self⟩⟩, ?_, ?_⟩
  · rintro ⟨raw, rfl⟩
    exact canonicalShape_canonical raw
  · rintro raw a b c ⟨before, after, whole⟩ first second
    have split : canonical raw = before ++ a :: b :: (c :: after) := by simp [← whole]
    obtain ⟨next, follows, small⟩ := pairs raw before a b _ split first second
    obtain rfl : c = next := Option.some.inj follows
    exact ⟨isUpper_of_isLower small, isDigit_of_isLower small⟩
  · rintro raw a b ⟨before, whole⟩ first
    cases second : b.isUpper with
    | false => rfl
    | true =>
        obtain ⟨next, follows, _⟩ := pairs raw before a b [] whole.symm first second
        simp at follows

/-- A word of one letter leaves two capitals together, and a lower-case letter follows them. -/
theorem exists_canonical_iff_shape_oneLetterWord :
    canonical "a_box_ok".toList = "ABoxOk".toList ∧ CanonicalShape "ABoxOk".toList ∧
      ['A', 'B', 'o'] <:+: canonical "a_box_ok".toList ∧ 'o'.isUpper = false ∧
      ['O', 'k'] <:+ canonical "a_box_ok".toList ∧ 'k'.isUpper = false := by
  have form : canonical "a_box_ok".toList = "ABoxOk".toList := by
    rw [canonical_eq_recase, joinWords]
    simp only [recase_eq]
    decide
  have three : ['A', 'B', 'o'] <:+: canonical "a_box_ok".toList := by
    rw [form]
    decide
  have last : ['O', 'k'] <:+ canonical "a_box_ok".toList := by
    rw [form]
    decide
  obtain ⟨shapes, capitals, ends⟩ := exists_canonical_iff_shape
  exact ⟨form, (shapes _).mp ⟨_, form⟩, three, (capitals _ _ _ _ three rfl rfl).1, last,
    ends _ _ _ last rfl⟩

end NativeInterop.Identifier
