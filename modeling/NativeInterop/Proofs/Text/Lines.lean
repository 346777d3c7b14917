import Mathlib.Data.List.Basic
import NativeInterop.Text.Basic

namespace NativeInterop.Text

/-! Cutting a text into lines at a line feed cuts each part for itself. -/

variable {text before : List Char}

/-- The text stops where a line stops. -/
def EndsLine (text : List Char) : Prop :=
  text = [] ∨ text.getLast? = some '\n'

theorem EndsLine.of_cons {c : Char} (ended : EndsLine (c :: text)) : EndsLine text := by
  cases text with
  | nil => exact .inl rfl
  | cons d rest =>
      rcases ended with empty | last
      · simp at empty
      · rw [List.getLast?_cons_cons] at last
        exact .inr last

theorem lines_ne_nil {c : Char} (rest : List Char) : lines (c :: rest) ≠ [] := by
  unfold lines
  split
  · contradiction
  · simp
  · simp
  · split <;> simp

/-- After a character that ends no line the line goes on. -/
theorem EndsLine.lines_ne_nil {c : Char} (ended : EndsLine (c :: text)) (joins : c ≠ '\n') :
    lines text ≠ [] := by
  cases text with
  | nil => exact absurd (by simpa [EndsLine] using ended) joins
  | cons d rest => exact Text.lines_ne_nil rest

theorem lines_cons {c : Char} (joins : c ≠ '\n') (apart : c = '\r' → text.head? ≠ some '\n') :
    lines (c :: text) = (c :: (lines text).headD []) :: (lines text).tail := by
  rw [lines]
  · cases lines text <;> rfl
  · exact joins
  · rintro rest rfl rfl
    exact apart rfl rfl

theorem lines_append (ended : EndsLine before) (text : List Char) :
    lines (before ++ text) = lines before ++ lines text := by
  fun_induction lines before with
  | case1 => rfl
  | case2 rest ih => exact congrArg ([] :: ·) (ih ended.of_cons)
  | case3 rest ih => exact congrArg ([] :: ·) (ih ended.of_cons.of_cons)
  | case4 c rest joins apart cut ih => exact absurd cut (ended.lines_ne_nil joins)
  | case5 c rest joins apart first others cut ih =>
      have later := ih ended.of_cons
      -- The cut comes after a line feed, so it parts no carriage return from one.
      have apartWhole : c = '\r' → (rest ++ text).head? ≠ some '\n' := by
        rintro rfl
        cases rest with
        | nil => simp [lines] at cut
        | cons d rest =>
            rintro feed
            obtain rfl : d = '\n' := Option.some.inj feed
            exact apart rest rfl rfl
      rw [List.cons_append, lines_cons joins apartWhole, later, cut]
      rfl

theorem length_lines_of_endsLine (ended : EndsLine text) :
    (lines text).length = text.count '\n' := by
  fun_induction lines text with
  | case1 => rfl
  | case2 rest ih => simp [ih ended.of_cons]
  | case3 rest ih => simp [ih ended.of_cons.of_cons]
  | case4 c rest joins apart cut ih => exact absurd cut (ended.lines_ne_nil joins)
  | case5 c rest joins apart first others cut ih =>
      have feeds := ih ended.of_cons
      rw [cut] at feeds
      rw [List.count_cons_of_ne joins, ← feeds]
      rfl

/-- A line feed ends the line before it, which keeps all but a carriage return at its end. -/
theorem lines_append_feed (unbroken : '\n' ∉ before) (plain : before.getLast? ≠ some '\r')
    (text : List Char) : lines (before ++ '\n' :: text) = before :: lines text := by
  induction before with
  | nil => rw [List.nil_append, lines]
  | cons c rest ih =>
      obtain ⟨joins, restUnbroken⟩ := List.ne_and_not_mem_of_not_mem_cons unbroken
      have apart : c = '\r' → (rest ++ '\n' :: text).head? ≠ some '\n' := by
        rintro rfl
        cases rest with
        | nil => exact absurd rfl plain
        | cons d rest =>
            rintro feed
            obtain rfl : d = '\n' := Option.some.inj feed
            exact restUnbroken List.mem_cons_self
      have restPlain : rest.getLast? ≠ some '\r' := by
        cases rest with
        | nil => simp
        | cons d rest => rwa [List.getLast?_cons_cons] at plain
      rw [List.cons_append, lines_cons (Ne.symm joins) apart, ih restUnbroken restPlain]
      rfl

theorem endsLine_append_feed (before : List Char) : EndsLine (before ++ ['\n']) :=
  .inr List.getLast?_concat

theorem EndsLine.append (first : EndsLine before) (second : EndsLine text) :
    EndsLine (before ++ text) := by
  rcases second with rfl | last
  · rwa [List.append_nil]
  · exact .inr (by rw [List.getLast?_append, last]; rfl)

/-- Whatever its end is like, a line without a line feed is one line. -/
theorem exists_lines_eq_singleton (unbroken : '\n' ∉ before) :
    ∃ line, lines (before ++ ['\n']) = [line] := by
  have one := length_lines_of_endsLine (endsLine_append_feed before)
  rw [List.count_append, List.count_eq_zero_of_not_mem unbroken] at one
  exact List.length_eq_one_iff.mp one

/-! ### Lines that are joined -/

theorem feed_notMem_of_mem_lines {line : List Char} (member : line ∈ lines text) : '\n' ∉ line := by
  fun_induction lines text generalizing line with
  | case1 => simp at member
  | case2 rest ih =>
      rcases List.mem_cons.mp member with rfl | later
      · simp
      · exact ih later
  | case3 rest ih =>
      rcases List.mem_cons.mp member with rfl | later
      · simp
      · exact ih later
  | case4 c rest joins apart cut ih =>
      obtain rfl := List.mem_singleton.mp member
      simpa using Ne.symm joins
  | case5 c rest joins apart first others cut ih =>
      rcases List.mem_cons.mp member with rfl | later
      · have inside : '\n' ∉ first := ih (by simp [cut])
        rw [List.mem_cons, not_or]
        exact ⟨Ne.symm joins, inside⟩
      · exact ih (by simp [cut, later])

/-- The carriage return before a line feed goes with it. -/
theorem lines_append_return_feed (unbroken : '\n' ∉ before) (text : List Char) :
    lines (before ++ '\r' :: '\n' :: text) = before :: lines text := by
  induction before with
  | nil => rw [List.nil_append, lines]
  | cons c rest ih =>
      obtain ⟨joins, restUnbroken⟩ := List.ne_and_not_mem_of_not_mem_cons unbroken
      have apart : c = '\r' → (rest ++ '\r' :: '\n' :: text).head? ≠ some '\n' := by
        rintro -
        cases rest with
        | nil => simp
        | cons d rest =>
            rintro feed
            obtain rfl : d = '\n' := Option.some.inj feed
            exact restUnbroken List.mem_cons_self
      rw [List.cons_append, lines_cons (Ne.symm joins) apart, ih restUnbroken]
      rfl

theorem lines_of_unbroken (nonempty : text ≠ []) (unbroken : '\n' ∉ text) : lines text = [text] := by
  induction text with
  | nil => contradiction
  | cons c rest ih =>
      obtain ⟨joins, restUnbroken⟩ := List.ne_and_not_mem_of_not_mem_cons unbroken
      have apart : c = '\r' → rest.head? ≠ some '\n' := fun _ head =>
        restUnbroken (List.mem_of_mem_head? head)
      rw [lines_cons (Ne.symm joins) apart]
      cases rest with
      | nil => rfl
      | cons d rest => rw [ih (by simp) restUnbroken]; rfl

theorem lines_intercalate {rows : List (List Char)} (nonempty : ∀ row ∈ rows, row ≠ [])
    (unbroken : ∀ row ∈ rows, '\n' ∉ row)
    (plain : ∀ row ∈ rows.dropLast, row.getLast? ≠ some '\r') :
    lines (List.intercalate ['\n'] rows) = rows := by
  induction rows with
  | nil => rfl
  | cons row rows ih =>
      rw [List.forall_mem_cons] at nonempty unbroken
      cases rows with
      | nil =>
          rw [List.intercalate_singleton]
          exact lines_of_unbroken nonempty.1 unbroken.1
      | cons next later =>
          rw [List.dropLast_cons_cons, List.forall_mem_cons] at plain
          rw [List.intercalate_cons_cons, List.append_assoc, List.singleton_append,
            lines_append_feed unbroken.1 plain.1, ih nonempty.2 unbroken.2 plain.2]

theorem plain_of_lines_intercalate {rows : List (List Char)} (unbroken : ∀ row ∈ rows, '\n' ∉ row)
    (same : lines (List.intercalate ['\n'] rows) = rows) :
    ∀ row ∈ rows.dropLast, row.getLast? ≠ some '\r' := by
  induction rows with
  | nil => simp
  | cons row rows ih =>
      rw [List.forall_mem_cons] at unbroken
      cases rows with
      | nil => simp
      | cons next later =>
          rw [List.intercalate_cons_cons, List.append_assoc, List.singleton_append] at same
          have plain : row.getLast? ≠ some '\r' := by
            intro last
            obtain ⟨init, rfl⟩ := List.getLast?_eq_some_iff.mp last
            rw [List.append_assoc, List.singleton_append,
              lines_append_return_feed fun feed => unbroken.1 (List.mem_append_left _ feed)] at same
            simpa using (List.cons.inj same).1
          rw [lines_append_feed unbroken.1 plain] at same
          rw [List.dropLast_cons_cons, List.forall_mem_cons]
          exact ⟨plain, ih unbroken.2 (List.cons.inj same).2⟩

/-- Rows that are joined by line feeds are found again just when none holds a line feed and none
before the last ends in a carriage return. -/
theorem lines_intercalate_iff {rows : List (List Char)} (nonempty : ∀ row ∈ rows, row ≠ []) :
    lines (List.intercalate ['\n'] rows) = rows ↔
      (∀ row ∈ rows, '\n' ∉ row) ∧ ∀ row ∈ rows.dropLast, row.getLast? ≠ some '\r' := by
  constructor
  · intro same
    have unbroken : ∀ row ∈ rows, '\n' ∉ row := by
      intro row member
      rw [← same] at member
      exact feed_notMem_of_mem_lines member
    exact ⟨unbroken, plain_of_lines_intercalate unbroken same⟩
  · rintro ⟨unbroken, plain⟩
    exact lines_intercalate nonempty unbroken plain

end NativeInterop.Text
