import Mathlib.Data.List.Infix
import Mathlib.Data.List.TakeWhile

namespace NativeInterop.Text

/-! Patterns with groups, matched by backtracking. Each way to match is a member of a list, the
preferred ways first, so a search that backtracks finds the first member. -/

inductive Pattern
  | word (expected : List Char)
  | char (accepts : Char → Bool)
  /-- A row of characters, preferably a long one. -/
  | most (accepts : Char → Bool)
  /-- A row of characters, preferably a short one. -/
  | least (accepts : Char → Bool)
  | sequence (first second : Pattern)
  | either (first second : Pattern)
  | group (body : Pattern)

/-- The rows of accepted characters at the beginning of a text, each with the rest of the text. The
shortest comes first. -/
def rows (accepts : Char → Bool) : List Char → List (List Char × List Char)
  | [] => [([], [])]
  | c :: rest =>
      ([], c :: rest) ::
        if accepts c then (rows accepts rest).map fun (row, after) => (c :: row, after) else []

namespace Pattern

/-- A way to match. The groups stand in the order in which they open. -/
structure Attempt where
  matched : List Char
  groups : List (List Char)
  rest : List Char

def attempts : Pattern → List Char → List Attempt
  | word expected, text =>
      if expected.isPrefixOf text then [⟨expected, [], text.drop expected.length⟩] else []
  | char _, [] => []
  | char accepts, c :: rest => if accepts c then [⟨[c], [], rest⟩] else []
  | most accepts, text => (rows accepts text).reverse.map fun (row, rest) => ⟨row, [], rest⟩
  | least accepts, text => (rows accepts text).map fun (row, rest) => ⟨row, [], rest⟩
  | sequence first second, text =>
      (first.attempts text).flatMap fun before =>
        (second.attempts before.rest).map fun after =>
          ⟨before.matched ++ after.matched, before.groups ++ after.groups, after.rest⟩
  | either first second, text => first.attempts text ++ second.attempts text
  | group body, text =>
      (body.attempts text).map fun inner => { inner with groups := inner.matched :: inner.groups }

/-- The groups of the preferred way to match at the beginning of the text. -/
def groups? (pattern : Pattern) (text : List Char) : Option (List (List Char)) :=
  (pattern.attempts text).head?.map Attempt.groups

/-- The groups of the preferred way to match at the first place of the text where there is one. -/
def search? (pattern : Pattern) : List Char → Option (List (List Char))
  | [] => pattern.groups? []
  | c :: rest => (pattern.groups? (c :: rest)).or (pattern.search? rest)

end Pattern

/-! ### Rows -/

variable {accepts : Char → Bool} {text row after : List Char}

theorem takeWhile_append_stop (inside : ∀ c ∈ row, accepts c = true)
    (stop : ∀ c ∈ after.head?, accepts c = false) : (row ++ after).takeWhile accepts = row := by
  rw [List.takeWhile_append_of_pos inside]
  cases after with
  | nil => simp
  | cons c rest => simp [stop c rfl]

theorem dropWhile_append_stop (inside : ∀ c ∈ row, accepts c = true)
    (stop : ∀ c ∈ after.head?, accepts c = false) : (row ++ after).dropWhile accepts = after := by
  rw [List.dropWhile_append_of_pos inside]
  cases after with
  | nil => simp
  | cons c rest => simp [stop c rfl]

theorem dropWhile_append_of_ne_nil (stopped : text.dropWhile accepts ≠ [])
    (after : List Char) : (text ++ after).dropWhile accepts = text.dropWhile accepts ++ after := by
  rw [List.dropWhile_append, if_neg (by simpa using stopped)]

theorem takeWhile_append_of_ne_nil (stopped : text.dropWhile accepts ≠ [])
    (after : List Char) : (text ++ after).takeWhile accepts = text.takeWhile accepts := by
  rw [List.takeWhile_append, if_neg]
  intro full
  have whole := (List.takeWhile_prefix accepts).eq_of_length full
  exact stopped (List.dropWhile_eq_nil_iff.mpr (List.takeWhile_eq_self_iff.mp whole))

theorem takeWhile_append_of_stop (stop : ∀ c ∈ after.head?, accepts c = false)
    (text : List Char) : (text ++ after).takeWhile accepts = text.takeWhile accepts := by
  by_cases through : text.dropWhile accepts = []
  · have inside := List.dropWhile_eq_nil_iff.mp through
    rw [takeWhile_append_stop inside stop, List.takeWhile_eq_self_iff.mpr inside]
  · exact takeWhile_append_of_ne_nil through after

theorem dropWhile_append_of_stop (stop : ∀ c ∈ after.head?, accepts c = false)
    (text : List Char) : (text ++ after).dropWhile accepts = text.dropWhile accepts ++ after := by
  by_cases through : text.dropWhile accepts = []
  · rw [dropWhile_append_stop (List.dropWhile_eq_nil_iff.mp through) stop, through, List.nil_append]
  · exact dropWhile_append_of_ne_nil through after

theorem mem_rows_iff :
    (row, after) ∈ rows accepts text ↔ text = row ++ after ∧ ∀ c ∈ row, accepts c = true := by
  induction text generalizing row with
  | nil => cases row <;> simp [rows]
  | cons c rest ih =>
      cases row with
      | nil =>
          have longer : ([], after) ∉ (rows accepts rest).map fun (row, after) =>
              (c :: row, after) := by simp
          cases accepted : accepts c <;> simp only [rows, accepted] <;> grind
      | cons d row =>
          rw [List.cons_append, List.cons.injEq, List.forall_mem_cons]
          cases accepted : accepts c with
          | false =>
              simp only [rows, accepted]
              grind
          | true =>
              simp only [rows, accepted, if_true, List.mem_cons, List.mem_map, Prod.mk.injEq,
                List.cons.injEq, Prod.exists]
              grind

/-- After a row that is not the longest comes another accepted character. -/
theorem mem_rows_cases (member : (row, after) ∈ rows accepts text) :
    row = text.takeWhile accepts ∧ after = text.dropWhile accepts ∨
      ∃ c ∈ after.head?, accepts c = true := by
  obtain ⟨rfl, inside⟩ := mem_rows_iff.mp member
  by_cases goesOn : ∃ c ∈ after.head?, accepts c = true
  · exact .inr goesOn
  · have stop : ∀ c ∈ after.head?, accepts c = false := by simpa using goesOn
    exact .inl ⟨(takeWhile_append_stop inside stop).symm, (dropWhile_append_stop inside stop).symm⟩

/-- The longest row is what comes before the first character that is not accepted. -/
theorem rows_reverse_eq_cons (accepts : Char → Bool) (text : List Char) :
    ∃ shorter, (rows accepts text).reverse =
      (text.takeWhile accepts, text.dropWhile accepts) :: shorter := by
  induction text with
  | nil => exact ⟨[], rfl⟩
  | cons c rest ih =>
      obtain ⟨shorter, longest⟩ := ih
      by_cases accepted : accepts c = true
      · simp [rows, accepted, ← List.map_reverse, longest]
      · simp [rows, accepted]

theorem findSome?_rows_reverse_cons {α : Type} (choose? : List Char × List Char → Option α)
    (c : Char) (rest : List Char) :
    (rows accepts (c :: rest)).reverse.findSome? choose? =
      (if accepts c then
        (rows accepts rest).reverse.findSome? fun (row, after) => choose? (c :: row, after)
      else none).or (choose? ([], c :: rest)) := by
  rw [rows, List.reverse_cons, List.findSome?_append, List.findSome?_singleton]
  split
  · rw [← List.map_reverse, List.findSome?_map]
    rfl
  · rfl

/-- Backtracking from the longest row gains nothing where no shorter row does better. -/
theorem findSome?_rows_reverse {α : Type} (choose? : List Char × List Char → Option α)
    (longest : choose? (text.takeWhile accepts, text.dropWhile accepts) = none →
      ∀ choice ∈ rows accepts text, choose? choice = none) :
    (rows accepts text).reverse.findSome? choose? =
      choose? (text.takeWhile accepts, text.dropWhile accepts) := by
  obtain ⟨shorter, order⟩ := rows_reverse_eq_cons accepts text
  rw [order, List.findSome?_cons]
  cases found : choose? (text.takeWhile accepts, text.dropWhile accepts) with
  | some value => rfl
  | none =>
      refine List.findSome?_eq_none_iff.mpr fun choice member => longest found choice ?_
      rw [← List.mem_reverse, order]
      exact List.mem_cons_of_mem _ member

namespace Pattern

/-! ### Attempts by the form of the pattern -/

theorem attempts_word (expected text : List Char) : (word expected).attempts text =
    if expected.isPrefixOf text then [⟨expected, [], text.drop expected.length⟩] else [] := rfl

theorem attempts_char (accepts : Char → Bool) (c : Char) (rest : List Char) :
    (char accepts).attempts (c :: rest) = if accepts c then [⟨[c], [], rest⟩] else [] := rfl

theorem attempts_most (accepts : Char → Bool) (text : List Char) :
    (most accepts).attempts text =
      (rows accepts text).reverse.map fun (row, rest) => ⟨row, [], rest⟩ := rfl

theorem attempts_least (accepts : Char → Bool) (text : List Char) :
    (least accepts).attempts text =
      (rows accepts text).map fun (row, rest) => ⟨row, [], rest⟩ := rfl

theorem attempts_sequence (first second : Pattern) (text : List Char) :
    (sequence first second).attempts text =
      (first.attempts text).flatMap fun before =>
        (second.attempts before.rest).map fun after =>
          ⟨before.matched ++ after.matched, before.groups ++ after.groups, after.rest⟩ := rfl

theorem attempts_either (first second : Pattern) (text : List Char) :
    (either first second).attempts text = first.attempts text ++ second.attempts text := rfl

theorem attempts_group (body : Pattern) (text : List Char) :
    (group body).attempts text = (body.attempts text).map fun inner =>
      { inner with groups := inner.matched :: inner.groups } := rfl

/-! ### Groups of a sequence -/

theorem groups?_sequence (first second : Pattern) (text : List Char) :
    (sequence first second).groups? text =
      (first.attempts text).findSome? fun before =>
        (second.groups? before.rest).map (before.groups ++ ·) := by
  simp only [groups?, attempts_sequence, List.head?_flatMap, List.map_findSome?, List.head?_map]
  congr 1
  funext before
  rw [Function.comp_apply]
  cases (second.attempts before.rest).head? <;> rfl

theorem groups?_word (expected text : List Char) :
    (word expected).groups? text = if expected.isPrefixOf text then some [] else none := by
  rw [groups?, attempts_word]
  split <;> rfl

theorem groups?_either (first second : Pattern) (text : List Char) :
    (either first second).groups? text = (first.groups? text).or (second.groups? text) := by
  simp only [groups?, attempts_either, List.head?_append]
  cases (first.attempts text).head? <;> rfl

theorem groups?_word_sequence (expected : List Char) (second : Pattern) (text : List Char) :
    (sequence (word expected) second).groups? text =
      if expected.isPrefixOf text then second.groups? (text.drop expected.length) else none := by
  rw [groups?_sequence, attempts_word]
  split
  · simp
  · rfl

theorem groups?_char_sequence (accepts : Char → Bool) (second : Pattern) (c : Char)
    (rest : List Char) :
    (sequence (char accepts) second).groups? (c :: rest) =
      if accepts c then second.groups? rest else none := by
  rw [groups?_sequence, attempts_char]
  split
  · simp
  · rfl

theorem groups?_least_sequence (accepts : Char → Bool) (second : Pattern) (text : List Char) :
    (sequence (least accepts) second).groups? text =
      (rows accepts text).findSome? fun choice => second.groups? choice.2 := by
  rw [groups?_sequence, attempts_least, List.findSome?_map]
  simp [Function.comp_def]

theorem groups?_least_sequence_cons (accepts : Char → Bool) (second : Pattern) (c : Char)
    (rest : List Char) :
    (sequence (least accepts) second).groups? (c :: rest) =
      (second.groups? (c :: rest)).or
        (if accepts c then (sequence (least accepts) second).groups? rest else none) := by
  rw [groups?_least_sequence, groups?_least_sequence, rows, List.findSome?_cons]
  split
  · rename_i groups found
    simp [found]
  · rename_i missing
    rw [missing, Option.none_or]
    split
    · rw [List.findSome?_map]
      rfl
    · rfl

theorem groups?_most_sequence (accepts : Char → Bool) (second : Pattern) (text : List Char) :
    (sequence (group (most accepts)) second).groups? text =
      (rows accepts text).reverse.findSome? fun (row, after) =>
        (second.groups? after).map (row :: ·) := by
  rw [groups?_sequence, attempts_group, attempts_most, List.map_map, List.findSome?_map]
  rfl

theorem groups?_charMost_sequence (first accepts : Char → Bool) (second : Pattern) (c : Char)
    (rest : List Char) :
    (sequence (group (sequence (char first) (most accepts))) second).groups? (c :: rest) =
      if first c then
        (rows accepts rest).reverse.findSome? fun (row, after) =>
          (second.groups? after).map ((c :: row) :: ·)
      else none := by
  rw [groups?_sequence, attempts_group, attempts_sequence, attempts_char]
  split
  · simp [attempts_most, -List.map_reverse, List.findSome?_map, Function.comp_def]
  · rfl

end Pattern

end NativeInterop.Text
