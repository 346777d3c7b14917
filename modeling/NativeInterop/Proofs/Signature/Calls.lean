import Mathlib
import NativeInterop.Proofs.Signature.Lexing

namespace NativeInterop.Signature

/-! Calls on a cursor, in any order. Both ways to take a type move the same cursor, but only one of
them heeds an earlier failure, and a copy can be drained at any time. Through all of this the text
before the cursor is what writing the types that were taken produces. -/

namespace Cursor

open Text

variable {cursor after : Cursor} {error : UnrecognizedCode}

inductive Call
  | nextType
  | next
  | drainCopy
  deriving DecidableEq

/-- What a call gives, and the cursor after it. -/
def perform (cursor : Cursor) : Call → List Step × Cursor
  | .nextType => (cursor.nextType.1.toList, cursor.nextType.2)
  | .next => (cursor.next.1.toList, cursor.next.2)
  | .drainCopy => (cursor.drain.1, cursor)

/-- What each of some calls gives, and the cursor after all of them. -/
def performAll (cursor : Cursor) : List Call → List (Call × List Step) × Cursor
  | [] => ([], cursor)
  | call :: later =>
      let first := cursor.perform call
      ((call, first.1) :: (first.2.performAll later).1, (first.2.performAll later).2)

/-- The types that an answer takes from the cursor itself. -/
def taken : Call × List Step → List NativeType
  | (.drainCopy, _) => []
  | (_, steps) => steps.filterMap Except.toOption

/-! ### One call -/

/-- The types were taken between the two cursors, and nothing else was passed over. -/
structure Passes (cursor : Cursor) (types : List NativeType) (after : Cursor) : Prop where
  rest : cursor.rest = encodeTypes types ++ after.rest
  position : after.position = cursor.position + (encodeTypes types).length

theorem Passes.refl (cursor : Cursor) : Passes cursor [] cursor :=
  ⟨rfl, rfl⟩

theorem Passes.trans {middle : Cursor} {types later : List NativeType}
    (first : Passes cursor types middle) (second : Passes middle later after) :
    Passes cursor (types ++ later) after where
  rest := by rw [first.rest, second.rest, encodeTypes_append, List.append_assoc]
  position := by
    rw [second.position, first.position, encodeTypes_append, List.length_append, Nat.add_assoc]

theorem passes_nextType (cursor : Cursor) :
    Passes cursor (taken (.nextType, cursor.nextType.1.toList)) cursor.nextType.2 := by
  rcases nextType_cases cursor with ⟨_, stays⟩ | ⟨type, rest, starts, moves⟩ |
    ⟨_, _, _, _, _, _, fails⟩
  · rw [stays]
    exact .refl cursor
  · rw [moves]
    exact ⟨by simp [starts, taken, encodeTypes, Except.toOption],
      by simp [taken, encodeTypes, Except.toOption, NativeType.width]⟩
  · rw [fails]
    exact .refl cursor

theorem next_of_failed (failed : cursor.failed = true) : cursor.next = (none, cursor) := by
  rw [next, if_pos failed]

/-- The iterator gives nothing where it is, takes a type, or notes the failure to take one. -/
theorem next_cases (cursor : Cursor) :
    cursor.next = (none, cursor) ∨
    (∃ type after, cursor.nextType = (some (.ok type), after) ∧
      cursor.next = (some (.ok type), after)) ∨
    (∃ error, cursor.nextType = (some (.error error), cursor) ∧
      cursor.next = (some (.error error), { cursor with failed := true })) := by
  cases active : cursor.failed with
  | true => exact .inl (next_of_failed active)
  | false =>
      have step := next_of_active active
      rcases nextType_cases cursor with ⟨_, stays⟩ | ⟨_, _, _, moves⟩ | ⟨_, _, _, _, _, _, fails⟩
      · rw [stays] at step
        exact .inl step
      · rw [moves] at step
        exact .inr (.inl ⟨_, _, moves, step⟩)
      · rw [fails] at step
        exact .inr (.inr ⟨_, fails, step⟩)

theorem passes_next (cursor : Cursor) :
    Passes cursor (taken (.next, cursor.next.1.toList)) cursor.next.2 := by
  rcases next_cases cursor with stays | ⟨_, _, moves, step⟩ | ⟨_, _, step⟩
  · rw [stays]
    exact .refl cursor
  · have passes := passes_nextType cursor
    rw [moves] at passes
    rw [step]
    exact passes
  · rw [step]
    exact ⟨rfl, rfl⟩

theorem passes_perform (cursor : Cursor) (call : Call) :
    Passes cursor (taken (call, (cursor.perform call).1)) (cursor.perform call).2 := by
  cases call with
  | nextType => exact passes_nextType cursor
  | next => exact passes_next cursor
  | drainCopy => exact .refl cursor

/-- A call that takes a type moves the cursor on, and any other leaves it in place. -/
theorem perform_moves (cursor : Cursor) (call : Call) :
    let given := cursor.perform call
    (taken (call, given.1) ≠ [] → cursor.position < given.2.position) ∧
      (taken (call, given.1) = [] →
        given.2.rest = cursor.rest ∧ given.2.position = cursor.position) := by
  intro given
  have passes : Passes cursor (taken (call, given.1)) given.2 := passes_perform cursor call
  constructor
  · intro some
    obtain ⟨type, types, same⟩ := List.exists_cons_of_ne_nil some
    have longer := List.length_pos_iff.mpr type.encode_ne_nil
    have moved := passes.position
    rw [same, encodeTypes_cons, List.length_append] at moved
    omega
  · intro none
    rw [none] at passes
    exact ⟨passes.rest.symm, passes.position⟩

/-! ### After a failure -/

theorem nextType_noted (cursor : Cursor) (noted : Bool) :
    { cursor with failed := noted }.nextType =
      (cursor.nextType.1, { cursor.nextType.2 with failed := noted }) := by
  unfold nextType
  split
  · rfl
  · cases readType cursor.rest <;> rfl

/-- A failure of the iterator is noted, and taking one type goes on failing in the same way. -/
theorem next_of_error (failed : cursor.next.1 = some (.error error)) :
    cursor.next.2.failed = true ∧
      cursor.next.2.nextType = (some (.error error), cursor.next.2) := by
  rcases next_cases cursor with stays | ⟨_, _, _, step⟩ | ⟨other, stuck, step⟩
  · simp [stays] at failed
  · simp [step] at failed
  · obtain rfl : other = error := by simpa [step] using failed
    rw [step]
    exact ⟨rfl, by rw [nextType_noted, stuck]⟩

/-- What a call gives after the iterator has failed. -/
def afterFailure (error : UnrecognizedCode) : Call → List Step
  | .nextType => [.error error]
  | .next => []
  | .drainCopy => []

theorem drain_of_failed (failed : cursor.failed = true) : cursor.drain = ([], cursor) := by
  have ended := next_of_failed failed
  rw [drain]
  split <;> simp_all

theorem drain_of_error (failed : cursor.next = (some (.error error), after)) :
    cursor.drain = ([.error error], after) := by
  rw [drain]
  split <;> simp_all

theorem performAll_of_failed (failed : cursor.failed = true)
    (stuck : cursor.nextType = (some (.error error), cursor)) (calls : List Call) :
    cursor.performAll calls = (calls.map fun call => (call, afterFailure error call), cursor) := by
  have same : ∀ call, cursor.perform call = (afterFailure error call, cursor) := by
    intro call
    cases call with
    | nextType => simp [perform, stuck, afterFailure]
    | next => simp [perform, next_of_failed failed, afterFailure]
    | drainCopy => simp [perform, drain_of_failed failed, afterFailure]
  induction calls with
  | nil => rfl
  | cons call later ih => rw [performAll, same, ih, List.map_cons]

/-! ### Draining -/

theorem performAll_of_exhausted (ended : cursor.next = (none, cursor)) (count : Nat) :
    cursor.performAll (List.replicate count .next) =
      (List.replicate count (.next, []), cursor) := by
  induction count with
  | zero => rfl
  | succ count ih =>
      simp only [List.replicate_succ, performAll, perform, ended, Option.toList_none, ih]

/-- Draining gives what the iterator gives call after call, and after that it gives nothing. -/
theorem performAll_next (cursor : Cursor) (extra : Nat) :
    cursor.performAll (List.replicate (cursor.drain.1.length + extra) .next) =
      (cursor.drain.1.map (fun step => (.next, [step])) ++ List.replicate extra (.next, []),
        cursor.drain.2) := by
  fun_induction drain cursor with
  | case1 cursor after moved =>
      obtain rfl : after = cursor := by
        rcases next_cases cursor with stays | ⟨_, _, _, step⟩ | ⟨_, _, step⟩ <;> simp_all
      simpa using performAll_of_exhausted moved extra
  | case2 cursor error after moved =>
      have failing : cursor.next.1 = some (.error error) := by rw [moved]
      obtain ⟨failed, stuck⟩ := next_of_error failing
      rw [moved] at failed stuck
      have later := performAll_of_exhausted (next_of_failed failed) extra
      rw [List.length_singleton, Nat.add_comm, List.replicate_succ, performAll, perform, moved]
      simp [later]
  | case3 cursor type after moved ih =>
      rw [List.length_cons, Nat.add_right_comm, List.replicate_succ, performAll, perform, moved]
      simp [ih]

/-! ### Any calls -/

theorem passes_performAll (cursor : Cursor) (calls : List Call) :
    Passes cursor ((cursor.performAll calls).1.flatMap taken) (cursor.performAll calls).2 := by
  induction calls generalizing cursor with
  | nil => exact .refl cursor
  | cons call later ih =>
      rw [performAll, List.flatMap_cons]
      exact (passes_perform cursor call).trans (ih _)

/-- Draining copies leaves no trace in the answers to the other calls. -/
theorem performAll_without_copies (cursor : Cursor) (calls : List Call) :
    cursor.performAll (calls.filter (· != .drainCopy)) =
      ((cursor.performAll calls).1.filter (·.1 != .drainCopy), (cursor.performAll calls).2) := by
  induction calls generalizing cursor with
  | nil => rfl
  | cons call later ih =>
      cases call with
      | drainCopy => exact ih cursor
      | nextType => simp [performAll, ih]
      | next => simp [performAll, ih]

/-- The cursor stands in the run right after these types. It can be cut there, and also after each
of the pointer markers that come next. -/
structure StandsAfter (run : List Char) (types : List NativeType) (cursor : Cursor) : Prop where
  inside : cursor.position ≤ Utf8.size run
  cut : Utf8.splitAt? cursor.position run = some (encodeTypes types, cursor.rest)
  markers : ∀ depth ≤ (stripMarkers cursor.rest).1,
    (Utf8.splitAt? (pointerMarker.length * depth) cursor.rest).isSome

theorem standsAfter_of_passes {run : List Char} {types : List NativeType}
    (passes : Passes (start run) types cursor) : StandsAfter run types cursor := by
  have place : Utf8.size (encodeTypes types) = cursor.position := by
    rw [size_encodeTypes, passes.position]
    exact (Nat.zero_add _).symm
  have whole : run = encodeTypes types ++ cursor.rest := passes.rest
  refine ⟨?_, Utf8.splitAt?_eq_some_iff.mpr ⟨whole, place⟩, ?_⟩
  · rw [← place, whole, Utf8.size_append]
    exact Nat.le_add_right _ _
  · intro depth covered
    obtain ⟨marked, _⟩ := stripMarkers_spec cursor.rest
    obtain ⟨more, split⟩ := Nat.exists_eq_add_of_le covered
    rw [split, pointerMarkers_add, List.append_assoc] at marked
    rw [Utf8.splitAt?_eq_some_iff.mpr ⟨marked, size_pointerMarkers depth⟩]
    rfl

/-- A marker takes three bytes, so neither a depth that was taken nor one that is being counted
reaches `2 ^ 32` in a run of less than `3 * 2 ^ 32` bytes. -/
theorem depths_lt_of_passes {run : List Char} {types : List NativeType}
    (passes : Passes (start run) types cursor) (short : Utf8.size run < 3 * 2 ^ 32) :
    (∀ type ∈ types, type.depth < 2 ^ 32) ∧ (stripMarkers cursor.rest).1 < 2 ^ 32 := by
  have whole : run = encodeTypes types ++ cursor.rest := passes.rest
  rw [whole, Utf8.size_append] at short
  constructor
  · intro type member
    exact depth_lt_of_size_lt member (by omega)
  · have marked := congrArg Utf8.size (stripMarkers_spec cursor.rest).1
    have three : pointerMarker.length = 3 := rfl
    rw [Utf8.size_append, size_pointerMarkers, three] at marked
    omega

/-- Whatever calls were made on a cursor over a run, it stands after the types that it has given,
where the run can be cut. A call that takes a type moves it on and no other does. Once the iterator
has failed it gives nothing more, and taking one type fails as before. A copy drains to what the
iterator itself would still give, and the cursor does not notice. -/
theorem performAll_keeps_place (run : List Char) (calls : List Call) :
    let answers := ((start run).performAll calls).1
    let cursor := ((start run).performAll calls).2
    let types := answers.flatMap taken
    StandsAfter run types cursor ∧
    (Utf8.size run < 3 * 2 ^ 32 →
      (∀ type ∈ types, type.depth < 2 ^ 32) ∧ (stripMarkers cursor.rest).1 < 2 ^ 32) ∧
    (∀ call, let given := cursor.perform call
      (taken (call, given.1) ≠ [] → cursor.position < given.2.position) ∧
      (taken (call, given.1) = [] →
        given.2.rest = cursor.rest ∧ given.2.position = cursor.position)) ∧
    (∀ error later, cursor.next.1 = some (.error error) →
      cursor.next.2.performAll later =
        (later.map fun call => (call, afterFailure error call), cursor.next.2)) ∧
    (∀ extra, let copied := cursor.perform .drainCopy
      copied.2 = cursor ∧
      cursor.performAll (List.replicate (copied.1.length + extra) .next) =
        (copied.1.map (fun step => (.next, [step])) ++ List.replicate extra (.next, []),
          cursor.drain.2)) ∧
    (start run).performAll (calls.filter (· != .drainCopy)) =
      (answers.filter (·.1 != .drainCopy), cursor) := by
  intro answers cursor types
  have passes : Passes (start run) types cursor := passes_performAll (start run) calls
  refine ⟨standsAfter_of_passes passes, depths_lt_of_passes passes, perform_moves cursor, ?_,
    fun extra => ⟨rfl, performAll_next cursor extra⟩, performAll_without_copies (start run) calls⟩
  intro error later failed
  obtain ⟨noted, stuck⟩ := next_of_error failed
  exact performAll_of_failed noted stuck later

/-- A copy is taken before the iterator fails on a dangling marker, and one after it. -/
theorem performAll_keeps_place_danglingMarker :
    let run := "_NPEAQ".toList
    let calls : List Call := [.next, .drainCopy, .nextType]
    let cursor := ((start run).performAll calls).2
    Utf8.size run < 3 * 2 ^ 32 ∧ cursor.next.1 = some (.error ⟨['Q'], 5⟩) ∧
      ((start run).performAll calls).1 = [(.next, [.ok ⟨.bool, 0⟩]),
        (.drainCopy, [.error ⟨['Q'], 5⟩]), (.nextType, [.error ⟨['Q'], 5⟩])] ∧
      Utf8.splitAt? cursor.position run = some ("_N".toList, "PEAQ".toList) ∧
      (stripMarkers cursor.rest).1 < 2 ^ 32 ∧
      (cursor.next.2.performAll [.next, .nextType, .drainCopy]).1 =
        [(.next, []), (.nextType, [.error ⟨['Q'], 5⟩]), (.drainCopy, [])] := by
  intro run calls cursor
  let dangling : Cursor := ⟨"PEAQ".toList, 2, false⟩
  have first : (start run).next = (some (.ok ⟨.bool, 0⟩), dangling) := by
    simp only [run, dangling]
    cbv
  have fails : dangling.next = (some (.error ⟨['Q'], 5⟩), { dangling with failed := true }) := by
    simp only [dangling]
    cbv
  have stuck : dangling.nextType = (some (.error ⟨['Q'], 5⟩), dangling) := by
    simp only [dangling]
    cbv
  have answered : (start run).performAll calls = ([(.next, [.ok ⟨.bool, 0⟩]),
      (.drainCopy, [.error ⟨['Q'], 5⟩]), (.nextType, [.error ⟨['Q'], 5⟩])], dangling) := by
    simp [calls, performAll, perform, first, drain_of_error fails, stuck]
  have here : cursor = dangling := congrArg Prod.snd answered
  have failed : cursor.next.1 = some (.error ⟨['Q'], 5⟩) := by rw [here, fails]
  obtain ⟨stands, depths, _, fused, _⟩ := performAll_keeps_place run calls
  have short : Utf8.size run < 3 * 2 ^ 32 := by decide
  have cut := stands.cut
  refine ⟨short, failed, congrArg Prod.fst answered, ?_, (depths short).2, ?_⟩
  · rw [answered] at cut
    rw [here]
    exact cut
  · rw [fused _ _ failed]
    rfl

end Cursor

end NativeInterop.Signature
