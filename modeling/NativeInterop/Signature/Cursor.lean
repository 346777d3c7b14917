import NativeInterop.Signature.NativeType

namespace NativeInterop.Signature

/-! Reading one type of a run of type codes: a maximal row of pointer markers and the longest code
after it. -/

/-- The text after the pointer markers begins with no code; `offset` counts the bytes before it. -/
structure UnrecognizedCode where
  code : List Char
  offset : Nat
  deriving DecidableEq, Repr

def stripMarkers : List Char → Nat × List Char
  | 'P' :: 'E' :: 'A' :: rest => ((stripMarkers rest).1 + 1, (stripMarkers rest).2)
  | text => (0, text)

inductive Reading
  | type (type : NativeType) (rest : List Char)
  | unrecognized (depth : Nat) (code : List Char)

def readType (text : List Char) : Reading :=
  match Primitive.longestCode? (stripMarkers text).2 with
  | some (code, primitive) =>
      .type ⟨primitive, (stripMarkers text).1⟩ ((stripMarkers text).2.drop code.length)
  | none => .unrecognized (stripMarkers text).1 (stripMarkers text).2

theorem stripMarkers_length (text : List Char) :
    (stripMarkers text).2.length ≤ text.length := by
  fun_induction stripMarkers text with
  | case1 rest ih => simp only [List.length_cons]; omega
  | case2 => simp

theorem readType_length {text rest : List Char} {type : NativeType}
    (read : readType text = .type type rest) : rest.length < text.length := by
  unfold readType at read
  split at read
  · rename_i code primitive found
    injection read with _ same
    subst same
    have positive := Primitive.length_pos_of_longestCode? found
    have bound := stripMarkers_length text
    have covered : code.length ≤ (stripMarkers text).2.length := by
      have starts := List.find?_some found
      exact (List.isPrefixOf_iff_prefix.mp starts).length_le
    simp only [List.length_drop]
    omega
  · cases read

/-! A position in a run of type codes, moved by one type at a time. -/

structure Cursor where
  rest : List Char
  position : Nat
  failed : Bool

namespace Cursor

abbrev Step := Except UnrecognizedCode NativeType

def start (run : List Char) : Cursor :=
  ⟨run, 0, false⟩

/-- Reads the type at the cursor; at the end of the run and at an unrecognized code the cursor
stays. -/
def nextType (cursor : Cursor) : Option Step × Cursor :=
  if cursor.rest.isEmpty then (none, cursor)
  else
    match readType cursor.rest with
    | .type type rest => (some (.ok type), ⟨rest, cursor.position + type.width, cursor.failed⟩)
    | .unrecognized depth code =>
        (some (.error ⟨code, cursor.position + pointerMarker.length * depth⟩), cursor)

/-- Like `nextType`, but nothing comes after a failure. -/
def next (cursor : Cursor) : Option Step × Cursor :=
  if cursor.failed then (none, cursor)
  else
    match cursor.nextType with
    | (some (.error e), after) => (some (.error e), { after with failed := true })
    | (step, after) => (step, after)

theorem nextType_length {cursor after : Cursor} {type : NativeType}
    (moved : cursor.nextType = (some (.ok type), after)) :
    after.rest.length < cursor.rest.length := by
  unfold nextType at moved
  split at moved
  · simp at moved
  · split at moved
    · rename_i read
      simp only [Prod.mk.injEq, Option.some.injEq, Except.ok.injEq] at moved
      rw [← moved.2]
      exact readType_length read
    · simp at moved

theorem next_length {cursor after : Cursor} {type : NativeType}
    (moved : cursor.next = (some (.ok type), after)) :
    after.rest.length < cursor.rest.length := by
  unfold next at moved
  split at moved
  · simp at moved
  · split at moved
    · simp at moved
    · rename_i taken
      simp only [Prod.mk.injEq] at moved
      rw [moved.1, moved.2] at taken
      exact nextType_length taken

/-- Everything that `next` still gives. -/
def drain (cursor : Cursor) : List Step × Cursor :=
  match _moved : cursor.next with
  | (none, after) => ([], after)
  | (some (.error e), after) => ([.error e], after)
  | (some (.ok type), after) => (.ok type :: after.drain.1, after.drain.2)
termination_by cursor.rest.length
decreasing_by all_goals exact next_length _moved

/-- Reads type after type with `nextType`, up to the end of the run or the first failure. -/
def types (cursor : Cursor) : Except UnrecognizedCode (List NativeType) :=
  match _moved : cursor.nextType with
  | (none, _) => .ok []
  | (some (.error e), _) => .error e
  | (some (.ok type), after) => after.types.map (type :: ·)
termination_by cursor.rest.length
decreasing_by exact nextType_length _moved

end Cursor

/-- All types of a run, or the first failure that draining it meets. -/
def lex (run : List Char) : Except UnrecognizedCode (List NativeType) :=
  (Cursor.start run).drain.1.mapM id

end NativeInterop.Signature
