import NativeInterop.Proofs.Signature.Lexing

namespace NativeInterop.Signature

/-! Where lexing stops. Types are read up to the pointer markers that no code follows; a run that is
no encoding has exactly one such place, and the failure tells it in bytes. -/

open Text

variable {run code : List Char} {types : List NativeType} {depth : Nat} {error : UnrecognizedCode}

/-- The run begins with these types and then has this many pointer markers, and what follows them
is no type: it begins with no further marker and with no code. -/
structure StopsAt (run : List Char) (types : List NativeType) (depth : Nat) (code : List Char) :
    Prop where
  whole : run = encodeTypes types ++ pointerMarkers depth ++ code
  unmarked : ¬ pointerMarker <+: code
  unlisted : ∀ entry ∈ Primitive.codeTable, ¬ entry.1 <+: code
  remains : 0 < depth ∨ code ≠ []

theorem unlisted_iff :
    (∀ entry ∈ Primitive.codeTable, ¬ entry.1 <+: code) ↔
      ∀ primitive : Primitive, ¬ primitive.code <+: code := by
  constructor
  · intro unlisted primitive
    exact unlisted (primitive.code, primitive) (Primitive.mem_codeTable_iff.mpr rfl)
  · rintro absent ⟨listed, primitive⟩ member
    rw [Primitive.mem_codeTable_iff.mp member]
    exact absent primitive

theorem pointerMarkers_append_eq_nil_iff :
    pointerMarkers depth ++ code = [] ↔ ¬ (0 < depth ∨ code ≠ []) := by
  have marked : pointerMarkers depth = [] ↔ depth = 0 := by
    have three : pointerMarker.length = 3 := rfl
    rw [← List.length_eq_zero_iff, length_pointerMarkers, three]
    omega
  rw [List.append_eq_nil_iff, marked, not_or, not_not, Nat.pos_iff_ne_zero, not_not]

theorem stopsAt_nil_iff :
    StopsAt run [] depth code ↔ run ≠ [] ∧ readType run = .unrecognized depth code := by
  rw [readType_eq_unrecognized_iff]
  constructor
  · rintro ⟨whole, unmarked, unlisted, remains⟩
    have same : run = pointerMarkers depth ++ code := whole
    refine ⟨?_, same, unmarked, unlisted_iff.mp unlisted⟩
    rw [same, Ne, pointerMarkers_append_eq_nil_iff, not_not]
    exact remains
  · rintro ⟨nonempty, same, unmarked, absent⟩
    refine ⟨same, unmarked, unlisted_iff.mpr absent, ?_⟩
    rwa [same, Ne, pointerMarkers_append_eq_nil_iff, not_not] at nonempty

theorem stopsAt_cons_iff {type : NativeType} {rest : List Char} :
    StopsAt (type.encode ++ rest) (type :: types) depth code ↔ StopsAt rest types depth code := by
  have cut : encodeTypes (type :: types) ++ pointerMarkers depth ++ code =
      type.encode ++ (encodeTypes types ++ pointerMarkers depth ++ code) := by
    simp only [encodeTypes_cons, List.append_assoc]
  constructor
  · rintro ⟨whole, unmarked, unlisted, remains⟩
    rw [cut, List.append_cancel_left_eq] at whole
    exact ⟨whole, unmarked, unlisted, remains⟩
  · rintro ⟨rfl, unmarked, unlisted, remains⟩
    exact ⟨cut.symm, unmarked, unlisted, remains⟩

namespace Cursor

/-- The failure tells the place where the text behind the cursor stops, counted from the beginning
of the run. -/
structure FailsWith (cursor : Cursor) (types : List NativeType) (depth : Nat)
    (error : UnrecognizedCode) : Prop where
  stops : StopsAt cursor.rest types depth error.code
  offset : error.offset =
    cursor.position + (encodeTypes types).length + pointerMarker.length * depth

theorem failsWith_of_types {cursor : Cursor} (failed : cursor.types = .error error) :
    ∃ types depth, FailsWith cursor types depth error := by
  fun_induction Cursor.types cursor with
  | case1 => contradiction
  | case2 cursor failure after moved =>
      obtain rfl : failure = error := Except.error.inj failed
      rcases nextType_cases cursor with ⟨_, stays⟩ | ⟨_, _, _, moves⟩ |
        ⟨depth, code, remaining, whole, unmarked, absent, fails⟩
      · simp [stays] at moved
      · simp [moves] at moved
      · rw [fails] at moved
        cases moved
        refine ⟨[], depth, stopsAt_nil_iff.mpr ⟨remaining, ?_⟩, rfl⟩
        exact readType_eq_unrecognized_iff.mpr ⟨whole, unmarked, absent⟩
  | case3 cursor type after moved ih =>
      have later : after.types = .error error := by
        cases read : after.types with
        | error failure =>
            rw [read] at failed
            exact failed
        | ok types =>
            rw [read] at failed
            contradiction
      obtain ⟨types, depth, stops, offset⟩ := ih later
      obtain ⟨starts, _⟩ := rest_of_nextType moved
      have moves := nextType_encode starts
      rw [moved] at moves
      have place : after.position = cursor.position + type.width :=
        congrArg (fun step => step.2.position) moves
      refine ⟨type :: types, depth, ?_, ?_⟩
      · rw [starts]
        exact stopsAt_cons_iff.mpr stops
      · rw [offset, place, NativeType.width, encodeTypes_cons, List.length_append, ← Nat.add_assoc]

theorem types_of_failsWith {cursor : Cursor} (fails : FailsWith cursor types depth error) :
    cursor.types = .error error := by
  induction types generalizing cursor with
  | nil =>
      obtain ⟨nonempty, read⟩ := stopsAt_nil_iff.mp fails.stops
      have failing : cursor.nextType = (some (.error error), cursor) := by
        have same : error = ⟨error.code, cursor.position + pointerMarker.length * depth⟩ :=
          congrArg (UnrecognizedCode.mk error.code) fails.offset
        simp only [nextType, List.isEmpty_iff, nonempty, if_false, read]
        rw [← same]
      rw [Cursor.types]
      split <;> simp_all
  | cons type types ih =>
      have starts : cursor.rest = type.encode ++
          (encodeTypes types ++ pointerMarkers depth ++ error.code) := by
        rw [fails.stops.whole, encodeTypes_cons]
        simp only [List.append_assoc]
      have moves := nextType_encode starts
      have stops := fails.stops
      rw [starts] at stops
      have failsLater : FailsWith cursor.nextType.2 types depth error := by
        rw [moves]
        refine ⟨stopsAt_cons_iff.mp stops, ?_⟩
        rw [fails.offset, NativeType.width, encodeTypes_cons, List.length_append, ← Nat.add_assoc]
      have later := ih failsLater
      rw [Cursor.types]
      split <;> simp_all [Except.map]

theorem types_eq_error_iff (cursor : Cursor) (error : UnrecognizedCode) :
    cursor.types = .error error ↔ ∃ types depth, FailsWith cursor types depth error :=
  ⟨failsWith_of_types, fun ⟨_, _, fails⟩ => types_of_failsWith fails⟩

end Cursor

/-! ### Places in bytes -/

theorem size_beforeCode (types : List NativeType) (depth : Nat) :
    Utf8.size (encodeTypes types ++ pointerMarkers depth) =
      (encodeTypes types).length + pointerMarker.length * depth := by
  rw [Utf8.size_append, size_encodeTypes, size_pointerMarkers]

theorem lex_eq_error_iff {offset : Nat} :
    lex run = .error ⟨code, offset⟩ ↔ ∃ types depth, StopsAt run types depth code ∧
      offset = Utf8.size (encodeTypes types ++ pointerMarkers depth) := by
  rw [lex_eq_types, Cursor.types_eq_error_iff]
  constructor
  · rintro ⟨types, depth, stops, offset⟩
    refine ⟨types, depth, stops, offset.trans ?_⟩
    rw [size_beforeCode, Cursor.start, Nat.zero_add]
  · rintro ⟨types, depth, stops, offset⟩
    refine ⟨types, depth, stops, ?_⟩
    rw [offset, size_beforeCode, Cursor.start, Nat.zero_add]

theorem StopsAt.splitAt? (stops : StopsAt run types depth code) :
    Utf8.splitAt? (Utf8.size (encodeTypes types ++ pointerMarkers depth)) run =
      some (encodeTypes types ++ pointerMarkers depth, code) :=
  Utf8.splitAt?_eq_some_iff.mpr ⟨stops.whole, rfl⟩

theorem stopsAt_dangling (types : List NativeType) (dangling : 0 < depth) :
    StopsAt (encodeTypes types ++ pointerMarkers depth) types depth [] where
  whole := (List.append_nil _).symm
  unmarked := by simp [pointerMarker]
  unlisted := unlisted_iff.mpr fun primitive => by
    rw [List.prefix_nil]
    exact primitive.code_ne_nil
  remains := .inl dangling

/-- A marker takes three bytes, so depths fit into 32 bits before the place where a run of less than
`3 * 2 ^ 32` bytes stops, and so does the number of markers there. -/
theorem StopsAt.depths_lt (stops : StopsAt run types depth code)
    (short : Utf8.size run < 3 * 2 ^ 32) :
    (∀ type ∈ types, type.depth < 2 ^ 32) ∧ depth < 2 ^ 32 := by
  have three : pointerMarker.length = 3 := rfl
  rw [stops.whole, Utf8.size_append, Utf8.size_append, size_pointerMarkers, three] at short
  constructor
  · intro type member
    exact depth_lt_of_size_lt member (by omega)
  · omega

/-- Lexing fails exactly for the runs that stop before a text that is no type, and then tells this
text and the bytes before it. The run can be cut there. Every run outside the language fails in
this way; where only a marker is left, nothing is told, at the end of the run. -/
theorem lex_fails_exactly_where_stopped :
    (∀ run code offset, lex run = .error ⟨code, offset⟩ ↔ ∃ types depth,
      StopsAt run types depth code ∧
        offset = Utf8.size (encodeTypes types ++ pointerMarkers depth)) ∧
    (∀ run, run ∉ runLanguage ↔ ∃ error, lex run = .error error) ∧
    (∀ run code offset, lex run = .error ⟨code, offset⟩ →
      ∃ before, Utf8.splitAt? offset run = some (before, code)) ∧
    (∀ types depth, 0 < depth → lex (encodeTypes types ++ pointerMarkers depth) =
      .error ⟨[], Utf8.size (encodeTypes types ++ pointerMarkers depth)⟩) ∧
    ∀ run types depth code, Utf8.size run < 3 * 2 ^ 32 → StopsAt run types depth code →
      (∀ type ∈ types, type.depth < 2 ^ 32) ∧ depth < 2 ^ 32 := by
  refine ⟨fun _ _ _ => lex_eq_error_iff, ?_, ?_, ?_, fun _ _ _ _ short stops =>
    stops.depths_lt short⟩
  · intro run
    rw [mem_runLanguage_iff]
    cases read : lex run with
    | ok types =>
        have whole := (lex_eq_ok_iff run types).mp read
        simpa using ⟨types, whole⟩
    | error error =>
        refine ⟨fun _ => ⟨error, rfl⟩, ?_⟩
        rintro - ⟨types, whole⟩
        rw [(lex_eq_ok_iff run types).mpr whole] at read
        contradiction
  · intro run code offset failed
    obtain ⟨types, depth, stops, rfl⟩ := lex_eq_error_iff.mp failed
    exact ⟨_, stops.splitAt?⟩
  · intro types depth dangling
    exact lex_eq_error_iff.mpr ⟨types, depth, stopsAt_dangling types dangling, rfl⟩

/-- The place lies behind the markers and before a character of two bytes. -/
theorem lex_fails_exactly_where_stopped_accentedText :
    lex "_NPEAéH".toList = .error ⟨"éH".toList, 5⟩ ∧
      Utf8.splitAt? 5 "_NPEAéH".toList = some ("_NPEA".toList, "éH".toList) ∧
      Utf8.size "_NPEAéH".toList < 3 * 2 ^ 32 ∧
      lex "_NPEA".toList = .error ⟨[], 5⟩ := by
  have stops : StopsAt "_NPEAéH".toList [⟨.bool, 0⟩] 1 "éH".toList := by
    refine ⟨by decide, by decide, ?_, by decide⟩
    simp [Primitive.codeTable]
  have located := lex_fails_exactly_where_stopped
  have failed := (located.1 _ _ 5).mpr ⟨_, _, stops, by decide⟩
  have short : Utf8.size "_NPEAéH".toList < 3 * 2 ^ 32 := by decide
  obtain ⟨before, cut⟩ := located.2.2.1 _ _ _ failed
  obtain ⟨whole, _⟩ := Utf8.splitAt?_eq_some_iff.mp cut
  have same : before = "_NPEA".toList :=
    List.append_cancel_right (whole.symm.trans (by decide : _ = "_NPEA".toList ++ "éH".toList))
  rw [same] at cut
  exact ⟨failed, cut, short, located.2.2.2.1 [⟨.bool, 0⟩] 1 (by decide)⟩

end NativeInterop.Signature
