import Mathlib.Computability.Language
import NativeInterop.Signature.Cursor
import NativeInterop.Text.Utf8
import NativeInterop.Proofs.Signature.Reading

namespace NativeInterop.Signature

/-! A run of type codes has one reading. Both loops over a cursor accept exactly the runs that
writing types one after the other produces. -/

theorem NativeType.encode_ne_nil (type : NativeType) : type.encode ≠ [] := by
  simp [encode, type.primitive.code_ne_nil]

namespace Cursor

variable {cursor after : Cursor} {type : NativeType}

/-! ### One step -/

/-- The cursor stands at the end of the run, before a type, or before pointer markers that no code
follows. -/
theorem nextType_cases (cursor : Cursor) :
    (cursor.rest = [] ∧ cursor.nextType = (none, cursor)) ∨
    (∃ type rest, cursor.rest = type.encode ++ rest ∧
      cursor.nextType =
        (some (.ok type), ⟨rest, cursor.position + type.width, cursor.failed⟩)) ∨
    (∃ depth code, cursor.rest ≠ [] ∧ cursor.rest = pointerMarkers depth ++ code ∧
      ¬ pointerMarker <+: code ∧ (∀ primitive : Primitive, ¬ primitive.code <+: code) ∧
      cursor.nextType =
        (some (.error ⟨code, cursor.position + pointerMarker.length * depth⟩), cursor)) := by
  by_cases ended : cursor.rest = []
  · exact .inl ⟨ended, by simp [nextType, ended]⟩
  · have remaining : cursor.rest.isEmpty = false := by simpa using ended
    cases read : readType cursor.rest with
    | type type rest =>
        refine .inr (.inl ⟨type, rest, readType_eq_type_iff.mp read, ?_⟩)
        simp [nextType, remaining, read]
    | unrecognized depth code =>
        obtain ⟨whole, unmarked, absent⟩ := readType_eq_unrecognized_iff.mp read
        refine .inr (.inr ⟨depth, code, ended, whole, unmarked, absent, ?_⟩)
        simp [nextType, remaining, read]

theorem nextType_encode {rest : List Char} (starts : cursor.rest = type.encode ++ rest) :
    cursor.nextType = (some (.ok type), ⟨rest, cursor.position + type.width, cursor.failed⟩) := by
  simp [nextType, starts, readType_encode_append, type.encode_ne_nil]

theorem rest_of_nextType (moved : cursor.nextType = (some (.ok type), after)) :
    cursor.rest = type.encode ++ after.rest ∧ after.failed = cursor.failed := by
  rcases nextType_cases cursor with ⟨_, stays⟩ | ⟨other, rest, starts, moves⟩ |
    ⟨_, _, _, _, _, _, fails⟩
  · simp [stays] at moved
  · rw [moves] at moved
    cases moved
    exact ⟨starts, rfl⟩
  · simp [fails] at moved

/-! ### The loop over steps -/

theorem types_eq_ok_iff (cursor : Cursor) (types : List NativeType) :
    cursor.types = .ok types ↔ cursor.rest = encodeTypes types := by
  fun_induction Cursor.types cursor generalizing types with
  | case1 cursor after moved =>
      rcases nextType_cases cursor with ⟨ended, _⟩ | ⟨_, _, _, moves⟩ | ⟨_, _, _, _, _, _, fails⟩
      · cases types with
        | nil => simp [ended, encodeTypes]
        | cons type types => simp [ended, encodeTypes, type.encode_ne_nil]
      · simp [moves] at moved
      · simp [fails] at moved
  | case2 cursor failure after moved =>
      cases types with
      | nil =>
          have remaining : cursor.rest ≠ [] := by
            intro ended
            simp [nextType, ended] at moved
          simp [encodeTypes, remaining]
      | cons type types =>
          have blocked : cursor.rest ≠ encodeTypes (type :: types) := by
            intro starts
            rw [nextType_encode starts] at moved
            simp at moved
          simp [blocked]
  | case3 cursor type after moved ih =>
      obtain ⟨starts, _⟩ := rest_of_nextType moved
      cases types with
      | nil =>
          have remaining : cursor.rest ≠ [] := by simp [starts, type.encode_ne_nil]
          cases after.types <;> simp [Except.map, encodeTypes, remaining]
      | cons other types =>
          constructor
          · intro read
            cases tail : after.types with
            | error failure => simp [tail, Except.map] at read
            | ok decoded =>
                simp only [tail, Except.map, Except.ok.injEq, List.cons.injEq] at read
                obtain ⟨rfl, rfl⟩ := read
                rw [starts, (ih decoded).mp tail]
                rfl
          · intro whole
            rw [nextType_encode whole] at moved
            cases moved
            rw [(ih types).mpr rfl]
            rfl

/-! ### Draining -/

theorem next_of_active (active : cursor.failed = false) :
    cursor.next =
      match cursor.nextType with
      | (some (.error e), after) => (some (.error e), { after with failed := true })
      | (step, after) => (step, after) := by
  unfold next
  rw [active]
  rfl

theorem mapM_drain_of_active (active : cursor.failed = false) :
    cursor.drain.1.mapM id = cursor.types := by
  fun_induction Cursor.types cursor with
  | case1 cursor after moved =>
      have step : cursor.next = (none, after) := by rw [next_of_active active, moved]
      rw [drain]
      split <;> simp_all [pure, Except.pure]
  | case2 cursor failure after moved =>
      have step : cursor.next = (some (.error failure), { after with failed := true }) := by
        rw [next_of_active active, moved]
      rw [drain]
      split <;> simp_all [bind, Except.bind]
  | case3 cursor type after moved ih =>
      have step : cursor.next = (some (.ok type), after) := by rw [next_of_active active, moved]
      rw [← ih ((rest_of_nextType moved).2.trans active), drain]
      split <;> simp_all [bind, Except.bind, pure, Except.pure, Except.map]

end Cursor

theorem lex_eq_types (run : List Char) : lex run = (Cursor.start run).types :=
  Cursor.mapM_drain_of_active rfl

theorem lex_eq_ok_iff (run : List Char) (types : List NativeType) :
    lex run = .ok types ↔ run = encodeTypes types := by
  rw [lex_eq_types, Cursor.types_eq_ok_iff]
  rfl

/-! ### The language of runs -/

def codeLanguage : Language Char :=
  Set.range Primitive.code

/-- Rows of pointer markers, each with a code after it. -/
def runLanguage : Language Char :=
  KStar.kstar (KStar.kstar {pointerMarker} * codeLanguage)

theorem mem_kstar_pointerMarker_iff {text : List Char} :
    text ∈ KStar.kstar ({pointerMarker} : Language Char) ↔
      ∃ count, text = pointerMarkers count := by
  rw [Language.mem_kstar]
  constructor
  · rintro ⟨parts, rfl, markers⟩
    exact ⟨parts.length, by rw [pointerMarkers, ← List.eq_replicate_of_mem markers]⟩
  · rintro ⟨count, rfl⟩
    exact ⟨List.replicate count pointerMarker, rfl, fun _ => List.eq_of_mem_replicate⟩

theorem mem_runLanguage_iff {run : List Char} :
    run ∈ runLanguage ↔ ∃ types, run = encodeTypes types := by
  rw [runLanguage, Language.mem_kstar]
  constructor
  · rintro ⟨parts, rfl, members⟩
    induction parts with
    | nil => exact ⟨[], rfl⟩
    | cons part parts ih =>
        obtain ⟨types, same⟩ := ih fun other member => members other (by simp [member])
        obtain ⟨markers, marked, _, ⟨primitive, rfl⟩, rfl⟩ :=
          Language.mem_mul.mp (members part (by simp))
        obtain ⟨count, rfl⟩ := mem_kstar_pointerMarker_iff.mp marked
        exact ⟨⟨primitive, count⟩ :: types, by rw [List.flatten_cons, same]; rfl⟩
  · rintro ⟨types, rfl⟩
    refine ⟨types.map NativeType.encode, List.flatMap_def, ?_⟩
    intro part member
    obtain ⟨type, _, rfl⟩ := List.mem_map.mp member
    exact Language.mem_mul.mpr ⟨_, mem_kstar_pointerMarker_iff.mpr ⟨type.depth, rfl⟩,
      _, ⟨type.primitive, rfl⟩, rfl⟩

/-- A marker takes three bytes, so the depths in a run that is shorter than `3 * bound` bytes stay
below `bound`. -/
theorem depth_lt_of_size_lt {types : List NativeType} {type : NativeType} {bound : Nat}
    (member : type ∈ types) (short : Text.Utf8.size (encodeTypes types) < 3 * bound) :
    type.depth < bound := by
  have encoded : type.encode.length ≤ (encodeTypes types).length := by
    rw [encodeTypes, List.flatMap_def]
    exact (List.sublist_flatten_of_mem (List.mem_map_of_mem member)).length_le
  have markers : type.encode.length = 3 * type.depth + type.primitive.code.length := by
    simp [NativeType.encode, pointerMarker]
  have bytes := Text.Utf8.length_le_size (encodeTypes types)
  omega

/-- The lexer accepts exactly the runs that types are written as, and reads each of them as these
types alone. A depth fits into 32 bits in every run of less than `3 * 2 ^ 32` bytes. -/
theorem lex_accepts_exactly_encodings :
    (∀ run types, lex run = .ok types ↔ run = encodeTypes types) ∧
      Function.Injective encodeTypes ∧
      (∀ run, (∃ types, lex run = .ok types) ↔ run ∈ runLanguage) ∧
      ∀ run types, Text.Utf8.size run < 3 * 2 ^ 32 → lex run = .ok types →
        ∀ type ∈ types, type.depth < 2 ^ 32 := by
  refine ⟨lex_eq_ok_iff, ?_, ?_, ?_⟩
  · intro left right same
    have read := (lex_eq_ok_iff _ left).mpr rfl
    rw [same, (lex_eq_ok_iff _ right).mpr rfl] at read
    exact (Except.ok.inj read).symm
  · intro run
    simp only [lex_eq_ok_iff, mem_runLanguage_iff]
  · intro run types short read type member
    rw [(lex_eq_ok_iff run types).mp read] at short
    exact depth_lt_of_size_lt member short

theorem lex_accepts_pointerRun :
    lex "PEAPEAE_N".toList = .ok [⟨.byte, 2⟩, ⟨.bool, 0⟩] ∧
      Text.Utf8.size "PEAPEAE_N".toList < 3 * 2 ^ 32 ∧
      ∀ type ∈ [(⟨.byte, 2⟩ : NativeType), ⟨.bool, 0⟩], type.depth < 2 ^ 32 := by
  have read := (lex_accepts_exactly_encodings.1 "PEAPEAE_N".toList [⟨.byte, 2⟩, ⟨.bool, 0⟩]).mpr
    (by decide)
  have short : Text.Utf8.size "PEAPEAE_N".toList < 3 * 2 ^ 32 := by decide
  exact ⟨read, short, lex_accepts_exactly_encodings.2.2.2 _ _ short read⟩

end NativeInterop.Signature
