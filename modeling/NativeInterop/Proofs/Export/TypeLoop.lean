import NativeInterop.Export.Listing
import NativeInterop.Proofs.Signature.Unrecognized

namespace NativeInterop

open Text Signature ExportLine

/-! The types of a line are read with a loop of their own. It gives what lexing the whole type run
gives, wherever the run stops. -/

variable {line : List Char} {fields : ExportLine}

theorem Signature.Cursor.types_eq (cursor : Cursor) :
    cursor.types =
      match cursor.nextType with
      | (none, _) => .ok []
      | (some (.error error), _) => .error error
      | (some (.ok type), after) => after.types.map (type :: ·) := by
  rw [types]
  split <;> rename_i moved <;> rw [moved]

theorem Signature.lex_eq_nil_iff {run : List Char} : lex run = .ok [] ↔ run = [] :=
  lex_eq_ok_iff run []

/-- The export of a line whose run is read as these types. The first is the return type; there is
no export without it. -/
def ExportLine.export? (fields : ExportLine) : List NativeType → Option Export
  | [] => none
  | returnType :: parameters => some ⟨fields.ordinal, fields.identifier, returnType, parameters⟩

theorem ExportLine.export?_eq_none_iff {types : List NativeType} :
    fields.export? types = none ↔ types = [] := by
  cases types <;> simp [export?]

theorem ExportLine.export?_eq_some_iff {types : List NativeType} {e : Export} :
    fields.export? types = some e ↔ e.ordinal = fields.ordinal ∧
      e.identifier = fields.identifier ∧ types = e.returnType :: e.parameters := by
  obtain ⟨ordinal, identifier, returnType, parameters⟩ := e
  cases types with
  | nil => simp [export?]
  | cons first rest => simp [export?, eq_comm]

theorem decodeLine_of_parse? (parsed : parse? line = some fields) :
    decodeLine line = (lex fields.typeRun).map fields.export? := by
  rw [decodeLine, parsed, lex_eq_types, Cursor.types_eq]
  dsimp only
  obtain ⟨step, after⟩ := (Cursor.start fields.typeRun).nextType
  cases step with
  | none => rfl
  | some result =>
      cases result with
      | error error => rfl
      | ok returnType =>
          dsimp only
          cases after.types <;> rfl

theorem map_export?_lex_iff (fields : ExportLine) :
    ((lex fields.typeRun).map fields.export? = .ok none ↔ fields.typeRun = []) ∧
    (∀ error, (lex fields.typeRun).map fields.export? = .error error ↔
      lex fields.typeRun = .error error) ∧
    ∀ e, (lex fields.typeRun).map fields.export? = .ok (some e) ↔ e.ordinal = fields.ordinal ∧
      e.identifier = fields.identifier ∧
      lex fields.typeRun = .ok (e.returnType :: e.parameters) := by
  rw [← lex_eq_nil_iff]
  cases lex fields.typeRun with
  | error error => simp [Except.map]
  | ok types => simp [Except.map, export?_eq_none_iff, export?_eq_some_iff]

theorem decodeLine_of_unparsed (missing : parse? line = none) : decodeLine line = .ok none := by
  rw [decodeLine, missing]

/-- A line fails where its type run stops. -/
theorem exists_stopsAt_of_decodeLine {error : UnrecognizedCode}
    (failed : decodeLine line = .error error) :
    ∃ fields types depth, parse? line = some fields ∧
      StopsAt fields.typeRun types depth error.code ∧
      error.offset = Utf8.size (encodeTypes types ++ pointerMarkers depth) := by
  cases parsed : parse? line with
  | none =>
      rw [decodeLine_of_unparsed parsed] at failed
      contradiction
  | some fields =>
      rw [decodeLine_of_parse? parsed] at failed
      have lexed := ((map_export?_lex_iff fields).2.1 error).mp failed
      obtain ⟨types, depth, stops, offset⟩ := lex_eq_error_iff.mp lexed
      exact ⟨fields, types, depth, rfl, stops, offset⟩

/-- Decoding a line reads the types of its run as lexing does. It tells of no function when the line
has another form or its run is empty, fails where lexing the run fails and with the same failure,
and else takes all types of the run: the first for the return type, the others for parameters. -/
theorem decodeLine_agrees_with_lex :
    (∀ line, parse? line = none → decodeLine line = .ok none) ∧
    (∀ line fields, parse? line = some fields →
      decodeLine line = (lex fields.typeRun).map fields.export? ∧
      (decodeLine line = .ok none ↔ fields.typeRun = []) ∧
      (∀ error, decodeLine line = .error error ↔ lex fields.typeRun = .error error) ∧
      (∀ e, decodeLine line = .ok (some e) ↔ e.ordinal = fields.ordinal ∧
        e.identifier = fields.identifier ∧
        lex fields.typeRun = .ok (e.returnType :: e.parameters)) ∧
      ∀ types depth code, StopsAt fields.typeRun types depth code →
        decodeLine line =
          .error ⟨code, Utf8.size (encodeTypes types ++ pointerMarkers depth)⟩) ∧
    ∀ line error, decodeLine line = .error error → ∃ fields types depth,
      parse? line = some fields ∧ StopsAt fields.typeRun types depth error.code ∧
      error.offset = Utf8.size (encodeTypes types ++ pointerMarkers depth) := by
  refine ⟨fun line => decodeLine_of_unparsed, fun line fields parsed => ?_,
    fun line error => exists_stopsAt_of_decodeLine⟩
  obtain ⟨empty, failures, exports⟩ := map_export?_lex_iff fields
  rw [decodeLine_of_parse? parsed]
  refine ⟨rfl, empty, failures, exports, fun types depth code stops => ?_⟩
  exact (failures _).mpr (lex_eq_error_iff.mpr ⟨types, depth, stops, rfl⟩)

/-- The return type of the first line is good, and a marker after it points to nothing. -/
theorem decodeLine_agrees_with_lex_danglingMarker :
    parse? "7 ?f@@YAXPEAXZ".toList = some ⟨7, ['f'], "XPEA".toList⟩ ∧
    StopsAt "XPEA".toList [⟨.void, 0⟩] 1 [] ∧
    decodeLine "7 ?f@@YAXPEAXZ".toList = .error ⟨[], 4⟩ ∧ lex "XPEA".toList = .error ⟨[], 4⟩ ∧
    parse? "7 ?f@@YAXPEAHXZ".toList = some ⟨7, ['f'], "XPEAH".toList⟩ ∧
    decodeLine "7 ?f@@YAXPEAHXZ".toList = .ok (some ⟨7, ['f'], ⟨.void, 0⟩, [⟨.int, 1⟩]⟩) ∧
    parse? "7 f".toList = none ∧ decodeLine "7 f".toList = .ok none := by
  have dangling : parse? "7 ?f@@YAXPEAXZ".toList = some ⟨7, ['f'], "XPEA".toList⟩ := by decide
  have good : parse? "7 ?f@@YAXPEAHXZ".toList = some ⟨7, ['f'], "XPEAH".toList⟩ := by decide
  have other : parse? "7 f".toList = none := by decide
  obtain ⟨unparsed, parsed, _⟩ := decodeLine_agrees_with_lex
  obtain ⟨_, _, failures, _, stopping⟩ := parsed _ _ dangling
  obtain ⟨_, _, _, exports, _⟩ := parsed _ _ good
  have whole : "XPEA".toList = encodeTypes [⟨.void, 0⟩] ++ pointerMarkers 1 := by decide
  have stops : StopsAt "XPEA".toList [⟨.void, 0⟩] 1 [] := by
    rw [whole]
    exact stopsAt_dangling [⟨.void, 0⟩] (by decide)
  have failed := stopping _ _ _ stops
  have read : lex "XPEAH".toList = .ok [⟨.void, 0⟩, ⟨.int, 1⟩] := (lex_eq_ok_iff ..).mpr (by decide)
  exact ⟨dangling, stops, failed, (failures _).mp failed, good,
    (exports ⟨7, ['f'], ⟨.void, 0⟩, [⟨.int, 1⟩]⟩).mpr ⟨rfl, rfl, read⟩, other, unparsed _ other⟩

end NativeInterop
