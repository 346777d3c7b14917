import NativeInterop.Proofs.Export.Grammar
import NativeInterop.Proofs.Signature.Lexing

namespace NativeInterop

open Text Signature ExportLine

/-! Decoding inverts writing a function into a line, whatever stands around it. -/

variable {line text run identifier after mark : List Char}

/-- A decorated name up to its end mark. -/
def decorate (identifier : List Char) (types : List NativeType) : List Char :=
  '?' :: identifier ++ freeFunctionMark ++ encodeTypes types

/-! ### Where a run ends -/

/-- Nothing of what follows can be taken for a part of the run or its end mark. -/
def Separated (after : List Char) : Prop :=
  ∀ c ∈ after.head?, isRunChar c = false ∧ c ≠ '@'

namespace ExportLine

theorem typeRun?_of_separated (separated : Separated after) : typeRun? after = none := by
  cases after with
  | nil => rfl
  | cons c rest =>
      obtain ⟨outside, different⟩ := separated c rfl
      have notX : c ≠ 'X' := by
        rintro rfl
        exact absurd outside (by decide)
      have unfinished : endsRun (c :: rest) = false := by
        simp [endsRun, List.isPrefixOf, notX.symm, different.symm]
      rw [typeRun?_cons, outside, unfinished]
      rfl

theorem typeRun?_endMark (closing : mark ∈ endMarks) (separated : Separated after) :
    typeRun? (mark ++ after) = some [] := by
  have nothing := typeRun?_of_separated separated
  rcases List.mem_pair.mp closing with rfl | rfl
  · have unfinished : typeRun? ('Z' :: after) = none := by
      rw [typeRun?_cons, nothing]
      rfl
    rw [List.cons_append, List.cons_append, List.nil_append, typeRun?_cons, unfinished]
    rfl
  · rw [List.cons_append, typeRun?_cons]
    rfl

theorem typeRun?_append (accepted : ∀ c ∈ run, isRunChar c = true)
    (ended : typeRun? text = some []) : typeRun? (run ++ text) = some run := by
  induction run with
  | nil => exact ended
  | cons c run ih =>
      rw [List.forall_mem_cons] at accepted
      rw [List.cons_append, typeRun?_cons, ih accepted.2, if_pos accepted.1]
      rfl

theorem isRunChar_of_mem_encodeTypes {types : List NativeType} {c : Char}
    (member : c ∈ encodeTypes types) : isRunChar c = true := by
  have codes : ∀ primitive : Primitive, primitive.code.all isRunChar = true := by
    intro primitive
    cases primitive <;> decide
  exact List.all_eq_true.mp (all_encodeTypes (by decide) codes types) c member

end ExportLine

/-! ### From the captured run to the signature -/

theorem decodeLine_eq_some_iff {e : Export} :
    decodeLine line = .ok (some e) ↔
      parse? line =
        some ⟨e.ordinal, e.identifier, encodeTypes (e.returnType :: e.parameters)⟩ := by
  constructor
  · intro decoded
    unfold decodeLine at decoded
    split at decoded
    · simp at decoded
    · rename_i fields parsed
      split at decoded
      · simp at decoded
      · simp at decoded
      · rename_i returnType after moved
        obtain ⟨starts, _⟩ := Cursor.rest_of_nextType moved
        cases read : after.types with
        | error failure => simp [read, Except.map] at decoded
        | ok parameters =>
            simp only [read, Except.map, Except.ok.injEq, Option.some.injEq] at decoded
            have whole : fields.typeRun = encodeTypes (returnType :: parameters) := by
              rw [Cursor.types_eq_ok_iff] at read
              rw [encodeTypes_cons, ← read]
              exact starts
            rw [parsed, ← decoded, ← whole]
  · intro parsed
    have starts : (Cursor.start (encodeTypes (e.returnType :: e.parameters))).rest =
        e.returnType.encode ++ encodeTypes e.parameters := encodeTypes_cons ..
    have read : ∀ position failed,
        (Cursor.mk (encodeTypes e.parameters) position failed).types = .ok e.parameters :=
      fun _ _ => (Cursor.types_eq_ok_iff ..).mpr rfl
    simp only [decodeLine, parsed, Cursor.nextType_encode starts, read]
    rfl

/-! ### Reading a line that was written -/

theorem typeRun?_encodeTypes {types : List NativeType} (closing : mark ∈ endMarks)
    (separated : Separated after) :
    typeRun? (encodeTypes types ++ (mark ++ after)) = some (encodeTypes types) :=
  typeRun?_append (fun _ => isRunChar_of_mem_encodeTypes) (typeRun?_endMark closing separated)

theorem findName?_decorate {gap : List Char} (types : List NativeType)
    (named : IsIdentifier identifier) (unmarked : '?' ∉ gap) (closing : mark ∈ endMarks)
    (separated : Separated after) :
    findName? (gap ++ (decorate identifier types ++ (mark ++ after))) =
      some (identifier, encodeTypes types) := by
  have decorated : decoratedName?
      (identifier ++ freeFunctionMark ++ (encodeTypes types ++ (mark ++ after))) =
        some (identifier, encodeTypes types) := by
    rw [decoratedName?_append named, typeRun?_encodeTypes closing separated]
    rfl
  rw [findName?_append unmarked, decorate]
  simp only [List.cons_append, List.append_assoc] at decorated ⊢
  rw [findName?_cons, decorated]
  rfl

theorem unbroken_decorate (types : List NativeType) (named : IsIdentifier identifier) :
    '\n' ∉ decorate identifier types := by
  obtain ⟨first, parts, rfl, start, inside⟩ := named
  have whole : '\n' ∉ first :: parts := by
    intro member
    rcases List.mem_cons.mp member with rfl | member
    · exact absurd start (by decide)
    · exact absurd (inside _ member) (by decide)
  have runUnbroken : '\n' ∉ encodeTypes types := fun member =>
    absurd (isRunChar_of_mem_encodeTypes member) (by decide)
  have markUnbroken : '\n' ∉ freeFunctionMark := by decide
  rw [decorate, List.mem_append, List.mem_append, List.mem_cons]
  rintro (((same | member) | member) | member)
  · exact absurd same (by decide)
  · exact whole member
  · exact markUnbroken member
  · exact runUnbroken member

/-- What stands around the number and the decorated name of a line, and leaves both to be found. -/
structure Surroundings where
  before : List Char
  gap : List Char
  mark : List Char
  after : List Char
  undigited : ∀ c ∈ before, isDecimalDigit c = false
  unbroken : '\n' ∉ before
  apart : ∀ c ∈ gap.head?, isDecimalDigit c = false
  unmarked : '?' ∉ gap
  gapUnbroken : '\n' ∉ gap
  closing : mark ∈ endMarks
  separated : Separated after

namespace Surroundings

variable (around : Surroundings)

/-- The beginning of a line of this function, up to the end mark. -/
def opening (e : Export) : List Char :=
  around.before ++ decimal e.ordinal.toNat ++ around.gap ++
    decorate e.identifier (e.returnType :: e.parameters) ++ around.mark

def write (e : Export) : List Char :=
  around.opening e ++ around.after

theorem unbroken_opening {e : Export} (named : IsIdentifier e.identifier) :
    '\n' ∉ around.opening e := by
  have numberUnbroken : '\n' ∉ decimal e.ordinal.toNat := fun member =>
    absurd (isDigit_of_mem_decimal member) (by decide)
  have markUnbroken : '\n' ∉ around.mark :=
    (by decide : ∀ mark ∈ endMarks, '\n' ∉ mark) around.mark around.closing
  have nameUnbroken := unbroken_decorate (e.returnType :: e.parameters) named
  intro member
  simp only [opening, List.mem_append] at member
  rcases member with (((member | member) | member) | member) | member
  · exact around.unbroken member
  · exact numberUnbroken member
  · exact around.gapUnbroken member
  · exact nameUnbroken member
  · exact markUnbroken member

theorem fields?_opening {e : Export} (named : IsIdentifier e.identifier)
    (separated : Separated after) :
    fields? (around.opening e ++ after) =
      some (decimal e.ordinal.toNat, e.identifier, encodeTypes (e.returnType :: e.parameters)) := by
  have name := findName?_decorate (e.returnType :: e.parameters) named around.unmarked
    around.closing separated
  refine fields?_eq_some_iff.mpr ⟨_, ⟨decimal_ne_nil _, ?_, ?_, around.before, ?_,
    around.undigited⟩, name⟩
  · exact fun c member => isDecimalDigit_of_isDigit (isDigit_of_mem_decimal member)
  · have apart := around.apart
    cases gap : around.gap with
    | nil =>
        rw [List.nil_append, decorate]
        simp
        decide
    | cons c rest =>
        rw [gap] at apart
        exact apart
  · simp only [opening, List.append_assoc]

/-- The fields are those of the first line, up to any break in the text after the end mark. -/
theorem parse?_write {e : Export} (named : IsIdentifier e.identifier) :
    parse? (around.write e) =
      some ⟨e.ordinal, e.identifier, encodeTypes (e.returnType :: e.parameters)⟩ := by
  obtain ⟨first, others, cut⟩ :=
    List.exists_cons_of_ne_nil (segments_ne_nil (· == '\n') around.after)
  -- The text after the mark may go on in other lines, which come after the one that counts.
  have firstSeparated : Separated first := by
    obtain ⟨⟨rest, whole, _⟩, _⟩ := segments_parts cut
    intro c head
    refine around.separated c ?_
    rw [whole]
    exact List.mem_head?_append_of_mem_head? head
  have unbroken : ∀ c ∈ around.opening e, (c == '\n') = false := by
    intro c member
    simpa using ne_of_mem_of_not_mem member (around.unbroken_opening named)
  have number : word32? (decimal e.ordinal.toNat) = some e.ordinal :=
    word32?_eq_some_iff.mpr ⟨fun _ => isDigit_of_mem_decimal, digitsValue_decimal _⟩
  rw [parse?, write, segments_append unbroken cut, List.findSome?_cons,
    around.fields?_opening named firstSeparated]
  dsimp only
  rw [Option.bind_some]
  dsimp only
  rw [number]
  rfl

theorem decodeLine_write {e : Export} (named : IsIdentifier e.identifier) :
    decodeLine (around.write e) = .ok (some e) :=
  decodeLine_eq_some_iff.mpr (around.parse?_write named)

end Surroundings

/-! ### What a decoded line holds -/

/-- The line shows the function: the digits have the value of its ordinal and stand apart from any
other digit, and its decorated name with an end mark comes after them before the line breaks. -/
structure Shows (line before digits gap mark after : List Char) (e : Export) : Prop where
  whole : line = before ++ digits ++ gap ++ decorate e.identifier (e.returnType :: e.parameters) ++
    mark ++ after
  nonempty : digits ≠ []
  ascii : ∀ c ∈ digits, c.isDigit = true
  value : digitsValue digits = e.ordinal.toNat
  apart_before : ∀ c ∈ before.getLast?, isDecimalDigit c = false
  apart_after : ∀ c ∈ gap.head?, isDecimalDigit c = false
  unbroken : '\n' ∉ gap
  named : IsIdentifier e.identifier
  closing : mark ∈ endMarks

theorem exists_segment_of_parse? {fields : ExportLine} (parsed : parse? line = some fields) :
    ∃ segment ∈ segments (· == '\n') line, '\n' ∉ segment ∧ parse? segment = some fields := by
  obtain ⟨name, found, numbered⟩ := Option.bind_eq_some_iff.mp parsed
  obtain ⟨segment, member, named⟩ := List.exists_of_findSome?_eq_some found
  have unbroken : '\n' ∉ segment := fun broken => by
    simpa using unseparated_of_mem_segments member _ broken
  refine ⟨segment, member, unbroken, ?_⟩
  rw [parse?_of_unbroken unbroken, named]
  exact numbered

theorem decodeLine_of_unmarked (unmarked : '?' ∉ line) : decodeLine line = .ok none := by
  have absent : parse? line = none := by
    cases parsed : parse? line with
    | none => rfl
    | some fields =>
        obtain ⟨segment, member, unbroken, found⟩ := exists_segment_of_parse? parsed
        obtain ⟨digits, after, gap, name, captures⟩ := (parse?_eq_some_iff unbroken).mp found
        obtain ⟨earlier, later, whole, _, _⟩ := surroundings_of_mem_segments member
        obtain ⟨before, inside, _⟩ := captures.digits_first.first
        refine absurd ?_ unmarked
        rw [whole, inside, captures.marked]
        simp
  rw [decodeLine, absent]

theorem shows_of_decodeLine {e : Export} (decoded : decodeLine line = .ok (some e)) :
    ∃ before digits gap mark after, Shows line before digits gap mark after e := by
  obtain ⟨segment, member, unbroken, parsed⟩ :=
    exists_segment_of_parse? (decodeLine_eq_some_iff.mp decoded)
  obtain ⟨earlier, later, cut, breaks, _⟩ := surroundings_of_mem_segments member
  obtain ⟨digits, after, gap, name, captures⟩ := (parse?_eq_some_iff unbroken).mp parsed
  obtain ⟨named, rest, decorated, _, mark, closing, tail, written⟩ := captures.decorated
  obtain ⟨before, whole, undigited⟩ := captures.digits_first.first
  have marked := captures.marked
  refine ⟨earlier ++ before, digits, gap, mark, tail ++ later, ?_⟩
  constructor
  · rw [cut, whole, marked, decorated, ← written, decorate]
    simp only [List.append_assoc, List.cons_append]
  · exact captures.digits_first.nonempty
  · exact captures.ascii
  · exact captures.value
  · intro c last
    rw [List.getLast?_append, Option.mem_def, Option.or_eq_some_iff] at last
    rcases last with last | ⟨_, last⟩
    · exact undigited c (List.mem_of_getLast? last)
    · obtain rfl : c = '\n' := by simpa using breaks c last
      decide
  · intro c head
    refine captures.digits_first.whole c ?_
    rw [marked]
    exact List.mem_head?_append_of_mem_head? head
  · intro broken
    refine unbroken ?_
    rw [whole, marked]
    exact List.mem_append_right _ (List.mem_append_left _ broken)
  · exact named
  · exact closing

/-- Depths fit into 32 bits on any line of less than `3 * 2 ^ 32` bytes. -/
theorem depth_lt_of_decodeLine {e : Export} (decoded : decodeLine line = .ok (some e))
    (short : Utf8.size line < 3 * 2 ^ 32) :
    ∀ type ∈ e.returnType :: e.parameters, type.depth < 2 ^ 32 := by
  obtain ⟨before, digits, gap, mark, after, shown⟩ := shows_of_decodeLine decoded
  intro type member
  refine depth_lt_of_size_lt member ?_
  rw [shown.whole, decorate] at short
  simp only [Utf8.size_append] at short
  omega

/-- Decoding inverts writing a function into a line: it recovers the function from every line that
leaves number and name to be found, and a line that it decodes shows that function. -/
theorem decodeLine_inverts_writing :
    (∀ (around : Surroundings) (e : Export), IsIdentifier e.identifier →
      decodeLine (around.write e) = .ok (some e)) ∧
    ∀ line e, decodeLine line = .ok (some e) →
      (∃ before digits gap mark after, Shows line before digits gap mark after e) ∧
      (Utf8.size line < 3 * 2 ^ 32 →
        ∀ type ∈ e.returnType :: e.parameters, type.depth < 2 ^ 32) :=
  ⟨fun around _ named => around.decodeLine_write named, fun _ _ decoded =>
    ⟨shows_of_decodeLine decoded, depth_lt_of_decodeLine decoded⟩⟩

theorem decodeLine_inverts_writing_repeatedName :
    IsIdentifier ['f'] ∧
    decodeLine "7 ?f@@YAXPEAHXZ = ?f@@YAXPEAHXZ".toList =
      .ok (some ⟨7, ['f'], ⟨.void, 0⟩, [⟨.int, 1⟩]⟩) ∧
    (∃ before digits gap mark after, Shows "7 ?f@@YAXPEAHXZ = ?f@@YAXPEAHXZ".toList
      before digits gap mark after ⟨7, ['f'], ⟨.void, 0⟩, [⟨.int, 1⟩]⟩) ∧
    Utf8.size "7 ?f@@YAXPEAHXZ = ?f@@YAXPEAHXZ".toList < 3 * 2 ^ 32 ∧
    ∀ type ∈ [(⟨.void, 0⟩ : NativeType), ⟨.int, 1⟩], type.depth < 2 ^ 32 := by
  have named : IsIdentifier ['f'] := ⟨'f', [], rfl, by decide, by simp⟩
  have apart : isDecimalDigit ' ' = false := by decide
  have outside : isRunChar ' ' = false := by decide
  have decoded := decodeLine_inverts_writing.1
    ⟨[], [' '], ['X', 'Z'], " = ?f@@YAXPEAHXZ".toList, by simp, by decide, by simpa using apart,
      by decide, by decide, by decide, by simpa [Separated] using outside⟩
    ⟨7, ['f'], ⟨.void, 0⟩, [⟨.int, 1⟩]⟩ named
  have short : Utf8.size "7 ?f@@YAXPEAHXZ = ?f@@YAXPEAHXZ".toList < 3 * 2 ^ 32 := by decide
  obtain ⟨shown, depths⟩ := decodeLine_inverts_writing.2 _ _ decoded
  exact ⟨named, decoded, shown, short, depths short⟩

end NativeInterop
