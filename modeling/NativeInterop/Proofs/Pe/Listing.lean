import Mathlib
import NativeInterop.Source.ExportSource
import NativeInterop.Proofs.Export.Listing
import NativeInterop.Proofs.Pe.ListingLine

namespace NativeInterop.Pe

open ExportLine Log Text

/-! A listing has one line for each entry of the table as long as no name breaks its line. Names are
bytes of the image and are written as they are, so a line feed in one of them shifts all later lines,
and a carriage return at the end of one is lost. -/

variable {width : Width} {bytes : Bytes} {rows : List (List Char)} {entry : ExportEntry}
  {entries : List ExportEntry} {binary : Path} {files : FileSystem} {e : Export}

/-! ### What a name does to its line -/

def ExportTarget.texts : ExportTarget → List Bytes
  | .address _ => []
  | .forwardByName library symbol => [library, symbol]
  | .forwardByOrdinal library _ => [library]

/-- The bytes of the image that come into the line of an entry. -/
def ExportEntry.texts (entry : ExportEntry) : List Bytes :=
  entry.name.toList ++ entry.target.texts

def lineFeed : UInt8 := 0x0A

def carriageReturn : UInt8 := 0x0D

/-- No name breaks a line, and no line but the last ends in a carriage return. -/
structure KeepsLines (entries : List ExportEntry) : Prop where
  unbroken : ∀ entry ∈ entries, ∀ text ∈ entry.texts, lineFeed ∉ text
  plain : ∀ entry ∈ entries.dropLast, ∀ address name, entry.target = .address address →
    entry.name = some name → name.getLast? ≠ some carriageReturn

theorem feed_mem_decodeLossy_iff {text : Bytes} : '\n' ∈ Utf8.decodeLossy text ↔ lineFeed ∈ text :=
  Utf8.mem_decodeLossy_iff (by decide) (by decide)

theorem feed_mem_note_iff (library : Bytes) (symbol : List Char) :
    '\n' ∈ forwardingNote.note library symbol ↔ lineFeed ∈ library ∨ '\n' ∈ symbol := by
  unfold forwardingNote.note
  simp [feed_mem_decodeLossy_iff]

theorem feed_mem_forwardingNote_iff (target : ExportTarget) :
    '\n' ∈ forwardingNote target ↔ ∃ text ∈ target.texts, lineFeed ∈ text := by
  cases target with
  | address address => simp [forwardingNote, ExportTarget.texts]
  | forwardByName library symbol =>
      simp [forwardingNote, feed_mem_note_iff, ExportTarget.texts, feed_mem_decodeLossy_iff]
  | forwardByOrdinal library ordinal =>
      have number : '\n' ∉ decimal ordinal.toNat := fun member =>
        absurd (isDigit_of_mem_decimal member) (by decide)
      simp [forwardingNote, feed_mem_note_iff, ExportTarget.texts, number]

theorem notMem_ordinalField {c : Char} (blank : c ≠ ' ') (other : c.isDigit = false)
    (entry : ExportEntry) : c ∉ alignRight 10 (decimal entry.ordinal.toNat) := by
  rw [alignRight, List.mem_append, not_or]
  refine ⟨fun member => blank (List.eq_of_mem_replicate member), fun member => ?_⟩
  rw [isDigit_of_mem_decimal member] at other
  contradiction

theorem feed_mem_listingLine_iff (entry : ExportEntry) :
    '\n' ∈ listingLine entry ↔ ∃ text ∈ entry.texts, lineFeed ∈ text := by
  have ordinal := notMem_ordinalField (by decide : '\n' ≠ ' ') (by decide) entry
  have address : '\n' ∉ addressColumn entry.target := not_mem_addressColumn (by decide) (by decide)
  have name : '\n' ∈ nameColumn entry.name ↔ ∃ text ∈ entry.name.toList, lineFeed ∈ text := by
    cases entry.name with
    | none => simp [nameColumn]
    | some name => simp [nameColumn, feed_mem_decodeLossy_iff]
  simp only [listingLine, List.mem_append, ordinal, address, false_or, name,
    feed_mem_forwardingNote_iff, ExportEntry.texts, or_and_right, exists_or]

theorem listingLine_ne_nil (entry : ExportEntry) : listingLine entry ≠ [] := by
  intro empty
  have field := length_ordinalField entry
  rw [listingLine_eq, List.append_eq_nil_iff] at empty
  simp [empty.1] at field

theorem getLast?_forwardingNote {target : ExportTarget}
    (forwarded : ∀ address, target ≠ .address address) :
    (forwardingNote target).getLast? = some ')' := by
  cases target with
  | address address => exact absurd rfl (forwarded address)
  | forwardByName library symbol => exact List.getLast?_concat
  | forwardByOrdinal library ordinal => exact List.getLast?_concat

theorem getLast?_nameColumn_iff {name : Bytes} :
    (nameColumn (some name)).getLast? = some '\r' ↔ name.getLast? = some carriageReturn := by
  have returns : (Utf8.decodeLossy name).getLast? = some '\r' ↔ name.getLast? = some carriageReturn :=
    Utf8.getLast?_decodeLossy_iff (by decide) (by decide)
  rw [nameColumn, List.getLast?_cons, ← returns]
  cases (Utf8.decodeLossy name).getLast? with
  | none => simp
  | some c => simp

theorem return_at_end_iff (entry : ExportEntry) :
    (listingLine entry).getLast? = some '\r' ↔ ∃ address name, entry.target = .address address ∧
      entry.name = some name ∧ name.getLast? = some carriageReturn := by
  have ordinal := notMem_ordinalField (by decide : '\r' ≠ ' ') (by decide) entry
  have address : '\r' ∉ addressColumn entry.target := not_mem_addressColumn (by decide) (by decide)
  by_cases addressed : ∃ address, entry.target = .address address
  · obtain ⟨place, target⟩ := addressed
    have whole : listingLine entry = alignRight 10 (decimal entry.ordinal.toNat) ++
        addressColumn entry.target ++ nameColumn entry.name := by
      rw [listingLine, target, forwardingNote, List.append_nil]
    cases named : entry.name with
    | none =>
        have absent : '\r' ∉ listingLine entry := by
          simp [whole, named, nameColumn, ordinal, address]
        constructor
        · intro last
          exact absurd (List.mem_of_getLast? last) absent
        · simp
    | some name =>
        have last : (listingLine entry).getLast? = (nameColumn (some name)).getLast? := by
          rw [whole, named, List.getLast?_append, nameColumn, List.getLast?_cons]
          rfl
        rw [last, getLast?_nameColumn_iff]
        simp [target]
  · have forwarded : ∀ address, entry.target ≠ .address address := fun address target =>
      addressed ⟨address, target⟩
    have last : (listingLine entry).getLast? = some ')' := by
      rw [listingLine, List.getLast?_append, getLast?_forwardingNote forwarded]
      rfl
    rw [last]
    simp [forwarded]

theorem lines_listing_iff (entries : List ExportEntry) :
    lines (List.intercalate ['\n'] (entries.map listingLine)) = entries.map listingLine ↔
      KeepsLines entries := by
  have nonempty : ∀ row ∈ entries.map listingLine, row ≠ [] := by
    rw [List.forall_mem_map]
    exact fun entry _ => listingLine_ne_nil entry
  rw [lines_intercalate_iff nonempty, ← List.map_dropLast, List.forall_mem_map, List.forall_mem_map]
  constructor
  · rintro ⟨unbroken, plain⟩
    refine ⟨fun entry member text inside feed => ?_, fun entry member address name target named last =>
      plain entry member ((return_at_end_iff entry).mpr ⟨address, name, target, named, last⟩)⟩
    exact unbroken entry member ((feed_mem_listingLine_iff entry).mpr ⟨text, inside, feed⟩)
  · rintro ⟨unbroken, plain⟩
    constructor
    · intro entry member feed
      obtain ⟨text, inside, broken⟩ := (feed_mem_listingLine_iff entry).mp feed
      exact unbroken entry member text inside broken
    · intro entry member last
      obtain ⟨address, name, target, named, returns⟩ := (return_at_end_iff entry).mp last
      exact plain entry member address name target named returns

/-! ### What is decoded -/

theorem firstDigits_listingLine (entry : ExportEntry) :
    ∃ after, FirstDigits (listingLine entry) (decimal entry.ordinal.toNat) after := by
  refine ⟨addressColumn entry.target ++ (nameColumn entry.name ++ forwardingNote entry.target),
    decimal_ne_nil _, ?_, ?_, blanks (10 - (decimal entry.ordinal.toNat).length), ?_, ?_⟩
  · exact fun c member => isDecimalDigit_of_isDigit (isDigit_of_mem_decimal member)
  · intro c head
    rw [addressColumn_eq] at head
    obtain rfl : ' ' = c := Option.some.inj head
    decide
  · simp only [listingLine, alignRight, List.append_assoc]
  · intro c member
    obtain rfl := List.eq_of_mem_replicate member
    decide

/-- The first digits of a line are those of the ordinal. -/
theorem ordinal_of_decodeLine (unbroken : '\n' ∉ listingLine entry)
    (decoded : decodeLine (listingLine entry) = .ok (some e)) : e.ordinal = entry.ordinal := by
  obtain ⟨digits, after, gap, name, captures⟩ :=
    (parse?_eq_some_iff unbroken).mp (decodeLine_eq_some_iff.mp decoded)
  obtain ⟨rest, shown⟩ := firstDigits_listingLine entry
  have same : digits = decimal entry.ordinal.toNat :=
    (firstDigits_iff.mp captures.digits_first).2.1.trans (firstDigits_iff.mp shown).2.1.symm
  have value := captures.value
  rw [same, digitsValue_decimal] at value
  exact (UInt32.toNat_inj.mp value).symm

/-- One outcome for each entry, numbered by its place in the table. -/
def outcomes (entries : List ExportEntry) : List LineOutcome :=
  (entries.zipIdx 1).map fun numbered => .ofLine numbered.2 (listingLine numbered.1)

theorem lineOutcomes_listing (entries : List ExportEntry) :
    lineOutcomes 1 (entries.map listingLine) = outcomes entries := by
  rw [lineOutcomes_eq_map, List.zipIdx_map, List.map_map]
  rfl

theorem decodeListing_of_keepsLines (keeps : KeepsLines entries) :
    decodeListing (List.intercalate ['\n'] (entries.map listingLine)) =
      ⟨(outcomes entries).filterMap LineOutcome.export?,
        (outcomes entries).filterMap LineOutcome.rejected?⟩ := by
  rw [decodeListing, (lines_listing_iff entries).mpr keeps, lineOutcomes_listing]

/-! ### Images -/

theorem exportLines_eq_ok_iff :
    exportLines width bytes = .ok rows ↔ ∃ image entries, Image.parse width bytes = .ok image ∧
      image.exports = .ok entries ∧ rows = entries.map listingLine := by
  cases parsed : Image.parse width bytes with
  | error fault => simp [exportLines, parsed, bind, Except.bind]
  | ok image =>
      cases exported : image.exports with
      | error fault => simp [exportLines, parsed, exported, bind, Except.bind]
      | ok entries =>
          simp [exportLines, parsed, exported, bind, Except.bind, pure, Except.pure, eq_comm]

theorem value_listing_imageSource (read : files.read binary = .ok bytes)
    (kind : FileKind.ofBytes bytes = .ok (.image width))
    (accepted : exportLines width bytes = .ok rows) :
    (Source.imageSource.listing binary files).value =
      ⟨.ok (List.intercalate ['\n'] rows), files⟩ := by
  have found : (files.read binary).mapError BindingError.io >>= Source.imageLines binary =
      .ok rows := by
    simp only [read, Source.imageLines, kind, accepted, Except.mapError, bind, Except.bind]
  simp only [Source.imageSource, Source.imageListing, Logged.value_bind, Logged.value_pure, found]
  rfl

/-- The listing of an image is cut into the lines of its entries just when no name holds a line feed
and none that ends a line before the last ends in a carriage return. Then the report has one outcome
for each entry, under its number, and what is decoded of an entry has its ordinal. -/
theorem listing_keeps_lines_iff (read : files.read binary = .ok bytes)
    (kind : FileKind.ofBytes bytes = .ok (.image width))
    (accepted : exportLines width bytes = .ok rows) :
    ∃ image entries, Image.parse width bytes = .ok image ∧ image.exports = .ok entries ∧
      rows = entries.map listingLine ∧
      let listing := List.intercalate ['\n'] rows
      (Source.imageSource.listing binary files).value = ⟨.ok listing, files⟩ ∧
      (lines listing = rows ↔ KeepsLines entries) ∧
      (KeepsLines entries →
        (decodeListing listing).exports = (outcomes entries).filterMap LineOutcome.export? ∧
        (decodeListing listing).rejected = (outcomes entries).filterMap LineOutcome.rejected? ∧
        ∀ entry ∈ entries, ∀ e, decodeLine (listingLine entry) = .ok (some e) →
          e.ordinal = entry.ordinal) := by
  have listed := value_listing_imageSource read kind accepted
  obtain ⟨image, entries, parsed, exported, rfl⟩ := exportLines_eq_ok_iff.mp accepted
  refine ⟨image, entries, parsed, exported, rfl, listed, lines_listing_iff entries, fun keeps => ?_⟩
  refine ⟨by rw [decodeListing_of_keepsLines keeps], by rw [decodeListing_of_keepsLines keeps], ?_⟩
  intro entry member e decoded
  refine ordinal_of_decodeLine (fun feed => ?_) decoded
  obtain ⟨text, inside, broken⟩ := (feed_mem_listingLine_iff entry).mp feed
  exact keeps.unbroken entry member text inside broken

/-- An image of two functions, with this byte in the name of the first. -/
def twoFunctions (byte : UInt8) : Bytes :=
  Image.dosMagic ++ List.replicate 58 0 ++ [64, 0, 0, 0] ++
  -- signature, file header and optional header with one data directory
  Image.headersMagic ++ [0x4C, 1, 1, 0] ++ List.replicate 12 0 ++ [104, 0, 2, 0x21] ++
  [0x0B, 1] ++ List.replicate 90 0 ++ [1, 0, 0, 0] ++ [0, 0x10, 0, 0, 74, 0, 0, 0] ++
  -- the only section
  [0x2E, 0x65, 0x64, 0x61, 0x74, 0x61, 0, 0] ++
  [74, 0, 0, 0, 0, 0x10, 0, 0, 74, 0, 0, 0, 232, 0, 0, 0] ++ List.replicate 12 0 ++ [64, 0, 0, 64] ++
  -- the table, its addresses, the places of its names, and the names
  List.replicate 16 0 ++ [1, 0, 0, 0, 2, 0, 0, 0, 2, 0, 0, 0] ++
  [40, 0x10, 0, 0, 48, 0x10, 0, 0, 56, 0x10, 0, 0] ++ [0, 0x20, 0, 0, 0x10, 0x20, 0, 0] ++
  [64, 0x10, 0, 0, 60, 0x10, 0, 0] ++ [1, 0, 0, 0] ++
  Text.Utf8.encode ['a'] ++ [byte] ++ Text.Utf8.encode "b\x00?f@@YAQXZ\x00".toList

/-- The functions of such an image. The second has a type code that is none. -/
def twoEntries (byte : UInt8) : List ExportEntry :=
  [⟨1, .address 0x2000, some [0x61, byte, 0x62]⟩,
    ⟨2, .address 0x2010, some (Utf8.encode ['?', 'f', '@', '@', 'Y', 'A', 'Q', 'X', 'Z'])⟩]

set_option maxRecDepth 4000 in
theorem kind_twoFunctions {byte : UInt8} (tried : byte = 0x20 ∨ byte = lineFeed) :
    FileKind.ofBytes (twoFunctions byte) = .ok (.image .narrow) := by
  rcases tried with rfl | rfl <;> rfl

set_option maxRecDepth 4000 in
theorem exports_twoFunctions {byte : UInt8} (tried : byte = 0x20 ∨ byte = lineFeed) :
    ∃ image, Image.parse .narrow (twoFunctions byte) = .ok image ∧
      image.exports = .ok (twoEntries byte) := by
  rcases tried with rfl | rfl <;> exact ⟨_, rfl, rfl⟩

theorem exportLines_twoFunctions {byte : UInt8} (tried : byte = 0x20 ∨ byte = lineFeed) :
    exportLines .narrow (twoFunctions byte) = .ok ((twoEntries byte).map listingLine) := by
  obtain ⟨image, parsed, exported⟩ := exports_twoFunctions tried
  exact exportLines_eq_ok_iff.mpr ⟨image, twoEntries byte, parsed, exported, rfl⟩

theorem map_listingLine_twoEntries {byte : UInt8} {c : Char} (same : Utf8.encode [c] = [byte]) :
    (twoEntries byte).map listingLine =
      ["         1          00002000 a".toList ++ [c, 'b'],
        "         2          00002010 ?f@@YAQXZ".toList] := by
  have first : Utf8.decodeLossy [0x61, byte, 0x62] = ['a', c, 'b'] := by
    have written : [0x61, byte, 0x62] = Utf8.encode ['a', c, 'b'] := by
      have whole : Utf8.encode ['a', c, 'b'] =
          Utf8.encode ['a'] ++ Utf8.encode [c] ++ Utf8.encode ['b'] := by
        simp [Utf8.encode]
      rw [whole, same]
      rfl
    rw [written]
    exact Utf8.decodeLossy_encode _
  have second : Utf8.decodeLossy (Utf8.encode ['?', 'f', '@', '@', 'Y', 'A', 'Q', 'X', 'Z']) =
      ['?', 'f', '@', '@', 'Y', 'A', 'Q', 'X', 'Z'] := Utf8.decodeLossy_encode _
  simp only [twoEntries, List.map_cons, List.map_nil, listingLine, nameColumn, first, second]
  rfl

/-- A blank in a name does no harm: the type code of the second function is rejected on line 2. -/
theorem listing_keeps_lines_iff_blankInName :
    let bytes := twoFunctions 0x20
    let binary : Path := ⟨['m']⟩
    let files : FileSystem := ⟨[], [([['m']], .file bytes false)]⟩
    ∃ rows listing, files.read binary = .ok bytes ∧
      FileKind.ofBytes bytes = .ok (.image .narrow) ∧ exportLines .narrow bytes = .ok rows ∧
      (Source.imageSource.listing binary files).value = ⟨.ok listing, files⟩ ∧
      lines listing = rows ∧
      (decodeListing listing).rejected =
        [⟨2, "2          00002010 ?f@@YAQXZ".toList, ⟨['Q'], 0⟩⟩] := by
  intro bytes binary files
  have read : files.read binary = .ok bytes := rfl
  have kind : FileKind.ofBytes bytes = .ok (.image .narrow) := kind_twoFunctions (.inl rfl)
  have accepted : exportLines .narrow bytes = .ok ((twoEntries 0x20).map listingLine) :=
    exportLines_twoFunctions (.inl rfl)
  obtain ⟨image, entries, parsed, exported, _, listed, kept, _⟩ :=
    listing_keeps_lines_iff read kind accepted
  obtain ⟨known, knownParsed, knownExported⟩ : ∃ known, Image.parse .narrow bytes = .ok known ∧
      known.exports = .ok (twoEntries 0x20) := exports_twoFunctions (.inl rfl)
  obtain rfl : image = known := Except.ok.inj (parsed.symm.trans knownParsed)
  obtain rfl : entries = twoEntries 0x20 := Except.ok.inj (exported.symm.trans knownExported)
  have keeps : KeepsLines (twoEntries 0x20) := by
    refine ⟨by decide, fun entry member address name _ named => ?_⟩
    obtain rfl := List.mem_singleton.mp member
    obtain rfl := Option.some.inj named
    decide
  refine ⟨_, _, read, kind, accepted, listed, kept.mpr keeps, ?_⟩
  rw [map_listingLine_twoEntries (c := ' ') (by decide)]
  cbv

/-- A line feed in the name of the first function makes two lines of it, so what is wrong with the
second function is told of line 3, and line 2 is no function's. -/
theorem lines_listing_feedInName :
    let bytes := twoFunctions lineFeed
    let binary : Path := ⟨['m']⟩
    let files : FileSystem := ⟨[], [([['m']], .file bytes false)]⟩
    ∃ rows listing, files.read binary = .ok bytes ∧
      FileKind.ofBytes bytes = .ok (.image .narrow) ∧ exportLines .narrow bytes = .ok rows ∧
      (Source.imageSource.listing binary files).value = ⟨.ok listing, files⟩ ∧
      rows.length = 2 ∧ lines listing ≠ rows ∧
      (decodeListing listing).rejected =
        [⟨3, "2          00002010 ?f@@YAQXZ".toList, ⟨['Q'], 0⟩⟩] := by
  intro bytes binary files
  have read : files.read binary = .ok bytes := rfl
  have kind : FileKind.ofBytes bytes = .ok (.image .narrow) := kind_twoFunctions (.inr rfl)
  have accepted : exportLines .narrow bytes = .ok ((twoEntries lineFeed).map listingLine) :=
    exportLines_twoFunctions (.inr rfl)
  refine ⟨_, _, read, kind, accepted, value_listing_imageSource read kind accepted, rfl, ?_, ?_⟩
  · rw [Ne, lines_listing_iff]
    intro keeps
    exact absurd keeps.unbroken (by decide)
  · rw [map_listingLine_twoEntries (c := '\n') (by decide)]
    cbv

end NativeInterop.Pe
