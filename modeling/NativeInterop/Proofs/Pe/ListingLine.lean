import NativeInterop.Pe.Listing
import NativeInterop.Proofs.Export.Decoding
import NativeInterop.Proofs.Text.Digits
import NativeInterop.Proofs.Text.Utf8

namespace NativeInterop.Pe

open ExportLine Signature Text

/-! The line of an entry has fixed columns, and it is decoded as the function that its name tells. The
digits of its address come after the ordinal, and what it says of a forwarder comes after the name, so
neither is taken for the other. -/

variable {entry : ExportEntry} {e : Export} {mark : List Char} {c : Char}

/-! ### Columns -/

/-- The last eight of the columns between the ordinal and the name. -/
def addressField : ExportTarget → List Char
  | .address address => upperHex 8 address.toNat
  | .forwardByName .. | .forwardByOrdinal .. => blanks 8

theorem addressColumn_eq (target : ExportTarget) :
    addressColumn target = blanks 10 ++ addressField target := by
  cases target <;> rfl

theorem length_addressField (target : ExportTarget) : (addressField target).length = 8 := by
  cases target with
  | address address => exact length_upperHex 8 address.toNat
  | forwardByName library symbol => rfl
  | forwardByOrdinal library ordinal => rfl

theorem length_ordinalField (entry : ExportEntry) :
    (alignRight 10 (decimal entry.ordinal.toNat)).length = 10 :=
  length_alignRight (length_decimal_word32 entry.ordinal)

theorem listingLine_eq (entry : ExportEntry) :
    listingLine entry = alignRight 10 (decimal entry.ordinal.toNat) ++ (blanks 10 ++
      (addressField entry.target ++ (nameColumn entry.name ++ forwardingNote entry.target))) := by
  simp only [listingLine, addressColumn_eq, List.append_assoc]

/-- The ordinal stands at the right end of the first ten columns, the address in columns 21 to 28, and
the name begins in column 30. -/
structure InColumns (entry : ExportEntry) (line : List Char) : Prop where
  ordinal : ∃ count, line.take 10 = blanks count ++ decimal entry.ordinal.toNat ∧
    (line.take 10).length = 10
  between : (line.drop 10).take 10 = blanks 10
  address : ∀ address, entry.target = .address address →
    ((line.drop 20).take 8).length = 8 ∧
    (∀ c ∈ (line.drop 20).take 8, isUpperHexDigit c = true) ∧
    hexValue ((line.drop 20).take 8) = address.toNat
  forwarder : (∀ address, entry.target ≠ .address address) → (line.drop 20).take 8 = blanks 8
  name : ∀ name, entry.name = some name → ' ' :: Utf8.decodeLossy name <+: line.drop 28

theorem inColumns_listingLine (entry : ExportEntry) : InColumns entry (listingLine entry) := by
  have first := length_ordinalField entry
  have last := length_addressField entry.target
  have ordinal : (listingLine entry).take 10 = alignRight 10 (decimal entry.ordinal.toNat) := by
    rw [listingLine_eq]
    exact List.take_left' first
  have afterOrdinal : (listingLine entry).drop 10 = blanks 10 ++
      (addressField entry.target ++ (nameColumn entry.name ++ forwardingNote entry.target)) := by
    rw [listingLine_eq]
    exact List.drop_left' first
  have afterBlanks : (listingLine entry).drop 20 =
      addressField entry.target ++ (nameColumn entry.name ++ forwardingNote entry.target) := by
    have parts : (listingLine entry).drop 20 = ((listingLine entry).drop 10).drop 10 := by
      rw [List.drop_drop]
    rw [parts, afterOrdinal]
    exact List.drop_left' (length_blanks 10)
  have field : ((listingLine entry).drop 20).take 8 = addressField entry.target := by
    rw [afterBlanks]
    exact List.take_left' last
  constructor
  · rw [ordinal]
    exact ⟨_, rfl, first⟩
  · rw [afterOrdinal]
    exact List.take_left' (length_blanks 10)
  · intro address addressed
    rw [field, addressed]
    exact ⟨length_upperHex .., fun c => isUpperHexDigit_of_mem_upperHex,
      hexValue_upperHex address.toNat_lt⟩
  · intro forwarded
    rw [field]
    cases target : entry.target with
    | address address => exact absurd target (forwarded address)
    | forwardByName library symbol => rfl
    | forwardByOrdinal library ordinal => rfl
  · intro name named
    have parts : (listingLine entry).drop 28 = ((listingLine entry).drop 20).drop 8 := by
      rw [List.drop_drop]
    rw [parts, afterBlanks, List.drop_left' last, named]
    exact List.prefix_append _ _

/-! ### Names that are decorated -/

theorem not_mem_addressColumn {target : ExportTarget} (blank : c ≠ ' ')
    (other : isUpperHexDigit c = false) : c ∉ addressColumn target := by
  have outside : ∀ count, c ∉ blanks count := fun count member =>
    blank (List.eq_of_mem_replicate member)
  rw [addressColumn_eq, List.mem_append, not_or]
  refine ⟨outside 10, ?_⟩
  cases target with
  | address address =>
      intro member
      rw [isUpperHexDigit_of_mem_upperHex member] at other
      contradiction
  | forwardByName library symbol => exact outside 8
  | forwardByOrdinal library ordinal => exact outside 8

/-- What stands around ordinal and name in the line of an entry. -/
def surroundings (entry : ExportEntry) (closing : mark ∈ endMarks) : Surroundings where
  before := blanks (10 - (decimal entry.ordinal.toNat).length)
  gap := addressColumn entry.target ++ [' ']
  mark := mark
  after := forwardingNote entry.target
  undigited := by
    intro c member
    obtain rfl := List.eq_of_mem_replicate member
    decide
  unbroken := by
    intro member
    exact absurd (List.eq_of_mem_replicate member) (by decide)
  apart := by
    intro c head
    rw [addressColumn_eq] at head
    obtain rfl : ' ' = c := Option.some.inj head
    decide
  unmarked := by
    rw [List.mem_append, not_or]
    exact ⟨not_mem_addressColumn (by decide) (by decide), by decide⟩
  gapUnbroken := by
    rw [List.mem_append, not_or]
    exact ⟨not_mem_addressColumn (by decide) (by decide), by decide⟩
  closing := closing
  separated := by
    intro c head
    cases target : entry.target with
    | address address => simp [target, forwardingNote] at head
    | forwardByName library symbol =>
        rw [target] at head
        obtain rfl : ' ' = c := Option.some.inj head
        decide
    | forwardByOrdinal library ordinal =>
        rw [target] at head
        obtain rfl : ' ' = c := Option.some.inj head
        decide

theorem listingLine_eq_write (closing : mark ∈ endMarks) (ordinal : entry.ordinal = e.ordinal)
    (name : entry.name =
      some (Utf8.encode (decorate e.identifier (e.returnType :: e.parameters) ++ mark))) :
    listingLine entry = (surroundings entry closing).write e := by
  rw [listingLine, name, nameColumn, Utf8.decodeLossy_encode]
  simp only [surroundings, Surroundings.write, Surroundings.opening, alignRight, ordinal,
    List.append_assoc, List.cons_append, List.nil_append]

/-! ### Names without a question mark -/

theorem unmarked_listingLine {address : UInt32} (target : entry.target = .address address)
    (unmarked : ∀ name, entry.name = some name → '?'.toNat.toUInt8 ∉ name) :
    '?' ∉ listingLine entry := by
  have outside : ∀ count, '?' ∉ blanks count := fun count member =>
    absurd (List.eq_of_mem_replicate member) (by decide)
  have number : '?' ∉ decimal entry.ordinal.toNat := fun member =>
    absurd (isDigit_of_mem_decimal member) (by decide)
  have address : '?' ∉ addressColumn entry.target :=
    not_mem_addressColumn (by decide) (by decide)
  simp only [listingLine, alignRight, List.mem_append, not_or]
  refine ⟨⟨⟨⟨outside _, number⟩, address⟩, ?_⟩, ?_⟩
  · cases named : entry.name with
    | none => simp [nameColumn]
    | some name =>
        rw [nameColumn, List.mem_cons, not_or, Utf8.mem_decodeLossy_iff (by decide) (by decide)]
        exact ⟨by decide, unmarked name named⟩
  · simp [target, forwardingNote]

/-- The line of an entry with a decorated name is decoded as the function of this name with the
entry's ordinal, whatever it is forwarded to. The line of an address without a question mark in its
name tells of no function. Every line keeps to its columns. -/
theorem listingLine_decodes_in_columns :
    (∀ entry e mark, IsIdentifier e.identifier → mark ∈ endMarks → entry.ordinal = e.ordinal →
      entry.name =
        some (Utf8.encode (decorate e.identifier (e.returnType :: e.parameters) ++ mark)) →
      decodeLine (listingLine entry) = .ok (some e)) ∧
    (∀ entry address, entry.target = .address address →
      (∀ name, entry.name = some name → '?'.toNat.toUInt8 ∉ name) →
      decodeLine (listingLine entry) = .ok none) ∧
    ∀ entry, InColumns entry (listingLine entry) := by
  refine ⟨?_, ?_, inColumns_listingLine⟩
  · intro entry e mark named closing ordinal name
    rw [listingLine_eq_write closing ordinal name]
    exact (surroundings entry closing).decodeLine_write named
  · intro entry address target unmarked
    exact decodeLine_of_unmarked (unmarked_listingLine target unmarked)

/-- The greatest ordinal fills its columns, and the forwarder has a decorated name of its own. -/
theorem listingLine_decodes_in_columns_forwarder :
    let name := "?f@@YAXPEAHXZ".toList
    let entry : ExportEntry :=
      ⟨4294967295, .forwardByName [0x6F] (Utf8.encode "?g@@YAQXZ".toList), some (Utf8.encode name)⟩
    let unnamed : ExportEntry := ⟨7, .address 4294967295, none⟩
    IsIdentifier ['f'] ∧ ['X', 'Z'] ∈ endMarks ∧
    decorate ['f'] [⟨.void, 0⟩, ⟨.int, 1⟩] ++ ['X', 'Z'] = name ∧
    decodeLine (listingLine entry) = .ok (some ⟨4294967295, ['f'], ⟨.void, 0⟩, [⟨.int, 1⟩]⟩) ∧
    (listingLine entry).take 10 = "4294967295".toList ∧
    decodeLine (listingLine unnamed) = .ok none ∧
    hexValue (((listingLine unnamed).drop 20).take 8) = 4294967295 := by
  intro name entry unnamed
  have named : IsIdentifier ['f'] := ⟨'f', [], rfl, by decide, by simp⟩
  have closing : ['X', 'Z'] ∈ endMarks := by decide
  have written : decorate ['f'] [⟨.void, 0⟩, ⟨.int, 1⟩] ++ ['X', 'Z'] = name := by decide
  obtain ⟨decorated, unmarked, columns⟩ := listingLine_decodes_in_columns
  refine ⟨named, closing, written, ?_, ?_, unmarked unnamed 4294967295 rfl (by simp [unnamed]),
    ((columns unnamed).address 4294967295 rfl).2.2⟩
  · refine decorated entry ⟨4294967295, ['f'], ⟨.void, 0⟩, [⟨.int, 1⟩]⟩ _ named closing rfl ?_
    rw [written]
  · obtain ⟨count, field, length⟩ := (columns entry).ordinal
    have number : decimal entry.ordinal.toNat = "4294967295".toList := by decide
    rw [field, number, List.length_append, length_blanks] at length
    have none : count = 0 := by
      simp at length
      exact length
    rw [field, number, none]
    rfl

end NativeInterop.Pe
