namespace NativeInterop.Pe

/-! Fields of a byte sequence. Numbers begin with their lowest byte. -/

abbrev Bytes := List UInt8

/-- The `size` bytes from `offset` on, if all of them are there. An offset beyond the end has
nothing behind it, not even an empty row. -/
def slice? (offset size : Nat) (bytes : Bytes) : Option Bytes :=
  if offset + size ≤ bytes.length then some ((bytes.drop offset).take size) else none

def number (bytes : Bytes) : Nat :=
  bytes.foldr (fun byte value => byte.toNat + 256 * value) 0

def word16 (offset : Nat) (bytes : Bytes) : Nat :=
  number ((bytes.drop offset).take 2)

def word32 (offset : Nat) (bytes : Bytes) : UInt32 :=
  UInt32.ofNat (number ((bytes.drop offset).take 4))

/-- The first `count` rows of `size` bytes. -/
def rows (size : Nat) : Nat → Bytes → List Bytes
  | 0, _ => []
  | count + 1, bytes => bytes.take size :: rows size count (bytes.drop size)

/-- The `count` rows of `size` bytes from `offset` on, if all of them are there. -/
def rows? (offset size count : Nat) (bytes : Bytes) : Option (List Bytes) :=
  (slice? offset (size * count) bytes).map (rows size count)

/-- The bytes from `offset` up to a zero byte, which must be there. -/
def terminated? (offset : Nat) (bytes : Bytes) : Option Bytes :=
  let rest := bytes.drop offset
  if rest.contains 0 then some (rest.takeWhile (· != 0)) else none

/-! Why a file has no readable export table. -/

inductive Fault
  | noFileMagic | unknownDosFile | unknownObjectFile | unknownFileMagic
  | dosHeader | dosMagic
  | headers | magic | optionalMagic | optionalTooSmall | optionalSize | directoryCount
  | sectionHeaders
  | directoryAddress | directorySize
  | exportDirectory | addressTable | noOrdinalTable | namePointerTable | ordinalTable
  | forwarderAddress | noForwarderSeparator | forwarderOrdinal | noForwarderName
  | namePointer | ordinal
  deriving DecidableEq, Repr

def Fault.message : Fault → String
  | noFileMagic => "Could not read file magic"
  | unknownDosFile => "Unknown MS-DOS file"
  | unknownObjectFile => "Unknown anon object file"
  | unknownFileMagic => "Unknown file magic"
  | dosHeader => "Invalid DOS header size or alignment"
  | dosMagic => "Invalid DOS magic"
  | headers => "Invalid PE headers offset or size"
  | magic => "Invalid PE magic"
  | optionalMagic => "Invalid PE optional header magic"
  | optionalTooSmall => "PE optional header size is too small"
  | optionalSize => "Invalid PE optional header size"
  | directoryCount => "Invalid PE number of RVA and sizes"
  | sectionHeaders => "Invalid COFF/PE section headers"
  | directoryAddress => "Invalid data dir virtual address"
  | directorySize => "Invalid data dir size"
  | exportDirectory => "Invalid PE export dir size"
  | addressTable => "Invalid PE export address table"
  | noOrdinalTable => "Missing PE export ordinal table"
  | namePointerTable => "Invalid PE export name pointer table"
  | ordinalTable => "Invalid PE export ordinal table"
  | forwarderAddress => "Invalid PE forwarded export address"
  | noForwarderSeparator => "Missing PE forwarded export separator"
  | forwarderOrdinal => "Invalid PE forwarded export ordinal"
  | noForwarderName => "Missing PE forwarded export name"
  | namePointer => "Invalid PE export name pointer"
  | ordinal => "Invalid PE export ordinal"

/-- The value, or else the fault. -/
def demand {α : Type} (fault : Fault) : Option α → Except Fault α
  | some value => .ok value
  | none => .error fault

def ensure (fault : Fault) (condition : Bool) : Except Fault Unit :=
  if condition then .ok () else .error fault

/-! The headers of an image: where its sections lie, and its data directories. -/

/-- The two layouts of the optional header. -/
inductive Width
  | narrow | wide
  deriving DecidableEq, Repr

namespace Width

def magic : Width → Nat
  | narrow => 0x10B
  | wide => 0x20B

/-- The size of the optional header without its data directories. -/
def fixedSize : Width → Nat
  | narrow => 96
  | wide => 112

def ofMagic? (magic : Nat) : Option Width :=
  [narrow, wide].find? fun width => width.magic == magic

end Width

structure Directory where
  address : UInt32
  size : UInt32
  deriving DecidableEq

def Directory.ofBytes (row : Bytes) : Directory :=
  ⟨word32 0 row, word32 4 row⟩

structure Section where
  address : UInt32
  /-- The bytes both in memory and in the file. -/
  size : Nat
  fileOffset : UInt32
  deriving DecidableEq

namespace Section

def ofBytes (row : Bytes) : Section where
  address := word32 12 row
  size := min (word32 8 row).toNat (word32 16 row).toNat
  fileOffset := word32 20 row

/-- The bytes of the section from an address on, if it is in the section and all of them are in
the file. -/
def dataFrom? (bytes : Bytes) (address : UInt32) (part : Section) : Option Bytes :=
  let skipped := address.toNat - part.address.toNat
  let offset := part.fileOffset.toNat + skipped
  if part.address ≤ address && skipped < part.size && offset < UInt32.size then
    slice? offset (part.size - skipped) bytes
  else none

end Section

structure Image where
  bytes : Bytes
  directories : List Directory
  sections : List Section

namespace Image

def dosHeaderSize : Nat := 64
def dosMagic : Bytes := [0x4D, 0x5A]
def headersMagic : Bytes := [0x50, 0x45, 0, 0]

/-- Where the DOS header says that the other headers are. -/
def headersOffset (bytes : Bytes) : Nat :=
  (word32 60 bytes).toNat

/-- Signature and file header before the optional header. -/
def optionalOffset : Nat := 24

def parse (width : Width) (bytes : Bytes) : Except Fault Image := do
  ensure .dosHeader (dosHeaderSize ≤ bytes.length)
  ensure .dosMagic (dosMagic.isPrefixOf bytes)
  let fixedEnd := optionalOffset + width.fixedSize
  let headers ← demand .headers (slice? (headersOffset bytes) fixedEnd bytes)
  ensure .magic (headersMagic.isPrefixOf headers)
  ensure .optionalMagic (word16 optionalOffset headers == width.magic)
  let optionalSize := word16 20 headers
  ensure .optionalTooSmall (width.fixedSize ≤ optionalSize)
  let offset := headersOffset bytes + fixedEnd
  let variableSize := optionalSize - width.fixedSize
  let variablePart ← demand .optionalSize (slice? offset variableSize bytes)
  let directoryCount := (word32 (fixedEnd - 4) headers).toNat
  let directories ← demand .directoryCount (rows? 0 8 directoryCount variablePart)
  let sectionCount := word16 6 headers
  let sections ← demand .sectionHeaders (rows? (offset + variableSize) 40 sectionCount bytes)
  return ⟨bytes, directories.map .ofBytes, sections.map .ofBytes⟩

/-- The content of a data directory, in the first section that has all bytes from its address on. -/
def content (image : Image) (directory : Directory) : Except Fault Bytes := do
  let rest ← demand .directoryAddress
    (image.sections.findSome? (Section.dataFrom? image.bytes directory.address))
  demand .directorySize (slice? 0 directory.size.toNat rest)

end Image

/-! Telling images from other files by their first bytes. -/

inductive FileKind
  | image (width : Width)
  | other
  deriving DecidableEq

namespace FileKind

/-- The first bytes of archives, caches, object files and executables of other formats. -/
def otherMagics : List Bytes :=
  [[0x21, 0x3C, 0x61, 0x72, 0x63, 0x68, 0x3E, 0x0A],
   [0x21, 0x3C, 0x74, 0x68, 0x69, 0x6E, 0x3E, 0x0A],
   [0x64, 0x79, 0x6C, 0x64, 0x5F, 0x76, 0x31, 0x20],
   [0x7F, 0x45, 0x4C, 0x46, 0x01], [0x7F, 0x45, 0x4C, 0x46, 0x02],
   [0xFE, 0xED, 0xFA, 0xCE], [0xCE, 0xFA, 0xED, 0xFE],
   [0xFE, 0xED, 0xFA, 0xCF], [0xCF, 0xFA, 0xED, 0xFE],
   [0xCA, 0xFE, 0xBA, 0xBE], [0xCA, 0xFE, 0xBA, 0xBF],
   [0xC4, 0x01], [0x64, 0xAA], [0x41, 0xA6], [0xF0, 0x01], [0xF1, 0x01], [0xF2, 0x01],
   [0x4C, 0x01], [0x64, 0x86], [0x00, 0x00, 0xFF, 0xFF, 0x00, 0x00],
   [0x01, 0xDF], [0x01, 0xF7]]

/-- The first bytes of an object file with a class of its own. -/
def anonymousMagic : Bytes :=
  [0x00, 0x00, 0xFF, 0xFF, 0x02, 0x00]

def anonymousHeaderSize : Nat := 32

/-- The class of object files with more sections than usual. -/
def largeObjectClass : Bytes :=
  [0xC7, 0xA1, 0xBA, 0xD1, 0xEE, 0xBA, 0xA9, 0x4B, 0xAF, 0x20, 0xFA, 0xF6, 0x6A, 0xA4, 0xDC, 0xB8]

/-- The width that the optional header of an image declares. -/
def imageWidth? (bytes : Bytes) : Option Width :=
  if Image.dosHeaderSize ≤ bytes.length then do
    let size := Image.optionalOffset + Width.narrow.fixedSize
    let headers ← slice? (Image.headersOffset bytes) size bytes
    if Image.headersMagic.isPrefixOf headers then
      Width.ofMagic? (word16 Image.optionalOffset headers)
    else none
  else none

def isLargeObject (bytes : Bytes) : Bool :=
  anonymousHeaderSize ≤ bytes.length && slice? 12 16 bytes == some largeObjectClass

def ofBytes (bytes : Bytes) : Except Fault FileKind :=
  if bytes.length < 16 then .error .noFileMagic
  else if Image.dosMagic.isPrefixOf bytes then
    (demand .unknownDosFile (imageWidth? bytes)).map image
  else if anonymousMagic.isPrefixOf bytes then
    (ensure .unknownObjectFile (isLargeObject bytes)).map fun _ => other
  else (ensure .unknownFileMagic (otherMagics.any (·.isPrefixOf bytes))).map fun _ => other

end FileKind

end NativeInterop.Pe
