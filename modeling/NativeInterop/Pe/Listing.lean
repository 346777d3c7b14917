import NativeInterop.Pe.Image
import NativeInterop.Text.Basic
import NativeInterop.Text.Utf8

namespace NativeInterop.Pe

/-! The export table of an image. Addresses inside the table are those of forwarders. -/

inductive ExportTarget
  | address (address : UInt32)
  | forwardByName (library symbol : Bytes)
  | forwardByOrdinal (library : Bytes) (ordinal : UInt32)
  deriving DecidableEq

structure ExportEntry where
  ordinal : UInt32
  target : ExportTarget
  name : Option Bytes
  deriving DecidableEq

structure ExportTable where
  content : Bytes
  /-- The address of the table itself. -/
  address : UInt32
  ordinalBase : UInt32
  addresses : List UInt32
  /-- The address of each name, and the index of the entry that it names. -/
  names : List (UInt32 × Nat)

namespace ExportTable

def directorySize : Nat := 40

/-- Names and the indices of their entries; without an address there are none. -/
def parseNames (content : Bytes) (address : UInt32) : Except Fault (List (UInt32 × Nat)) :=
  let count := (word32 24 content).toNat
  let pointers := word32 32 content
  let indices := word32 36 content
  if pointers == 0 then .ok []
  else if indices == 0 then .error .noOrdinalTable
  else do
    let pointers ← demand .namePointerTable (rows? (pointers - address).toNat 4 count content)
    let indices ← demand .ordinalTable (rows? (indices - address).toNat 2 count content)
    return (pointers.map (word32 0)).zip (indices.map (word16 0))

def parseAddresses (content : Bytes) (address : UInt32) : Except Fault (List UInt32) :=
  let count := (word32 20 content).toNat
  let functions := word32 28 content
  if functions == 0 then .ok []
  else do
    let addresses ← demand .addressTable (rows? (functions - address).toNat 4 count content)
    return addresses.map (word32 0)

def parse (content : Bytes) (address : UInt32) : Except Fault ExportTable := do
  ensure .exportDirectory (directorySize ≤ content.length)
  let addresses ← parseAddresses content address
  let names ← parseNames content address
  return ⟨content, address, word32 16 content, addresses, names⟩

def separator : UInt8 := 0x2E
def ordinalMark : UInt8 := 0x23

def forwardedOrdinal? (digits : Bytes) : Option UInt32 :=
  if digits.isEmpty then none else Text.word32? (digits.map fun byte => Char.ofNat byte.toNat)

/-- Reads `library.symbol` or `library.#ordinal`. -/
def forwarder (text : Bytes) : Except Fault ExportTarget :=
  let library := text.takeWhile (· != separator)
  match text.dropWhile (· != separator) with
  | [] => .error .noForwarderSeparator
  | [_] => .error .noForwarderName
  | _ :: first :: rest =>
      if first == ordinalMark then
        (demand .forwarderOrdinal (forwardedOrdinal? rest)).map (.forwardByOrdinal library)
      else .ok (.forwardByName library (first :: rest))

def target (table : ExportTable) (address : UInt32) : Except Fault ExportTarget :=
  let offset := (address - table.address).toNat
  if offset < table.content.length then
    (demand .forwarderAddress (terminated? offset table.content)).bind forwarder
  else .ok (.address address)

/-- The entries of addresses that begin with the one of `ordinal`. -/
def unnamed (table : ExportTable) : UInt32 → List UInt32 → Except Fault (List ExportEntry)
  | _, [] => .ok []
  | ordinal, address :: rest => do
      let target ← table.target address
      return ⟨ordinal, target, none⟩ :: (← table.unnamed (ordinal + 1) rest)

/-- Gives a name to the entry of an index; a later name takes the place of an earlier one. -/
def addName (table : ExportTable) (entries : List ExportEntry) (name : UInt32 × Nat) :
    Except Fault (List ExportEntry) := do
  let text ← demand .namePointer (terminated? (name.1 - table.address).toNat table.content)
  let entry ← demand .ordinal entries[name.2]?
  return entries.set name.2 { entry with name := some text }

def entries (table : ExportTable) : Except Fault (List ExportEntry) := do
  let entries ← table.unnamed table.ordinalBase table.addresses
  table.names.foldlM table.addName entries

end ExportTable

/-- The table of an image, which stands in its first data directory. -/
def Image.exportTable? (image : Image) : Except Fault (Option ExportTable) :=
  match image.directories.head? with
  | none => .ok none
  | some directory =>
      if directory.address == 0 then .ok none
      else do
        let content ← image.content directory
        return some (← ExportTable.parse content directory.address)

def Image.exports (image : Image) : Except Fault (List ExportEntry) := do
  match ← image.exportTable? with
  | none => return []
  | some table => table.entries

/-! Export tables as listings, one line for each entry. -/

open Text

/-- The address behind ten blanks; a forwarder leaves its column blank. -/
def addressColumn : ExportTarget → List Char
  | .address address => blanks 10 ++ upperHex 8 address.toNat
  | .forwardByName .. | .forwardByOrdinal .. => blanks 18

def nameColumn : Option Bytes → List Char
  | some name => ' ' :: Utf8.decodeLossy name
  | none => []

def forwardingNote : ExportTarget → List Char
  | .address _ => []
  | .forwardByName library symbol => note library (Utf8.decodeLossy symbol)
  | .forwardByOrdinal library ordinal => note library ('#' :: decimal ordinal.toNat)
where
  note (library : Bytes) (symbol : List Char) : List Char :=
    " (forwarded to ".toList ++ Utf8.decodeLossy library ++ '.' :: symbol ++ [')']

def listingLine (entry : ExportEntry) : List Char :=
  alignRight 10 (decimal entry.ordinal.toNat) ++ addressColumn entry.target ++
    nameColumn entry.name ++ forwardingNote entry.target

/-- The lines for an image of the given width. -/
def exportLines (width : Width) (bytes : Bytes) : Except Fault (List (List Char)) := do
  let image ← Image.parse width bytes
  return (← image.exports).map listingLine

end NativeInterop.Pe
