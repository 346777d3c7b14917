import NativeInterop.Signature.Cursor
import NativeInterop.Signature.NativeType
import NativeInterop.Text.Basic

namespace NativeInterop

open Signature

/-- A function that a library exports, with its decoded signature. -/
structure Export where
  ordinal : UInt32
  identifier : List Char
  returnType : NativeType
  parameters : List NativeType
  deriving DecidableEq

def Export.requiresUnsafe (e : Export) : Bool :=
  e.returnType.isPointer || e.parameters.any NativeType.isPointer

/-! Lines of an export listing. A line that names a decorated function holds, in this order, the
ordinal, a question mark, the identifier, `@@YA`, the type run and `XZ` or `@Z`. -/

open Text

structure ExportLine where
  ordinal : UInt32
  identifier : List Char
  typeRun : List Char
  deriving DecidableEq

namespace ExportLine

def isIdentifierStart (c : Char) : Bool :=
  c == '_' || c.isAlpha

def isIdentifierPart (c : Char) : Bool :=
  c == '_' || c.isAlphanum

def isRunChar (c : Char) : Bool :=
  c == '_' || c.isUpper

def freeFunctionMark : List Char :=
  ['@', '@', 'Y', 'A']

def endsRun (text : List Char) : Bool :=
  ['X', 'Z'].isPrefixOf text || ['@', 'Z'].isPrefixOf text

/-- The longest run of type codes at the beginning of the text that an end mark follows. -/
def typeRun? : List Char → Option (List Char)
  | [] => none
  | c :: rest =>
      match if isRunChar c then typeRun? rest else none with
      | some run => some (c :: run)
      | none => if endsRun (c :: rest) then some [] else none

/-- The decorated name after a question mark: identifier and type run. -/
def decoratedName? (text : List Char) : Option (List Char × List Char) :=
  let identifier := text.takeWhile isIdentifierPart
  let rest := text.dropWhile isIdentifierPart
  if (identifier.head?.any isIdentifierStart) && freeFunctionMark.isPrefixOf rest then
    (typeRun? (rest.drop freeFunctionMark.length)).map (identifier, ·)
  else none

/-- The decorated name after the first question mark that one follows. -/
def findName? : List Char → Option (List Char × List Char)
  | [] => none
  | c :: rest =>
      match if c == '?' then decoratedName? rest else none with
      | some name => some name
      | none => findName? rest

/-- The first row of decimal digits, and the decorated name after it. -/
def fields? (line : List Char) : Option (List Char × List Char × List Char) :=
  let numbered := line.dropWhile (!isDecimalDigit ·)
  (findName? (numbered.dropWhile isDecimalDigit)).bind fun name =>
    if numbered.isEmpty then none else some (numbered.takeWhile isDecimalDigit, name)

/-- Reads a line. A line break separates lines that are tried in order; the first with all fields
counts, also when its ordinal is not a number of 32 bits. -/
def parse? (text : List Char) : Option ExportLine :=
  ((segments (· == '\n') text).findSome? fields?).bind fun (digits, identifier, run) =>
    (word32? digits).map (⟨·, identifier, run⟩)

end ExportLine

/-- The exported function that a line tells of. Lines of another form, and those without a type,
tell of none. -/
def decodeLine (line : List Char) : Except UnrecognizedCode (Option Export) :=
  match ExportLine.parse? line with
  | none => .ok none
  | some fields =>
      match (Cursor.start fields.typeRun).nextType with
      | (none, _) => .ok none
      | (some (.error e), _) => .error e
      | (some (.ok returnType), after) =>
          after.types.map fun parameters =>
            some ⟨fields.ordinal, fields.identifier, returnType, parameters⟩

/-- The identifier on a line of the right form whose type run is empty. -/
def emptySignature? (line : List Char) : Option (List Char) :=
  match ExportLine.parse? line with
  | some fields => if fields.typeRun.isEmpty then some fields.identifier else none
  | none => none

/-! Decoding a whole listing, each line for itself. -/

structure RejectedLine where
  number : Nat
  text : List Char
  error : UnrecognizedCode
  deriving DecidableEq

structure ListingReport where
  exports : List Export
  rejected : List RejectedLine
  deriving DecidableEq

inductive LineOutcome
  | decoded (e : Export)
  | rejected (line : RejectedLine)
  | skipped

namespace LineOutcome

def ofLine (number : Nat) (line : List Char) : LineOutcome :=
  match decodeLine line with
  | .ok (some e) => .decoded e
  | .ok none => .skipped
  | .error error => .rejected ⟨number, trim line, error⟩

def export? : LineOutcome → Option Export
  | decoded e => some e
  | _ => none

def rejected? : LineOutcome → Option RejectedLine
  | rejected line => some line
  | _ => none

end LineOutcome

/-- The outcomes of lines that are counted from `number` on. -/
def lineOutcomes : Nat → List (List Char) → List LineOutcome
  | _, [] => []
  | number, line :: rest => .ofLine number line :: lineOutcomes (number + 1) rest

def decodeListing (listing : List Char) : ListingReport :=
  let outcomes := lineOutcomes 1 (lines listing)
  ⟨outcomes.filterMap LineOutcome.export?, outcomes.filterMap LineOutcome.rejected?⟩

def ListingReport.isClean (report : ListingReport) : Bool :=
  report.rejected.isEmpty

end NativeInterop
