import NativeInterop.Binding.Declaration
import NativeInterop.Error
import NativeInterop.Export.Listing
import NativeInterop.Source.Kind
import NativeInterop.Text.Basic

namespace NativeInterop.Log

/-! Levels and formats of the log. -/

inductive Level
  | error | warn | info | debug | trace
  deriving DecidableEq, Repr

namespace Level

def verbosity : Level → Nat
  | error => 0
  | warn => 1
  | info => 2
  | debug => 3
  | trace => 4

def label : Level → String
  | error => "ERROR"
  | warn => "WARN"
  | info => "INFO"
  | debug => "DEBUG"
  | trace => "TRACE"

/-- The level of a filter: a number, or a name in any case. The inner `none` lets nothing
through. -/
def ofFilterText? (text : List Char) : Option (Option Level) :=
  let digits := match text with
    | '+' :: digits => digits
    | digits => digits
  let levels := [none, some error, some warn, some info, some debug, some trace]
  if !digits.isEmpty && digits.all Char.isDigit then levels[Text.digitsValue digits]?
  else levels.find? fun level => (level.elim "OFF" label).toList == text.map Char.toUpper

/-- Names in any case, with short and long forms. -/
def parse (name : String) : Except String Level :=
  match name.toLower with
  | "error" | "err" => .ok .error
  | "warn" | "warning" => .ok .warn
  | "info" => .ok .info
  | "debug" | "dbg" => .ok .debug
  | "trace" => .ok .trace
  | _ =>
      .error ("Unknown log level: " ++ name ++
        ". Use 'error', 'warn', 'info', 'debug', or 'trace'")

end Level

inductive Format
  | pretty | json
  deriving DecidableEq, Repr

def Format.parse (name : String) : Except String Format :=
  match name.toLower with
  | "pretty" | "text" | "human" => .ok .pretty
  | "json" => .ok .json
  | _ => .error ("Unknown log format: " ++ name ++ ". Use 'pretty' or 'json'")

/-- Reads the format from its variable. A text that is no format counts as if it were missing. -/
def Format.ofVariable (text : Option String) : Format :=
  match text.map Format.parse with
  | some (.ok format) => format
  | _ => .pretty

/-! What is told on the way from a library to its bindings. -/

open Binding

inductive Event
  | runningTool (tool binary : Path)
  | capturedListing (size : Nat)
  | readListing (path : Path) (size : Nat)
  | readExportTable (binary : Path) (exports : Nat)
  | emptySignature (identifier : List Char)
  | decodedExport (e : Export)
  | rejectedLine (line : RejectedLine)
  | loadedManifest (path : Path) (targets : Nat)
  | generating (targets : Nat) (source : SourceKind)
  | assembled (target : Target) (source : SourceKind) (declarations rejected : Nat)
  | targetFailed (target : Target) (error : BindingError)
  | wroteBindings (path : Path) (declarations : Nat)
  | targetsFailed (count : Nat)

inductive FieldValue
  | number (value : Nat)
  | text (text : List Char)

namespace Event

def level : Event → Level
  | targetFailed .. => .error
  | rejectedLine _ | targetsFailed _ => .warn
  | runningTool .. | generating .. | assembled .. | wroteBindings .. => .info
  | capturedListing _ | readListing .. | readExportTable .. | decodedExport _
  | loadedManifest .. => .debug
  | emptySignature _ => .trace

def message : Event → String
  | runningTool .. => "running export listing tool"
  | capturedListing _ => "captured export listing"
  | readListing .. => "read captured listing"
  | readExportTable .. => "read PE export table"
  | emptySignature _ => "empty signature, skipping"
  | decodedExport _ => "decoded export"
  | rejectedLine _ => "skipping export with undecodable signature"
  | loadedManifest .. => "loaded manifest"
  | generating targets source =>
      "Generating " ++ toString targets ++ " target(s) with the " ++ source.label ++ " source"
  | assembled .. => "assembled bindings"
  | targetFailed .. => "target failed"
  | wroteBindings .. => "wrote bindings"
  | targetsFailed _ => "some targets produced no bindings"

/-- The data of an event beside its message. -/
def fields : Event → List (String × FieldValue)
  | runningTool tool binary => [("tool", .text tool.text), ("binary", .text binary.text)]
  | capturedListing size => [("bytes", .number size)]
  | readListing path size => [("path", .text path.text), ("bytes", .number size)]
  | readExportTable binary exports =>
      [("binary", .text binary.text), ("exports", .number exports)]
  | emptySignature identifier => [("identifier", .text identifier)]
  | decodedExport e =>
      [("ordinal", .number e.ordinal.toNat), ("identifier", .text e.identifier),
        ("parameters", .number e.parameters.length)]
  | rejectedLine line =>
      [("line_number", .number line.number), ("error", .text line.error.message.toList)]
  | loadedManifest path targets => [("path", .text path.text), ("targets", .number targets)]
  | generating .. => []
  | assembled target source declarations rejected =>
      [("target", .text target.qualifiedName), ("source", .text source.label.toList),
        ("declarations", .number declarations), ("rejected", .number rejected)]
  | targetFailed target error =>
      [("target", .text target.qualifiedName), ("binary", .text target.binary.text),
        ("err", .text error.message.toList)]
  | wroteBindings path declarations =>
      [("path", .text path.text), ("declarations", .number declarations)]
  | targetsFailed count => [("failed", .number count)]

def fieldNames (event : Event) : List String :=
  "message" :: event.fields.map (·.1)

/-- The part of the program that an event comes from, as filters name it. -/
def origin : Event → String
  | runningTool .. | capturedListing _ => "dllbind_core::listing::dumpbin"
  | readListing .. => "dllbind_core::listing"
  | readExportTable .. => "dllbind_core::listing::pe"
  | emptySignature _ | decodedExport _ | rejectedLine _ => "dllbind_core::symbols::signature"
  | loadedManifest .. => "dllbind_core::manifest"
  | assembled .. | targetFailed .. | wroteBindings .. | targetsFailed _ =>
      "dllbind_core::generator"
  | generating .. => "dllbind"

end Event

/-! Values with the events on the way to them, in order. What is logged never bears on the value. -/

structure Logged (α : Type) where
  value : α
  events : List Event

namespace Logged

variable {α β : Type}

def of (value : α) : Logged α :=
  ⟨value, []⟩

def andThen (first : Logged α) (next : α → Logged β) : Logged β :=
  ⟨(next first.value).value, first.events ++ (next first.value).events⟩

instance : Monad Logged where
  pure := of
  bind := andThen

def log (event : Event) : Logged Unit :=
  ⟨(), [event]⟩

@[simp] theorem value_pure (value : α) : (pure value : Logged α).value = value := rfl

@[simp] theorem events_pure (value : α) : (pure value : Logged α).events = [] := rfl

@[simp] theorem value_bind (first : Logged α) (next : α → Logged β) :
    (first >>= next).value = (next first.value).value := rfl

@[simp] theorem events_bind (first : Logged α) (next : α → Logged β) :
    (first >>= next).events = first.events ++ (next first.value).events := rfl

@[simp] theorem value_log (event : Event) : (log event).value = () := rfl

@[simp] theorem events_log (event : Event) : (log event).events = [event] := rfl

end Logged

/-- What is logged of a decoded listing: first its lines without a type, then the others. -/
def listingEvents (listing : List Char) : List Event :=
  let rows := Text.lines listing
  (rows.filterMap emptySignature?).map .emptySignature ++
    (lineOutcomes 1 rows).filterMap fun
      | .decoded e => some (.decodedExport e)
      | .rejected line => some (.rejectedLine line)
      | .skipped => none

def decodeListing (listing : List Char) : Logged ListingReport :=
  ⟨NativeInterop.decodeListing listing, listingEvents listing⟩

/-! Events as lines of a log. -/

open Text

/-- A character inside a string between double quotes. -/
def stringChar (c : Char) : List Char :=
  if c == '"' || c == '\\' then ['\\', c]
  else if c.toNat < 0x20 then ['\\', 'u'] ++ upperHex 4 c.toNat
  else [c]

def stringText (text : List Char) : List Char :=
  '"' :: text.flatMap stringChar ++ ['"']

def FieldValue.display : FieldValue → List Char
  | number value => decimal value
  | text content => content

def FieldValue.json : FieldValue → List Char
  | number value => decimal value
  | text content => stringText content

def objectText (entries : List (String × List Char)) : List Char :=
  let entry (name : String) (value : List Char) := stringText name.toList ++ ':' :: value
  '\x7b' :: List.intercalate [','] (entries.map fun (name, value) => entry name value) ++ ['\x7d']

namespace Event

def prettyLine (event : Event) : List Char :=
  let field (name : String) (value : FieldValue) :=
    ", ".toList ++ name.toList ++ ": ".toList ++ value.display
  alignRight 5 event.level.label.toList ++ ' ' :: event.message.toList ++
    event.fields.flatMap fun (name, value) => field name value

def jsonLine (event : Event) : List Char :=
  let fields := event.fields.map fun (name, value) => (name, value.json)
  objectText
    [("level", stringText event.level.label.toList),
      ("fields", objectText (("message", stringText event.message.toList) :: fields))]

def line (format : Format) (event : Event) : List Char :=
  match format with
  | .pretty => event.prettyLine
  | .json => event.jsonLine

end Event

end NativeInterop.Log
