import NativeInterop.Decimal.Shortest
import NativeInterop.FileSystem.Access
import NativeInterop.Log.Logged
import NativeInterop.Manifest.Resolve
import NativeInterop.Toml.Document

namespace NativeInterop.Manifest

/-! Reading a manifest out of a document. The keys of a table are looked at in their order, and the
first misfit is told; a missing key is told after all others. -/

open Toml Text

abbrev Fit (α : Type) := Except String α

def ticked (text : List Char) : String :=
  "`" ++ String.ofList text ++ "`"

def namedString (name : String) : String :=
  ticked name.toList

def expectedNames (names : List String) : String :=
  match names with
  | [first, second] => namedString first ++ " or " ++ namedString second
  | _ => "one of " ++ ", ".intercalate (names.map namedString)

def unknown (what : String) (name : List Char) (names : List String) : String :=
  "unknown " ++ what ++ " " ++ ticked name ++ ", expected " ++ expectedNames names

def missing (name : String) : String :=
  "missing field " ++ namedString name

def tooShort (length : Nat) (expected : String) : String :=
  "invalid length " ++ toString length ++ ", expected " ++ expected

def floatText : FloatValue → String
  | .nan => "NaN"
  | .infinity negative => if negative then "-inf" else "inf"
  | .finite negative digits exponent =>
      match Decimal.Binary64.ofDecimal? digits exponent with
      | some value => (if negative then "-" else "") ++ String.ofList value.text
      | none => "inf"

def overflows : FloatValue → Bool
  | .finite _ digits exponent => (Decimal.Binary64.ofDecimal? digits exponent).isNone
  | _ => false

def twoTo (exponent : Nat) : Int :=
  Int.ofNat (Nat.pow 2 exponent)

/-- How a value of the wrong type is told. Numbers out of every range are told apart. -/
def wrongType (value : Value) (expected : String) : String :=
  let told (what : String) := "invalid type: " ++ what ++ ", expected " ++ expected
  match value with
  | .string text => told ("string " ++ quoted (String.ofList text))
  | .integer none => "integer number overflowed"
  | .integer (some value) =>
      if -twoTo 63 ≤ value && value < twoTo 64 then
        told ("integer " ++ namedString (toString value))
      else if -twoTo 127 ≤ value && value < twoTo 127 then
        told ("integer " ++ namedString (toString value) ++ " as i128")
      else if 0 ≤ value && value < twoTo 128 then
        told ("integer " ++ namedString (toString value) ++ " as u128")
      else "integer number overflowed"
  | .float value =>
      if overflows value then "floating-point number overflowed"
      else told ("floating point " ++ namedString (floatText value))
  | .boolean value => told ("boolean " ++ namedString (toString value))
  | .datetime _ => told "map"
  | .array .. => told "sequence"
  | .table .. => told "map"

def readString (expected : String) : Value → Fit (List Char)
  | .string text => .ok text
  | value => .error (wrongType value expected)

def readPath (value : Value) : Fit Path :=
  (readString "path string" value).map Path.mk

def readName (name : List Char) : Fit SourceKind :=
  match SourceKind.ofLabel? (String.ofList name) with
  | some kind => .ok kind
  | none => .error (unknown "variant" name (SourceKind.all.map SourceKind.label))

/-- Nothing may stand behind the name of a source. -/
def readNothing : Value → Fit Unit
  | .array _ items => if items.isEmpty then .ok () else .error "expected empty array"
  | .table _ entries => if entries.isEmpty then .ok () else .error "expected empty table"
  | value => .error ("expected table, found " ++ value.kindName)

/-- A source is named by a string, or by the only key of a table with nothing under it. -/
def readSource : Value → Fit SourceKind
  | .string name => readName name
  | .table _ [] => .error "wanted exactly 1 element, found 0 elements"
  | .table _ [(name, value)] => do
      let kind ← readName name
      readNothing value
      return kind
  | .table .. => .error "wanted exactly 1 element, more than 1 element"
  | _ => .error "wanted string or table"

/-- The one key of a date or time that is looked at as a table. -/
def datetimeKey : List Char :=
  "$__toml_private_datetime".toList

def settingsNames : List String :=
  ["source", "tool", "out_dir"]

def addSetting (settings : GeneratorSettings) (entry : Key × Value) : Fit GeneratorSettings :=
  match String.ofList entry.1 with
  | "source" => (readSource entry.2).map fun kind => { settings with source := some kind }
  | "tool" => (readPath entry.2).map fun path => { settings with tool := some path }
  | "out_dir" => (readPath entry.2).map fun path => { settings with outDir := some path }
  | _ => .error (unknown "field" entry.1 settingsNames)

def noSettings : GeneratorSettings :=
  ⟨none, none, none⟩

/-- Settings are a table, or an array of all of them in their order. -/
def readSettings : Value → Fit GeneratorSettings
  | .table _ entries => entries.foldlM addSetting noSettings
  | .array _ items => do
      let expected := "struct GeneratorSettings with 3 elements"
      let source ← element 0 expected readSource items
      let tool ← element 1 expected readPath items
      let outDir ← element 2 expected readPath items
      return ⟨some source, some tool, some outDir⟩
  | .datetime _ => .error (unknown "field" datetimeKey settingsNames)
  | value => .error (wrongType value "struct GeneratorSettings")
where
  element {α : Type} (index : Nat) (expected : String) (read : Value → Fit α)
      (items : List Value) : Fit α :=
    match items[index]? with
    | some value => read value
    | none => .error (tooShort index expected)

/-- A target as far as its keys have been seen. -/
structure PartialEntry where
  namespaceName : Option (List Char) := none
  className : Option (List Char) := none
  library : Option (List Char) := none
  literal : Option (List Char) := none
  binary : Option Path := none

def entryNames : List String :=
  ["namespace", "class", "library", "literal", "binary"]

def addEntry (entry : PartialEntry) (pair : Key × Value) : Fit PartialEntry :=
  let text := readString "a string" pair.2
  match String.ofList pair.1 with
  | "namespace" => text.map fun text => { entry with namespaceName := some text }
  | "class" => text.map fun text => { entry with className := some text }
  | "library" => text.map fun text => { entry with library := some text }
  | "literal" => text.map fun text => { entry with literal := some text }
  | "binary" => (readPath pair.2).map fun path => { entry with binary := some path }
  | _ => .error (unknown "field" pair.1 entryNames)

def PartialEntry.finish (entry : PartialEntry) : Fit TargetEntry :=
  match entry.className, entry.library with
  | some className, some library =>
      .ok ⟨entry.namespaceName.getD [], className, library, entry.literal, entry.binary⟩
  | none, _ => .error (missing "class")
  | _, none => .error (missing "library")

/-- A target is a table, or an array of all its parts in their order. The first part may be
missing, and then it is the second that is missed. -/
def readEntry : Value → Fit TargetEntry
  | .table _ entries => do (← entries.foldlM addEntry {}).finish
  | .array _ items => do
      let expected := "struct TargetEntry with 5 elements"
      let text := readString "a string"
      let namespaceName ← (items[0]?.mapM text)
      let className ← element 1 expected text items
      let library ← element 2 expected text items
      let literal ← element 3 expected text items
      let binary ← element 4 expected readPath items
      return ⟨namespaceName.getD [], className, library, some literal, some binary⟩
  | .datetime _ => .error (unknown "field" datetimeKey entryNames)
  | value => .error (wrongType value "struct TargetEntry")
where
  element {α : Type} (index : Nat) (expected : String) (read : Value → Fit α)
      (items : List Value) : Fit α :=
    match items[index]? with
    | some value => read value
    | none => .error (tooShort index expected)

def readTargets : Value → Fit (List TargetEntry)
  | .array _ items => items.mapM readEntry
  | value => .error (wrongType value "a sequence")

def rootNames : List String :=
  ["generator", "target"]

def addSection (manifest : Manifest) (entry : Key × Value) : Fit Manifest :=
  match String.ofList entry.1 with
  | "generator" =>
      (readSettings entry.2).map fun settings => { manifest with generator := settings }
  | "target" => (readTargets entry.2).map fun targets => { manifest with targets := targets }
  | _ => .error (unknown "field" entry.1 rootNames)

def ofEntries (entries : Entries) : Fit Manifest :=
  entries.foldlM addSection ⟨noSettings, []⟩

def parse (text : List Char) : Except BindingError Manifest :=
  match Toml.parse? text with
  | none => .error (.manifest .notADocument)
  | some entries =>
      match ofEntries entries with
      | .ok manifest => .ok manifest
      | .error text => .error (.manifest (.misfit text))

/-! Manifests in files. -/

open Log

def load (files : FileSystem) (path : Path) : Logged (Except BindingError Manifest) :=
  match (files.readText path).mapError BindingError.io >>= parse with
  | .error error => return .error error
  | .ok manifest => do
      Logged.log (.loadedManifest path manifest.targets.length)
      return .ok manifest

end NativeInterop.Manifest
