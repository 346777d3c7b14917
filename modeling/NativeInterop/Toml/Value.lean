namespace NativeInterop.Toml

/-! Values of a document. The entries of a table stand in the order of their keys. -/

/-- How a table came to be, which decides who may still add to it. -/
inductive Origin
  | inline | header | implicit | dotted
  deriving DecidableEq, Repr

inductive FloatValue
  | finite (negative : Bool) (digits : Nat) (exponent : Int)
  | infinity (negative : Bool)
  | nan
  deriving DecidableEq, Repr

/-- An array grows if each of its elements has a header of its own. An integer of digits that are
none in its base has no value. -/
inductive Value
  | string (text : List Char)
  | integer (value : Option Int)
  | float (value : FloatValue)
  | boolean (value : Bool)
  | datetime (text : List Char)
  | array (grows : Bool) (items : List Value)
  | table (origin : Origin) (entries : List (List Char × Value))

/-- What a value is called. -/
def Value.kindName : Value → String
  | string _ => "string"
  | integer _ => "integer"
  | float _ => "float"
  | boolean _ => "boolean"
  | datetime _ => "datetime"
  | array .. => "array"
  | table .. => "table"

abbrev Key := List Char

abbrev Entries := List (Key × Value)

namespace Entries

def get? (key : Key) (entries : Entries) : Option Value :=
  (entries.find? fun entry => entry.1 == key).map (·.2)

/-- Puts a value under a key, before the first greater key. -/
def put (key : Key) (value : Value) : Entries → Entries
  | [] => [(key, value)]
  | entry :: rest =>
      if entry.1 == key then (key, value) :: rest
      else if key < entry.1 then (key, value) :: entry :: rest
      else entry :: put key value rest

/-- Goes down a path of keys, to make what is missing and to change the table at its end. Dotted
keys may not go into tables with a header, and nothing may go into a closed value. -/
def descend (dotted : Bool) (update : Origin → Entries → Option Entries) :
    List Key → Origin → Entries → Option Entries
  | [], origin, entries => update origin entries
  | key :: path, _, entries =>
      match entries.get? key with
      | none =>
          let origin := if dotted then Origin.dotted else .implicit
          (descend dotted update path origin []).map fun inner =>
            entries.put key (.table origin inner)
      | some (.table origin inner) =>
          if origin == .inline || (dotted && origin == .header) then none
          else
            (descend dotted update path origin inner).map fun inner =>
              entries.put key (.table origin inner)
      | some (.array true items) =>
          match items.getLast? with
          | some (.table origin inner) =>
              (descend dotted update path origin inner).map fun inner =>
                entries.put key (.array true (items.dropLast ++ [.table origin inner]))
          | _ => none
      | some _ => none

/-- Puts a value under a new key. Behind a dotted path the table must be one of dotted keys. -/
def assign (parents : List Key) (key : Key) (value : Value) (origin : Origin)
    (entries : Entries) : Option Entries :=
  descend true
    (fun origin entries =>
      if (origin == .dotted) == parents.isEmpty || (entries.get? key).isSome then none
      else some (entries.put key value))
    parents origin entries

def openTable (key : Key) (entries : Entries) : Option Entries :=
  match entries.get? key with
  | none => some (entries.put key (.table .header []))
  | some (.table .implicit inner) => some (entries.put key (.table .header inner))
  | some _ => none

def openElement (key : Key) (entries : Entries) : Option Entries :=
  match entries.get? key with
  | none => some (entries.put key (.array true [.table .header []]))
  | some (.array true items) => some (entries.put key (.array true (items ++ [.table .header []])))
  | some _ => none

end Entries

end NativeInterop.Toml
