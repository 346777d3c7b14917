import NativeInterop.Toml.Quotation
import NativeInterop.Toml.Datetime

namespace NativeInterop.Toml

/-! Reading a document: statements, each on lines of its own, and the table that they define. -/

/-- Deeper nesting of arrays and tables, and more names in one key, are refused. -/
def depthLimit : Nat :=
  80

/-- Skips blanks, line breaks and comments; `inComment` tells that the text begins inside one. -/
def skipTrivia (inComment : Bool) : List Char → Option (List Char)
  | [] => some []
  | '\n' :: rest => skipTrivia false rest
  | '\r' :: '\n' :: rest => skipTrivia false rest
  | c :: rest =>
      if inComment then (if isControl c then none else skipTrivia true rest)
      else if isSpace c then skipTrivia false rest
      else if c == '#' then skipTrivia true rest
      else some (c :: rest)

def skipSpaces (text : List Char) : List Char :=
  text.dropWhile isSpace

/-- The text after the end of a line, before which only blanks and a comment may stand. -/
def skipLineEnd (text : List Char) : Option (List Char) :=
  let rest := match skipSpaces text with
    | '#' :: comment => comment.dropWhile fun c => !isControl c
    | rest => rest
  match rest with
  | [] => some []
  | '\n' :: rest => some rest
  | '\r' :: '\n' :: rest => some rest
  | _ => none

def isBareKeyChar (c : Char) : Bool :=
  c.isAlphanum || c == '_' || c == '-'

def simpleKey? (text : List Char) : Read Key :=
  match text.takeWhile isBareKeyChar with
  | [] => lineString? text
  | key => some (key, text.dropWhile isBareKeyChar)

/-- Keys with dots between them. -/
def dottedKey? (text : List Char) : Read (List Key) :=
  match simpleKey? (skipSpaces text) with
  | none => none
  | some (key, rest) =>
      match skipSpaces rest with
      | '.' :: more =>
          if more.length < text.length then
            (dottedKey? more).map fun (keys, rest) => (key :: keys, rest)
          else none
      | rest => some ([key], rest)
termination_by text.length

/-- A key as the tables before it and its own name. -/
structure KeyPath where
  parents : List Key
  name : Key

def keyPath? (text : List Char) : Read KeyPath :=
  match dottedKey? text with
  | none => none
  | some (keys, rest) =>
      let parents := keys.dropLast
      if depthLimit ≤ parents.length then none
      else keys.getLast?.map fun name => (⟨parents, name⟩, rest)

/-- The marks that end a text without quotes. -/
def isScalarEnd (c : Char) : Bool :=
  isSpace c || "\n\r=,[]\x7b\x7d#".contains c

def beginsScalar (c : Char) : Bool :=
  !isScalarEnd c && c != '.' && c != '"' && c != '\''

/-- A text without quotes, and the text after it. Blanks belong to it if more of it follows. -/
def scalarText : List Char → List Char × List Char
  | [] => ([], [])
  | c :: rest =>
      let ends :=
        if isSpace c then !(skipSpaces rest).head?.any beginsScalar else isScalarEnd c
      if ends then ([], c :: rest) else (c :: (scalarText rest).1, (scalarText rest).2)

def scalar (text : List Char) : Read Value :=
  let (content, rest) := scalarText text
  let value :=
    if content == "true".toList then some (.boolean true)
    else if content == "false".toList then some (.boolean false)
    else number? content
  value.map (·, rest)

/-- Items with commas between them up to a closing mark; a comma may follow the last. -/
def items {α : Type} (close : Char) (item : List Char → Read α) (text : List Char) :
    Read (List α) :=
  match skipTrivia false text with
  | none | some [] => none
  | some (c :: rest) =>
      if c == close then some ([], rest)
      else
        match item (c :: rest) with
        | none => none
        | some (first, after) =>
            match skipTrivia false after with
            | some (',' :: more) =>
                if more.length < text.length then
                  (items close item more).map fun (others, rest) => (first :: others, rest)
                else none
            | some (c :: rest) => if c == close then some ([first], rest) else none
            | _ => none
termination_by text.length

/-- A key and, after an equals sign, its value; `skip` goes over what may stand around the sign. -/
def keyValue (skip : List Char → Option (List Char)) (value : List Char → Read Value)
    (text : List Char) : Read (KeyPath × Value) :=
  match keyPath? text with
  | none => none
  | some (path, rest) =>
      match skip rest with
      | some ('=' :: rest) =>
          ((skip rest).bind value).map fun (value, rest) => ((path, value), rest)
      | _ => none

def inlineTable? (pairs : List (KeyPath × Value)) : Option Entries :=
  pairs.foldlM
    (fun entries (path, value) => entries.assign path.parents path.name value .inline) []

/-- A value with at most `depth` arrays and tables inside one another. -/
def value : Nat → List Char → Read Value
  | 0, text =>
      match text with
      | '[' :: _ | '\x7b' :: _ => none
      | _ => plainValue text
  | depth + 1, text =>
      match text with
      | '[' :: rest =>
          (items ']' (value depth) rest).map fun (items, rest) => (.array false items, rest)
      | '\x7b' :: rest =>
          match items '\x7d' (keyValue (skipTrivia false) (value depth)) rest with
          | none => none
          | some (pairs, rest) =>
              (inlineTable? pairs).map fun entries => (.table .inline entries, rest)
      | _ => plainValue text
where
  plainValue (text : List Char) : Read Value :=
    match text with
    | '"' :: _ | '\'' :: _ => (string? text).map fun (content, rest) => (.string content, rest)
    | _ => scalar text

inductive Statement
  | table (path : KeyPath)
  | element (path : KeyPath)
  | pair (path : KeyPath) (value : Value)

def statement? (text : List Char) : Read Statement :=
  match text with
  | '[' :: '[' :: rest =>
      match keyPath? rest with
      | some (path, ']' :: ']' :: rest) => some (.element path, rest)
      | _ => none
  | '[' :: rest =>
      match keyPath? rest with
      | some (path, ']' :: rest) => some (.table path, rest)
      | _ => none
  | _ =>
      (keyValue (some ∘ skipSpaces) (value depthLimit) text).map fun ((path, value), rest) =>
        (.pair path value, rest)

def statements? (text : List Char) : Option (List Statement) :=
  match skipTrivia false text with
  | none => none
  | some [] => some []
  | some (c :: rest) =>
      match statement? (c :: rest) with
      | none => none
      | some (statement, after) =>
          match skipLineEnd after with
          | none => none
          | some more =>
              if more.length < text.length then (statements? more).map (statement :: ·) else none
termination_by text.length

/-- The table under construction, and the header that pairs go under. -/
structure Draft where
  header : List Key
  entries : Entries

namespace Draft

def apply (draft : Draft) : Statement → Option Draft
  | .table path =>
      (Entries.descend false (fun _ entries => entries.openTable path.name) path.parents .header
        draft.entries).map (⟨path.parents ++ [path.name], ·⟩)
  | .element path =>
      (Entries.descend false (fun _ entries => entries.openElement path.name) path.parents .header
        draft.entries).map (⟨path.parents ++ [path.name], ·⟩)
  | .pair path value =>
      (Entries.descend false
        (fun origin entries => entries.assign path.parents path.name value origin)
        draft.header .header draft.entries).map (⟨draft.header, ·⟩)

end Draft

/-- The table of a document, whose text may begin with a byte order mark. -/
def parse? (text : List Char) : Option Entries :=
  let body := match text with
    | '\ufeff' :: rest => rest
    | _ => text
  match statements? body with
  | none => none
  | some statements => (statements.foldlM Draft.apply ⟨[], []⟩).map (·.entries)

end NativeInterop.Toml
