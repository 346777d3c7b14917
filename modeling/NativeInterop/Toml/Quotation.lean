import NativeInterop.Toml.Number

namespace NativeInterop.Toml

/-! Strings between quotes. Basic strings have escapes, literal strings none; each has a form for
several lines between three quotes. -/

def isControl (c : Char) : Bool :=
  (c.toNat < 0x20 && c != '\t') || c.toNat == 0x7F

def isSpace (c : Char) : Bool :=
  c == ' ' || c == '\t'

/-- The character of a code in `count` hexadecimal digits. -/
def scalar? (count : Nat) (text : List Char) : Option (Char × List Char) :=
  let digits := text.take count
  let code := valueInBase 16 digits
  if digits.length == count && digits.all isHexDigit && code < 0x110000 &&
      !(0xD800 ≤ code && code ≤ 0xDFFF) then
    some (Char.ofNat code, text.drop count)
  else none

/-- The character that an escape stands for; the text begins after the backslash. -/
def escape? : List Char → Option (Char × List Char)
  | 'b' :: rest => some ('\x08', rest)
  | 't' :: rest => some ('\t', rest)
  | 'n' :: rest => some ('\n', rest)
  | 'f' :: rest => some ('\x0c', rest)
  | 'r' :: rest => some ('\r', rest)
  | 'e' :: rest => some ('\x1b', rest)
  | '"' :: rest => some ('"', rest)
  | '\\' :: rest => some ('\\', rest)
  | 'x' :: rest => scalar? 2 rest
  | 'u' :: rest => scalar? 4 rest
  | 'U' :: rest => scalar? 8 rest
  | _ => none

abbrev Read (α : Type) := Option (α × List Char)

/-- The rest of a basic string on one line. -/
def basicRest (text : List Char) : Read (List Char) :=
  match text with
  | [] => none
  | '"' :: rest => some ([], rest)
  | '\\' :: rest =>
      match escape? rest with
      | some (c, after) =>
          if after.length ≤ rest.length then
            (basicRest after).map fun (content, rest) => (c :: content, rest)
          else none
      | none => none
  | c :: rest =>
      if isControl c then none
      else (basicRest rest).map fun (content, rest) => (c :: content, rest)
termination_by text.length

def literalRest : List Char → Read (List Char)
  | [] => none
  | '\'' :: rest => some ([], rest)
  | c :: rest =>
      if isControl c then none
      else (literalRest rest).map fun (content, rest) => (c :: content, rest)

/-- What a closing row of at least three quotes leaves in the string: up to two more quotes. -/
def closingQuotes (quote : Char) (text : List Char) : Read (List Char) :=
  let count := min (text.takeWhile (· == quote)).length 5
  if 3 ≤ count then some (List.replicate (count - 3) quote, text.drop count) else none

def skipFirstBreak : List Char → List Char
  | '\n' :: rest => rest
  | '\r' :: '\n' :: rest => rest
  | text => text

/-- Skips blanks and line breaks. -/
def skipBreaks : List Char → List Char
  | '\r' :: '\n' :: rest => skipBreaks rest
  | c :: rest => if c == '\n' || isSpace c then skipBreaks rest else c :: rest
  | [] => []

/-- The text after a backslash at the end of a line and the white space that it swallows. -/
def foldedBreak? (text : List Char) : Option (List Char) :=
  match text.dropWhile isSpace with
  | '\n' :: rest => some (skipBreaks rest)
  | '\r' :: '\n' :: rest => some (skipBreaks rest)
  | _ => none

/-- The rest of a basic string on several lines. -/
def basicLinesRest (text : List Char) : Read (List Char) :=
  match closingQuotes '"' text with
  | some closed => some closed
  | none =>
      match text with
      | [] => none
      | '\\' :: rest =>
          match foldedBreak? rest with
          | some after => if after.length ≤ rest.length then basicLinesRest after else none
          | none =>
              match escape? rest with
              | some (c, after) =>
                  if after.length ≤ rest.length then
                    (basicLinesRest after).map fun (content, rest) => (c :: content, rest)
                  else none
              | none => none
      | '\r' :: '\n' :: rest =>
          (basicLinesRest rest).map fun (content, rest) => ('\r' :: '\n' :: content, rest)
      | c :: rest =>
          if isControl c && c != '\n' then none
          else (basicLinesRest rest).map fun (content, rest) => (c :: content, rest)
termination_by text.length

def literalLinesRest (text : List Char) : Read (List Char) :=
  match closingQuotes '\'' text with
  | some closed => some closed
  | none =>
      match text with
      | [] => none
      | '\r' :: '\n' :: rest =>
          (literalLinesRest rest).map fun (content, rest) => ('\r' :: '\n' :: content, rest)
      | c :: rest =>
          if isControl c && c != '\n' then none
          else (literalLinesRest rest).map fun (content, rest) => (c :: content, rest)

/-- A string of one line, as it may also stand for a key. -/
def lineString? : List Char → Read (List Char)
  | '"' :: rest => basicRest rest
  | '\'' :: rest => literalRest rest
  | _ => none

def string? : List Char → Read (List Char)
  | '"' :: '"' :: '"' :: rest => basicLinesRest (skipFirstBreak rest)
  | '\'' :: '\'' :: '\'' :: rest => literalLinesRest (skipFirstBreak rest)
  | text => lineString? text

end NativeInterop.Toml
