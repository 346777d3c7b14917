import NativeInterop.Text.Basic
import NativeInterop.Toml.Datetime
import NativeInterop.Toml.Value

namespace NativeInterop.Toml

/-! Integers and floats. Single underscores may stand between digits. What makes a text a decimal
integer is how it begins, and with other characters among its digits it has no value. An integer in
another base has digits of that base only, and no value if there are none. -/

open Text

def digitValue (c : Char) : Nat :=
  if c.isDigit then c.toNat - '0'.toNat
  else if c.isUpper then c.toNat - 'A'.toNat + 10
  else c.toNat - 'a'.toNat + 10

def valueInBase (base : Nat) (digits : List Char) : Nat :=
  digits.foldl (fun value c => value * base + digitValue c) 0

def isDigitIn (base : Nat) (c : Char) : Bool :=
  c.isAlphanum && digitValue c < base

def isHexDigit (c : Char) : Bool :=
  c.isDigit || ('a' ≤ c && c ≤ 'f') || ('A' ≤ c && c ≤ 'F')

def splitSign : List Char → Bool × List Char
  | '+' :: rest => (false, rest)
  | '-' :: rest => (true, rest)
  | text => (false, text)

/-- The value of digits of a base, behind at most one sign. -/
def signedValue? (base : Nat) (text : List Char) : Option Int :=
  let (negative, digits) := splitSign text
  if !digits.isEmpty && digits.all (isDigitIn base) then
    let value := Int.ofNat (valueInBase base digits)
    some (if negative then -value else value)
  else none

/-- Whether each underscore between these parts has digits around it. The beginning of the first
part is looked at only if it has to be a digit; a part of one character has no end of its own. -/
def groupsFit (isDigit : Char → Bool) (digitFirst : Bool) : List (List Char) → Bool
  | [] => true
  | [part] => !digitFirst || part.head?.any isDigit
  | part :: others =>
      !part.isEmpty && (!digitFirst || part.head?.any isDigit) &&
        (part.length == 1 || part.getLast?.any isDigit) && groupsFit isDigit true others

/-- The text without its underscores. -/
def ungrouped? (isDigit : Char → Bool) (digitFirst : Bool) (text : List Char) :
    Option (List Char) :=
  match segments (· == '_') text with
  | [_] => some text
  | parts => if groupsFit isDigit digitFirst parts then some parts.flatten else none

/-- An integer in one of the bases with a mark of its own, without a sign. -/
def basedInteger? (base : Nat) (text : List Char) : Option Value := do
  let digits ← ungrouped? isHexDigit true text
  if digits.all (isDigitIn base) then some (.integer (signedValue? base digits)) else none

/-- A decimal integer, whose body without the sign has no leading zero. -/
def decimalInteger? (text body : List Char) : Option Value :=
  if body.head? == some '0' && 1 < body.length then none
  else (ungrouped? isHexDigit false text).map fun digits => .integer (signedValue? 10 digits)

def isGroupedDigit (c : Char) : Bool :=
  c.isDigit || c == '_'

/-- The digits at the beginning of a text, of which there is at least one, and the text after
them. -/
def leadingDigits? (text : List Char) : Option (List Char × List Char) :=
  let digits := (text.takeWhile isGroupedDigit).filter Char.isDigit
  if digits.isEmpty then none else some (digits, text.dropWhile isGroupedDigit)

def isExponentMark (c : Char) : Bool :=
  c == 'e' || c == 'E'

/-- The digits after the point, if there is one. -/
def fraction? : List Char → Option (List Char × List Char)
  | '.' :: rest => leadingDigits? rest
  | rest => some ([], rest)

/-- The exponent, zero if there is none. Nothing follows it. -/
def exponent? : List Char → Option Int
  | [] => some 0
  | c :: rest =>
      if isExponentMark c then
        let (negative, digits) := splitSign rest
        match leadingDigits? digits with
        | some (digits, []) =>
            let value := Int.ofNat (valueInBase 10 digits)
            some (if negative then -value else value)
        | _ => none
      else none

/-- A float with digits; its body is the text without the sign. -/
def finiteFloat? (negative : Bool) (text body : List Char) : Option Value := do
  let (whole, rest) ← leadingDigits? body
  let (fraction, rest) ← fraction? rest
  let exponent ← exponent? rest
  if body.head? == some '0' && 1 < whole.length then none
  else
    let _ ← ungrouped? Char.isDigit false text
    return .float (.finite negative (valueInBase 10 (whole ++ fraction))
      (exponent - Int.ofNat fraction.length))

/-- A number in decimal, or a date or time: the first character after the first digits decides. -/
def decimalOrDatetime? (text : List Char) : Option Value :=
  let (negative, body) := splitSign text
  match body.dropWhile Char.isDigit with
  | [] => decimalInteger? text body
  | mark :: rest =>
      if mark == '-' || mark == ':' then
        if isDatetime text then some (.datetime text) else none
      else if (mark :: rest).contains ' ' then none
      else if (mark :: rest).any fun c => c == '.' || isExponentMark c then
        finiteFloat? negative text body
      else if mark == '_' then decimalInteger? text body
      else none

/-- The value of a text without quotes that begins as numbers, dates and times do. -/
def number? (text : List Char) : Option Value :=
  let (negative, body) := splitSign text
  match body with
  | ['i', 'n', 'f'] => some (.float (.infinity negative))
  | ['n', 'a', 'n'] => some (.float .nan)
  | '0' :: 'x' :: digits => if body == text then basedInteger? 16 digits else none
  | '0' :: 'o' :: digits => if body == text then basedInteger? 8 digits else none
  | '0' :: 'b' :: digits => if body == text then basedInteger? 2 digits else none
  | c :: _ => if isGroupedDigit c then decimalOrDatetime? text else none
  | [] => none

end NativeInterop.Toml
