import NativeInterop.Decimal.Shortest
import NativeInterop.Shell.Bytes

namespace NativeInterop.Shell

/-! Numbers as directives of a format write them. -/

/-- A directive of a format. -/
structure Directive where
  flags : List Char := []
  width : Nat := 0
  precision : Option Nat := none
  conversion : Char
  deriving Repr

namespace Directive

def hasFlag (directive : Directive) (flag : Char) : Bool :=
  directive.flags.contains flag

/-- Fills a text up to the width. -/
def pad (directive : Directive) (text : Bytes) : Bytes :=
  let blanks := List.replicate (directive.width - text.length) ' '
  if directive.hasFlag '-' then text ++ blanks else blanks ++ text

/-- Fills digits up to the width, with zeros between the sign and the digits if they are asked
for. -/
def padNumber (directive : Directive) (zeros : Bool) (sign digits : Bytes) : Bytes :=
  if zeros && directive.hasFlag '0' && !directive.hasFlag '-' then
    sign ++ List.replicate (directive.width - sign.length - digits.length) '0' ++ digits
  else directive.pad (sign ++ digits)

def signOf (directive : Directive) (negative : Bool) : Bytes :=
  if negative then ['-']
  else if directive.hasFlag '+' then ['+']
  else if directive.hasFlag ' ' then [' ']
  else []

/-- The digits of a number, with at least as many as the precision asks for. -/
def wholeDigits (directive : Directive) (digits : Bytes) : Bytes :=
  match directive.precision with
  | none => digits
  | some precision =>
      if precision == 0 && digits == ['0'] then []
      else List.replicate (precision - digits.length) '0' ++ digits

def signed (directive : Directive) (value : Int) : Bytes :=
  directive.padNumber directive.precision.isNone (directive.signOf (value < 0))
    (directive.wholeDigits (Bytes.ofNat value.natAbs))

def unsigned (directive : Directive) (value : Nat) : Bytes :=
  let numbered := directive.hasFlag '#'
  let (mark, digits) := match directive.conversion with
    | 'o' =>
        let digits := directive.wholeDigits (Nat.toDigits 8 value)
        ([], if numbered && digits.head? != some '0' then '0' :: digits else digits)
    | 'x' =>
        (if numbered && value != 0 then ['0', 'x'] else [],
          directive.wholeDigits (Nat.toDigits 16 value))
    | 'X' =>
        (if numbered && value != 0 then ['0', 'X'] else [],
          directive.wholeDigits ((Nat.toDigits 16 value).map Char.toUpper))
    | _ => ([], directive.wholeDigits (Bytes.ofNat value))
  directive.padNumber directive.precision.isNone mark digits

/-! ### Fractions -/

open Decimal in
/-- The quotient that a binary fraction is, as numerator and denominator. -/
def quotient (value : Binary64) : Nat × Nat :=
  (value.mantissa * power 2 value.exponent, power 2 (-value.exponent))

open Decimal in
/-- The digits of a quotient with so many places behind the point, the point left out. -/
def scaledDigits (value : Nat × Nat) (places : Int) : Bytes :=
  Bytes.ofNat (Binary64.roundedQuotient (value.1 * power 10 places) (value.2 * power 10 (-places)))

def withPoint (keepsPoint : Bool) (whole behind : Bytes) : Bytes :=
  if behind.isEmpty && !keepsPoint then whole else whole ++ '.' :: behind

/-- The text of a quotient with a fixed number of places. -/
def fixed (value : Nat × Nat) (places : Nat) (keepsPoint : Bool) : Bytes :=
  let digits := scaledDigits value places
  let digits := List.replicate (places + 1 - digits.length) '0' ++ digits
  let whole := digits.take (digits.length - places)
  withPoint keepsPoint whole (digits.drop whole.length)

/-- The first digits of a quotient, one and so many more, and the exponent of the first one. -/
def leadingDigits (value : Nat × Nat) (places : Nat) : Bytes × Int :=
  if value.1 == 0 then (List.replicate (places + 1) '0', 0)
  else
    let estimate := Decimal.Binary64.quotientLog2 value.1 value.2 * 30103 / 100000
    let exponents := [estimate - 1, estimate, estimate + 1, estimate + 2]
    let candidates := exponents.map fun exponent =>
      (scaledDigits value (Int.ofNat places - exponent), exponent)
    (candidates.find? fun candidate => candidate.1.length == places + 1).getD ([], estimate)

def exponentText (upper : Bool) (exponent : Int) : Bytes :=
  let digits := Bytes.ofNat exponent.natAbs
  (if upper then 'E' else 'e') :: (if exponent < 0 then '-' else '+') ::
    List.replicate (2 - digits.length) '0' ++ digits

def scientific (value : Nat × Nat) (places : Nat) (keepsPoint upper : Bool) : Bytes :=
  let (digits, exponent) := leadingDigits value places
  withPoint keepsPoint (digits.take 1) (digits.drop 1) ++ exponentText upper exponent

def dropZeros (text : Bytes) : Bytes :=
  (text.reverse.dropWhile (· == '0')).reverse

/-- The shorter of both forms, without zeros at the end. -/
def general (value : Nat × Nat) (precision : Nat) (keepsZeros upper : Bool) : Bytes :=
  let precision := max precision 1
  let (digits, exponent) := leadingDigits value (precision - 1)
  let trim (text : Bytes) : Bytes := if keepsZeros then text else dropZeros text
  if exponent < -4 || Int.ofNat precision ≤ exponent then
    withPoint keepsZeros (digits.take 1) (trim (digits.drop 1)) ++ exponentText upper exponent
  else if exponent < 0 then
    withPoint keepsZeros ['0'] (List.replicate (exponent.natAbs - 1) '0' ++ trim digits)
  else
    let whole := exponent.toNat + 1
    withPoint keepsZeros (digits.take whole) (trim (digits.drop whole))

/-- A fraction as `%f`, `%e` and `%g` write it. -/
def fraction (directive : Directive) (negative : Bool) (value : Decimal.Binary64) : Bytes :=
  let value := quotient value
  let precision := directive.precision.getD 6
  let alternate := directive.hasFlag '#'
  let digits := match directive.conversion with
    | 'e' => scientific value precision alternate false
    | 'E' => scientific value precision alternate true
    | 'g' => general value precision alternate false
    | 'G' => general value precision alternate true
    | _ => fixed value precision alternate
  directive.padNumber true (directive.signOf negative) digits

end Directive

end NativeInterop.Shell
