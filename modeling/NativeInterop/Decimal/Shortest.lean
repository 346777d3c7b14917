import NativeInterop.Text.Basic

namespace NativeInterop.Decimal

/-! Decimal texts of binary fractions: the fewest digits that lie in the interval of numbers which
round to the fraction, and of those the nearest. -/

/-- Powers of a base; those with a negative exponent count as one. -/
def power (base : Nat) (exponent : Int) : Nat :=
  Nat.pow base exponent.toNat

/-- The number `mantissa * 2 ^ exponent`. -/
structure Binary64 where
  mantissa : Nat
  exponent : Int
  deriving DecidableEq, Repr

namespace Binary64

def leastExponent : Int := -1074
def greatestExponent : Int := 971

/-- The quotient, rounded to the nearest number and from a half to the even one. -/
def roundedQuotient (numerator denominator : Nat) : Nat :=
  let floor := numerator / denominator
  let twice := 2 * (numerator % denominator)
  if denominator < twice || (twice == denominator && floor % 2 == 1) then floor + 1 else floor

/-- The exponent of the greatest power of two that is not above the quotient. -/
def quotientLog2 (numerator denominator : Nat) : Int :=
  let estimate : Int := Int.ofNat numerator.log2 - Int.ofNat denominator.log2
  let below := numerator * power 2 (-estimate) < denominator * power 2 estimate
  if below then estimate - 1 else estimate

/-- The binary fraction nearest to a quotient; `none` above the greatest. -/
def ofQuotient? (numerator denominator : Nat) : Option Binary64 :=
  if numerator == 0 then some ⟨0, leastExponent⟩
  else
    let exponent := max (quotientLog2 numerator denominator - 52) leastExponent
    let mantissa := roundedQuotient (numerator * power 2 (-exponent))
      (denominator * power 2 exponent)
    let (mantissa, exponent) :=
      if mantissa == power 2 53 then (power 2 52, exponent + 1) else (mantissa, exponent)
    if greatestExponent < exponent then none else some ⟨mantissa, exponent⟩

/-- The binary fraction nearest to `digits * 10 ^ exponent`; `none` above the greatest. -/
def ofDecimal? (digits : Nat) (exponent : Int) : Option Binary64 :=
  let magnitude := Int.ofNat (Nat.toDigits 10 digits).length + exponent
  if digits == 0 || magnitude < -400 then some ⟨0, leastExponent⟩
  else if 400 < magnitude then none
  else ofQuotient? (digits * power 10 exponent) (power 10 (-exponent))

end Binary64

/-- The number `digits * 10 ^ exponent`. -/
structure Scientific where
  digits : Nat
  exponent : Int

/-- The interval of the numbers that round to a binary fraction, in units of a quarter of its last
place; its ends belong to it for an even mantissa. -/
def roundingInterval (value : Binary64) : Nat × Nat :=
  let lower :=
    if value.mantissa == power 2 52 && Binary64.leastExponent < value.exponent then
      4 * value.mantissa - 1
    else 4 * value.mantissa - 2
  (lower, 4 * value.mantissa + 2)

/-- The candidate with steps of `10 ^ step`, if one of the two neighbours on that grid rounds to
the value. -/
def candidate? (value : Binary64) (step : Int) : Option Scientific :=
  let quarter := value.exponent - 2
  let scale := power 2 quarter * power 10 (-step)
  let grid := power 2 (-quarter) * power 10 step
  let exact := 4 * value.mantissa * scale
  let (lower, upper) := roundingInterval value
  let inside (digits : Nat) : Bool :=
    if value.mantissa % 2 == 0 then
      lower * scale ≤ digits * grid && digits * grid ≤ upper * scale
    else lower * scale < digits * grid && digits * grid < upper * scale
  let floor := exact / grid
  let nearer := if 2 * (exact % grid) < grid then [floor, floor + 1] else [floor + 1, floor]
  (nearer.find? fun digits => digits != 0 && inside digits).map fun digits =>
    if digits % 10 == 0 then ⟨digits / 10, step + 1⟩ else ⟨digits, step⟩

/-- The number of digits before the point of a positive quotient; not positive if zeros follow the
point. -/
def pointPosition (value : Binary64) : Int :=
  let numerator := value.mantissa * power 2 value.exponent
  let denominator := power 2 (-value.exponent)
  if denominator ≤ numerator then Int.ofNat (Nat.toDigits 10 (numerator / denominator)).length
  else 1 - Int.ofNat (Nat.toDigits 10 ((denominator - 1) / numerator)).length

def shortest (value : Binary64) : Scientific :=
  let point := pointPosition value
  let grids := (List.range 17).map fun count => point - Int.ofNat (count + 1)
  (grids.findSome? (candidate? value)).getD ⟨value.mantissa, value.exponent⟩

/-- Writes all digits, with at least one on each side of the point. -/
def positional (number : Scientific) : List Char :=
  let digits := Nat.toDigits 10 number.digits
  if number.digits == 0 then ['0', '.', '0']
  else if 0 ≤ number.exponent then
    digits ++ List.replicate number.exponent.toNat '0' ++ ['.', '0']
  else
    let places := (-number.exponent).toNat
    let padded := List.replicate (places + 1 - digits.length) '0' ++ digits
    padded.take (padded.length - places) ++ '.' :: padded.drop (padded.length - places)

def Binary64.text (value : Binary64) : List Char :=
  if value.mantissa == 0 then ['0', '.', '0'] else positional (shortest value)

end NativeInterop.Decimal
