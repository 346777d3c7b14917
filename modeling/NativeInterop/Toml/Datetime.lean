import NativeInterop.Text.Basic

namespace NativeInterop.Toml

/-! Dates and times. Seconds may be missing. Only the form and the ranges matter here. -/

open Text

def fixedDigits? (count : Nat) (text : List Char) : Option (Nat × List Char) :=
  let digits := text.take count
  if digits.length == count && digits.all Char.isDigit then
    some (digitsValue digits, text.drop count)
  else none

def daysInMonth (year month : Nat) : Nat :=
  let leap := year % 4 == 0 && (year % 100 != 0 || year % 400 == 0)
  if month == 2 then (if leap then 29 else 28)
  else if month == 4 || month == 6 || month == 9 || month == 11 then 30
  else 31

/-- The text after a date. -/
def skipDate? (text : List Char) : Option (List Char) := do
  let (year, rest) ← fixedDigits? 4 text
  let '-' :: rest := rest | none
  let (month, rest) ← fixedDigits? 2 rest
  let '-' :: rest := rest | none
  let (day, rest) ← fixedDigits? 2 rest
  if 1 ≤ month && month ≤ 12 && 1 ≤ day && day ≤ daysInMonth year month then some rest
  else none

/-- The text after the fraction of a second; a point alone is none. -/
def skipFraction? : List Char → Option (List Char)
  | '.' :: rest => if rest.head?.any Char.isDigit then some (rest.dropWhile Char.isDigit) else none
  | rest => some rest

def skipSeconds? : List Char → Option (List Char)
  | ':' :: rest => do
      let (second, rest) ← fixedDigits? 2 rest
      if second ≤ 60 then skipFraction? rest else none
  | rest => some rest

/-- The text after a time of day. -/
def skipTime? (text : List Char) : Option (List Char) := do
  let (hour, rest) ← fixedDigits? 2 text
  let ':' :: rest := rest | none
  let (minute, rest) ← fixedDigits? 2 rest
  if hour ≤ 23 && minute ≤ 59 then skipSeconds? rest else none

/-- The text after an offset, if there is one. -/
def skipOffset? : List Char → Option (List Char)
  | 'Z' :: rest => some rest
  | 'z' :: rest => some rest
  | '+' :: rest => numeric rest
  | '-' :: rest => numeric rest
  | rest => some rest
where
  numeric (text : List Char) : Option (List Char) := do
    let (hour, rest) ← fixedDigits? 2 text
    let ':' :: rest := rest | none
    let (minute, rest) ← fixedDigits? 2 rest
    if hour ≤ 23 && minute ≤ 59 then some rest else none

def isDatetime (text : List Char) : Bool :=
  match skipDate? text with
  | some [] => true
  | some (mark :: rest) =>
      (mark == 'T' || mark == 't' || mark == ' ') && (skipTime? rest).bind skipOffset? == some []
  | none => skipTime? text == some []

end NativeInterop.Toml
