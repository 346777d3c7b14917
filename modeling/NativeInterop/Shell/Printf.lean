import NativeInterop.Shell.Arithmetic
import NativeInterop.Shell.Escape
import NativeInterop.Shell.Numeral
import NativeInterop.Shell.Utility.Message

namespace NativeInterop.Shell.Printf

/-! Writing arguments by a format, for the builtin commands `echo` and `printf` and for the utility
of that name. -/

open Shell.Action

/-- Writes its arguments with blanks between them, escapes resolved, up to one that says to stop. -/
def echoWords : (lineEnd : Bool) → List Bytes → Bytes
  | lineEnd, [] => if lineEnd then ['\n'] else []
  | lineEnd, word :: rest =>
      let (text, stops) := Escape.text false word
      if stops then text
      else
        match rest with
        | [] => if lineEnd then text ++ ['\n'] else text
        | rest => text ++ ' ' :: echoWords lineEnd rest

def echo (arguments : List Bytes) : Action Nat := do
  match arguments with
  | ['-', 'n'] :: rest => emit (echoWords false rest)
  | arguments => emit (echoWords true arguments)
  return 0

/-- Who reads a format, and so how a fault in it is told. -/
inductive Dialect
  | builtin
  | utility (name : Bytes)

namespace Dialect

def quoted (dialect : Dialect) (argument : Bytes) : Bytes :=
  match dialect with
  | builtin => argument
  | utility _ => Utility.Quote.plain argument

def tell (dialect : Dialect) (message : Bytes) : Action Unit :=
  match dialect with
  | builtin => warn message
  | utility name => do
      Utility.putKept
      Utility.complain name message

def fail {α : Type} (dialect : Dialect) (message : Bytes) : Action α :=
  match dialect with
  | builtin => Action.fail message
  | utility name => do
      Utility.putKept
      Utility.failWith 1 name message

def notNumeric : Dialect → String
  | builtin => ": expected numeric value"
  | utility _ => ": expected a numeric value"

def notAll : Dialect → String
  | builtin => ": not completely converted"
  | utility _ => ": value not completely converted"

def invalid : Dialect → String
  | builtin => ": invalid directive"
  | utility _ => ": invalid conversion specification"

def unfinished : Dialect → String
  | builtin => "missing format character"
  | utility _ => "%: invalid conversion specification"

end Dialect

/-- The arguments that are left and the status, while a format is written. -/
structure Progress where
  arguments : List Bytes
  status : Nat := 0
  stops : Bool := false

/-- The directive that the text behind a percent sign begins with, up to its conversion; and the
arguments that its width and precision leave. -/
def directive (text : Bytes) (arguments : List Bytes) :
    Directive × Bytes × List Bytes :=
  let number (argument : Option Bytes) : Int := (Arithmetic.leadingNumber (argument.getD [])).1
  let flags := text.takeWhile "#-+ 0".toList.contains
  let text := text.drop flags.length
  let (width, text, arguments) := match text with
    | '*' :: rest => (number arguments.head?, rest, arguments.tail)
    | text =>
        let digits := text.takeWhile fun (c : Char) => c.isDigit || c == '*'
        (Int.ofNat (valueInBase 10 (digits.takeWhile Char.isDigit)), text.drop digits.length,
          arguments)
  let (precision, text, arguments) := match text with
    | '.' :: '*' :: rest => (some (number arguments.head?), rest, arguments.tail)
    | '.' :: rest =>
        let digits := rest.takeWhile fun (c : Char) => c.isDigit || c == '*'
        (some (Int.ofNat (valueInBase 10 (digits.takeWhile Char.isDigit))), rest.drop digits.length,
          arguments)
    | text => (none, text, arguments)
  let flags := if width < 0 then '-' :: flags else flags
  let precision := precision.bind fun value => if value < 0 then none else some value.toNat
  ({ flags, width := width.natAbs, precision, conversion := text.headD ' ' }, text, arguments)

/-- Complains about an argument that is no number. -/
def checkNumber (dialect : Dialect) (argument rest : Bytes) (fits : Bool) : Action Nat := do
  if !rest.isEmpty then
    let complaint :=
      if rest.length == argument.length then dialect.notNumeric else dialect.notAll
    dialect.tell (dialect.quoted argument ++ complaint.toList)
    return 1
  else if !fits then
    dialect.tell (dialect.quoted argument ++ ": Numerical result out of range".toList)
    return 1
  else return 0

/-- The number that an argument stands for; a quotation mark before a character gives its code. -/
def integerOf (dialect : Dialect) (signed : Bool) (argument : Bytes) : Action (Int × Nat) := do
  match argument with
  | '"' :: rest | '\'' :: rest => do
      match dialect, rest.drop 1 with
      | .utility _, ignored@(_ :: _) =>
          dialect.tell ("warning: ".toList ++ ignored ++
            ": character(s) following character constant have been ignored".toList)
      | _, _ => pure ()
      return (((rest.head?.map Char.toNat).getD 0 : Nat), 0)
  | argument =>
      let (value, rest) := Arithmetic.leadingNumber argument
      let bound : Int := if signed then Arithmetic.largest else 18446744073709551615
      let least : Int := if signed then Arithmetic.smallest else -18446744073709551615
      let fits := least ≤ value && value ≤ bound
      let status ← checkNumber dialect argument rest fits
      if fits then return (value, status)
      else if signed then return (max least (min bound value), status)
      else return (bound, status)

/-- The digits, the point and the exponent at the beginning of a text, as digits with a power of
ten, and what follows. -/
def decimalOf (text : Bytes) : Option (Nat × Int × Bytes) :=
  let whole := text.takeWhile Char.isDigit
  let rest := text.drop whole.length
  let (behind, rest) := match rest with
    | '.' :: more => (more.takeWhile Char.isDigit, more.dropWhile Char.isDigit)
    | rest => ([], rest)
  if whole.isEmpty && behind.isEmpty then none
  else
    let (exponent, rest) := match rest with
      | e :: more =>
          let (negative, digits) := match more with
            | '-' :: digits => (true, digits)
            | '+' :: digits => (false, digits)
            | digits => (false, digits)
          let run := digits.takeWhile Char.isDigit
          if (e == 'e' || e == 'E') && !run.isEmpty then
            let value := Int.ofNat (valueInBase 10 run)
            (if negative then -value else value, digits.drop run.length)
          else (0, rest)
      | [] => (0, [])
    some (valueInBase 10 (whole ++ behind), exponent - Int.ofNat behind.length, rest)

def fractionText (dialect : Dialect) (directive : Directive) (argument : Bytes) :
    Action (Bytes × Nat) := do
  let trimmed := argument.dropWhile isSpace
  let (negative, unsigned) := match trimmed with
    | '-' :: rest => (true, rest)
    | '+' :: rest => (false, rest)
    | rest => (false, rest)
  match decimalOf unsigned with
  | none =>
      let status ← checkNumber dialect argument argument true
      return (directive.fraction false ⟨0, 0⟩, status)
  | some (digits, exponent, rest) =>
      let status ← checkNumber dialect argument rest true
      match Decimal.Binary64.ofDecimal? digits exponent with
      | some value => return (directive.fraction negative value, status)
      | none => return (directive.pad (directive.signOf negative ++ "inf".toList), 1)

/-- Writes one directive with the next argument. -/
def convert (dialect : Dialect) (directive : Directive) (shown : Bytes) (progress : Progress) :
    Action Progress := do
  let argument := progress.arguments.head?.getD []
  let next := { progress with arguments := progress.arguments.tail }
  let cut (text : Bytes) : Bytes := directive.precision.elim text text.take
  let withStatus (text : Bytes) (status : Nat) : Action Progress := do
    emit text
    return { next with status := max next.status status }
  match directive.conversion with
  | 's' => withStatus (directive.pad (cut argument)) 0
  | 'c' => withStatus (directive.pad [argument.headD '\x00']) 0
  | 'b' => do
      let (text, stops) := Escape.text (dialect matches .utility _) argument
      emit (directive.pad (cut text))
      return { next with stops }
  | 'd' | 'i' => do
      let (value, status) ← integerOf dialect true argument
      withStatus (directive.signed value) status
  | 'o' | 'u' | 'x' | 'X' => do
      let (value, status) ← integerOf dialect false argument
      withStatus (directive.unsigned (value % 18446744073709551616).toNat) status
  | 'a' | 'A' | 'e' | 'E' | 'f' | 'F' | 'g' | 'G' => do
      let (text, status) ← fractionText dialect directive argument
      withStatus text status
  | 'q' => do
      match dialect with
      | .utility _ => withStatus (Utility.Quote.shell argument) 0
      | .builtin => dialect.fail (shown ++ dialect.invalid.toList)
  | _ => dialect.fail (shown ++ dialect.invalid.toList)

/-- The characters that an escape in a format stands for, and what follows; nothing if the format
ends there. -/
def formatEscape (dialect : Dialect) (text : Bytes) : Action (Option (Bytes × Bytes)) := do
  let plain := Escape.first text
  match dialect, text with
  | .builtin, _ => return some ([plain.1], plain.2)
  | .utility _, 'c' :: _ => return none
  | .utility _, '"' :: rest => return some (['"'], rest)
  | .utility _, 'x' :: _ =>
      match Escape.hexadecimal? text with
      | some (c, rest) => return some ([c], rest)
      | none => dialect.fail "missing hexadecimal number in escape".toList
  | .utility _, letter :: rest => do
      if letter != 'u' && letter != 'U' then return some ([plain.1], plain.2)
      let count := if letter == 'u' then 4 else 8
      let digits := (rest.take count).takeWhile fun c => digitValue c < 16
      if digits.length < count then
        dialect.fail "missing hexadecimal number in escape".toList
      let c := Char.ofNat (valueInBase 16 digits)
      return some (System.pathText [c], rest.drop count)
  | .utility _, [] => return some (['\\'], [])

/-- Goes through a format once. -/
def format (dialect : Dialect) : Nat → Bytes → Progress → Action Progress
  | 0, _, progress | _, [], progress => return progress
  | fuel + 1, '\\' :: rest, progress => do
      match ← formatEscape dialect rest with
      | none => return { progress with stops := true }
      | some (text, rest) =>
          emit text
          format dialect fuel rest progress
  | fuel + 1, '%' :: '%' :: rest, progress => do
      emit ['%']
      format dialect fuel rest progress
  | fuel + 1, '%' :: rest, progress => do
      let (directive, text, arguments) := directive rest progress.arguments
      match text with
      | [] => dialect.fail dialect.unfinished.toList
      | conversion :: after => do
          let shown := '%' :: rest.take (rest.length - text.length) ++ [conversion]
          let progress ← convert dialect directive shown { progress with arguments }
          if progress.stops then return progress
          format dialect fuel after progress
  | fuel + 1, c :: rest, progress => do
      emit [c]
      format dialect fuel rest progress

/-- Goes through a format as often as it uses up arguments. -/
def formatAll (dialect : Dialect) (text : Bytes) : Nat → Progress → Action Nat
  | 0, progress => return progress.status
  | fuel + 1, progress => do
      let next ← format dialect (text.length + 1) text progress
      if next.stops || next.arguments.isEmpty ||
          next.arguments.length == progress.arguments.length then
        return next.status
      formatAll dialect text fuel next

def printf (arguments : List Bytes) : Action Nat := do
  let arguments ← match arguments with
    | ['-', '-'] :: rest => pure rest
    | ('-' :: c :: _) :: _ => fail ("Illegal option -".toList ++ [c])
    | arguments => pure arguments
  match arguments with
  | [] => fail "usage: printf format [arg ...]".toList
  | text :: arguments => formatAll .builtin text (arguments.length + 1) { arguments }

end NativeInterop.Shell.Printf
