import NativeInterop.Shell.Printf
import NativeInterop.Shell.Regex
import NativeInterop.Shell.Utility.Message

namespace NativeInterop.Shell.Utility

/-! Utilities that compute. -/

open Shell.Action

/-! ### Sequences -/

namespace Sequence

/-- A decimal fraction: digits and how many of them stand behind the point. -/
structure Decimal where
  digits : Int
  places : Nat

def decimal? (text : Bytes) : Option Decimal :=
  let (negative, unsigned) := match text with
    | '-' :: rest => (true, rest)
    | '+' :: rest => (false, rest)
    | rest => (false, rest)
  match Printf.decimalOf unsigned with
  | some (digits, exponent, []) =>
      let digits := if exponent < 0 then digits
        else digits * valueInBase 10 ('1' :: List.replicate exponent.toNat '0')
      let value := Int.ofNat digits
      some ⟨if negative then -value else value, (-exponent).toNat⟩
  | _ => none

def scaled (places : Nat) (number : Decimal) : Int :=
  number.digits * Int.ofNat (valueInBase 10 ('1' :: List.replicate (places - number.places) '0'))

def text (places : Nat) (value : Int) : Bytes :=
  let digits := Bytes.ofNat value.natAbs
  let digits := List.replicate (places + 1 - digits.length) '0' ++ digits
  let whole := digits.take (digits.length - places)
  (if value < 0 then ['-'] else []) ++ whole ++
    if places == 0 then [] else '.' :: digits.drop whole.length

def valuesUpTo (step last : Int) : Nat → Int → List Int
  | 0, _ => []
  | fuel + 1, value =>
      if (0 ≤ step && last < value) || (step < 0 && value < last) then []
      else value :: valuesUpTo step last fuel (value + step)

def limit : Nat := 1000000

def numberOf (name text : Bytes) : Action Decimal := do
  match decimal? text with
  | some number => return number
  | none => misuse 1 name ("invalid floating point argument: ".toList ++ Quote.plain text)

def padded (width : Nat) (text : Bytes) : Bytes :=
  match text with
  | '-' :: rest => '-' :: List.replicate (width - text.length) '0' ++ rest
  | text => List.replicate (width - text.length) '0' ++ text

def formatted (format : Bytes) (text : Bytes) : Bytes :=
  let before := format.takeWhile (· != '%')
  match format.drop before.length with
  | '%' :: rest =>
      let (directive, after, _) := Printf.directive rest []
      match Printf.decimalOf (text.filter (· != '-')) with
      | some (digits, exponent, _) =>
          let value := (Decimal.Binary64.ofDecimal? digits exponent).getD ⟨0, 0⟩
          before ++ directive.fraction (text.head? == some '-') value ++ after.drop 1
      | none => format
  | _ => before

/-- The directive in a format must be one for a fraction, and the only one. -/
def checkFormat (name format : Bytes) : Action Unit := do
  let shown := "format ".toList ++ Quote.plain format
  let from? (text : Bytes) : Option Bytes :=
    match text.dropWhile (· != '%') with
    | [] => none
    | _ :: rest => some rest
  match from? format with
  | none => failWith 1 name (shown ++ " has no % directive".toList)
  | some rest => do
      let (_, after, _) := Printf.directive rest []
      match after with
      | [] => failWith 1 name (shown ++ " ends in %".toList)
      | c :: after =>
          unless "aAeEfFgG".toList.contains c do
            failWith 1 name (shown ++ " has unknown %".toList ++ [c] ++ " directive".toList)
          if (from? after).isSome then
            failWith 1 name (shown ++ " has too many % directives".toList)

/-- Negative numbers are no options. -/
def protect : List Bytes → List Bytes
  | ('-' :: c :: rest) :: others =>
      if c.isDigit || c == '.' then ['-', '-'] :: ('-' :: c :: rest) :: others
      else ('-' :: c :: rest) :: (if rest.isEmpty && (c == 's' || c == 'f') then
          match others with
          | value :: others => value :: protect others
          | [] => []
        else protect others)
  | first :: others => first :: others
  | [] => []

def seq : Utility := fun _ name arguments => do
  let table : OptionTable :=
    { letters := "f:s:w"
      names := [("separator", .value, 's'), ("equal-width", .nothing, 'w'), ("format", .value, 'f')]
      leading := true }
  let given ← table.read name (protect arguments)
  let numbers := given.operands
  if numbers.isEmpty then missingOperand name
  if let some extra := numbers[3]? then extraOperand name extra
  if let some format := given.value? 'f' then checkFormat name format
  let decimals ← numbers.mapM (numberOf name)
  let one : Decimal := ⟨1, 0⟩
  let (first, step, last) := match decimals with
    | [last] => (one, one, last)
    | [first, last] => (first, one, last)
    | [first, step, last] => (first, step, last)
    | _ => (one, one, one)
  let places := max first.places step.places
  let precise := max places last.places
  if step.digits == 0 then
    misuse 1 name ("invalid Zero increment value: ".toList ++ Quote.plain ((numbers[1]?).getD []))
  let values := valuesUpTo (scaled precise step) (scaled precise last) limit (scaled precise first)
  let shown := values.map fun value =>
    let text := text precise value
    if precise == places then text else text.take (text.length - (precise - places) -
      (if places == 0 then 1 else 0))
  let width := shown.foldl (fun width text => max width text.length) 0
  let shown := match given.value? 'f' with
    | some format => shown.map (formatted format)
    | none => if given.has 'w' then shown.map (padded width) else shown
  unless shown.isEmpty do
    put (joinWith ((given.value? 's').getD ['\n']) shown ++ ['\n'])
  return 0

end Sequence

/-! ### Expressions -/

namespace Expr

abbrev Reader := StateT (List Bytes × Option Bytes) Action

def fail {α : Type} (name : Bytes) (message : Bytes) : Reader α :=
  failWith 2 name message

/-- Takes the next argument, if there is one. -/
def next : Reader (Option Bytes) := do
  match (← get).1 with
  | [] => return none
  | word :: rest => do
      set ((rest, some word) : List Bytes × Option Bytes)
      return some word

def nextIs (words : List String) : Reader (Option String) := do
  match (← get).1.head? with
  | none => return none
  | some word =>
      match words.find? fun text => text.toList == word with
      | none => return none
      | some text => do
          let _ ← next
          return some text

def number? (text : Bytes) : Option Int :=
  match text with
  | '-' :: digits =>
      if !digits.isEmpty && digits.all Char.isDigit then some (-Int.ofNat (valueInBase 10 digits))
      else none
  | digits =>
      if !digits.isEmpty && digits.all Char.isDigit then some (Int.ofNat (valueInBase 10 digits))
      else none

def numberOf (name text : Bytes) : Reader Int := do
  match number? text with
  | some value => return value
  | none => fail name "non-integer argument".toList

/-- Whether a value counts as none: empty or zero. -/
def isNull (text : Bytes) : Bool :=
  let digits := match text with
    | '-' :: rest => rest
    | text => text
  text.isEmpty || (!digits.isEmpty && digits.all (· == '0'))

/-- What a text matches from its beginning: the first group if there is one, otherwise the number of
characters. -/
def matched (name text pattern : Bytes) : Reader Bytes := do
  match Regex.parse false pattern with
  | .error message => fail name message.toList
  | .ok regex =>
      let subject : Regex.Subject := ⟨text.toArray, false⟩
      let found := Regex.longest (Regex.hits subject regex ⟨0, []⟩)
      if 0 < regex.groupCount then
        return match found.bind fun hit => hit.groups.lookup 1 with
          | some (first, last) => (subject.text.extract first last).toList
          | none => []
      else return Bytes.ofNat ((found.map (·.position)).getD 0)

def ofBool (truth : Bool) : Bytes :=
  if truth then ['1'] else ['0']

structure Evaluator where
  whole : Reader Bytes
  named : Reader Bytes

def primary (inner : Evaluator) (name : Bytes) : Reader Bytes := do
  let before := (← get).2
  match ← next with
  | none =>
      fail name ("syntax error: missing argument after ".toList ++ Quote.plain (before.getD []))
  | some ['('] => do
      let value ← inner.whole
      match (← nextIs [")"]), (← get).1.head? with
      | some _, _ => return value
      | none, some other =>
          fail name ("syntax error: expecting ')' instead of ".toList ++ Quote.plain other)
      | none, none =>
          fail name ("syntax error: expecting ')' after ".toList ++
            Quote.plain ((← get).2.getD []))
  | some [')'] => fail name "syntax error: unexpected ')'".toList
  | some word => return word

def named (inner : Evaluator) (name : Bytes) : Reader Bytes := do
  match ← nextIs ["+", "length", "match", "index", "substr"] with
  | some "+" =>
      match ← next with
      | some word => return word
      | none => fail name "syntax error: missing argument after '+'".toList
  | some "length" => return Bytes.ofNat (← inner.named).length
  | some "match" => do
      let text ← inner.named
      matched name text (← inner.named)
  | some "index" => do
      let text ← inner.named
      let wanted ← inner.named
      return Bytes.ofNat ((text.findIdx? wanted.contains).elim 0 (· + 1))
  | some "substr" => do
      let text ← inner.named
      let start := number? (← inner.named)
      let count := number? (← inner.named)
      match start, count with
      | some start, some count =>
          if start < 1 || count < 1 then return []
          return (text.drop (start.toNat - 1)).take count.toNat
      | _, _ => return []
  | _ => primary inner name

/-- Goes on with operators of one level, as long as there are any. -/
def operations (operand : Reader Bytes) (operators : List String)
    (apply : String → Bytes → Bytes → Reader Bytes) : Nat → Bytes → Reader Bytes
  | 0, value => return value
  | fuel + 1, value => do
      match ← nextIs operators with
      | none => return value
      | some operator => do
          let second ← operand
          operations operand operators apply fuel (← apply operator value second)

def level (length : Nat) (operand : Reader Bytes) (operators : List String)
    (apply : String → Bytes → Bytes → Reader Bytes) : Reader Bytes := do
  operations operand operators apply length (← operand)

def compare (operator : String) (a b : Bytes) : Bytes :=
  let ordering := match number? a, number? b with
    | some a, some b => Ord.compare a b
    | _, _ => Ord.compare (a.map Char.toNat) (b.map Char.toNat)
  ofBool (match operator with
    | "<" => ordering == .lt
    | "<=" => ordering != .gt
    | "=" | "==" => ordering == .eq
    | "!=" => ordering != .eq
    | ">=" => ordering != .lt
    | _ => ordering == .gt)

def arithmetic (name : Bytes) (operator : String) (a b : Bytes) : Reader Bytes := do
  let a ← numberOf name a
  let b ← numberOf name b
  match operator with
  | "*" => return Bytes.ofInt (a * b)
  | "+" => return Bytes.ofInt (a + b)
  | "-" => return Bytes.ofInt (a - b)
  | _ =>
      if b == 0 then fail name "division by zero".toList
      return Bytes.ofInt (if operator == "/" then Int.tdiv a b else Int.tmod a b)

def evaluator (name : Bytes) (length : Nat) : Nat → Evaluator
  | 0 => ⟨return [], return []⟩
  | depth + 1 =>
      let inner := evaluator name length depth
      let named := named inner name
      let searched := level length named [":"] fun _ a b => matched name a b
      let products := level length searched ["*", "/", "%"] (arithmetic name)
      let sums := level length products ["+", "-"] (arithmetic name)
      let comparisons := level length sums ["<", "<=", "=", "==", "!=", ">=", ">"]
        fun operator a b => return compare operator a b
      let both := level length comparisons ["&"] fun _ a b =>
        return if isNull a || isNull b then ['0'] else a
      let either := level length both ["|"] fun _ a b =>
        return if !isNull a then a else if isNull b then ['0'] else b
      ⟨either, named⟩

def expr : Utility := fun _ name arguments => do
  let arguments := match arguments with
    | ['-', '-'] :: rest => rest
    | arguments => arguments
  if arguments.isEmpty then misuse 2 name "missing operand".toList
  let length := arguments.length + 1
  let (value, (rest, _)) ← (evaluator name length length).whole.run (arguments, none)
  if let extra :: _ := rest then
    failWith 2 name ("syntax error: unexpected argument ".toList ++ Quote.plain extra)
  put (value ++ ['\n'])
  return if isNull value then 1 else 0

end Expr

end NativeInterop.Shell.Utility
