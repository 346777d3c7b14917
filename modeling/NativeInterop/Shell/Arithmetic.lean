import NativeInterop.Shell.Bytes

namespace NativeInterop.Shell.Arithmetic

/-! Arithmetic of scripts. Numbers have 64 bits and wrap around. An expression is computed while it
is read, so that a division by zero comes before what is wrong behind it. -/

inductive Operator
  | multiply | divide | remainder | add | subtract | shiftLeft | shiftRight
  | less | lessEqual | greater | greaterEqual | equal | unequal
  | bitAnd | bitXor | bitOr
  deriving DecidableEq

inductive Token
  | number (value : Int64)
  | name (text : Bytes)
  | operator (operator : Operator)
  /-- Assigns, after an operation if there is one. -/
  | assign (operator : Option Operator)
  | both | either | not | bitNot | question | colon | leftParen | rightParen
  | ending
  | unknown
  deriving DecidableEq

namespace Operator

/-- Operators of a lower level bind closer. -/
def level : Operator → Nat
  | multiply | divide | remainder => 0
  | add | subtract => 1
  | shiftLeft | shiftRight => 2
  | less | lessEqual | greater | greaterEqual => 3
  | equal | unequal => 4
  | bitAnd => 5
  | bitXor => 6
  | bitOr => 7

def ofBool (truth : Bool) : Int64 :=
  if truth then 1 else 0

/-- The value of an operation; a division by zero has none. -/
def result? (operator : Operator) (a b : Int64) : Option Int64 :=
  match operator with
  | multiply => some (a * b)
  | divide => if b == 0 then none else some (a / b)
  | remainder => if b == 0 then none else some (a % b)
  | add => some (a + b)
  | subtract => some (a - b)
  | shiftLeft => some (a <<< b)
  | shiftRight => some (a >>> b)
  | less => some (ofBool (a < b))
  | lessEqual => some (ofBool (a ≤ b))
  | greater => some (ofBool (b < a))
  | greaterEqual => some (ofBool (b ≤ a))
  | equal => some (ofBool (a == b))
  | unequal => some (ofBool (a != b))
  | bitAnd => some (a &&& b)
  | bitXor => some (a ^^^ b)
  | bitOr => some (a ||| b)

end Operator

/-! ### Numbers -/

def largest : Int := 9223372036854775807

def smallest : Int := -9223372036854775808

/-- A number within its 64 bits; what is beyond them counts as the outermost number. -/
def saturated (value : Int) : Int64 :=
  Int64.ofInt (max smallest (min largest value))

def isHexDigit (c : Char) : Bool :=
  c.isDigit || ('a' ≤ c && c ≤ 'f') || ('A' ≤ c && c ≤ 'F')

/-- A number without a sign at the beginning of a text: decimal, octal behind a zero, or
hexadecimal; and what follows it. -/
def magnitude (text : Bytes) : Nat × Bytes :=
  let among (base : Nat) (belongs : Char → Bool) (text : Bytes) : Nat × Bytes :=
    (valueInBase base (text.takeWhile belongs), text.dropWhile belongs)
  match text with
  | '0' :: 'x' :: c :: rest | '0' :: 'X' :: c :: rest =>
      if isHexDigit c then among 16 isHexDigit (c :: rest) else (0, text.drop 1)
  | '0' :: rest => among 8 isOctalDigit ('0' :: rest)
  | text => among 10 Char.isDigit text

/-- The number that a text begins with, blanks and a sign allowed before it, and what follows. With
no number the whole text follows. -/
def leadingNumber (text : Bytes) : Int × Bytes :=
  let trimmed := text.dropWhile isSpace
  let (negative, unsigned) := match trimmed with
    | '-' :: rest => (true, rest)
    | '+' :: rest => (false, rest)
    | rest => (false, rest)
  if (unsigned.head?.elim false Char.isDigit) then
    let (value, rest) := magnitude unsigned
    (if negative then -value else value, rest)
  else (0, text)

/-- The value of a text that is a number and nothing else; an empty text is zero. -/
def numberOf? (text : Bytes) : Option Int64 :=
  let (value, rest) := leadingNumber text
  if smallest ≤ value && value ≤ largest && rest.all isSpace then some (Int64.ofInt value)
  else none

/-! ### Tokens -/

def operators : List (String × Token) :=
  let operation (text : String) (operator : Operator) : List (String × Token) :=
    [(text ++ "=", .assign (some operator)), (text, .operator operator)]
  [("&&", .both), ("||", .either), ("!=", .operator .unequal), ("==", .operator .equal),
    ("=", .assign none), ("!", .not), ("~", .bitNot), ("?", .question), (":", .colon),
    ("(", .leftParen), (")", .rightParen)] ++
  operation "<<" .shiftLeft ++ operation ">>" .shiftRight ++
  [("<=", .operator .lessEqual), (">=", .operator .greaterEqual), ("<", .operator .less),
    (">", .operator .greater)] ++
  operation "*" .multiply ++ operation "/" .divide ++ operation "%" .remainder ++
  operation "+" .add ++ operation "-" .subtract ++ operation "&" .bitAnd ++
  operation "^" .bitXor ++ operation "|" .bitOr

/-- The first token of a text, and what follows it. -/
def firstToken (text : Bytes) : Token × Bytes :=
  match text.dropWhile fun c => isBlank c || c == '\n' with
  | [] => (.ending, [])
  | c :: rest =>
      if c.isDigit then
        let (value, rest) := magnitude (c :: rest)
        (.number (saturated value), rest)
      else if isNameStart c then
        (.name (c :: rest.takeWhile isNameChar), rest.dropWhile isNameChar)
      else
        (operators.findSome? fun (mark, token) =>
          (mark.toList.isPrefixOf? (c :: rest)).map (token, ·)).getD (.unknown, c :: rest)

/-! ### Computing -/

inductive Fault
  | malformed (message : String)
  | notANumber (text : Bytes)

structure Calculation where
  rest : Bytes
  /-- The token behind what has been computed. -/
  last : Token
  /-- The values of variables that have been assigned, the latest first. -/
  assigned : List (Bytes × Int64)

abbrev Calculator := StateT Calculation (Except Fault)

def next : Calculator Token := do
  let (token, rest) := firstToken (← get).rest
  modify fun calculation => { calculation with rest }
  return token

def setLast (token : Token) : Calculator Unit :=
  modify fun calculation => { calculation with last := token }

def fail {α : Type} (message : String) : Calculator α :=
  throw (.malformed message)

def valueOf (lookup : Bytes → Bytes) (name : Bytes) : Calculator Int64 := do
  match (← get).assigned.lookup name with
  | some value => return value
  | none =>
      match numberOf? (lookup name) with
      | some value => return value
      | none => throw (.notANumber (lookup name))

def assign (name : Bytes) (value : Int64) : Calculator Int64 := do
  modify fun calculation => { calculation with assigned := (name, value) :: calculation.assigned }
  return value

def operate (operator : Operator) (a b : Int64) : Calculator Int64 :=
  match operator.result? a b with
  | some value => return value
  | none => fail "division by zero"

/-- Computes expressions at one depth. `counts` is false where a result does not matter, so that
nothing is looked up, divided or assigned. -/
structure Evaluator where
  assignment : (counts : Bool) → Token → Calculator Int64
  primary : (counts : Bool) → (token following : Token) → Calculator Int64
  /-- Goes on with an operator behind a value, up to an operator of the level. -/
  operation : (counts : Bool) → (level : Nat) → Operator → Int64 → Calculator Int64
  both : (counts : Bool) → (token following : Token) → Calculator Int64
  either : (counts : Bool) → (token following : Token) → Calculator Int64
  choice : (counts : Bool) → (token following : Token) → Calculator Int64

def primary (inner : Evaluator) (lookup : Bytes → Bytes) (counts : Bool) (token following : Token) :
    Calculator Int64 := do
  match token with
  | .leftParen =>
      let value ← inner.assignment counts following
      if (← get).last != .rightParen then fail "expecting ')'"
      setLast (← next)
      return value
  | .number value =>
      setLast following
      return value
  | .name text =>
      setLast following
      if counts then valueOf lookup text else return 0
  | .operator .add => inner.primary counts following (← next)
  | .operator .subtract => return -(← inner.primary counts following (← next))
  | .not => return Operator.ofBool ((← inner.primary counts following (← next)) == 0)
  | .bitNot => return ~~~(← inner.primary counts following (← next))
  | _ => fail "expecting primary"

def operation (inner : Evaluator) (counts : Bool) (level : Nat) (operator : Operator) (a : Int64) :
    Calculator Int64 := do
  let token ← next
  let b ← inner.primary counts token (← next)
  let b ← match (← get).last with
    | .operator second =>
        if second.level < operator.level then inner.operation counts operator.level second b
        else pure b
    | _ => pure b
  let value ← if counts then operate operator a b else pure b
  match (← get).last with
  | .operator second =>
      if second.level < level then inner.operation counts level second value else return value
  | _ => return value

def binary (inner : Evaluator) (counts : Bool) (token following : Token) : Calculator Int64 := do
  let value ← inner.primary counts token following
  match (← get).last with
  | .operator operator => inner.operation counts 8 operator value
  | _ => return value

def both (inner : Evaluator) (counts : Bool) (token following : Token) : Calculator Int64 := do
  let a ← binary inner counts token following
  if (← get).last != .both then return a
  let token ← next
  let b ← inner.both (counts && a != 0) token (← next)
  return Operator.ofBool (a != 0 && b != 0)

def either (inner : Evaluator) (counts : Bool) (token following : Token) : Calculator Int64 := do
  let a ← inner.both counts token following
  if (← get).last != .either then return a
  let token ← next
  let b ← inner.either (counts && a == 0) token (← next)
  return Operator.ofBool (a != 0 || b != 0)

def choice (inner : Evaluator) (counts : Bool) (token following : Token) : Calculator Int64 := do
  let condition ← inner.either counts token following
  if (← get).last != .question then return condition
  let chosen ← inner.assignment (counts && condition != 0) (← next)
  if (← get).last != .colon then fail "expecting ':'"
  let token ← next
  let otherwise ← inner.choice (counts && condition == 0) token (← next)
  return if condition != 0 then chosen else otherwise

def assignment (inner : Evaluator) (lookup : Bytes → Bytes) (counts : Bool) (token : Token) :
    Calculator Int64 := do
  let following ← next
  match token, following with
  | .name name, .assign operator =>
      let result ← inner.assignment counts (← next)
      if !counts then return result
      match operator with
      | none => assign name result
      | some operator => assign name (← operate operator (← valueOf lookup name) result)
  | token, following => inner.choice counts token following

def evaluator (lookup : Bytes → Bytes) : Nat → Evaluator
  | 0 =>
      ⟨fun _ _ => fail "too deep", fun _ _ _ => fail "too deep", fun _ _ _ _ => fail "too deep",
        fun _ _ _ => fail "too deep", fun _ _ _ => fail "too deep", fun _ _ _ => fail "too deep"⟩
  | depth + 1 =>
      let inner := evaluator lookup depth
      ⟨assignment inner lookup, primary inner lookup, operation inner, both inner, either inner,
        choice inner⟩

def whole (lookup : Bytes → Bytes) (depth : Nat) : Calculator Int64 := do
  let value ← (evaluator lookup depth).assignment true (← next)
  if (← get).last != .ending then fail "expecting EOF"
  return value

/-- The value of an expression, and the assignments it makes, the latest first. -/
def evaluate (lookup : Bytes → Bytes) (expression : Bytes) :
    Except Fault (Int64 × List (Bytes × Int64)) := do
  let (value, calculation) ←
    (whole lookup (4 * expression.length + 8)).run ⟨expression, .ending, []⟩
  return (value, calculation.assigned)

end NativeInterop.Shell.Arithmetic
