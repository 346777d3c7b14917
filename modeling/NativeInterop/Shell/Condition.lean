import NativeInterop.Shell.Arithmetic
import NativeInterop.Shell.Machine

namespace NativeInterop.Shell.Condition

/-! The builtin commands `test` and `[`. -/

open Shell.Action

inductive Comparison
  | equal | unequal | less | greater
  | numberEqual | numberUnequal | numberLess | numberLessEqual | numberGreater | numberGreaterEqual
  | newer | older | sameFile
  deriving DecidableEq

inductive Operator
  | unary (letter : Char)
  | binary (comparison : Comparison)
  | not | both | either | leftParen | rightParen
  deriving DecidableEq

def unaryLetters : List Char :=
  "rwxefdcbpugkstznhLOGS".toList

def named : List (String × Operator) :=
  [("=", .binary .equal), ("!=", .binary .unequal), ("<", .binary .less), (">", .binary .greater),
    ("-eq", .binary .numberEqual), ("-ne", .binary .numberUnequal), ("-lt", .binary .numberLess),
    ("-le", .binary .numberLessEqual), ("-gt", .binary .numberGreater),
    ("-ge", .binary .numberGreaterEqual), ("-nt", .binary .newer), ("-ot", .binary .older),
    ("-ef", .binary .sameFile), ("!", .not), ("-a", .both), ("-o", .either), ("(", .leftParen),
    (")", .rightParen)]

def operator? (text : Bytes) : Option Operator :=
  match text with
  | ['-', letter] =>
      if unaryLetters.contains letter then some (.unary letter)
      else named.lookup (String.ofList text)
  | text => named.lookup (String.ofList text)

def isBinary : Option Operator → Bool
  | some (.binary _) => true
  | _ => false

/-- The operator that the first word is, where it stands. A unary operator needs an operand, and one
that does not compare. -/
def operatorAt (words : List Bytes) : Option Operator :=
  match words with
  | [] => none
  | word :: rest =>
      match operator? word with
      | some (.unary letter) =>
          let isOperand := match rest with
            | [] => true
            | [_] => false
            | second :: _ => isBinary (operator? second)
          if isOperand then none else some (.unary letter)
      | some .leftParen => if rest.isEmpty then none else some .leftParen
      | operator => operator

/-! ### Files -/

def nodeOf? (path : Bytes) : Action (Option Node) := do
  return (System.lookup (← files) path).toOption

def sizeOf : Node → Nat
  | .directory => 4096
  | .file content _ => content.length
  | .program _ => 4096
  | .special _ => 0

def fileHas (letter : Char) (path : Bytes) : Action Bool := do
  match ← nodeOf? path with
  | none => return false
  | some node =>
      return match letter, node with
        | 'x', .file _ executable => executable
        | 'x', .special _ => false
        | 'f', .file .. | 'f', .program _ => true
        | 'd', .directory => true
        | 'c', .special _ => true
        | 's', node => 0 < sizeOf node
        | 'e', _ | 'r', _ | 'w', _ | 'x', _ | 'O', _ | 'G', _ => true
        | _, _ => false

def numberOf (text : Bytes) : Action Int := do
  let (value, rest) := Arithmetic.leadingNumber text
  let isDecimal := (text.filter fun c => c.isAlpha).isEmpty
  let digits := text.dropWhile fun c => isSpace c || c == '-' || c == '+'
  let value := if value < 0 then -Int.ofNat (valueInBase 10 (digits.takeWhile Char.isDigit))
    else Int.ofNat (valueInBase 10 (digits.takeWhile Char.isDigit))
  if isDecimal && rest.length < text.length && Arithmetic.smallest ≤ value &&
      value ≤ Arithmetic.largest && (digits.dropWhile Char.isDigit).all isSpace then
    return value
  else fail ("Illegal number: ".toList ++ text)

/-- A number that is not negative and has 31 bits. -/
def natOf (text : Bytes) : Action Nat := do
  let value ← numberOf text
  if value < 0 || 2147483647 < value then fail ("Illegal number: ".toList ++ text)
  return value.toNat

def unary (letter : Char) (operand : Bytes) : Action Bool := do
  match letter with
  | 'z' => return operand.isEmpty
  | 'n' => return !operand.isEmpty
  | 't' => do
      let _ ← numberOf operand
      return false
  | letter => fileHas letter operand

def compare (comparison : Comparison) (a b : Bytes) : Action Bool := do
  let codes (text : Bytes) : List Nat := text.map Char.toNat
  match comparison with
  | .equal => return a == b
  | .unequal => return a != b
  | .less => return decide (codes a < codes b)
  | .greater => return decide (codes b < codes a)
  | .numberEqual => return (← numberOf a) == (← numberOf b)
  | .numberUnequal => return (← numberOf a) != (← numberOf b)
  | .numberLess => return decide ((← numberOf a) < (← numberOf b))
  | .numberLessEqual => return decide ((← numberOf a) ≤ (← numberOf b))
  | .numberGreater => return decide ((← numberOf b) < (← numberOf a))
  | .numberGreaterEqual => return decide ((← numberOf b) ≤ (← numberOf a))
  | .newer | .older => return false
  | .sameFile => do
      let files ← files
      match System.locate files a, System.locate files b with
      | .ok there, .ok other => return there == other && (System.entryAt? files there).isSome
      | _, _ => return false

/-! ### Expressions -/

/-- The words from the one that is looked at. -/
abbrev Reader := StateT (List Bytes) Action

def here : Reader (List Bytes) := get

def advance (count : Nat) : Reader Unit :=
  modify (List.drop count)

def complain {α : Type} (word : Bytes) (message : String) : Reader α :=
  if word.isEmpty then fail message.toList
  else fail (word ++ ": ".toList ++ message.toList)

/-- Computes expressions at one depth of parentheses. -/
structure Evaluator where
  alternatives : Option Operator → Reader Bool
  negated : Option Operator → Reader Bool

def binary (a : Bytes) : Reader Bool := do
  advance 1
  let words ← here
  match words with
  | operator :: b :: _ => do
      advance 1
      match operator? operator with
      | some (.binary comparison) => compare comparison a b
      | _ => return false
  | operator :: _ => complain operator "argument expected"
  | [] => return false

def primary (inner : Evaluator) (operator : Option Operator) : Reader Bool := do
  match ← here with
  | [] => return false
  | word :: rest =>
      match operator with
      | some .leftParen => do
          advance 1
          let words ← here
          if operatorAt words == some .rightParen then return false
          let result ← inner.alternatives (operatorAt words)
          advance 1
          if operatorAt (← here) != some .rightParen then complain [] "closing paren expected"
          return result
      | some (.unary letter) =>
          match rest with
          | [] => complain word "argument expected"
          | operand :: _ => do
              advance 1
              unary letter operand
      | _ => if isBinary (operatorAt rest) then binary word else return !word.isEmpty

def negated (inner : Evaluator) (operator : Option Operator) : Reader Bool := do
  match operator with
  | some .not => do
      let rest := (← here).drop 1
      unless rest.isEmpty do advance 1
      if rest.isEmpty then return true
      return !(← inner.negated (operatorAt rest))
  | operator => primary inner operator

def conjunction (inner : Evaluator) : Nat → Option Operator → Reader Bool
  | 0, _ => return false
  | fuel + 1, operator => do
      let first ← negated inner operator
      if operatorAt ((← here).drop 1) == some .both then
        advance 2
        let others ← conjunction inner fuel (operatorAt (← here))
        return first && others
      else return first

def alternatives (inner : Evaluator) : Nat → Option Operator → Reader Bool
  | 0, _ => return false
  | fuel + 1, operator => do
      let first ← conjunction inner fuel operator
      if operatorAt ((← here).drop 1) == some .either then
        advance 2
        let others ← alternatives inner fuel (operatorAt (← here))
        return first || others
      else return first

def evaluator : Nat → Evaluator
  | 0 => ⟨fun _ => return false, fun _ => return false⟩
  | depth + 1 =>
      let inner := evaluator depth
      ⟨alternatives inner (depth + 1), negated inner⟩

/-- The whole of a condition; `plain` tells that the first word is an operand. -/
def whole (words : List Bytes) (plain : Bool) : Action Bool := do
  let depth := words.length + 2
  let operator := if plain then none else operatorAt words
  let (result, rest) ← (alternatives (evaluator depth) depth operator).run words
  match rest with
  | word :: _ :: _ =>
      fail ((if word.isEmpty then [] else word ++ ": ".toList) ++ "unexpected operator".toList)
  | _ => return result

/-- Conditions of three and four words are told apart by their first and last words. However many
negations are taken off here, they count as one. -/
def evaluate : Nat → (isNegated : Bool) → List Bytes → Action Bool
  | 0, _, _ => return false
  | fuel + 1, isNegated, words => do
      let few := words.length == 3 || words.length == 4
      let isComparison := words.length == 3 && isBinary (words[1]?.bind operator?)
      if isComparison then return (← whole words true) != isNegated
      else if few && words.head? == some ['('] && words.getLast? == some [')'] then
        return (← whole (words.drop 1).dropLast false) != isNegated
      else if few && words.head? == some ['!'] then evaluate fuel true (words.drop 1)
      else return (← whole words false) != isNegated

def run (words : List Bytes) : Action Nat := do
  if words.isEmpty then return 1
  return if ← evaluate (words.length + 1) false words then 0 else 1

def test (arguments : List Bytes) : Action Nat :=
  run arguments

def bracket (arguments : List Bytes) : Action Nat := do
  if (arguments.getLast?.bind (·.head?)) != some ']' then fail "missing ]".toList
  run arguments.dropLast

end NativeInterop.Shell.Condition
