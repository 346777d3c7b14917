import NativeInterop.Shell.Escape
import NativeInterop.Shell.Pattern
import NativeInterop.Shell.Utility.Message

namespace NativeInterop.Shell.Utility.Translate

/-! The utility `tr`. -/

open Shell.Action

/-- A part of a set. -/
inductive Part
  | char (c : Char)
  | range (first last : Char)
  | charClass (name : String)
  /-- A class that is not known. -/
  | wrongClass (name : Bytes)
  /-- A character so many times, or as often as is needed. -/
  | repeated (c : Char) (count : Nat)

/-- The character at the beginning of a set, with its escape resolved, and what follows. -/
def element : Bytes → Option (Char × Bytes)
  | [] => none
  | '\\' :: rest =>
      match rest with
      | [] => some ('\\', [])
      | c :: more =>
          if isOctalDigit c then some (Escape.octal rest)
          else some (if c == 'e' then c else (Escape.named? c).getD c, more)
  | c :: rest => some (c, rest)

def repetition? (text : Bytes) : Option (Part × Bytes) :=
  match element text with
  | some (c, '*' :: rest) =>
      let digits := rest.takeWhile Char.isDigit
      match rest.drop digits.length with
      | ']' :: rest =>
          let base := if digits.head? == some '0' then 8 else 10
          some (.repeated c (valueInBase base digits), rest)
      | _ => none
  | _ => none

def bracketed? : Bytes → Option (Part × Bytes)
  | '[' :: ':' :: rest =>
      let name := rest.takeWhile (· != ':')
      match rest.drop name.length with
      | ':' :: ']' :: rest =>
          if Pattern.classes.any fun entry => entry.1.toList == name then
            some (.charClass (String.ofList name), rest)
          else some (.wrongClass name, rest)
      | _ => none
  | '[' :: '=' :: c :: '=' :: ']' :: rest => some (.char c, rest)
  | '[' :: rest => repetition? rest
  | _ => none

def setParts : Nat → Bytes → List Part
  | 0, _ => []
  | fuel + 1, text =>
      match bracketed? text with
      | some (part, rest) => part :: setParts fuel rest
      | none =>
          match element text with
          | none => []
          | some (first, '-' :: rest) =>
              match element rest with
              | some (last, rest) => .range first last :: setParts fuel rest
              | none => [.char first, .char '-']
          | some (c, rest) => .char c :: setParts fuel rest

def partsOf (text : Bytes) : List Part :=
  setParts (text.length + 1) text

def charsBetween (first last : Char) : Bytes :=
  (List.range' first.toNat (last.toNat + 1 - first.toNat)).map Char.ofNat

def classMembers (name : String) : Bytes :=
  ((List.range 256).map Char.ofNat).filter (Pattern.inClass name.toList)

/-- The characters of a set; what is repeated as needed fills it up to a length. -/
def members (length : Nat) (parts : List Part) : Bytes :=
  let sized : Part → Bytes
    | .char c => [c]
    | .range first last => charsBetween first last
    | .charClass name => classMembers name
    | .wrongClass _ => []
    | .repeated c count => List.replicate count c
  let known := (parts.flatMap sized).length
  parts.flatMap fun
    | .repeated c 0 => List.replicate (length - known) c
    | part => sized part

def wrongRange? (parts : List Part) : Option (Char × Char) :=
  parts.findSome? fun
    | .range first last => if last < first then some (first, last) else none
    | _ => none

/-- What each character becomes. The second set is filled up with its last character. -/
def mapping (first second : Bytes) (c : Char) : Char :=
  match (first.reverse.findIdx? (· == c)) with
  | none => c
  | some index =>
      let place := first.length - 1 - index
      (second[place]?.or second.getLast?).getD c

/-- Leaves out repeated characters of a set. -/
def squeeze (set : Char → Bool) : Option Char → Bytes → Bytes
  | _, [] => []
  | last, c :: rest =>
      if last == some c && set c then squeeze set last rest else c :: squeeze set (some c) rest

def checkParts (name : Bytes) (parts : List Part) : Action Unit := do
  parts.forM fun part => do
    if let .wrongClass text := part then
      failWith 1 name ("invalid character class ".toList ++ Quote.plain text)
  if let some (first, last) := wrongRange? parts then
    failWith 1 name ("range-endpoints of '".toList ++ [first, '-', last] ++
      "' are in reverse collating sequence order".toList)

def tr : Utility := fun _ name arguments => do
  let table : OptionTable :=
    { letters := "cCdst"
      names := [("complement", .nothing, 'c'), ("delete", .nothing, 'd'),
        ("squeeze-repeats", .nothing, 's'), ("truncate-set1", .nothing, 't')]
      leading := true }
  let given ← table.read name arguments
  let complements := given.has 'c' || given.has 'C'
  let deletes := given.has 'd'
  let squeezes := given.has 's'
  match given.operands with
  | [] => missingOperand name
  | [set] =>
      if !deletes && !squeezes then
        complain name ("missing operand after ".toList ++ Quote.plain set)
        Action.complain
          ("Two strings must be given when translating.\n".toList ++ helpLine name)
        stop 1
      if deletes && squeezes then
        complain name ("missing operand after ".toList ++ Quote.plain set)
        Action.complain
          ("Two strings must be given when both deleting and squeezing repeats.\n".toList ++
            helpLine name)
        stop 1
  | [_, second] =>
      if deletes && !squeezes then
        complain name ("extra operand ".toList ++ Quote.plain second)
        Action.complain
          ("Only one string may be given when deleting without squeezing repeats.\n".toList ++
            helpLine name)
        stop 1
  | _ :: _ :: extra :: _ => extraOperand name extra
  let firstParts := partsOf (given.operands.headD [])
  let secondParts := partsOf ((given.operands[1]?).getD [])
  checkParts name firstParts
  checkParts name secondParts
  let listed := members 0 firstParts
  let first :=
    if complements then ((List.range 256).map Char.ofNat).filter fun c => !listed.contains c
    else listed
  let second := members first.length secondParts
  let input := (← readAll 0).getD []
  let translates := given.operands.length == 2 && !deletes
  if translates && second.isEmpty && !first.isEmpty then
    failWith 1 name "when not truncating set1, string2 must be non-empty".toList
  let first := if given.has 't' then first.take second.length else first
  let kept := if deletes then input.filter fun c => !first.contains c else input
  let mapped := if translates then kept.map (mapping first second) else kept
  let squeezed := if given.operands.length == 2 then second else first
  put (if squeezes then squeeze squeezed.contains none mapped else mapped)
  return 0

end NativeInterop.Shell.Utility.Translate
