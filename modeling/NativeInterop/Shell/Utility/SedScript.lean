import NativeInterop.Shell.Regex

namespace NativeInterop.Shell.Utility.Sed

/-! Scripts of the stream editor, and how they are read. -/

inductive Address
  | line (number : Nat)
  | last
  /-- Without a regex the one used last counts. -/
  | search (regex : Option Regex) (ignoresCase : Bool)
  | step (first width : Nat)

inductive RangeEnd
  | address (address : Address)
  | linesMore (count : Nat)
  | multipleOf (number : Nat)

structure Selector where
  first : Option Address := none
  last : Option RangeEnd := none
  negated : Bool := false

inductive CaseMode
  | upper | lower | upperNext | lowerNext | plain
  deriving DecidableEq

/-- A part of a replacement. -/
inductive Piece
  | text (text : Bytes)
  | group (index : Nat)
  | case (mode : CaseMode)

structure Substitution where
  regex : Option Regex
  ignoresCase : Bool
  pieces : List Piece
  global : Bool
  prints : Bool
  number : Nat
  file : Option Bytes

inductive Instruction
  /-- Begins a block that ends at an instruction. -/
  | block (stop : Nat)
  | closeBlock
  | label (name : Bytes)
  | branch (target : Bytes)
  | branchIfChanged (target : Bytes)
  | branchUnlessChanged (target : Bytes)
  | append (text : Bytes)
  | insert (text : Bytes)
  | change (text : Bytes)
  | delete | deleteFirst | print | printFirst | next | appendNext
  | hold | holdMore | get | getMore | exchange
  | quit (status : Nat) (silently : Bool)
  | tellNumber | tellText | tellFile | clear
  | readFile (path : Bytes)
  | writeFile (path : Bytes)
  | substitute (substitution : Substitution)
  | transliterate (pairs : List (Char × Char))

structure Step where
  selector : Selector
  instruction : Instruction

abbrev Script := Array Step

/-! ### Reading -/

structure Reading where
  rest : Bytes
  position : Nat := 0
  steps : Array Step := #[]
  /-- The blocks that are open. -/
  blocks : List Nat := []
  extended : Bool

/-- A fault with the place where it was seen. -/
abbrev Fault := Nat × String

abbrev Reader := StateT Reading (Except Fault)

namespace Reader

def fail {α : Type} (message : String) : Reader α := do
  throw ((← get).position, message)

def peek : Reader (Option Char) := do
  return (← get).rest.head?

def skip (count : Nat) : Reader Unit :=
  modify fun reading =>
    { reading with
      rest := reading.rest.drop count
      position := reading.position + min count reading.rest.length }

def takeWhile (belongs : Char → Bool) : Reader Bytes := do
  let text := (← get).rest.takeWhile belongs
  skip text.length
  return text

def skipBlanks : Reader Unit := do
  let _ ← takeWhile isBlank

def number : Reader Nat := do
  return valueInBase 10 (← takeWhile Char.isDigit)

/-- What stands up to a delimiter, which escapes lose their backslash for. -/
def delimited (delimiter : Char) (isRegex : Bool) (message : String) :
    Nat → (inBrackets : Bool) → Reader Bytes
  | 0, _ => fail message
  | fuel + 1, inBrackets => do
      match (← get).rest with
      | [] => fail message
      | '\\' :: c :: _ =>
          if inBrackets && c != 'n' then
            skip 1
            return '\\' :: (← delimited delimiter isRegex message fuel true)
          skip 2
          let rest ← delimited delimiter isRegex message fuel inBrackets
          if isRegex && c == 'n' then return '\n' :: rest
          else if c == delimiter && (isRegex || c != '&') then return c :: rest
          else return '\\' :: c :: rest
      | c :: _ =>
          skip 1
          if c == delimiter && !inBrackets then return []
          let inBrackets :=
            if !isRegex then false else if c == '[' then true else if c == ']' then false
            else inBrackets
          return c :: (← delimited delimiter isRegex message fuel inBrackets)

def upTo (delimiter : Char) (isRegex : Bool) (message : String) : Reader Bytes := do
  delimited delimiter isRegex message ((← get).rest.length + 1) false

/-- A regex; an empty one stands for the one used last. -/
def regex (text : Bytes) : Reader (Option Regex) := do
  if text.isEmpty then return none
  match Regex.parse (← get).extended text with
  | .ok regex => return some regex
  | .error message => fail message

def search (delimiter : Char) : Reader Address := do
  let text ← upTo delimiter true "unterminated address regex"
  let flags ← takeWhile fun c => c == 'I' || c == 'M'
  return .search (← regex text) (flags.contains 'I')

def address : Reader (Option Address) := do
  match ← peek with
  | some '$' =>
      skip 1
      return some .last
  | some '/' =>
      skip 1
      return some (← search '/')
  | some '\\' =>
      skip 1
      match ← peek with
      | some c =>
          skip 1
          return some (← search c)
      | none => fail "unterminated address regex"
  | some c =>
      if c.isDigit then
        let first ← number
        skipBlanks
        if (← peek) == some '~' then
          skip 1
          return some (.step first (← number))
        else return some (.line first)
      else return none
  | none => return none

def rangeEnd : Reader RangeEnd := do
  match ← peek with
  | some '+' =>
      skip 1
      return .linesMore (← number)
  | some '~' =>
      skip 1
      return .multipleOf (← number)
  | _ =>
      match ← address with
      | some address => return .address address
      | none => fail "unexpected \x60,'"

def selector : Reader Selector := do
  let first ← address
  skipBlanks
  let last ←
    if first.isSome && (← peek) == some ',' then do
      skip 1
      skipBlanks
      pure (some (← rangeEnd))
    else pure none
  skipBlanks
  let marks ← takeWhile fun c => c == '!' || isBlank c
  return ⟨first, last, marks.contains '!'⟩

/-- Goes over the end of a command. -/
def finish : Reader Unit := do
  skipBlanks
  match ← peek with
  | none => return
  | some '\x7d' | some '#' => return
  | some c =>
      skip 1
      unless c == ';' || c == '\n' do fail "extra characters after command"

/-- Lines of text, each but the last with a backslash at its end. -/
def textLines : Nat → Reader Bytes
  | 0 => return []
  | fuel + 1 => do
      match (← get).rest with
      | [] => return ['\n']
      | '\n' :: _ =>
          skip 1
          return ['\n']
      | '\\' :: c :: _ =>
          skip 2
          return c :: (← textLines fuel)
      | c :: _ =>
          skip 1
          return c :: (← textLines fuel)

def text : Reader Bytes := do
  skipBlanks
  match (← get).rest with
  | [] => fail "expected \\ after \x60a', \x60c' or \x60i'"
  | '\\' :: rest =>
      skip 1
      let blanks := rest.takeWhile isBlank
      match rest.drop blanks.length with
      | '\n' :: _ => skip (blanks.length + 1)
      | _ => pure ()
  | _ => pure ()
  if (← get).rest.isEmpty then return []
  textLines ((← get).rest.length + 1)

def name : Reader Bytes := do
  skipBlanks
  let text ← takeWhile fun c => c != '\n' && c != ';'
  if (← peek).isSome then skip 1
  return (text.reverse.dropWhile isSpace).reverse

def fileName : Reader Bytes := do
  skipBlanks
  let text ← takeWhile (· != '\n')
  if text.isEmpty then fail "missing filename in r/R/w/W commands"
  if (← peek).isSome then skip 1
  return text

/-- The parts of a replacement. -/
def pieces : Bytes → List Piece
  | [] => []
  | '&' :: rest => .group 0 :: pieces rest
  | '\\' :: c :: rest =>
      let piece : Piece :=
        if c.isDigit then .group (digitValue c)
        else
          match c with
          | 'U' => .case .upper
          | 'L' => .case .lower
          | 'u' => .case .upperNext
          | 'l' => .case .lowerNext
          | 'E' => .case .plain
          | 'n' => .text ['\n']
          | 't' => .text ['\t']
          | 'r' => .text ['\r']
          | 'a' => .text ['\x07']
          | 'f' => .text ['\x0c']
          | 'v' => .text ['\x0b']
          | c => .text [c]
      piece :: pieces rest
  | c :: rest => .text [c] :: pieces rest

def greatestGroup (pieces : List Piece) : Nat :=
  pieces.foldl (fun greatest piece => match piece with
    | .group index => max greatest index
    | _ => greatest) 0

def flags : Nat → Substitution → Reader Substitution
  | 0, substitution => return substitution
  | fuel + 1, substitution => do
      match ← peek with
      | some 'g' =>
          skip 1
          flags fuel { substitution with global := true }
      | some 'p' =>
          skip 1
          flags fuel { substitution with prints := true }
      | some 'i' | some 'I' =>
          skip 1
          flags fuel { substitution with ignoresCase := true }
      | some 'm' | some 'M' | some 'e' =>
          skip 1
          flags fuel substitution
      | some 'w' =>
          skip 1
          return { substitution with file := some (← fileName) }
      | none | some '\x7d' | some '#' => return substitution
      | some c =>
          if c.isDigit then
            flags fuel { substitution with number := ← number }
          else
            skip 1
            if c == ';' || c == '\n' then return substitution
            if isBlank c then
              finish
              return substitution
            fail "unknown option to \x60s'"

def substitution : Reader Instruction := do
  let unterminated := "unterminated \x60s' command"
  match ← peek with
  | none => fail unterminated
  | some delimiter =>
      skip 1
      let wanted ← upTo delimiter true unterminated
      let pieces := pieces (← upTo delimiter false unterminated)
      let regex ← regex wanted
      let plain : Substitution := ⟨regex, false, pieces, false, false, 1, none⟩
      let result ← flags ((← get).rest.length + 1) plain
      if let some regex := regex then
        if regex.groupCount < greatestGroup pieces then
          fail ("invalid reference \\" ++ toString (greatestGroup pieces) ++
            " on \x60s' command's RHS")
      return .substitute result

def unescape : Bytes → Bytes
  | '\\' :: 'n' :: rest => '\n' :: unescape rest
  | '\\' :: c :: rest => c :: unescape rest
  | c :: rest => c :: unescape rest
  | [] => []

def transliteration : Reader Instruction := do
  let unterminated := "unterminated \x60y' command"
  match ← peek with
  | none => fail unterminated
  | some delimiter =>
      skip 1
      let first := unescape (← upTo delimiter false unterminated)
      let second := unescape (← upTo delimiter false unterminated)
      if first.length != second.length then
        fail "strings for \x60y' command are different lengths"
      finish
      return .transliterate (first.zip second)

def exitStatus : Reader Nat := do
  skipBlanks
  let status ← number
  finish
  return status

def plainCommands : List (Char × Instruction) :=
  [('=', .tellNumber), ('d', .delete), ('D', .deleteFirst), ('F', .tellFile), ('g', .get),
    ('G', .getMore), ('h', .hold), ('H', .holdMore), ('l', .tellText), ('n', .next),
    ('N', .appendNext), ('p', .print), ('P', .printFirst), ('x', .exchange), ('z', .clear)]

def push (selector : Selector) (instruction : Instruction) : Reader Unit :=
  modify fun reading => { reading with steps := reading.steps.push ⟨selector, instruction⟩ }

def closeBlock : Reader Unit := do
  match (← get).blocks with
  | [] => fail "unexpected \x60\x7d'"
  | start :: blocks =>
      modify fun reading =>
        { reading with
          blocks
          steps := reading.steps.modify start fun step =>
            { step with instruction := .block reading.steps.size } }
      push {} .closeBlock
      finish

def instruction (selector : Selector) (c : Char) : Reader Unit := do
  match plainCommands.lookup c with
  | some instruction =>
      finish
      push selector instruction
  | none =>
      match c with
      | '\x7b' =>
          modify fun reading =>
            { reading with blocks := reading.steps.size :: reading.blocks }
          push selector (.block 0)
      | '\x7d' => closeBlock
      | ':' => push selector (.label (← name))
      | 'b' => push selector (.branch (← name))
      | 't' => push selector (.branchIfChanged (← name))
      | 'T' => push selector (.branchUnlessChanged (← name))
      | 'a' => push selector (.append (← text))
      | 'i' => push selector (.insert (← text))
      | 'c' => push selector (.change (← text))
      | 'q' | 'Q' =>
          if selector.last.isSome then fail "command only uses one address"
          push selector (.quit (← exitStatus) (c == 'Q'))
      | 'r' => push selector (.readFile (← fileName))
      | 'w' => push selector (.writeFile (← fileName))
      | 's' => push selector (← substitution)
      | 'y' => push selector (← transliteration)
      | c => fail ("unknown command: \x60" ++ String.singleton c ++ "'")

def commands : Nat → Reader Unit
  | 0 => return
  | fuel + 1 => do
      let _ ← takeWhile fun c => isSpace c || c == ';'
      if (← peek).isNone then return
      let selector ← selector
      match ← peek with
      | none => fail "missing command"
      | some '#' => do
          let _ ← takeWhile (· != '\n')
          commands fuel
      | some c => do
          skip 1
          instruction selector c
          commands fuel

end Reader

/-- Reads a script. -/
def parse (extended : Bool) (text : Bytes) : Except Fault Script := do
  let ((), reading) ←
    (Reader.commands (text.length + 1)).run { rest := text, extended }
  if reading.blocks.isEmpty then return reading.steps else throw (0, "unmatched \x60\x7b'")

end NativeInterop.Shell.Utility.Sed
