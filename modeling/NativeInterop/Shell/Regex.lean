import NativeInterop.Shell.Pattern

namespace NativeInterop.Shell

/-! Regular expressions as the utilities read them, basic and extended. -/

inductive SetMember
  | range (first last : Char)
  | charClass (name : Bytes)

inductive Regex
  | nothing
  | char (c : Char)
  | any
  | set (negated : Bool) (members : List SetMember)
  | lineStart | lineEnd
  | wordStart | wordEnd | wordEdge | insideWord
  | group (index : Nat) (body : Regex)
  /-- What a group has matched before. -/
  | back (index : Nat)
  | sequence (first second : Regex)
  | either (first second : Regex)
  | repeated (least : Nat) (most : Option Nat) (body : Regex)

namespace Regex

/-! ### Matching -/

/-- Where a match has come to, and what its groups hold: for each the first and the last place. -/
structure Hit where
  position : Nat
  groups : List (Nat × Nat × Nat)

def isWord (c : Char) : Bool :=
  c.isAlphanum || c == '_'

structure Subject where
  text : Array Char
  ignoresCase : Bool

namespace Subject

def wordAt (subject : Subject) (position : Nat) : Bool :=
  subject.text[position]?.any isWord

def wordBefore (subject : Subject) (position : Nat) : Bool :=
  0 < position && subject.wordAt (position - 1)

def same (subject : Subject) (a b : Char) : Bool :=
  a == b || (subject.ignoresCase && a.toLower == b.toLower)

def inMember (c : Char) : SetMember → Bool
  | .range first last => first ≤ c && c ≤ last
  | .charClass name => Pattern.inClass name c

def inSet (subject : Subject) (members : List SetMember) (c : Char) : Bool :=
  members.any (inMember c) ||
    (subject.ignoresCase && (members.any (inMember c.toLower) || members.any (inMember c.toUpper)))

end Subject

/-- Leaves the first of the hits that have come to the same place. -/
def distinct : List Hit → List Hit
  | [] => []
  | hit :: rest => hit :: (distinct rest).filter (·.position != hit.position)

/-- Matches again and again, preferably often. -/
def again (one : Hit → List Hit) : Nat → Nat → Option Nat → Hit → List Hit
  | 0, _, _, hit => [hit]
  | fuel + 1, least, most, hit =>
      if most == some 0 then [hit]
      else
        let further := (one hit).filter fun next => hit.position < next.position || 0 < least
        let more := further.flatMap (again one fuel (least - 1) (most.map (· - 1)))
        distinct (if least == 0 then more ++ [hit] else more)

/-- All places that a match can come to, the preferred ones first. -/
def hits (subject : Subject) : Regex → Hit → List Hit
  | nothing, hit => [hit]
  | char c, hit => oneChar (subject.same c) hit
  | any, hit => oneChar (fun _ => true) hit
  | set negated members, hit => oneChar (fun c => subject.inSet members c != negated) hit
  | lineStart, hit => here (hit.position == 0) hit
  | lineEnd, hit => here (hit.position == subject.text.size) hit
  | wordStart, hit =>
      here (!subject.wordBefore hit.position && subject.wordAt hit.position) hit
  | wordEnd, hit => here (subject.wordBefore hit.position && !subject.wordAt hit.position) hit
  | wordEdge, hit => here (subject.wordBefore hit.position != subject.wordAt hit.position) hit
  | insideWord, hit => here (subject.wordBefore hit.position == subject.wordAt hit.position) hit
  | group index body, hit =>
      (hits subject body hit).map fun next =>
        { next with groups := (index, hit.position, next.position) ::
            next.groups.filter (·.1 != index) }
  | back index, hit =>
      match hit.groups.lookup index with
      | none => []
      | some (first, last) =>
          let wanted := (subject.text.extract first last).toList
          let found := (subject.text.extract hit.position (hit.position + wanted.length)).toList
          let isSame := wanted.length == found.length &&
            (wanted.zip found).all fun (a, b) => subject.same a b
          if isSame then [{ hit with position := hit.position + wanted.length }] else []
  | sequence first second, hit => distinct ((hits subject first hit).flatMap (hits subject second))
  | either first second, hit => distinct (hits subject first hit ++ hits subject second hit)
  | repeated least most body, hit =>
      again (hits subject body) (subject.text.size + least + 2) least most hit
where
  oneChar (accepts : Char → Bool) (hit : Hit) : List Hit :=
    match subject.text[hit.position]? with
    | some c => if accepts c then [{ hit with position := hit.position + 1 }] else []
    | none => []
  here (holds : Bool) (hit : Hit) : List Hit :=
    if holds then [hit] else []

/-- A match: where it begins, and the longest way it goes. -/
structure Match where
  start : Nat
  hit : Hit

def longest : List Hit → Option Hit
  | [] => none
  | hit :: rest =>
      match longest rest with
      | some other => if hit.position < other.position then some other else some hit
      | none => some hit

/-- The match that begins first, from a place on, and is the longest of those. -/
def searchFrom (regex : Regex) (subject : Subject) (start : Nat) : Option Match :=
  (List.range' start (subject.text.size + 1 - start)).findSome? fun start =>
    (longest (hits subject regex ⟨start, []⟩)).map (⟨start, ·⟩)

/-- The number of groups. -/
def groupCount : Regex → Nat
  | group _ body => groupCount body + 1
  | sequence first second | either first second => groupCount first + groupCount second
  | repeated _ _ body => groupCount body
  | _ => 0

/-! ### Reading -/

structure Reading where
  rest : Bytes
  groups : Nat := 0

abbrev Reader := StateT Reading (Except String)

namespace Reader

def rest : Reader Bytes := do
  return (← get).rest

def skip (count : Nat) : Reader Unit :=
  modify fun reading => { reading with rest := reading.rest.drop count }

/-- Whether a mark stands next; it has a backslash before it in one of the two forms. -/
def at? (extended escaped : Bool) (mark : Char) : Reader Bool := do
  let rest ← rest
  return if extended != escaped then rest.head? == some mark
    else ['\\', mark].isPrefixOf rest

def skipMark (extended escaped : Bool) : Reader Unit :=
  skip (if extended != escaped then 1 else 2)

def unmatchedBracket : String :=
  "Unmatched [, [^, [:, [., or [="

/-- A member that stands between two marks inside the brackets. -/
def delimited? (text : Bytes) : Option (Char × Bytes × Bytes) :=
  match text with
  | '[' :: kind :: rest =>
      if kind == ':' || kind == '.' || kind == '=' then
        let name := rest.takeWhile (· != kind)
        match rest.drop name.length with
        | _ :: ']' :: rest => some (kind, name, rest)
        | _ => none
      else none
  | _ => none

def members : Nat → (isFirst : Bool) → Reader (List SetMember)
  | 0, _ => throw unmatchedBracket
  | fuel + 1, isFirst => do
      match ← rest with
      | [] => throw unmatchedBracket
      | c :: more =>
          if c == ']' && !isFirst then
            skip 1
            return []
          match delimited? (c :: more) with
          | some (':', name, after) => do
              unless Pattern.classes.any fun entry => entry.1.toList == name do
                throw "Invalid character class name"
              modify fun reading => { reading with rest := after }
              return .charClass name :: (← members fuel false)
          | some (_, name, after) => do
              modify fun reading => { reading with rest := after }
              let d := name.headD ' '
              return .range d d :: (← members fuel false)
          | none =>
              match more with
              | '-' :: last :: _ =>
                  if last == ']' then
                    skip 1
                    return .range c c :: (← members fuel false)
                  else do
                    skip 3
                    if last < c then throw "Invalid range end"
                    return .range c last :: (← members fuel false)
              | _ => do
                  skip 1
                  return .range c c :: (← members fuel false)

def bracket : Reader Regex := do
  let negated := (← rest).head? == some '^'
  if negated then skip 1
  return .set negated (← members ((← rest).length + 1) true)

/-- The numbers of an interval, behind its brace, and how many characters they take. -/
def interval? (extended : Bool) (text : Bytes) : Option (Nat × Option Nat × Nat) :=
  let low := text.takeWhile Char.isDigit
  let after := text.drop low.length
  let (high, after, hasComma) := match after with
    | ',' :: more => (more.takeWhile Char.isDigit, more.dropWhile Char.isDigit, true)
    | after => ([], after, false)
  let closing : Bytes := if extended then ['\x7d'] else ['\\', '\x7d']
  if !closing.isPrefixOf after || (low.isEmpty && !hasComma) then none
  else
    let least := valueInBase 10 low
    let most :=
      if !hasComma then some least
      else if high.isEmpty then none else some (valueInBase 10 high)
    some (least, most, text.length - after.length + closing.length)

/-- The repetitions behind an atom. -/
def repetitions (extended : Bool) : Nat → Regex → Reader Regex
  | 0, atom => return atom
  | fuel + 1, atom => do
      if (← rest).head? == some '*' then
        skip 1
        repetitions extended fuel (.repeated 0 none atom)
      else if ← at? extended false '+' then
        skipMark extended false
        repetitions extended fuel (.repeated 1 none atom)
      else if ← at? extended false '?' then
        skipMark extended false
        repetitions extended fuel (.repeated 0 (some 1) atom)
      else if ← at? extended false '\x7b' then
        let text := (← rest).drop (if extended then 1 else 2)
        match interval? extended text with
        | some (least, most, count) => do
            if most.any (· < least) then throw "Invalid content of \\\x7b\\\x7d"
            skip ((if extended then 1 else 2) + count)
            repetitions extended fuel (.repeated least most atom)
        | none => if extended then return atom else throw "Unmatched \\\x7b"
      else return atom

/-- What a backslash makes of the character behind it. -/
def escaped (c : Char) : Reader Regex := do
  match c with
  | 'w' => return wordSet false
  | 'W' => return wordSet true
  | 's' => return .set false [.charClass "space".toList]
  | 'S' => return .set true [.charClass "space".toList]
  | 'b' => return .wordEdge
  | 'B' => return .insideWord
  | '<' => return .wordStart
  | '>' => return .wordEnd
  | '\x60' => return .lineStart
  | '\'' => return .lineEnd
  | 'n' => return .char '\n'
  | c =>
      if c.isDigit && c != '0' then
        if (← get).groups < digitValue c then throw "Invalid back reference"
        return .back (digitValue c)
      else return .char c
where
  wordSet (negated : Bool) : Regex :=
    .set negated [.charClass "alnum".toList, .range '_' '_']

/-- Whether what follows ends a branch. -/
def endsBranch (extended : Bool) : Reader Bool := do
  return (← rest).isEmpty || (← at? extended false '|') ||
    ((← at? extended false ')') && (!extended || 0 < (← get).groups))

/-- Reads an atom, given how to read what stands in parentheses. -/
def atom (inner : Reader Regex) (extended isFirst : Bool) : Reader Regex := do
  match ← rest with
  | [] => return .nothing
  | c :: more =>
      if ← at? extended false '(' then
        skipMark extended false
        let index := (← get).groups + 1
        modify fun reading => { reading with groups := index }
        let body ← inner
        unless ← at? extended false ')' do throw "Unmatched ( or \\("
        skipMark extended false
        return .group index body
      skip 1
      match c with
      | '.' => return .any
      | '[' => bracket
      | '^' => return if extended || isFirst then .lineStart else .char '^'
      | '$' => return if extended || (← endsBranch extended) then .lineEnd else .char '$'
      | '\\' =>
          match more with
          | [] => throw "Trailing backslash"
          | d :: _ => do
              skip 1
              escaped d
      | c => return .char c

def branch (inner : Reader Regex) (extended : Bool) : Nat → (isFirst : Bool) → Reader Regex
  | 0, _ => return .nothing
  | fuel + 1, isFirst => do
      if ← endsBranch extended then return .nothing
      let first ← atom inner extended isFirst
      let isAnchor := match first with
        | .lineStart => isFirst && !extended
        | _ => false
      if isAnchor && (← rest).head? == some '*' then
        skip 1
        let second ← repetitions extended fuel (.char '*')
        return .sequence first (.sequence second (← branch inner extended fuel false))
      let first ← if isAnchor then pure first else repetitions extended fuel first
      return .sequence first (← branch inner extended fuel isAnchor)

def alternatives (inner : Reader Regex) (extended : Bool) : Nat → Reader Regex
  | 0 => return .nothing
  | fuel + 1 => do
      let first ← branch inner extended (fuel + 1) true
      if ← at? extended false '|' then
        skipMark extended false
        return .either first (← alternatives inner extended fuel)
      else return first

def expression (extended : Bool) (length : Nat) : Nat → Reader Regex
  | 0 => return .nothing
  | depth + 1 => alternatives (expression extended length depth) extended (length + 1)

end Reader

/-- Reads a regular expression, or tells why it is none. -/
def parse (extended : Bool) (text : Bytes) : Except String Regex := do
  let (regex, reading) ←
    (Reader.expression extended text.length (text.length + 1)).run { rest := text }
  if reading.rest.isEmpty then return regex else throw "Unmatched ) or \\)"

end Regex

end NativeInterop.Shell
