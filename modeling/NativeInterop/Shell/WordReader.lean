import NativeInterop.Shell.Source

namespace NativeInterop.Shell.Reader

/-! Reading words: quotation, and what stands for something else. -/

inductive Quotation
  | plain | single | double | arithmetic
  deriving DecidableEq

/-- What surrounds the characters that are being read. -/
structure Frame where
  quotation : Quotation
  /-- Inside the braces of a parameter. -/
  braced : Bool := false
  /-- Between quotation marks inside the braces. -/
  inner : Bool := false
  /-- The braces stand inside double quotes, so that no mark inside them ends the quotation. -/
  keeps : Bool := false
  /-- The document that the text belongs to. -/
  document : Option PendingDocument := none
  /-- At the beginning of a line of the document. -/
  atStart : Bool := false
  /-- In the delimiter of a document, where only quotation has a meaning. -/
  delimiter : Bool := false
  /-- Open parentheses of an arithmetic expression. -/
  parentheses : Nat := 0

namespace Frame

/-- The frame of the word inside the braces of a parameter. -/
def word (frame : Frame) (quotation : Quotation) : Frame :=
  { quotation, braced := true, keeps := quotation == .double, document := frame.document }

def isQuoted (frame : Frame) : Bool :=
  frame.quotation != .plain

def openQuotes (frame : Frame) : Frame :=
  { frame with quotation := .double, inner := frame.braced }

/-- The frame behind a quotation mark inside double quotes. -/
def closeQuotes (frame : Frame) : Frame :=
  { frame with
    quotation := if frame.keeps then .double else .plain
    inner := frame.braced && !frame.inner }

/-- Whether quotation marks stand for themselves. -/
def quotesAreText (frame : Frame) : Bool :=
  frame.document.isSome && !frame.braced

/-- Why a word must not end here. -/
def unfinished? (frame : Frame) : Option String :=
  match frame.quotation with
  | .arithmetic => some "Missing '))'"
  | .single => if frame.document.isSome then none else some "Unterminated quoted string"
  | .double =>
      if frame.document.isNone then some "Unterminated quoted string"
      else if frame.braced then some "Missing '\x7d'" else none
  | .plain => if frame.braced then some "Missing '\x7d'" else none

/-- Whether a backslash inside double quotes takes away the meaning of a character. -/
def escapes (frame : Frame) (c : Char) : Bool :=
  c == '\\' || c == '\x60' || c == '$' || (c == '"' && !frame.quotesAreText) ||
    (c == '\x7d' && frame.braced)

end Frame

/-- The characters that end a word outside quotes. -/
def isOperatorChar (c : Char) : Bool :=
  isBlank c || c == '\n' || "&|;<>()".contains c

/-- The names of parameters that are no names of variables. -/
def isSpecialParameter (c : Char) : Bool :=
  "@*#?$!-".contains c || c.isDigit

/-- Reads the characters of a name, behind the first. -/
def nameRest : Nat → (Char → Bool) → Reader Bytes
  | 0, _ => return []
  | fuel + 1, belongs => do
      match ← peek with
      | some c =>
          if belongs c then
            skip
            return c :: (← nameRest fuel belongs)
          else return []
      | none => return []

def nameWhile (belongs : Char → Bool) : Reader Bytes := do
  nameRest ((← get).rest.length + 1) belongs

/-- The text of a command between backquotes. -/
def backquoted : Nat → Frame → Reader Bytes
  | 0, _ => fail "EOF in backquote substitution"
  | fuel + 1, frame => do
      match ← next with
      | none => fail "EOF in backquote substitution"
      | some '\x60' => return []
      | some '\\' =>
          match ← peekRaw with
          | none => fail "EOF in backquote substitution"
          | some c => do
              skip
              if c == '\n' then countLine
              let kept := c != '\\' && c != '\x60' && c != '$' &&
                !(frame.isQuoted && frame.quotation != .single && c == '"')
              let rest ← backquoted fuel frame
              return if kept then '\\' :: c :: rest else c :: rest
      | some c => do
          if c == '\n' then countLine
          return c :: (← backquoted fuel frame)

/-- How the readers of words come to read commands. -/
structure CommandReaders where
  /-- Reads commands up to the end of the text or to a token that ends a list. -/
  list : Reader Command
  /-- Reads the closing parenthesis. -/
  closing : Reader Unit
  /-- Reads the documents that are due. -/
  documents : Reader Unit

/-- Runs a reader that has documents of its own. -/
def withOwnDocuments {α : Type} (reader : Reader α) : Reader α := do
  let outer := (← get).pending
  modify fun source => { source with pending := [] }
  let result ← reader
  modify fun source => { source with pending := outer }
  return result

/-- Documents that are announced before the closing parenthesis and not begun stay empty. -/
def parenthesized (readers : CommandReaders) : Reader Command :=
  withOwnDocuments do
    let body ← readers.list
    readers.closing
    return body

def listAndDocuments (readers : CommandReaders) : Reader Command := do
  let body ← readers.list
  readers.documents
  return body

/-- Reads the command inside backquotes as a text of its own. What follows its end is left out. -/
def ofBackquotes (readers : CommandReaders) (text : Bytes) : Reader Command := do
  let source ← get
  match (listAndDocuments readers).run (.ofText text 1 source.documents source.aliases) with
  | .error error => throw error
  | .ok (body, inner) =>
      modify fun source => { source with documents := inner.documents }
      return body

/-- The mark behind the name of a parameter in braces; `none` if there is no such mark. -/
inductive UseMark
  | close
  | length
  | fallback (kind : Fallback) (unlessEmpty : Bool)
  | cut (atEnd longest : Bool)
  | invalid

def fallbackOf? : Char → Option Fallback
  | '-' => some .use
  | '=' => some .assign
  | '?' => some .complain
  | '+' => some .replace
  | _ => none

/-- Reads the mark that begins with a character which has been read. -/
def useMark (c : Option Char) : Reader UseMark := do
  match c with
  | some '\x7d' => return .close
  | some ':' =>
      match (← next).bind fallbackOf? with
      | some kind => return .fallback kind true
      | none => return .invalid
  | some '%' | some '#' => do
      if (← peek) == c then
        skip
        return .cut (c == some '%') true
      else return .cut (c == some '%') false
  | c =>
      match c.bind fallbackOf? with
      | some kind => return .fallback kind false
      | none => return .invalid

def unread (c : Option Char) : Reader Unit :=
  modify fun source => { source with rest := c.toList ++ source.rest }

/-- The name of a parameter that begins with `c`, and the character after it. -/
def parameterName (c : Char) : Reader (Bytes × Option Char) := do
  let rest ← nameWhile (if c.isDigit then Char.isDigit else isNameChar)
  return (c :: rest, ← next)

def afterName (name : Bytes) (c : Option Char) : Reader (Bytes × UseMark) := do
  return (name, ← useMark c)

/-- The length of a parameter, whose name must be all. -/
def lengthMark (name : Bytes) (c : Option Char) : Reader (Bytes × UseMark) := do
  if c == some '\x7d' then return (name, .length)
  else
    unread c
    return (name, .invalid)

/-- What stands in braces, up to the word behind the mark. -/
def bracedParameter : Reader (Bytes × UseMark) := do
  let noParameter (c : Option Char) : Reader (Bytes × UseMark) := do
    unread c
    return ([], .invalid)
  match ← next with
  | none => return ([], .invalid)
  | some '\x7d' => noParameter (some '\x7d')
  | some c =>
      if isNameStart c || c.isDigit then
        let (name, after) ← parameterName c
        afterName name after
      else
        let second ← next
        if c == '#' then
          match second with
          | none => return ([], .invalid)
          | some d =>
              if isNameChar d then
                let (name, after) ← parameterName d
                lengthMark name after
              else
                let third ← next
                if d == '\x7d' || third != some '\x7d' then
                  unread third
                  afterName ['#'] (some d)
                else if isSpecialParameter d then lengthMark [d] third
                else noParameter third
        else if isSpecialParameter c then afterName [c] second
        else noParameter second

/-- Reads what stands behind the dollar sign of a parameter. -/
def parameter (inner : Frame → Reader Word) (frame : Frame) : Reader Part := do
  let quoted := frame.isQuoted
  let value (name : Bytes) : Part := .parameter quoted name .value
  let outer := if frame.quotation == .arithmetic then .double else frame.quotation
  match ← next with
  | some '\x7b' => do
      let (name, mark) ← bracedParameter
      match mark with
      | .close => return value name
      | .length => return .parameter quoted name .length
      | .fallback kind unlessEmpty =>
          return .parameter quoted name (.fallback kind unlessEmpty (← inner (frame.word outer)))
      | .cut atEnd longest =>
          return .parameter quoted name (.cut atEnd longest (← inner (frame.word .plain)))
      | .invalid =>
          let _ ← inner (frame.word outer)
          return .parameter quoted name .invalid
  | some c =>
      if isNameStart c then return value (c :: (← nameWhile isNameChar)) else return value [c]
  | none => return value []

/-- Reads what stands behind a dollar sign, if it has a meaning. -/
def substitution (readers : CommandReaders) (inner : Frame → Reader Word) (frame : Frame) :
    Reader Part := do
  let literal : Part := .char frame.isQuoted '$'
  match ← peek with
  | some '(' =>
      if frame.delimiter then return literal
      skip
      if (← peek) == some '(' then
        skip
        return .arithmetic frame.isQuoted
          (← inner { quotation := .arithmetic, document := frame.document })
      else return .output frame.isQuoted (← parenthesized readers)
  | some c =>
      if !frame.delimiter && (c == '\x7b' || isNameStart c || isSpecialParameter c) then
        parameter inner frame
      else return literal
  | none => return literal

/-- A character behind a backslash inside double quotes, or the backslash itself. -/
def escaped (frame : Frame) : Reader Word := do
  match ← peekRaw with
  | none => return [.char true '\\']
  | some c => do
      skip
      return if frame.escapes c then [.char true c] else [.char true '\\', .char true c]

/-- The line that begins here, without its end. -/
def lineHere : Reader Bytes := do
  return (← get).rest.takeWhile (· != '\n')

/-- Goes over the tabs that a document does without, and over its delimiter if that stands here. -/
def documentEnds (document : PendingDocument) : Reader Bool := do
  if document.stripsTabs then
    modify fun source => { source with rest := source.rest.dropWhile (· == '\t') }
  let line ← lineHere
  if line != document.delimiter then return false
  modify fun source => { source with rest := source.rest.drop (line.length + 1) }
  countLine
  return true

/-- The next character; there is none where a document ends. -/
def peekInside (frame : Frame) : Reader (Option Char) := do
  let ends ← match frame.document, frame.atStart with
    | some document, true => documentEnds document
    | _, _ => pure false
  if ends then return none
  if frame.quotation == .single then peekRaw else peek

/-- Reads the parts of a word up to its end, which the frame decides. -/
def parts (readers : CommandReaders) : Nat → Frame → Reader Word
  | 0, _ => fail "too long"
  | fuel + 1, frame => do
      let more (frame : Frame) (read : Word) : Reader Word := do
        return read ++ (← parts readers fuel { frame with atStart := false })
      let text (c : Char) : Reader Word := do
        skip
        if c == '\n' then
          countLine
          return .char frame.isQuoted c :: (← parts readers fuel { frame with atStart := true })
        else more frame [.char frame.isQuoted c]
      let unquoted (c : Char) : Reader Word := do
        match c with
        | '$' =>
            skip
            more frame [← substitution readers (parts readers fuel) frame]
        | '\x60' =>
            if frame.delimiter then text c
            else
              skip
              let command ← backquoted ((← get).rest.length + 1) frame
              more frame [.output frame.isQuoted (← ofBackquotes readers command)]
        | '\x7d' =>
            if frame.braced && !frame.inner then
              skip
              return []
            else text c
        | c => text c
      match ← peekInside frame with
      | none =>
          match frame.unfinished? with
          | some message => fail message
          | none => return []
      | some c =>
          match frame.quotation with
          | .single =>
              if c == '\'' then
                skip
                more { frame with quotation := .plain } [.quotes]
              else text c
          | .plain =>
              if isOperatorChar c && !frame.braced then return []
              else if c == '\'' then
                skip
                more { frame with quotation := .single } [.quotes]
              else if c == '"' then
                skip
                more frame.openQuotes [.quotes]
              else if c == '\\' then
                skip
                match ← peekRaw with
                | none => more frame [.char true '\\']
                | some c => do
                    skip
                    more frame [.char true c]
              else unquoted c
          | .double =>
              if c == '"' && !frame.quotesAreText then
                skip
                more frame.closeQuotes (if frame.document.isSome then [] else [.quotes])
              else if c == '\\' then
                skip
                more frame (← escaped frame)
              else unquoted c
          | .arithmetic =>
              if c == '(' then
                skip
                more { frame with parentheses := frame.parentheses + 1 } [.char true c]
              else if c == ')' then
                skip
                if 0 < frame.parentheses then
                  more { frame with parentheses := frame.parentheses - 1 } [.char true c]
                else if (← peek) == some ')' then
                  skip
                  return []
                else more frame [.char true c]
              else if c == '\\' then
                skip
                more frame (← escaped frame)
              else unquoted c

/-- Reads a word from its first character on. -/
def word (readers : CommandReaders) (delimiter : Bool) : Reader Word := do
  parts readers ((← get).rest.length + 1) { quotation := .plain, delimiter }

/-- Whether a word has a part that is quoted. -/
def isQuotedWord (word : Word) : Bool :=
  word.any fun
    | Part.quotes => true
    | Part.char quoted _ => quoted
    | _ => false

end NativeInterop.Shell.Reader
