import NativeInterop.Shell.WordReader

namespace NativeInterop.Shell

/-! Reading commands. -/

/-- The builtin commands that count as part of the language. -/
def specialBuiltins : List String :=
  [".", ":", "break", "continue", "eval", "exec", "exit", "export", "readonly", "return", "set",
    "shift", "times", "trap", "unset"]

namespace Reader

/-- What tokens and commands are read with at one depth of nesting. -/
structure Grammar where
  readers : CommandReaders
  /-- Reads a command, behind line ends if they are allowed before it. -/
  command : (afterLines : Bool) → Reader Command

def unexpected {α : Type} (token : Token) (wanted : Option String := none) : Reader α :=
  let hint := match wanted with
    | none => ""
    | some wanted => " (expecting " ++ wanted ++ ")"
  fail (token.display ++ " unexpected" ++ hint)

/-! ### Documents -/

/-- The text of a document without expansions, the number of lines gone over, and what follows. -/
def documentText (document : PendingDocument) : Nat → Bytes → Bytes × Nat × Bytes
  | 0, text => ([], 0, text)
  | _, [] => ([], 0, [])
  | fuel + 1, text =>
      let text := if document.stripsTabs then text.dropWhile (· == '\t') else text
      let line := text.takeWhile (· != '\n')
      let ending := (text.drop line.length).take 1
      let rest := text.drop (line.length + 1)
      if line == document.delimiter then ([], ending.length, rest)
      else
        let (more, count, rest) := documentText document fuel rest
        (line ++ ending ++ more, count + ending.length, rest)

/-- Reads a document with expansions, and its delimiter. -/
def expandedDocument (readers : CommandReaders) (document : PendingDocument) : Reader Word := do
  let fuel := (← get).rest.length + 1
  parts readers fuel { quotation := .double, document := some document, atStart := true }

def plainDocument (document : PendingDocument) : Reader Word := do
  let source ← get
  let (text, count, rest) := documentText document (source.rest.length + 1) source.rest
  modify fun source => { source with rest, line := source.line + count }
  return text.map (.char true)

def document (readers : CommandReaders) (document : PendingDocument) : Reader Unit := do
  let word ←
    if document.expands then expandedDocument readers document else plainDocument document
  modify fun source =>
    { source with documents := source.documents.setIfInBounds document.index word }

/-- Reads the documents that have been announced. -/
def pendingDocuments (readers : CommandReaders) : Reader Unit := do
  let pending := (← get).pending
  modify fun source => { source with pending := [] }
  pending.forM (document readers)

/-! ### Tokens -/

def skipComment : Reader Unit :=
  modify fun source => { source with rest := source.rest.dropWhile (· != '\n') }

/-- Takes a character if it stands next. -/
def take? (c : Char) : Reader Bool := do
  if (← peek) == some c then
    skip
    return true
  else return false

def redirectionMark : Reader (Nat × RedirectionMark) := do
  if ← take? '>' then
    if ← take? '>' then return (1, .file .append)
    else if ← take? '|' then return (1, .file .overwrite)
    else if ← take? '&' then return (1, .duplicate)
    else return (1, .file .write)
  else
    skip
    if ← take? '<' then return (0, .document (← take? '-'))
    else if ← take? '&' then return (0, .duplicate)
    else if ← take? '>' then return (0, .file .update)
    else return (0, .file .read)

/-- A word, or the redirection that it numbers. -/
def wordToken (readers : CommandReaders) (delimiter : Bool) : Reader Token := do
  let word ← word readers delimiter
  let next ← peek
  let numbered := word.isEmpty || (word.length == 1 && (word.plain?.getD []).any Char.isDigit)
  if (next == some '<' || next == some '>') && numbered then
    let (descriptor, mark) ← redirectionMark
    return .redirection ((word.characters.head?.map digitValue).getD descriptor) mark
  else return .word word (isQuotedWord word)

def rawToken (readers : CommandReaders) (delimiter : Bool) : Nat → Reader Token
  | 0 => return .ending
  | fuel + 1 => do
      match ← peek with
      | none => return .ending
      | some c =>
          if isBlank c then
            skip
            rawToken readers delimiter fuel
          else
            match c with
            | '#' =>
                skipComment
                rawToken readers delimiter fuel
            | '\n' =>
                skip
                countLine
                return .newline
            | '&' =>
                skip
                return if ← take? '&' then .bothMark else .ampersand
            | '|' =>
                skip
                return if ← take? '|' then .eitherMark else .bar
            | ';' =>
                skip
                return if ← take? ';' then .doubleSemicolon else .semicolon
            | '(' =>
                skip
                return .leftParen
            | ')' =>
                skip
                return .rightParen
            | _ => wordToken readers delimiter

def nextToken (readers : CommandReaders) (delimiter : Bool) : Reader Token := do
  let source ← get
  match source.pushed with
  | some token =>
      modify fun source => { source with pushed := none }
      return token
  | none => rawToken readers delimiter (source.rest.length + 1)

/-- Goes over line ends and reads the documents behind them. -/
def tokenAfterLines (readers : CommandReaders) : Nat → Reader Token
  | 0 => return .ending
  | fuel + 1 => do
      match ← nextToken readers false with
      | .newline =>
          pendingDocuments readers
          tokenAfterLines readers fuel
      | token => return token

def withKeywords : Token → Token
  | .word word false =>
      match word.plain? with
      | some text =>
          if keywords.contains (String.ofList text) then .keyword text else .word word false
      | none => .word word false
  | token => token

def token (readers : CommandReaders) : Reader Token :=
  nextToken readers false

/-- How many aliases stand in for each other at most. -/
def aliasLimit : Nat := 1000

/-- Puts the text of an alias in the place of a word, as often as that is one itself. -/
def withAliases (readers : CommandReaders) : Nat → Token → Reader Token
  | 0, token => return token
  | fuel + 1, read => do
      match read with
      | .word word false =>
          match word.plain?, word.plain?.bind (← get).alias? with
          | some name, some text => do
              modify (·.replace name text)
              withAliases readers fuel (← token readers)
          | _, _ => return read
      | token => return token

/-- An argument may be an alias if the text of one that stands before it ends in a blank. -/
def argumentToken (readers : CommandReaders) : Reader Token := do
  let before := (← get).rest.length
  let token ← token readers
  if (← get).passes before then withAliases readers aliasLimit token else return token

/-- A token that may be a keyword or an alias. -/
def commandToken (readers : CommandReaders) (afterLines : Bool) : Reader Token := do
  let token ←
    if afterLines then tokenAfterLines readers ((← get).rest.length + 2) else token readers
  return withKeywords (← withAliases readers aliasLimit token)

def expectKeyword (readers : CommandReaders) (afterLines : Bool) (text : String) :
    Reader Unit := do
  let token ← commandToken readers afterLines
  unless token.isKeyword text do unexpected token (some ("\"" ++ text ++ "\""))

def expectParen (readers : CommandReaders) : Reader Unit := do
  match ← token readers with
  | .rightParen => return
  | token => unexpected token (some "\")\"")

/-! ### Redirections and simple commands -/

def announce (delimiter : Bytes) (expands stripsTabs : Bool) : Reader Nat := do
  let index := (← get).documents.size
  let pending : PendingDocument := { index, delimiter, expands, stripsTabs }
  modify fun source =>
    { source with
      documents := source.documents.push []
      pending := source.pending ++ [pending] }
  return index

def duplication (descriptor : Nat) (word : Word) (quoted : Bool) : Redirection :=
  match if quoted then none else word.plain? with
  | some [c] =>
      if c.isDigit then .duplicate descriptor (some (digitValue c))
      else if c == '-' then .duplicate descriptor none
      else .duplicateWord descriptor word
  | _ => .duplicateWord descriptor word

/-- Reads the word behind a redirection mark. -/
def redirection (readers : CommandReaders) (descriptor : Nat) (mark : RedirectionMark) :
    Reader Redirection := do
  let isDocument := match mark with
    | .document _ => true
    | _ => false
  match ← nextToken readers isDocument with
  | .word word quoted =>
      match mark with
      | .file mode => return .file descriptor mode word
      | .duplicate => return duplication descriptor word quoted
      | .document stripsTabs =>
          return .document descriptor (← announce word.characters (!quoted) stripsTabs)
  | token => unexpected token

/-- The redirections behind a command. -/
def redirections (readers : CommandReaders) : Nat → Reader (List Redirection)
  | 0 => return []
  | fuel + 1 => do
      match ← commandToken readers false with
      | .redirection descriptor mark =>
          let first ← redirection readers descriptor mark
          return first :: (← redirections readers fuel)
      | token =>
          putBack token
          return []

structure SimpleParts where
  assignments : List Word := []
  words : List Word := []
  redirections : List Redirection := []

def functionName? (parts : SimpleParts) : Option Bytes :=
  match parts.words, parts.assignments.isEmpty && parts.redirections.isEmpty with
  | [word], true => some (word.plain?.getD [])
  | _, _ => none

/-- A name and its parentheses have been read up to the opening one. -/
def function (grammar : Grammar) (name : Bytes) : Reader Command := do
  expectParen grammar.readers
  if !isName name || specialBuiltins.contains (String.ofList name) then fail "Bad function name"
  let line := (← get).line
  return .function line name (← grammar.command true)

def simpleParts (grammar : Grammar) (line : Nat) : Nat → SimpleParts → Reader Command
  | 0, parts => return .simple line parts.assignments parts.words parts.redirections
  | fuel + 1, parts => do
      let finish (token : Token) : Reader Command := do
        putBack token
        return .simple line parts.assignments parts.words parts.redirections
      let next ← argumentToken grammar.readers
      let next ←
        if parts.words.isEmpty then withAliases grammar.readers aliasLimit next else pure next
      match next with
      | .word word _ =>
          if parts.words.isEmpty && (Word.assignment? word).isSome then
            simpleParts grammar line fuel { parts with assignments := parts.assignments ++ [word] }
          else simpleParts grammar line fuel { parts with words := parts.words ++ [word] }
      | .redirection descriptor mark =>
          let next ← redirection grammar.readers descriptor mark
          simpleParts grammar line fuel { parts with redirections := parts.redirections ++ [next] }
      | .leftParen =>
          match functionName? parts with
          | some name => function grammar name
          | none => finish .leftParen
      | token => finish token

def simple (grammar : Grammar) : Reader Command := do
  let source ← get
  simpleParts grammar source.line (source.rest.length + 2) {}

/-! ### Lists -/

def pipelineRest (grammar : Grammar) : Nat → Reader (List Command)
  | 0 => return []
  | fuel + 1 => do
      match ← token grammar.readers with
      | .bar =>
          let stage ← grammar.command true
          return stage :: (← pipelineRest grammar fuel)
      | token =>
          putBack token
          return []

def pipeline (grammar : Grammar) : Reader Command := do
  let first ← commandToken grammar.readers true
  let negated := first.isKeyword "!"
  unless negated do putBack first
  let stage ← grammar.command false
  let command ← match ← pipelineRest grammar ((← get).rest.length + 1) with
    | [] => pure stage
    | stages => pure (.pipeline false (stage :: stages))
  return if negated then .negation command else command

def andOrRest (grammar : Grammar) : Nat → Command → Reader Command
  | 0, command => return command
  | fuel + 1, command => do
      match ← token grammar.readers with
      | .bothMark => andOrRest grammar fuel (.both command (← pipeline grammar))
      | .eitherMark => andOrRest grammar fuel (.either command (← pipeline grammar))
      | token =>
          putBack token
          return command

def andOr (grammar : Grammar) : Reader Command := do
  andOrRest grammar ((← get).rest.length + 1) (← pipeline grammar)

inductive ListKind
  /-- The commands of one line. -/
  | line
  /-- Commands up to a token that ends them, at least one. -/
  | body
  /-- The same, but there may be none. -/
  | possiblyEmpty
  deriving DecidableEq

def endsList : Token → Bool
  | .ending | .rightParen | .doubleSemicolon => true
  | .keyword text => closingKeywords.contains (String.ofList text)
  | _ => false

def inBackground : Command → Command
  | .pipeline _ stages => .pipeline true stages
  | .redirected line body redirections => .inBackground line body redirections
  | command => .inBackground 0 command []

def append : Option Command → Command → Command
  | none, command => command
  | some first, command => .sequence first command

/-- Reads the commands of a list behind those already read; nothing at all at the end of the
text. -/
def listRest (grammar : Grammar) (kind : ListKind) :
    Nat → Option Command → Bool → Reader (Option Command)
  | 0, read, _ => return read
  | fuel + 1, read, mayEnd => do
      let atEnd : Reader (Option Command) := do
        pendingDocuments grammar.readers
        putBack .ending
        return read
      match ← commandToken grammar.readers (kind != .line) with
      | .newline =>
          pendingDocuments grammar.readers
          return some (read.getD .nothing)
      | .ending => atEnd
      | token =>
          putBack token
          if mayEnd && endsList token then return read
          let command ← andOr grammar
          let mayEnd := kind != .line
          match ← Reader.token grammar.readers with
          | .ampersand => listRest grammar kind fuel (append read (inBackground command)) mayEnd
          | .semicolon => listRest grammar kind fuel (append read command) mayEnd
          | .newline =>
              putBack .newline
              listRest grammar kind fuel (append read command) mayEnd
          | .ending =>
              pendingDocuments grammar.readers
              putBack .ending
              return append read command
          | token =>
              if kind == .line then unexpected token
              putBack token
              return append read command

def list (grammar : Grammar) (kind : ListKind) : Reader Command := do
  return (← listRest grammar kind ((← get).rest.length + 2) none (kind == .possiblyEmpty)).getD
    .nothing

/-! ### Compound commands -/

def conditionalRest (grammar : Grammar) : Nat → Reader Command
  | 0 => return .nothing
  | fuel + 1 => do
      let condition ← list grammar .body
      expectKeyword grammar.readers false "then"
      let chosen ← list grammar .body
      let next ← commandToken grammar.readers false
      if next.isKeyword "elif" then
        return .conditional condition chosen (← conditionalRest grammar fuel)
      else if next.isKeyword "else" then
        return .conditional condition chosen (← list grammar .body)
      else
        putBack next
        return .conditional condition chosen .nothing

def loop (grammar : Grammar) (whileSuccess : Bool) : Reader Command := do
  let condition ← list grammar .body
  expectKeyword grammar.readers false "do"
  return .loop whileSuccess condition (← list grammar .body)

/-- The words of a loop, up to the end of their line. -/
def loopWords (readers : CommandReaders) : Nat → Reader (List Word)
  | 0 => return []
  | fuel + 1 => do
      match ← token readers with
      | .word word _ => return word :: (← loopWords readers fuel)
      | .newline | .semicolon => return []
      | token => unexpected token

/-- What a loop without words goes over. -/
def allArguments : Word :=
  [.quotes, .parameter true ['@'] .value, .quotes]

def each (grammar : Grammar) (line : Nat) : Reader Command := do
  let readers := grammar.readers
  match ← token readers with
  | .word word quoted =>
      let name := word.plain?.getD []
      if quoted || !isName name then fail "Bad for loop variable"
      let next ← commandToken readers true
      let words ←
        if next.isKeyword "in" then loopWords readers ((← get).rest.length + 1)
        else
          match next with
          | .semicolon => pure [allArguments]
          | token => do
              putBack token
              pure [allArguments]
      expectKeyword readers true "do"
      return .each line name words (← list grammar .body)
  | _ => fail "Bad for loop variable"

def patternOf : Token → Word
  | .word word _ => word
  | .keyword text => text.map (.char false)
  | _ => []

/-- The patterns of a branch, from a token on, up to the closing parenthesis. -/
def patterns (readers : CommandReaders) : Nat → Token → Reader (List Word)
  | 0, _ => return []
  | fuel + 1, first => do
      match ← token readers with
      | .bar =>
          let next ← token readers
          return patternOf first :: (← patterns readers fuel next)
      | .rightParen => return [patternOf first]
      | token => unexpected token (some "\")\"")

def branches (grammar : Grammar) : Nat → Reader (List (List Word × Command))
  | 0 => return []
  | fuel + 1 => do
      let readers := grammar.readers
      let first ← commandToken readers true
      if first.isKeyword "esac" then return []
      let first ← match first with
        | .leftParen => token readers
        | token => pure token
      let patterns ← patterns readers ((← get).rest.length + 1) first
      let body ← list grammar .possiblyEmpty
      let next ← commandToken readers true
      if next.isKeyword "esac" then return [(patterns, body)]
      match next with
      | .doubleSemicolon => return (patterns, body) :: (← branches grammar fuel)
      | token => unexpected token (some "\";;\"")

def choice (grammar : Grammar) (line : Nat) : Reader Command := do
  match ← token grammar.readers with
  | .word subject _ =>
      expectKeyword grammar.readers true "in"
      return .choice line subject (← branches grammar ((← get).rest.length + 1))
  | token => unexpected token (some "word")

/-- Puts redirections around a command. -/
def redirect (line : Nat) (body : Command) (redirections : List Redirection) : Command :=
  if redirections.isEmpty then body
  else
    match body with
    | .subshell line body _ => .subshell line body redirections
    | body => .redirected line body redirections

def command (grammar : Grammar) (afterLines : Bool) : Reader Command := do
  let readers := grammar.readers
  let line := (← get).line
  let finish (body : Command) : Reader Command := do
    return redirect line body (← redirections readers ((← get).rest.length + 1))
  let close (text : String) (body : Command) : Reader Command := do
    expectKeyword readers false text
    finish body
  match ← commandToken readers afterLines with
  | .keyword text =>
      match String.ofList text with
      | "if" => close "fi" (← conditionalRest grammar ((← get).rest.length + 1))
      | "while" => close "done" (← loop grammar true)
      | "until" => close "done" (← loop grammar false)
      | "for" => close "done" (← each grammar line)
      | "case" => finish (← choice grammar line)
      | "\x7b" => close "\x7d" (← list grammar .body)
      | _ => unexpected (.keyword text)
  | .leftParen =>
      let body ← list grammar .body
      expectParen readers
      finish (.subshell line body [])
  | token =>
      match token with
      | .word .. | .redirection .. =>
          putBack token
          simple grammar
      | token => unexpected token

/-- The grammar for a depth of nesting. -/
def grammar : Nat → Grammar
  | 0 => ⟨⟨fail "too deep", fail "too deep", fail "too deep"⟩, fun _ => fail "too deep"⟩
  | depth + 1 =>
      let inner := grammar depth
      let readers : CommandReaders :=
        ⟨list inner .possiblyEmpty, expectParen inner.readers, pendingDocuments inner.readers⟩
      ⟨readers, command ⟨readers, inner.command⟩⟩

/-- Reads the commands of the next line, or nothing at the end of the text. -/
def line : Reader (Option Command) := do
  modify fun source => { source with pushed := none, pending := [] }
  let length := (← get).rest.length
  listRest (grammar (length + 2)) .line (length + 2) none false

end Reader

end NativeInterop.Shell
