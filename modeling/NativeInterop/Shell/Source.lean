import NativeInterop.Shell.Syntax

namespace NativeInterop.Shell

/-! The text of a script while it is read, and its tokens. -/

/-- Where a redirection leads, as far as its mark tells. -/
inductive RedirectionMark
  | file (mode : OpenMode)
  | duplicate
  | document (stripsTabs : Bool)
  deriving DecidableEq

inductive Token
  | ending | newline | semicolon | ampersand | bothMark | eitherMark | bar | leftParen | rightParen
  | doubleSemicolon
  | redirection (descriptor : Nat) (mark : RedirectionMark)
  | word (word : Word) (quoted : Bool)
  | keyword (text : Bytes)

namespace Token

/-- How a message calls a token. -/
def display : Token → String
  | ending => "end of file"
  | newline => "newline"
  | semicolon => "\";\""
  | ampersand => "\"&\""
  | bothMark => "\"&&\""
  | eitherMark => "\"||\""
  | bar => "\"|\""
  | leftParen => "\"(\""
  | rightParen => "\")\""
  | doubleSemicolon => "\";;\""
  | redirection .. => "redirection"
  | word .. => "word"
  | keyword text => "\"" ++ String.ofList text ++ "\""

def isKeyword (token : Token) (text : String) : Bool :=
  match token with
  | keyword content => content == text.toList
  | _ => false

end Token

def keywords : List String :=
  ["!", "case", "do", "done", "elif", "else", "esac", "fi", "for", "if", "in", "then", "until",
    "while", "\x7b", "\x7d"]

/-- The keywords that end a list of commands. -/
def closingKeywords : List String :=
  ["do", "done", "elif", "else", "esac", "fi", "then", "\x7d"]

/-- A document that a redirection has announced. -/
structure PendingDocument where
  index : Nat
  delimiter : Bytes
  expands : Bool
  stripsTabs : Bool

/-- A word in whose place other text is read. -/
structure Replaced where
  name : Bytes
  /-- How much text is left behind the one that stands in for the word. -/
  left : Nat
  /-- Whether that text ends in a blank, so that the word behind it may be an alias too. -/
  opens : Bool

structure Source where
  rest : Bytes
  line : Nat
  /-- A token that has been put back. -/
  pushed : Option Token
  pending : List PendingDocument
  /-- The documents read so far. -/
  documents : Array Word
  /-- Names of commands, with the text that stands in for them. -/
  aliases : List (Bytes × Bytes)
  /-- The aliases whose text is being read. -/
  replaced : List Replaced := []

namespace Source

def ofText (text : Bytes) (line : Nat) (documents : Array Word)
    (aliases : List (Bytes × Bytes)) : Source :=
  { rest := text, line, pushed := none, pending := [], documents, aliases }

/-- The text that stands in for a word, unless the word is part of that text. -/
def alias? (source : Source) (name : Bytes) : Option Bytes :=
  if source.replaced.any fun word => word.name == name && word.left ≤ source.rest.length then none
  else source.aliases.lookup name

/-- Goes on with the text that stands in for a word. -/
def replace (source : Source) (name text : Bytes) : Source :=
  { source with
    rest := text ++ source.rest
    replaced := ⟨name, source.rest.length, text.getLast?.any isBlank⟩ ::
      source.replaced.filter (·.left ≤ source.rest.length) }

/-- Whether the text of an alias that ends in a blank has ended since so much text was left. -/
def passes (source : Source) (before : Nat) : Bool :=
  source.replaced.any fun word =>
    word.opens && source.rest.length < word.left && word.left ≤ before

end Source

/-- Why a script cannot be read on. -/
structure SyntaxError where
  line : Nat
  message : String

abbrev Reader := StateT Source (Except SyntaxError)

namespace Reader

def fail {α : Type} (message : String) : Reader α := do
  throw ⟨(← get).line, message⟩

def dropJoinedLines : Bytes → Nat × Bytes
  | '\\' :: '\n' :: rest => ((dropJoinedLines rest).1 + 1, (dropJoinedLines rest).2)
  | rest => (0, rest)

/-- Goes over line ends behind a backslash, which join two lines. -/
def joinLines : Reader Unit :=
  modify fun source =>
    let (count, rest) := dropJoinedLines source.rest
    { source with rest, line := source.line + count }

def peekRaw : Reader (Option Char) := do
  return (← get).rest.head?

def peek : Reader (Option Char) := do
  joinLines
  peekRaw

/-- Goes over one character. -/
def skip : Reader Unit :=
  modify fun source => { source with rest := source.rest.tail }

def next : Reader (Option Char) := do
  let c ← peek
  skip
  return c

def countLine : Reader Unit :=
  modify fun source => { source with line := source.line + 1 }

def putBack (token : Token) : Reader Unit :=
  modify fun source => { source with pushed := some token }

end Reader

end NativeInterop.Shell
