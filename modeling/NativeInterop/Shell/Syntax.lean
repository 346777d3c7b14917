import NativeInterop.Shell.Bytes

namespace NativeInterop.Shell

/-! The language of scripts. -/

/-- What stands in for a parameter without a value, or for one with a value. -/
inductive Fallback
  | use | assign | complain | replace
  deriving DecidableEq, Repr

inductive OpenMode
  | read | write | overwrite | append | update
  deriving DecidableEq, Repr

mutual

/-- A part of a word. Quoted parts keep their blanks and lose their special meanings. -/
inductive Part
  | char (quoted : Bool) (c : Char)
  /-- A quotation mark, which makes a word even if nothing stands beside it. -/
  | quotes
  | parameter (quoted : Bool) (name : Bytes) (use : Use)
  /-- What a command writes. -/
  | output (quoted : Bool) (body : Command)
  | arithmetic (quoted : Bool) (expression : List Part)

/-- What is made of the value of a parameter. -/
inductive Use
  | value
  | length
  /-- `unlessEmpty` tells that an empty value counts as none. -/
  | fallback (kind : Fallback) (unlessEmpty : Bool) (word : List Part)
  /-- Cuts off what matches a pattern. -/
  | cut (atEnd longest : Bool) (pattern : List Part)
  | invalid

inductive Redirection
  | file (descriptor : Nat) (mode : OpenMode) (name : List Part)
  /-- Without a source the descriptor is closed. -/
  | duplicate (descriptor : Nat) (source : Option Nat)
  | duplicateWord (descriptor : Nat) (word : List Part)
  /-- Text that stands in the script; `index` tells which one. -/
  | document (descriptor : Nat) (index : Nat)

inductive Command
  | nothing
  | simple (line : Nat) (assignments words : List (List Part)) (redirections : List Redirection)
  | pipeline (inBackground : Bool) (stages : List Command)
  | redirected (line : Nat) (body : Command) (redirections : List Redirection)
  | inBackground (line : Nat) (body : Command) (redirections : List Redirection)
  | subshell (line : Nat) (body : Command) (redirections : List Redirection)
  | sequence (first second : Command)
  | both (first second : Command)
  | either (first second : Command)
  | negation (body : Command)
  | conditional (condition chosen otherwise : Command)
  /-- Goes on as long as the condition succeeds, or as long as it fails. -/
  | loop (whileSuccess : Bool) (condition body : Command)
  | each (line : Nat) (name : Bytes) (words : List (List Part)) (body : Command)
  | choice (line : Nat) (subject : List Part) (branches : List (List (List Part) × Command))
  | function (line : Nat) (name : Bytes) (body : Command)

end

abbrev Word := List Part

namespace Word

/-- The text of a word in which nothing is quoted or stands for something else. -/
def plain? (word : Word) : Option Bytes :=
  word.mapM fun
    | Part.char false c => some c
    | _ => none

/-- The characters of a word, whether quoted or not. -/
def characters (word : Word) : Bytes :=
  word.filterMap fun
    | Part.char _ c => some c
    | _ => none

/-- The name before an equals sign at the beginning, and the word after it. -/
def assignment? (word : Word) : Option (Bytes × Word) :=
  go [] word
where
  go (name : Bytes) : Word → Option (Bytes × Word)
    | .char false c :: rest =>
        if c == '=' then (if isName name.reverse then some (name.reverse, rest) else none)
        else if isNameChar c then go (c :: name) rest
        else none
    | _ => none

end Word

end NativeInterop.Shell
