import NativeInterop.Text.Basic

namespace NativeInterop.Shell

/-! Bytes as the shell and its utilities take them: each character stands for one byte. -/

abbrev Bytes := List Char

namespace Bytes

def ofString (text : String) : Bytes :=
  text.toList

def ofBytes (bytes : List UInt8) : Bytes :=
  bytes.map fun byte => Char.ofNat byte.toNat

def toBytes (text : Bytes) : List UInt8 :=
  text.map fun c => UInt8.ofNat c.toNat

def ofNat (value : Nat) : Bytes :=
  Nat.toDigits 10 value

def ofInt (value : Int) : Bytes :=
  if value < 0 then '-' :: ofNat value.natAbs else ofNat value.natAbs

def ofByte (value : Nat) : Char :=
  Char.ofNat (value % 256)

end Bytes

def isNameStart (c : Char) : Bool :=
  c.isAlpha || c == '_'

def isNameChar (c : Char) : Bool :=
  c.isAlphanum || c == '_'

/-- Whether a text may name a variable. -/
def isName : Bytes → Bool
  | [] => false
  | c :: rest => isNameStart c && rest.all isNameChar

def isOctalDigit (c : Char) : Bool :=
  '0' ≤ c && c ≤ '7'

def isBlank (c : Char) : Bool :=
  c == ' ' || c == '\t'

/-- The blanks that numbers may have around them. -/
def isSpace (c : Char) : Bool :=
  isBlank c || ('\n' ≤ c && c ≤ '\r')

def digitValue (c : Char) : Nat :=
  if c.isDigit then c.toNat - '0'.toNat
  else if c.isUpper then c.toNat - 'A'.toNat + 10
  else if c.isLower then c.toNat - 'a'.toNat + 10
  else 255

def valueInBase (base : Nat) (digits : Bytes) : Nat :=
  digits.foldl (fun value c => value * base + digitValue c) 0

/-- The lines of a text, each with its line end; the last one may have none. -/
def splitLines (text : Bytes) : List Bytes :=
  match text with
  | [] => []
  | c :: rest =>
      if c == '\n' then ['\n'] :: splitLines rest
      else
        match splitLines rest with
        | [] => [[c]]
        | line :: others => (c :: line) :: others

/-- A line without its end. -/
def chomp (line : Bytes) : Bytes :=
  if line.getLast? == some '\n' then line.dropLast else line

def joinWith (separator : Bytes) (texts : List Bytes) : Bytes :=
  List.intercalate separator texts

/-- Whether the second text occurs in the first. -/
def containsText (text part : Bytes) : Bool :=
  match text with
  | [] => part.isEmpty
  | c :: rest => part.isPrefixOf (c :: rest) || containsText rest part

end NativeInterop.Shell
