import NativeInterop.Shell.Bytes

namespace NativeInterop.Shell.Escape

/-! Escapes behind a backslash in the texts that the builtin commands write. -/

def named? : Char → Option Char
  | 'a' => some '\x07'
  | 'b' => some '\x08'
  | 'e' => some '\x1b'
  | 'f' => some '\x0c'
  | 'n' => some '\n'
  | 'r' => some '\r'
  | 't' => some '\t'
  | 'v' => some '\x0b'
  | '\\' => some '\\'
  | _ => none

/-- The byte of up to three octal digits at the beginning of a text, and what follows. -/
def octal (text : Bytes) : Char × Bytes :=
  let digits := (text.take 3).takeWhile isOctalDigit
  (Bytes.ofByte (valueInBase 8 digits), text.drop digits.length)

/-- The character that the text behind a backslash stands for, and what follows. A backslash without
a meaning stands for itself. -/
def first (text : Bytes) : Char × Bytes :=
  match text with
  | [] => ('\\', [])
  | c :: rest =>
      if isOctalDigit c then octal text
      else
        match named? c with
        | some d => (d, rest)
        | none => ('\\', text)

/-- The byte of up to two hexadecimal digits behind the letter for them. -/
def hexadecimal? (text : Bytes) : Option (Char × Bytes) :=
  match text with
  | 'x' :: rest =>
      let digits := (rest.take 2).takeWhile fun c => digitValue c < 16
      if digits.isEmpty then none
      else some (Bytes.ofByte (valueInBase 16 digits), rest.drop digits.length)
  | _ => none

/-- A text with its escapes resolved, and whether it tells to stop there. An octal number may have a
zero before its three digits. -/
def resolve (hexadecimal : Bool) : Nat → Bytes → Bytes × Bool
  | 0, _ | _, [] => ([], false)
  | fuel + 1, '\\' :: rest =>
      match rest with
      | 'c' :: _ => ([], true)
      | _ =>
          let octalRest := match rest with
            | '0' :: d :: rest => if isOctalDigit d then d :: rest else '0' :: d :: rest
            | rest => rest
          let number := if hexadecimal then hexadecimal? rest else none
          let (c, rest) := number.getD (first octalRest)
          let (more, stops) := resolve hexadecimal fuel rest
          (c :: more, stops)
  | fuel + 1, c :: rest =>
      let (more, stops) := resolve hexadecimal fuel rest
      (c :: more, stops)

def text (hexadecimal : Bool) (text : Bytes) : Bytes × Bool :=
  resolve hexadecimal (text.length + 1) text

end NativeInterop.Shell.Escape
