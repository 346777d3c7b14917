import NativeInterop.Shell.Utility.Message

namespace NativeInterop.Shell.Utility.Dump

/-! The utility `od`. -/

open Shell.Action

/-- How the bytes of a field are shown. -/
inductive Kind
  | characters
  | names
  | octal | decimal | unsigned | hexadecimal
  deriving DecidableEq

structure Format where
  kind : Kind
  size : Nat

namespace Format

/-- The places that a field takes, without the blank before it. -/
def width (format : Format) : Nat :=
  match format.kind with
  | .characters | .names => 3
  | .hexadecimal => 2 * format.size
  | .octal => (format.size * 8 + 2) / 3
  | .decimal => match format.size with
      | 1 => 4
      | 2 => 6
      | 4 => 11
      | _ => 20
  | .unsigned => match format.size with
      | 1 => 3
      | 2 => 5
      | 4 => 10
      | _ => 20

end Format

def controlNames : List String :=
  ["nul", "soh", "stx", "etx", "eot", "enq", "ack", "bel", "bs", "ht", "nl", "vt", "ff", "cr", "so",
    "si", "dle", "dc1", "dc2", "dc3", "dc4", "nak", "syn", "etb", "can", "em", "sub", "esc", "fs",
    "gs", "rs", "us", "sp"]

def digits (base width value : Nat) : Bytes :=
  let digits := Nat.toDigits base value
  List.replicate (width - digits.length) '0' ++ digits

def character (c : Char) : Bytes :=
  match c with
  | '\x00' => ['\\', '0']
  | '\x07' => ['\\', 'a']
  | '\x08' => ['\\', 'b']
  | '\x0c' => ['\\', 'f']
  | '\n' => ['\\', 'n']
  | '\r' => ['\\', 'r']
  | '\t' => ['\\', 't']
  | '\x0b' => ['\\', 'v']
  | c => if 32 ≤ c.toNat && c.toNat < 127 then [c] else digits 8 3 c.toNat

def named (c : Char) : Bytes :=
  let code := c.toNat % 128
  if code == 127 then "del".toList
  else (controlNames[code]?.map String.toList).getD [Char.ofNat code]

/-- The number that bytes are, the first one counting least. -/
def number (bytes : Bytes) : Nat :=
  bytes.foldr (fun c value => c.toNat + 256 * value) 0

def fieldText (format : Format) (bytes : Bytes) : Bytes :=
  let value := number bytes
  let bits := 8 * format.size
  match format.kind with
  | .characters => character (bytes.headD '\x00')
  | .names => named (bytes.headD '\x00')
  | .hexadecimal => digits 16 format.width value
  | .octal => digits 8 format.width value
  | .unsigned => Bytes.ofNat value
  | .decimal =>
      let limit := Nat.shiftLeft 1 bits
      Bytes.ofInt (if 2 * value < limit then Int.ofNat value else Int.ofNat value - Int.ofNat limit)

def groups (size : Nat) : Nat → Bytes → List Bytes
  | 0, _ | _, [] => []
  | fuel + 1, bytes => bytes.take size :: groups size fuel (bytes.drop size)

/-- A line of fields; `places` is how many places eight bytes take. -/
def fieldLine (format : Format) (places : Nat) (bytes : Bytes) : Bytes :=
  (groups format.size bytes.length bytes).flatMap fun field =>
    let text := fieldText format field
    let width := places * format.size / 8
    List.replicate (width - text.length) ' ' ++ text

def offsetText (base : Char) (offset : Nat) : Bytes :=
  match base with
  | 'n' => []
  | 'd' => digits 10 7 offset
  | 'x' => digits 16 6 offset
  | _ => digits 8 7 offset

/-- The lines of a dump; one that repeats the line before is left out. -/
def lines (formats : List Format) (base : Char) (all : Bool) (perLine : Nat) :
    Nat → (offset : Nat) → (last : Option Bytes) → (starred : Bool) → Bytes → Bytes
  | 0, _, _, _, _ => []
  | _, offset, _, _, [] => if base == 'n' then [] else offsetText base offset ++ ['\n']
  | fuel + 1, offset, last, starred, bytes =>
      let here := bytes.take perLine
      let rest := bytes.drop perLine
      let more (starred : Bool) : Bytes :=
        lines formats base all perLine fuel (offset + here.length) (some here) starred rest
      if !all && last == some here && here.length == perLine then
        (if starred then [] else ['*', '\n']) ++ more true
      else
        let places := formats.foldl (fun places format =>
          max places ((format.width + 1) * (8 / format.size))) 0
        let texts := formats.map fun format => fieldLine format places here
        let start := offsetText base offset
        let blanks := List.replicate start.length ' '
        (texts.zipIdx.flatMap fun (text, index) =>
          (if index == 0 then start else blanks) ++ text ++ ['\n']) ++ more false

/-- The formats that a text of letters and sizes asks for. -/
def formatsOf : Nat → Bytes → Option (List Format)
  | 0, _ | _, [] => some []
  | fuel + 1, letter :: rest => do
      let number := rest.takeWhile Char.isDigit
      let (size, rest) := match rest with
        | 'C' :: rest => (1, rest)
        | 'S' :: rest => (2, rest)
        | 'I' :: rest => (4, rest)
        | 'L' :: rest => (8, rest)
        | rest => (if number.isEmpty then 4 else valueInBase 10 number, rest.drop number.length)
      let rest := if rest.head? == some 'z' then rest.drop 1 else rest
      let format ← match letter with
        | 'a' => some ⟨.names, 1⟩
        | 'c' => some ⟨.characters, 1⟩
        | 'd' => some ⟨.decimal, size⟩
        | 'o' => some ⟨.octal, size⟩
        | 'u' => some ⟨.unsigned, size⟩
        | 'x' => some ⟨.hexadecimal, size⟩
        | _ => none
      if [1, 2, 4, 8].contains format.size then
        return format :: (← formatsOf fuel rest)
      else none

def shorthand? (letter : Char) : Option Format :=
  match letter with
  | 'a' => some ⟨.names, 1⟩
  | 'b' => some ⟨.octal, 1⟩
  | 'c' => some ⟨.characters, 1⟩
  | 'd' => some ⟨.unsigned, 2⟩
  | 'i' => some ⟨.decimal, 4⟩
  | 'l' => some ⟨.decimal, 8⟩
  | 'o' => some ⟨.octal, 2⟩
  | 's' => some ⟨.decimal, 2⟩
  | 'x' => some ⟨.hexadecimal, 2⟩
  | _ => none

def od : Utility := fun _ name arguments => do
  let table : OptionTable :=
    { letters := "A:t:vN:j:w:abcdilosx"
      names := [("address-radix", .value, 'A'), ("format", .value, 't'),
        ("output-duplicates", .nothing, 'v'), ("read-bytes", .value, 'N'),
        ("skip-bytes", .value, 'j')] }
  let given ← table.read name arguments
  let formats ← given.options.mapM fun (letter, value) => do
    match letter, shorthand? letter with
    | 't', _ =>
        match formatsOf (value.length + 1) value with
        | some formats => return formats
        | none =>
            let wrong := value.filter fun c => !"acdoux".toList.contains c && !c.isDigit
            failWith 1 name ("invalid character '".toList ++ wrong.take 1 ++
              "' in type string ".toList ++ Quote.plain value)
    | _, format => return format.toList
  let formats := if formats.flatten.isEmpty then [⟨.octal, 2⟩] else formats.flatten
  let base := ((given.value? 'A').bind List.head?).getD 'o'
  unless "doxn".toList.contains base do
    failWith 1 name ("invalid output address radix '".toList ++ [base] ++
      "'; it must be one character from [doxn]".toList)
  let numberAt (letter : Char) : Option Nat := (given.value? letter).map (valueInBase 10)
  let paths := if given.operands.isEmpty then [['-']] else given.operands
  let texts ← paths.mapM fun path => do
    match ← input path with
    | .ok bytes => return (bytes, 0)
    | .error error => do
        complainAbout name path error
        return ([], 1)
  let skipped := (numberAt 'j').getD 0
  let bytes := (texts.flatMap (·.1)).drop skipped
  let bytes := (numberAt 'N').elim bytes bytes.take
  let status := (texts.map (·.2)).foldl max 0
  if status == 0 || !bytes.isEmpty then
    put (lines formats base (given.has 'v') ((numberAt 'w').getD 16) (bytes.length + 1) skipped none
      false bytes)
  return status

end NativeInterop.Shell.Utility.Dump
