namespace NativeInterop.Text

/-! The Unicode property `White_Space`, and trimming by it. -/

def isBlank (c : Char) : Bool :=
  let n := c.toNat
  (0x09 ≤ n && n ≤ 0x0D) || n == 0x20 || n == 0x85 || n == 0xA0 || n == 0x1680 ||
    (0x2000 ≤ n && n ≤ 0x200A) || n == 0x2028 || n == 0x2029 || n == 0x202F || n == 0x205F ||
    n == 0x3000

def trim (text : List Char) : List Char :=
  ((text.dropWhile isBlank).reverse.dropWhile isBlank).reverse

def trimmed (text : String) : String :=
  String.ofList (trim text.toList)

def isBlankText (text : List Char) : Bool :=
  text.all isBlank

theorem dropWhile_isBlank {text : List Char} (unblank : ∀ c ∈ text, isBlank c = false) :
    text.dropWhile isBlank = text := by
  cases text with
  | nil => rfl
  | cons c rest => exact List.dropWhile_cons_of_neg (by simp [unblank c List.mem_cons_self])

theorem trim_of_unblank {text : List Char} (unblank : ∀ c ∈ text, isBlank c = false) :
    trim text = text := by
  have backward : ∀ c ∈ text.reverse, isBlank c = false := fun c member =>
    unblank c (List.mem_reverse.mp member)
  rw [trim, dropWhile_isBlank unblank, dropWhile_isBlank backward, List.reverse_reverse]

/-! Cutting text at separator characters. A text with `n` separators has `n + 1` segments. -/

def segments (isSeparator : Char → Bool) : List Char → List (List Char)
  | [] => [[]]
  | c :: rest =>
      if isSeparator c then [] :: segments isSeparator rest
      else
        match segments isSeparator rest with
        | [] => [[c]]
        | first :: others => (c :: first) :: others

theorem segments_ne_nil (isSeparator : Char → Bool) (text : List Char) :
    segments isSeparator text ≠ [] := by
  cases text with
  | nil => simp [segments]
  | cons c rest =>
      unfold segments
      split
      · simp
      · split <;> simp

/-- The lines of a text: each ends at a line feed, which goes together with one carriage return
before it. Nothing follows a final line feed, and a carriage return alone ends no line. -/
def lines : List Char → List (List Char)
  | [] => []
  | '\n' :: rest => [] :: lines rest
  | '\r' :: '\n' :: rest => [] :: lines rest
  | c :: rest =>
      match lines rest with
      | [] => [[c]]
      | first :: others => (c :: first) :: others

/-! The Unicode category of decimal digits, and the values of ASCII digit strings. -/

/-- The zeros of the category: each begins ten consecutive digits. -/
def decimalZeros : List Nat :=
  [0x30, 0x660, 0x6F0, 0x7C0, 0x966, 0x9E6, 0xA66, 0xAE6, 0xB66, 0xBE6, 0xC66, 0xCE6, 0xD66,
   0xDE6, 0xE50, 0xED0, 0xF20, 0x1040, 0x1090, 0x17E0, 0x1810, 0x1946, 0x19D0, 0x1A80, 0x1A90,
   0x1B50, 0x1BB0, 0x1C40, 0x1C50, 0xA620, 0xA8D0, 0xA900, 0xA9D0, 0xA9F0, 0xAA50, 0xABF0,
   0xFF10, 0x104A0, 0x10D30, 0x10D40, 0x11066, 0x110F0, 0x11136, 0x111D0, 0x112F0, 0x11450,
   0x114D0, 0x11650, 0x116C0, 0x116D0, 0x116DA, 0x11730, 0x118E0, 0x11950, 0x11BF0, 0x11C50,
   0x11D50, 0x11DA0, 0x11F50, 0x16130, 0x16A60, 0x16AC0, 0x16B50, 0x16D70, 0x1CCF0, 0x1D7CE,
   0x1D7D8, 0x1D7E2, 0x1D7EC, 0x1D7F6, 0x1E140, 0x1E2F0, 0x1E4F0, 0x1E5F1, 0x1E950, 0x1FBF0]

def isDecimalDigit (c : Char) : Bool :=
  decimalZeros.any fun low => low ≤ c.toNat && c.toNat < low + 10

def digitsValue (digits : List Char) : Nat :=
  digits.foldl (fun value c => value * 10 + (c.toNat - '0'.toNat)) 0

/-- The value of a string of ASCII digits that fits into 32 bits. -/
def word32? (digits : List Char) : Option UInt32 :=
  if digits.all Char.isDigit && digitsValue digits < UInt32.size then
    some (UInt32.ofNat (digitsValue digits))
  else none

def decimal (value : Nat) : List Char :=
  Nat.toDigits 10 value

/-! Fields of a fixed width. -/

def blanks (count : Nat) : List Char :=
  List.replicate count ' '

def alignRight (width : Nat) (text : List Char) : List Char :=
  blanks (width - text.length) ++ text

def upperHexDigit (value : Nat) : Char :=
  if value < 10 then Char.ofNat ('0'.toNat + value) else Char.ofNat ('A'.toNat + (value - 10))

/-- The lowest `width` hexadecimal digits. -/
def upperHex : Nat → Nat → List Char
  | 0, _ => []
  | width + 1, value => upperHex width (value / 16) ++ [upperHexDigit (value % 16)]

end NativeInterop.Text
