import Mathlib.Data.Nat.Digits.Defs
import NativeInterop.Text.Basic

namespace NativeInterop.Text

/-! Decimal numerals and their values. -/

variable {digits : List Char} {c : Char}

theorem isDecimalDigit_of_isDigit (digit : c.isDigit = true) : isDecimalDigit c = true := by
  obtain ⟨low, high⟩ := Char.isDigit_iff_toNat.mp digit
  refine List.any_eq_true.mpr ⟨0x30, by simp [decimalZeros], ?_⟩
  rw [Bool.and_eq_true, decide_eq_true_eq, decide_eq_true_eq]
  exact ⟨low, Nat.lt_succ_of_le high⟩

theorem word32?_eq_some_iff {word : UInt32} :
    word32? digits = some word ↔
      (∀ c ∈ digits, c.isDigit = true) ∧ digitsValue digits = word.toNat := by
  simp only [word32?, Option.ite_none_right_eq_some, Bool.and_eq_true, List.all_eq_true,
    decide_eq_true_eq, Option.some.injEq]
  constructor
  · rintro ⟨⟨ascii, bound⟩, rfl⟩
    exact ⟨ascii, (UInt32.toNat_ofNat_of_lt' bound).symm⟩
  · rintro ⟨ascii, value⟩
    rw [value]
    exact ⟨⟨ascii, word.toNat_lt⟩, UInt32.ofNat_toNat⟩

theorem digitsValue_decimal (value : Nat) : digitsValue (decimal value) = value := by
  have same : digitsValue (decimal value) = Nat.ofDigitChars 10 (Nat.toDigits 10 value) 0 := by
    simp [digitsValue, decimal, Nat.ofDigitChars_eq_foldl, Nat.mul_comm]
  rw [same, Nat.ofDigitChars_ten_toDigits]

theorem isDigit_of_mem_decimal {value : Nat} (member : c ∈ decimal value) : c.isDigit = true :=
  Nat.isDigit_of_mem_toDigits (by decide) (by decide) member

theorem decimal_ne_nil (value : Nat) : decimal value ≠ [] :=
  Nat.toDigits_ne_nil

end NativeInterop.Text

namespace NativeInterop.Text

/-! Fields keep their width as long as their content fits, and hexadecimal fields tell the number. -/

variable {width value : Nat} {text : List Char} {c : Char}

@[simp] theorem length_blanks (count : Nat) : (blanks count).length = count :=
  List.length_replicate

theorem length_alignRight (fits : text.length ≤ width) : (alignRight width text).length = width := by
  rw [alignRight, List.length_append, length_blanks]
  omega

theorem length_decimal_word32 (word : UInt32) : (decimal word.toNat).length ≤ 10 := by
  have bound : word.toNat < 10 ^ 10 := word.toNat_lt.trans (by decide)
  exact Nat.toDigits_length 10 word.toNat 10 (by decide) bound

/-! ### Hexadecimal digits -/

def isUpperHexDigit (c : Char) : Bool :=
  c.isDigit || ('A' ≤ c && c ≤ 'F')

def hexDigitValue (c : Char) : Nat :=
  if c.isDigit then c.toNat - '0'.toNat else 10 + (c.toNat - 'A'.toNat)

def hexValue (digits : List Char) : Nat :=
  digits.foldl (fun value c => value * 16 + hexDigitValue c) 0

theorem upperHexDigit_spec :
    ∀ value < 16, isUpperHexDigit (upperHexDigit value) = true ∧
      hexDigitValue (upperHexDigit value) = value := by
  decide

theorem length_upperHex (width value : Nat) : (upperHex width value).length = width := by
  induction width generalizing value with
  | zero => rfl
  | succ width ih => rw [upperHex, List.length_append, ih, List.length_singleton]

theorem isUpperHexDigit_of_mem_upperHex (member : c ∈ upperHex width value) :
    isUpperHexDigit c = true := by
  induction width generalizing value with
  | zero => simp [upperHex] at member
  | succ width ih =>
      rw [upperHex, List.mem_append, List.mem_singleton] at member
      rcases member with member | rfl
      · exact ih member
      · exact (upperHexDigit_spec _ (Nat.mod_lt _ (by decide))).1

theorem hexValue_upperHex (bound : value < 16 ^ width) : hexValue (upperHex width value) = value := by
  induction width generalizing value with
  | zero =>
      have zero : value = 0 := by omega
      rw [zero]
      rfl
  | succ width ih =>
      have higher : value / 16 < 16 ^ width := by
        rw [Nat.pow_succ] at bound
        exact Nat.div_lt_of_lt_mul (by rwa [Nat.mul_comm])
      have digit := (upperHexDigit_spec (value % 16) (Nat.mod_lt _ (by decide))).2
      have lower : hexValue (upperHex (width + 1) value) =
          hexValue (upperHex width (value / 16)) * 16 + value % 16 := by
        rw [upperHex, hexValue, List.foldl_append, List.foldl_cons, digit]
        rfl
      rw [lower, ih higher]
      omega

end NativeInterop.Text
