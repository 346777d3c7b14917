namespace NativeInterop.Text.Utf8

/-! Reading bytes as UTF-8. An ill-formed sequence is a longest beginning of a well-formed one that
the next byte breaks off, or a single byte that begins none. -/

/-- What a leading byte of a longer sequence announces: its payload, the range of the second byte
and the number of bytes to come. The narrow ranges exclude overlong forms and surrogates. -/
structure Lead where
  payload : Nat
  low : Nat
  high : Nat
  following : Nat

def lead? (byte : UInt8) : Option Lead :=
  let n := byte.toNat
  if 0xC2 ≤ n ∧ n ≤ 0xDF then some ⟨n - 0xC0, 0x80, 0xBF, 1⟩
  else if n = 0xE0 then some ⟨0, 0xA0, 0xBF, 2⟩
  else if n = 0xED then some ⟨0xD, 0x80, 0x9F, 2⟩
  else if 0xE1 ≤ n ∧ n ≤ 0xEF then some ⟨n - 0xE0, 0x80, 0xBF, 2⟩
  else if n = 0xF0 then some ⟨0, 0x90, 0xBF, 3⟩
  else if 0xF1 ≤ n ∧ n ≤ 0xF3 then some ⟨n - 0xF0, 0x80, 0xBF, 3⟩
  else if n = 0xF4 then some ⟨4, 0x80, 0x8F, 3⟩
  else none

def continuation (value low high : Nat) : Nat → List UInt8 → Option Nat × List UInt8
  | 0, bytes => (some value, bytes)
  | _ + 1, [] => (none, [])
  | count + 1, byte :: bytes =>
      if low ≤ byte.toNat ∧ byte.toNat ≤ high then
        continuation (value * 64 + byte.toNat % 64) 0x80 0xBF count bytes
      else (none, byte :: bytes)

theorem continuation_length (value low high count : Nat) (bytes : List UInt8) :
    (continuation value low high count bytes).2.length ≤ bytes.length := by
  induction count generalizing value low high bytes with
  | zero => simp [continuation]
  | succ count ih =>
      cases bytes with
      | nil => simp [continuation]
      | cons byte bytes =>
          unfold continuation
          split
          · exact Nat.le_succ_of_le (ih ..)
          · simp

/-- Reads one sequence: a character, or `none` for an ill-formed one. -/
def sequence (first : UInt8) (bytes : List UInt8) : Option Char × List UInt8 :=
  if first.toNat < 0x80 then (some (Char.ofNat first.toNat), bytes)
  else
    match lead? first with
    | none => (none, bytes)
    | some lead =>
        let (value, rest) := continuation lead.payload lead.low lead.high lead.following bytes
        (value.map Char.ofNat, rest)

theorem sequence_length (first : UInt8) (bytes : List UInt8) :
    (sequence first bytes).2.length ≤ bytes.length := by
  unfold sequence
  split
  · simp
  · split
    · simp
    · exact continuation_length ..

def sequences : List UInt8 → List (Option Char)
  | [] => []
  | first :: bytes =>
      have := sequence_length first bytes
      (sequence first bytes).1 :: sequences (sequence first bytes).2
termination_by bytes => bytes.length

def decode? (bytes : List UInt8) : Option (List Char) :=
  (sequences bytes).mapM id

/-- Each ill-formed sequence is read as one replacement character. -/
def decodeLossy (bytes : List UInt8) : List Char :=
  (sequences bytes).map (·.getD '\ufffd')

def encodeChar (c : Char) : List UInt8 :=
  String.utf8EncodeChar c

def encode (text : List Char) : List UInt8 :=
  text.flatMap encodeChar

/-- The number of bytes that a text takes. -/
def size : List Char → Nat
  | [] => 0
  | c :: rest => c.utf8Size + size rest

theorem size_append (before after : List Char) :
    size (before ++ after) = size before + size after := by
  induction before with
  | nil => rw [List.nil_append, size, Nat.zero_add]
  | cons c before ih => rw [List.cons_append, size, size, ih, Nat.add_assoc]

theorem length_le_size (text : List Char) : text.length ≤ size text := by
  induction text with
  | nil => exact Nat.le_refl 0
  | cons c rest ih =>
      have positive := c.utf8Size_pos
      simp only [List.length_cons, size]
      omega

end NativeInterop.Text.Utf8
