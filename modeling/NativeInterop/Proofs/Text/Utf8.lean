import Mathlib
import NativeInterop.Text.Utf8

namespace NativeInterop.Text.Utf8

/-! ASCII in bytes that are read as UTF-8, well-formed or not. Every byte below `0x80` is a character
of its own wherever it stands, and no other bytes give such a character. -/

variable {byte first : UInt8} {bytes before : List UInt8} {c : Char}

/-! ### One sequence -/

/-- A following byte lies in the upper half, and no lead begins an overlong form of ASCII. -/
structure Lead.IsLong (lead : Lead) : Prop where
  low : 0x80 ≤ lead.low
  high : lead.high ≤ 0xBF
  following : 0 < lead.following
  value : 0x80 ≤ (lead.payload * 64 + (lead.low - 0x80)) * 64 ^ (lead.following - 1)

theorem isLong_of_lead? {lead : Lead} (leads : lead? byte = some lead) : lead.IsLong := by
  simp only [lead?] at leads
  split_ifs at leads <;> obtain rfl := Option.some.inj leads <;> constructor <;> dsimp only <;>
    omega

theorem continuation_append {value low high count : Nat} (ascii : byte.toNat < 0x80)
    (upper : 0x80 ≤ low) (bytes after : List UInt8) :
    continuation value low high count (bytes ++ byte :: after) =
      ((continuation value low high count bytes).1,
        (continuation value low high count bytes).2 ++ byte :: after) := by
  induction count generalizing value low high bytes with
  | zero => rfl
  | succ count ih =>
      cases bytes with
      | nil =>
          have outside : ¬ (low ≤ byte.toNat ∧ byte.toNat ≤ high) := by omega
          simp only [List.nil_append, continuation, if_neg outside]
      | cons head bytes =>
          rw [List.cons_append, continuation, continuation]
          split
          · exact ih (by decide) bytes
          · rfl

theorem continuation_suffix (value low high count : Nat) (bytes : List UInt8) :
    (continuation value low high count bytes).2 <:+ bytes := by
  induction count generalizing value low high bytes with
  | zero => exact List.suffix_refl bytes
  | succ count ih =>
      cases bytes with
      | nil => exact List.suffix_refl []
      | cons head bytes =>
          rw [continuation]
          split
          · exact (ih ..).trans (List.suffix_cons head bytes)
          · exact List.suffix_refl _

theorem le_of_continuation {value low high count result : Nat}
    (read : (continuation value low high count bytes).1 = some result) :
    value * 64 ^ count ≤ result := by
  induction count generalizing value low high bytes with
  | zero =>
      obtain rfl : value = result := Option.some.inj read
      omega
  | succ count ih =>
      cases bytes with
      | nil => simp [continuation] at read
      | cons head bytes =>
          rw [continuation] at read
          split at read
          · calc value * 64 ^ (count + 1) = value * 64 * 64 ^ count := by
                  rw [Nat.pow_succ, Nat.mul_comm (64 ^ count), Nat.mul_assoc]
              _ ≤ (value * 64 + head.toNat % 64) * 64 ^ count :=
                  Nat.mul_le_mul_right _ (Nat.le_add_right _ _)
              _ ≤ result := ih read
          · contradiction

theorem le_of_lead {lead : Lead} {result : Nat} (long : lead.IsLong)
    (read : (continuation lead.payload lead.low lead.high lead.following bytes).1 = some result) :
    0x80 ≤ result := by
  obtain ⟨low, high, following, value⟩ := long
  obtain ⟨count, more⟩ : ∃ count, lead.following = count + 1 :=
    Nat.exists_eq_add_one_of_ne_zero (Nat.pos_iff_ne_zero.mp following)
  rw [more] at read value
  cases bytes with
  | nil => simp [continuation] at read
  | cons head bytes =>
      rw [continuation] at read
      split at read
      · rename_i inside
        calc 0x80 ≤ (lead.payload * 64 + (lead.low - 0x80)) * 64 ^ count := value
          _ ≤ (lead.payload * 64 + head.toNat % 64) * 64 ^ count :=
              Nat.mul_le_mul_right _ (by omega)
          _ ≤ result := le_of_continuation read
      · contradiction

theorem sequence_of_ascii (ascii : first.toNat < 0x80) (bytes : List UInt8) :
    sequence first bytes = (some (Char.ofNat first.toNat), bytes) := by
  rw [sequence, if_pos ascii]

theorem sequence_append (ascii : byte.toNat < 0x80) (first : UInt8) (bytes after : List UInt8) :
    sequence first (bytes ++ byte :: after) =
      ((sequence first bytes).1, (sequence first bytes).2 ++ byte :: after) := by
  unfold sequence
  split
  · rfl
  · cases leads : lead? first with
    | none => rfl
    | some lead => simp only [continuation_append ascii (isLong_of_lead? leads).low]

theorem sequence_suffix (first : UInt8) (bytes : List UInt8) :
    (sequence first bytes).2 <:+ bytes := by
  unfold sequence
  split
  · exact List.suffix_refl bytes
  · split
    · exact List.suffix_refl bytes
    · exact continuation_suffix ..

theorem toNat_ofNat_of_ne {value : Nat} (kept : (Char.ofNat value).toNat ≠ 0) :
    (Char.ofNat value).toNat = value := by
  by_cases valid : value.isValidChar
  · rw [Char.ofNat, dif_pos valid]
    rfl
  · rw [Char.ofNat, dif_neg valid] at kept
    exact absurd rfl kept

/-- An ASCII character other than NUL is read from one byte only. -/
theorem sequence_eq_of_ascii (char : (sequence first bytes).1.getD '\ufffd' = c)
    (visible : 0 < c.toNat) (ascii : c.toNat < 0x80) :
    first.toNat = c.toNat ∧ (sequence first bytes).2 = bytes := by
  by_cases single : first.toNat < 0x80
  · rw [sequence_of_ascii single] at char ⊢
    refine ⟨?_, rfl⟩
    subst char
    exact (toNat_ofNat_of_ne (Nat.pos_iff_ne_zero.mp visible)).symm
  · exfalso
    have replaced : ('\ufffd').toNat < 0x80 → False := by decide
    rw [sequence, if_neg single] at char
    cases leads : lead? first with
    | none =>
        rw [leads] at char
        subst char
        exact replaced ascii
    | some lead =>
        rw [leads] at char
        dsimp only at char
        cases read : (continuation lead.payload lead.low lead.high lead.following bytes).1 with
        | none =>
            rw [read] at char
            subst char
            exact replaced ascii
        | some value =>
            rw [read] at char
            have long := le_of_lead (isLong_of_lead? leads) read
            have same : Char.ofNat value = c := char
            subst same
            rw [toNat_ofNat_of_ne (Nat.pos_iff_ne_zero.mp visible)] at ascii
            omega

/-! ### All sequences -/

@[simp] theorem decodeLossy_nil : decodeLossy [] = [] := by
  rw [decodeLossy, sequences, List.map_nil]

theorem decodeLossy_cons (first : UInt8) (bytes : List UInt8) :
    decodeLossy (first :: bytes) =
      (sequence first bytes).1.getD '\ufffd' :: decodeLossy (sequence first bytes).2 := by
  rw [decodeLossy, sequences, List.map_cons]
  rfl

/-- An ASCII byte cuts the bytes: what stands before it is read as if they ended there. -/
theorem decodeLossy_append_cons (ascii : byte.toNat < 0x80) (before after : List UInt8) :
    decodeLossy (before ++ byte :: after) =
      decodeLossy before ++ Char.ofNat byte.toNat :: decodeLossy after := by
  induction before using sequences.induct with
  | case1 =>
      rw [List.nil_append, decodeLossy_cons, sequence_of_ascii ascii, decodeLossy_nil]
      rfl
  | case2 first bytes _ ih =>
      rw [List.cons_append, decodeLossy_cons, decodeLossy_cons, sequence_append ascii]
      dsimp only
      rw [ih, List.cons_append]

theorem toNat_toUInt8 (ascii : c.toNat < 0x80) : c.toNat.toUInt8.toNat = c.toNat := by
  simp
  omega

theorem mem_decodeLossy_iff (visible : 0 < c.toNat) (ascii : c.toNat < 0x80) :
    c ∈ decodeLossy bytes ↔ c.toNat.toUInt8 ∈ bytes := by
  have byteValue := toNat_toUInt8 ascii
  constructor
  · intro member
    induction bytes using sequences.induct with
    | case1 => simp at member
    | case2 first bytes _ ih =>
        rw [decodeLossy_cons, List.mem_cons] at member
        rcases member with char | later
        · obtain ⟨same, _⟩ := sequence_eq_of_ascii char.symm visible ascii
          rw [UInt8.toNat_inj.mp (byteValue.trans same.symm)]
          exact List.mem_cons_self
        · exact List.mem_cons_of_mem first ((sequence_suffix first bytes).mem (ih later))
  · intro member
    obtain ⟨before, after, rfl⟩ := List.append_of_mem member
    rw [decodeLossy_append_cons (by rwa [byteValue]), byteValue, Char.ofNat_toNat]
    exact List.mem_append_right _ List.mem_cons_self

theorem getLast?_decodeLossy_iff (visible : 0 < c.toNat) (ascii : c.toNat < 0x80) :
    (decodeLossy bytes).getLast? = some c ↔ bytes.getLast? = some c.toNat.toUInt8 := by
  have byteValue := toNat_toUInt8 ascii
  constructor
  · intro last
    induction bytes using sequences.induct with
    | case1 => simp at last
    | case2 first bytes _ ih =>
        rw [decodeLossy_cons, List.getLast?_cons] at last
        cases read : decodeLossy (sequence first bytes).2 with
        | nil =>
            rw [read] at last
            obtain ⟨same, rest⟩ := sequence_eq_of_ascii (Option.some.inj last) visible ascii
            -- Nothing is read from no bytes only.
            have none : bytes = [] := by
              cases bytes with
              | nil => rfl
              | cons second bytes => simp [rest, decodeLossy_cons] at read
            rw [none, UInt8.toNat_inj.mp (byteValue.trans same.symm)]
            rfl
        | cons next others =>
            have final : (decodeLossy (sequence first bytes).2).getLast? = some c := by
              rw [← last, read, List.getLast?_cons]
              simp
            obtain ⟨taken, split⟩ := sequence_suffix first bytes
            have found := ih final
            rw [← split, ← List.cons_append, List.getLast?_append, found]
            rfl
  · intro last
    obtain ⟨before, rfl⟩ := List.getLast?_eq_some_iff.mp last
    rw [decodeLossy_append_cons (by rwa [byteValue]), byteValue, Char.ofNat_toNat,
      List.getLast?_append, decodeLossy_nil]
    rfl

/-! ### Written text -/

section Written

variable {n : Nat}

theorem sequence_of_lead? {lead : Lead} (leads : lead? first = some lead) (bytes : List UInt8) :
    sequence first bytes =
      ((continuation lead.payload lead.low lead.high lead.following bytes).1.map Char.ofNat,
        (continuation lead.payload lead.low lead.high lead.following bytes).2) := by
  have upper : ¬ first.toNat < 0x80 := by
    intro ascii
    simp only [lead?] at leads
    split_ifs at leads <;> omega
  rw [sequence, if_neg upper, leads]

/-- A following byte has six bits of the character. -/
theorem continuation_following {value low high count bits : Nat}
    (inside : low ≤ bits % 64 + 0x80 ∧ bits % 64 + 0x80 ≤ high) (bytes : List UInt8) :
    continuation value low high (count + 1) (UInt8.ofNat (bits % 64 + 0x80) :: bytes) =
      continuation (value * 64 + bits % 64) 0x80 0xBF count bytes := by
  have read : (UInt8.ofNat (bits % 64 + 0x80)).toNat = bits % 64 + 0x80 := by
    rw [UInt8.toNat_ofNat']
    omega
  have payload : (bits % 64 + 0x80) % 64 = bits % 64 := by omega
  rw [continuation, read, if_pos inside, payload]

theorem sequence_two (low : 0x80 ≤ n) (high : n ≤ 0x7FF) (bytes : List UInt8) :
    sequence (.ofNat (n / 64 % 32 + 0xC0)) (.ofNat (n % 64 + 0x80) :: bytes) =
      (some (Char.ofNat n), bytes) := by
  have read : (UInt8.ofNat (n / 64 % 32 + 0xC0)).toNat = n / 64 + 0xC0 := by
    rw [UInt8.toNat_ofNat']
    omega
  have leads : lead? (.ofNat (n / 64 % 32 + 0xC0)) = some ⟨n / 64, 0x80, 0xBF, 1⟩ := by
    simp only [lead?, read]
    rw [if_pos (by omega), Nat.add_sub_cancel]
  have whole : n / 64 * 64 + n % 64 = n := by omega
  rw [sequence_of_lead? leads]
  dsimp only
  rw [continuation_following (by omega), whole]
  rfl

theorem sequence_three (low : 0x800 ≤ n) (high : n ≤ 0xFFFF) (scalar : n < 0xD800 ∨ 0xDFFF < n)
    (bytes : List UInt8) :
    sequence (.ofNat (n / 4096 % 16 + 0xE0))
        (.ofNat (n / 64 % 64 + 0x80) :: .ofNat (n % 64 + 0x80) :: bytes) =
      (some (Char.ofNat n), bytes) := by
  have read : (UInt8.ofNat (n / 4096 % 16 + 0xE0)).toNat = n / 4096 + 0xE0 := by
    rw [UInt8.toNat_ofNat']
    omega
  obtain ⟨lead, leads, payload, following, inside⟩ : ∃ lead,
      lead? (.ofNat (n / 4096 % 16 + 0xE0)) = some lead ∧ lead.payload = n / 4096 ∧
      lead.following = 2 ∧ lead.low ≤ n / 64 % 64 + 0x80 ∧ n / 64 % 64 + 0x80 ≤ lead.high := by
    simp only [lead?, read]
    split_ifs <;> first | omega | (refine ⟨_, rfl, ?_⟩; dsimp only; omega)
  have middle : n / 4096 * 64 + n / 64 % 64 = n / 64 := by omega
  have whole : n / 64 * 64 + n % 64 = n := by omega
  rw [sequence_of_lead? leads, payload, following, continuation_following inside, middle,
    continuation_following (by omega), whole]
  rfl

theorem sequence_four (low : 0x10000 ≤ n) (high : n < 0x110000) (bytes : List UInt8) :
    sequence (.ofNat (n / 262144 % 8 + 0xF0))
        (.ofNat (n / 4096 % 64 + 0x80) :: .ofNat (n / 64 % 64 + 0x80) ::
          .ofNat (n % 64 + 0x80) :: bytes) =
      (some (Char.ofNat n), bytes) := by
  have read : (UInt8.ofNat (n / 262144 % 8 + 0xF0)).toNat = n / 262144 + 0xF0 := by
    rw [UInt8.toNat_ofNat']
    omega
  obtain ⟨lead, leads, payload, following, inside⟩ : ∃ lead,
      lead? (.ofNat (n / 262144 % 8 + 0xF0)) = some lead ∧ lead.payload = n / 262144 ∧
      lead.following = 3 ∧ lead.low ≤ n / 4096 % 64 + 0x80 ∧ n / 4096 % 64 + 0x80 ≤ lead.high := by
    simp only [lead?, read]
    split_ifs <;> first | omega | (refine ⟨_, rfl, ?_⟩; dsimp only; omega)
  have upper : n / 262144 * 64 + n / 4096 % 64 = n / 4096 := by omega
  have middle : n / 4096 * 64 + n / 64 % 64 = n / 64 := by omega
  have whole : n / 64 * 64 + n % 64 = n := by omega
  rw [sequence_of_lead? leads, payload, following, continuation_following inside, upper,
    continuation_following (by omega), middle, continuation_following (by omega), whole]
  rfl

/-- A character is read back from the bytes that it is written in, whatever comes after them. -/
theorem exists_encodeChar (c : Char) : ∃ first others, encodeChar c = first :: others ∧
    ∀ bytes, sequence first (others ++ bytes) = (some c, bytes) := by
  have scalar : c.toNat < 0xD800 ∨ 0xDFFF < c.toNat ∧ c.toNat < 0x110000 := c.valid
  have char := Char.ofNat_toNat c
  have value : c.val.toNat = c.toNat := rfl
  simp only [encodeChar, String.utf8EncodeChar, value]
  split_ifs with ascii double triple
  · refine ⟨_, [], rfl, fun bytes => ?_⟩
    have read : (UInt8.ofNat c.toNat).toNat = c.toNat := by
      rw [UInt8.toNat_ofNat']
      omega
    rw [sequence_of_ascii (by omega), read, char]
    rfl
  · refine ⟨_, _, rfl, fun bytes => ?_⟩
    exact (sequence_two (by omega) double bytes).trans (by rw [char])
  · refine ⟨_, _, rfl, fun bytes => ?_⟩
    exact (sequence_three (by omega) triple (by omega) bytes).trans (by rw [char])
  · refine ⟨_, _, rfl, fun bytes => ?_⟩
    exact (sequence_four (by omega) (by omega) bytes).trans (by rw [char])

end Written

theorem sequences_encode (text : List Char) : sequences (encode text) = text.map some := by
  induction text with
  | nil =>
      rw [encode, List.flatMap_nil, sequences]
      rfl
  | cons c rest ih =>
      obtain ⟨first, others, written, read⟩ := exists_encodeChar c
      have whole : encode (c :: rest) = first :: (others ++ encode rest) := by
        rw [encode, List.flatMap_cons, written]
        rfl
      rw [whole, sequences, read, ih, List.map_cons]

theorem decode?_encode (text : List Char) : decode? (encode text) = some text := by
  rw [decode?, sequences_encode, List.mapM_map]
  simpa using List.mapM_pure (m := Option) (l := text) (f := id)

theorem decodeLossy_encode (text : List Char) : decodeLossy (encode text) = text := by
  rw [decodeLossy, sequences_encode, List.map_map]
  exact List.map_id text

end NativeInterop.Text.Utf8
