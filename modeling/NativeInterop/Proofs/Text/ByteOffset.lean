import NativeInterop.Text.Utf8

namespace NativeInterop.Text.Utf8

/-! Cutting a text before one of its bytes. There is no cut inside a character, and none beyond the
end. -/

variable {text before after : List Char} {bytes : Nat}

def splitAt? : Nat → List Char → Option (List Char × List Char)
  | 0, text => some ([], text)
  | _ + 1, [] => none
  | bytes + 1, c :: rest =>
      if c.utf8Size ≤ bytes + 1 then
        (splitAt? (bytes + 1 - c.utf8Size) rest).map fun parts => (c :: parts.1, parts.2)
      else none

theorem splitAt?_size (before after : List Char) :
    splitAt? (size before) (before ++ after) = some (before, after) := by
  induction before with
  | nil => simp [size, splitAt?]
  | cons c before ih =>
      have positive := c.utf8Size_pos
      obtain ⟨bytes, same⟩ : ∃ bytes, size (c :: before) = bytes + 1 :=
        Nat.exists_eq_add_one_of_ne_zero (by rw [size]; omega)
      have whole : c.utf8Size + size before = bytes + 1 := same
      have left : bytes + 1 - c.utf8Size = size before := by omega
      rw [same, List.cons_append, splitAt?, if_pos (by omega), left, ih]
      rfl

theorem splitAt?_eq_some_iff :
    splitAt? bytes text = some (before, after) ↔ text = before ++ after ∧ size before = bytes := by
  constructor
  · intro cut
    fun_induction splitAt? bytes text generalizing before after with
    | case1 text =>
        cases cut
        exact ⟨rfl, rfl⟩
    | case2 => cases cut
    | case3 bytes c rest fits ih =>
        obtain ⟨⟨first, last⟩, found, same⟩ := Option.map_eq_some_iff.mp cut
        cases same
        obtain ⟨whole, length⟩ := ih found
        refine ⟨congrArg (c :: ·) whole, ?_⟩
        rw [size, length]
        omega
    | case4 => cases cut
  · rintro ⟨rfl, rfl⟩
    exact splitAt?_size before after

theorem size_eq_length (narrow : text.all (·.utf8Size == 1) = true) : size text = text.length := by
  induction text with
  | nil => rfl
  | cons c rest ih =>
      rw [List.all_cons, Bool.and_eq_true, beq_iff_eq] at narrow
      rw [size, narrow.1, ih narrow.2, List.length_cons, Nat.add_comm]

end NativeInterop.Text.Utf8
