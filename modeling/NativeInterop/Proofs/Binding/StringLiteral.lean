import Mathlib
import NativeInterop.Proofs.Binding.Prototype
import NativeInterop.Proofs.Manifest.Resolution

namespace NativeInterop.Binding

open Text

/-! The attribute of a declaration, and the text around it. -/

/-- The attribute behind its literal, and the blank that ends it. -/
def attributeTail (ordinal : UInt32) : List Char :=
  ", EntryPoint = \"#".toList ++ decimal ordinal.toNat ++ "\")] ".toList

theorem attributeTail_append (ordinal : UInt32) (text : List Char) :
    attributeTail ordinal ++ text =
      ", EntryPoint = \"#".toList ++ (decimal ordinal.toNat ++ ("\")] ".toList ++ text)) := by
  have parts : attributeTail ordinal =
      ", EntryPoint = \"#".toList ++ decimal ordinal.toNat ++ "\")] ".toList := rfl
  rw [parts, List.append_assoc, List.append_assoc]

theorem render_eq_append (declaration : Declaration) (literal : List Char) :
    declaration.render literal =
      importStart ++ (literal ++ (attributeTail declaration.ordinal ++ declaration.signature)) := by
  have closing : "\")]".toList ++ ' ' :: declaration.signature =
      "\")] ".toList ++ declaration.signature := rfl
  have start : importStart = "[DllImport(".toList := rfl
  rw [Declaration.render, Prototype.importAttribute_eq, attributeTail_append, start]
  simp only [List.append_assoc, closing]

/-- What follows the attribute of a declaration that imports from the library of this literal. -/
def afterAttribute? (literal text : List Char) : Option (List Char) := do
  let imported ← text.dropPrefix? (importStart ++ literal)
  let numbered ← imported.dropPrefix? ", EntryPoint = \"#".toList
  (numbered.dropWhile Char.isDigit).dropPrefix? "\")] ".toList

theorem afterAttribute?_render (declaration : Declaration) (literal : List Char) :
    afterAttribute? literal (declaration.render literal) = some declaration.signature := by
  have digits : ∀ c ∈ decimal declaration.ordinal.toNat, c.isDigit = true := fun _ =>
    isDigit_of_mem_decimal
  have stop : ∀ c ∈ ("\")] ".toList ++ declaration.signature).head?, c.isDigit = false := by
    intro c head
    obtain rfl : '"' = c := Option.some.inj head
    rfl
  rw [render_eq_append, ← List.append_assoc, attributeTail_append, afterAttribute?,
    Prototype.dropPrefix?_append]
  simp only [Option.bind_eq_bind, Option.bind_some, Prototype.dropPrefix?_append,
    dropWhile_append_stop digits stop]

end NativeInterop.Binding

namespace NativeInterop.Binding

open Text

/-! Reading string literals back. A literal ends at the first quote that no backslash quotes, and
that is the quote it was written with: what follows a backslash in it is a backslash or a quote of
the value. -/

variable {value rest : List Char} {c : Char}

/-- What has been read of a literal when its closing quote is reached. -/
structure LiteralReading where
  value : List Char
  /-- The characters behind backslashes, in their order. -/
  quoted : List Char
  /-- What follows the closing quote. -/
  rest : List Char
  deriving DecidableEq

namespace LiteralReading

def plain (c : Char) (reading : LiteralReading) : LiteralReading :=
  { reading with value := c :: reading.value }

def escaped (c : Char) (reading : LiteralReading) : LiteralReading :=
  { reading with value := c :: reading.value, quoted := c :: reading.quoted }

/-- Reads on from behind the opening quote. A backslash quotes the character after it. -/
def ofBody? : List Char → Option LiteralReading
  | [] => none
  | '"' :: rest => some ⟨[], [], rest⟩
  | ['\\'] => none
  | '\\' :: c :: rest => (ofBody? rest).map (escaped c)
  | c :: rest => (ofBody? rest).map (plain c)

theorem ofBody?_closing (rest : List Char) : ofBody? ('"' :: rest) = some ⟨[], [], rest⟩ := rfl

theorem ofBody?_backslash (c : Char) (rest : List Char) :
    ofBody? ('\\' :: c :: rest) = (ofBody? rest).map (escaped c) := rfl

theorem ofBody?_plain (notBackslash : c ≠ '\\') (notQuote : c ≠ '"') (rest : List Char) :
    ofBody? (c :: rest) = (ofBody? rest).map (plain c) := by
  rw [ofBody?.eq_def]
  split <;> simp_all

end LiteralReading

open LiteralReading

/-- What a string literal writes with a backslash. -/
def isSpecial (c : Char) : Bool :=
  c == '\\' || c == '"'

theorem escapedChar_of_special (special : isSpecial c = true) : escapedChar c = ['\\', c] :=
  if_pos special

theorem escapedChar_of_not_special (ordinary : isSpecial c = false) : escapedChar c = [c] :=
  if_neg (ne_true_of_eq_false ordinary)

/-- The reader and the writer go through the value in step: the reader is never behind a backslash
where the writer begins a character. -/
theorem ofBody?_escaped (value rest : List Char) :
    ofBody? (value.flatMap escapedChar ++ '"' :: rest) =
      some ⟨value, value.filter isSpecial, rest⟩ := by
  induction value with
  | nil => exact ofBody?_closing rest
  | cons c value ih =>
      rw [List.flatMap_cons, List.append_assoc]
      cases special : isSpecial c with
      | true =>
          rw [escapedChar_of_special special, List.cons_append, List.singleton_append,
            ofBody?_backslash, ih, List.filter_cons_of_pos special]
          rfl
      | false =>
          obtain ⟨notBackslash, notQuote⟩ : c ≠ '\\' ∧ c ≠ '"' := by
            simpa [isSpecial] using special
          rw [escapedChar_of_not_special special, List.singleton_append,
            ofBody?_plain notBackslash notQuote, ih, List.filter_cons_of_neg (by simp [special])]
          rfl

theorem stringLiteral_append (value rest : List Char) :
    stringLiteral value ++ rest = '"' :: (value.flatMap escapedChar ++ '"' :: rest) := by
  simp [stringLiteral]

/-- An entry without a literal of its own has its library quoted. -/
theorem literal_of_resolve {entry : TargetEntry} {base : Path} {target : Target}
    (resolved : entry.resolve base = .ok target) (unwritten : entry.literal = none) :
    target.literal = stringLiteral entry.library := by
  rw [(TargetEntry.resolvesTo_of_resolve resolved).literal, unwritten]
  rfl

/-- A reader that begins behind the opening quote of a literal stops at its end, whatever follows,
and has read the value; behind backslashes it meets only backslashes and quotes. So a literal
determines its value, and a declaration of an entry without a literal of its own goes on behind the
quoted library as it does behind any other. -/
theorem literal_reads_back :
    (∀ value rest, ∃ body quoted, stringLiteral value ++ rest = '"' :: body ∧
      ofBody? body = some ⟨value, quoted, rest⟩ ∧ ∀ c ∈ quoted, c = '\\' ∨ c = '"') ∧
    Function.Injective stringLiteral ∧
    ∀ (entry : TargetEntry) base target, entry.resolve base = .ok target → entry.literal = none →
      ∀ declaration : Declaration, ∃ body quoted,
        declaration.render target.literal = importStart ++ '"' :: body ∧
        ofBody? body =
          some ⟨entry.library, quoted, attributeTail declaration.ordinal ++ declaration.signature⟩ ∧
        ∀ c ∈ quoted, c = '\\' ∨ c = '"' := by
  have special : ∀ value : List Char, ∀ c ∈ value.filter isSpecial, c = '\\' ∨ c = '"' := by
    intro value c member
    simpa [isSpecial] using (List.mem_filter.mp member).2
  refine ⟨fun value rest => ?_, fun value other same => ?_, ?_⟩
  · exact ⟨_, _, stringLiteral_append value rest, ofBody?_escaped value rest, special value⟩
  · have bodies := (stringLiteral_append value []).symm.trans
      ((congrArg (· ++ []) same).trans (stringLiteral_append other []))
    have read := ofBody?_escaped value []
    rw [(List.cons.inj bodies).2, ofBody?_escaped other []] at read
    exact (LiteralReading.mk.inj (Option.some.inj read)).1.symm
  · intro entry base target resolved unwritten declaration
    have text := render_eq_append declaration target.literal
    rw [literal_of_resolve resolved unwritten, stringLiteral_append] at text
    rw [literal_of_resolve resolved unwritten]
    exact ⟨_, _, text, ofBody?_escaped entry.library _, special entry.library⟩

/-- The library holds quotes and ends in a backslash. -/
theorem literal_reads_back_finalBackslash :
    let entry : TargetEntry := ⟨[], ['C'], "\"), \"m\\".toList, none, none⟩
    let target : Target := ⟨[], [['C']], "\"\\\"), \\\"m\\\\\"".toList, "\"), \"m\\".toList,
      .ofString "\"), \"m\\"⟩
    let declaration : Declaration := ⟨1, ['F'], ['f'], ⟨.void, 0⟩, [], false⟩
    entry.resolve ⟨[]⟩ = .ok target ∧ entry.literal = none ∧
      ∃ body quoted, declaration.render target.literal = importStart ++ '"' :: body ∧
        ofBody? body = some ⟨"\"), \"m\\".toList, quoted,
          attributeTail declaration.ordinal ++ declaration.signature⟩ ∧
        ∀ c ∈ quoted, c = '\\' ∨ c = '"' := by
  intro entry target declaration
  have resolved : entry.resolve ⟨[]⟩ = .ok target := by decide
  exact ⟨resolved, rfl, literal_reads_back.2.2 entry ⟨[]⟩ target resolved rfl declaration⟩

end NativeInterop.Binding
