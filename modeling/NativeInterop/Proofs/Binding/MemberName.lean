import Mathlib
import NativeInterop.Proofs.Binding.Prototype
import NativeInterop.Proofs.Export.Decoding
import NativeInterop.Proofs.Identifier.Respelling

namespace NativeInterop.Binding

open ExportLine Identifier

/-! The names that declarations give to decoded functions. A name begins with the first letter or
digit of the identifier, so it can be used where that is a letter. -/

variable {line identifier name : List Char} {e : Export}

theorem isAlphanum_of_isIdentifierPart {c : Char} (part : isIdentifierPart c = true) :
    c.isAlphanum = (c != '_') := by
  by_cases underscore : c = '_'
  · subst underscore
    rfl
  · have letter : c.isAlphanum = true := by simpa [isIdentifierPart, underscore] using part
    rw [letter, bne_iff_ne.mpr underscore]

theorem find?_isAlphanum (named : IsIdentifier identifier) :
    identifier.find? Char.isAlphanum = identifier.find? (· != '_') := by
  obtain ⟨first, parts, rfl, start, inside⟩ := named
  have accepted : ∀ c ∈ first :: parts, isIdentifierPart c = true :=
    List.forall_mem_cons.mpr ⟨isIdentifierPart_of_start start, inside⟩
  rw [← List.head?_filter, ← List.head?_filter,
    List.filter_congr fun c member => isAlphanum_of_isIdentifierPart (accepted c member)]

theorem isIdentifier_of_isWord (accepted : IsWord name) (begins : ∃ c ∈ name.head?, c.isAlpha = true) :
    IsIdentifier name := by
  obtain ⟨first, head, letter⟩ := begins
  obtain ⟨rest, rfl⟩ := List.head?_eq_some_iff.mp head
  refine ⟨first, rest, rfl, by simp [isIdentifierStart, letter], fun c member => ?_⟩
  simp [isIdentifierPart, accepted c (List.mem_cons_of_mem first member)]

/-- The name in the declaration of a decoded function has letters and digits only, and begins with
the first character of the identifier that is no underscore, as a capital. It begins with a letter,
and so is an identifier that no keyword can be, exactly if that character is a letter. -/
theorem name_usable_iff_letter_first (decoded : decodeLine line = .ok (some e))
    (literal : List Char) :
    ∃ prototype, Prototype.read? literal ((Declaration.ofExport e).render literal) = some prototype ∧
      prototype.name = (Declaration.ofExport e).name ∧ IsWord prototype.name ∧
      prototype.name.head? = (e.identifier.find? (· != '_')).map Char.toUpper ∧
      ((∃ c ∈ prototype.name.head?, c.isAlpha = true) ↔
        ∃ c ∈ e.identifier.find? (· != '_'), c.isAlpha = true) ∧
      ((∃ c ∈ prototype.name.head?, c.isAlpha = true) →
        IsIdentifier prototype.name ∧ ∃ c ∈ prototype.name.head?, c.isUpper = true) := by
  obtain ⟨_, _, _, _, _, shown⟩ := shows_of_decodeLine decoded
  have first : (canonical e.identifier).head? =
      (e.identifier.find? (· != '_')).map Char.toUpper := by
    rw [head?_canonical, find?_isAlphanum shown.named]
  have accepted := isWord_canonical e.identifier
  refine ⟨_, Prototype.read?_render literal e, rfl, accepted, first, ?_, fun begins => ?_⟩
  · rw [Prototype.ofExport, first]
    simp
  · refine ⟨isIdentifier_of_isWord accepted begins, ?_⟩
    obtain ⟨c, head, letter⟩ := begins
    refine ⟨c, head, ?_⟩
    have notSmall := leading_canonical e.identifier c head
    simpa [Char.isAlpha, notSmall] using letter

theorem name_usable_iff_letter_first_underscored :
    decodeLine "7 ?__add_2d@@YAHHH@Z".toList =
      .ok (some ⟨7, "__add_2d".toList, ⟨.int, 0⟩, [⟨.int, 0⟩, ⟨.int, 0⟩]⟩) ∧
    ∃ prototype,
      Prototype.read? "\"m.dll\"".toList ((Declaration.ofExport
        ⟨7, "__add_2d".toList, ⟨.int, 0⟩, [⟨.int, 0⟩, ⟨.int, 0⟩]⟩).render "\"m.dll\"".toList) =
          some prototype ∧
      prototype.name.head? = some 'A' ∧ IsIdentifier prototype.name := by
  have decoded : decodeLine "7 ?__add_2d@@YAHHH@Z".toList =
      .ok (some ⟨7, "__add_2d".toList, ⟨.int, 0⟩, [⟨.int, 0⟩, ⟨.int, 0⟩]⟩) :=
    decodeLine_eq_some_iff.mpr (by cbv)
  obtain ⟨prototype, read, _, _, first, _, usable⟩ :=
    name_usable_iff_letter_first decoded "\"m.dll\"".toList
  have begins : prototype.name.head? = some 'A' := first
  exact ⟨decoded, prototype, read, begins, (usable ⟨'A', begins, rfl⟩).1⟩

/-- Without letters and digits nothing is left for a name, and a digit after underscores comes
first. -/
theorem name_unusable_after_underscores :
    (decodeLine "1 ?_@@YAXXZ".toList = .ok (some ⟨1, ['_'], ⟨.void, 0⟩, []⟩) ∧
      (Declaration.ofExport ⟨1, ['_'], ⟨.void, 0⟩, []⟩).name = []) ∧
    (decodeLine "2 ?_1@@YAXXZ".toList = .ok (some ⟨2, ['_', '1'], ⟨.void, 0⟩, []⟩) ∧
      (Declaration.ofExport ⟨2, ['_', '1'], ⟨.void, 0⟩, []⟩).name = ['1']) ∧
    ¬ ∀ line e, decodeLine line = .ok (some e) →
      ∃ c ∈ (Declaration.ofExport e).name.head?, c.isAlpha = true := by
  have underscore : decodeLine "1 ?_@@YAXXZ".toList = .ok (some ⟨1, ['_'], ⟨.void, 0⟩, []⟩) :=
    decodeLine_eq_some_iff.mpr (by cbv)
  have digit : decodeLine "2 ?_1@@YAXXZ".toList =
      .ok (some ⟨2, ['_', '1'], ⟨.void, 0⟩, []⟩) := decodeLine_eq_some_iff.mpr (by cbv)
  have nameless : (Declaration.ofExport ⟨1, ['_'], ⟨.void, 0⟩, []⟩).name = [] := by cbv
  refine ⟨⟨underscore, nameless⟩, ⟨digit, by cbv⟩, fun usable => ?_⟩
  obtain ⟨c, head, _⟩ := usable _ _ underscore
  rw [nameless] at head
  cases head

end NativeInterop.Binding
