import Mathlib
import NativeInterop.Proofs.Binding.Layout
import NativeInterop.Proofs.Binding.StringLiteral
import NativeInterop.Proofs.Export.Decoding
import NativeInterop.Toml.Number

namespace NativeInterop.Binding

open Text

/-! Line terminators in generated files. All that is written around a library keeps its line, but a
literal quotes nothing but backslashes and quotes: the terminators of a library are those of each
declaration that imports from it. -/

variable {c : Char} {text before after line : List Char} {lines : List (List Char)}

/-! ### Lines of the target language -/

/-- The characters that end a line of the target language. -/
def lineTerminators : List Char :=
  ['\n', '\r', '\u0085', '\u2028', '\u2029']

def isLineTerminator (c : Char) : Bool :=
  lineTerminators.contains c

def OneLine (text : List Char) : Prop :=
  ∀ c ∈ lineTerminators, c ∉ text

theorem isLineTerminator_iff : isLineTerminator c = true ↔ c ∈ lineTerminators :=
  List.contains_iff_mem

theorem oneLine_iff : OneLine text ↔ ∀ c ∈ text, isLineTerminator c = false := by
  simp only [← Bool.not_eq_true, isLineTerminator_iff]
  exact ⟨fun whole c member ends => whole c ends member, fun whole c ends member => whole c member ends⟩

theorem filter_eq_nil_iff_oneLine : text.filter isLineTerminator = [] ↔ OneLine text := by
  simp [oneLine_iff]

instance : Decidable (OneLine text) :=
  decidable_of_iff _ filter_eq_nil_iff_oneLine

/-- A class of characters without line terminators writes no more than a line. -/
theorem oneLine_of_forall (inClass : Char → Bool)
    (apart : lineTerminators.all (!inClass ·) = true) (written : ∀ c ∈ text, inClass c = true) :
    OneLine text := fun c ends member => by
  simpa [written c member] using List.all_eq_true.mp apart c ends

theorem oneLine_append_iff : OneLine (before ++ after) ↔ OneLine before ∧ OneLine after := by
  simp only [oneLine_iff, List.forall_mem_append]

theorem oneLine_cons_iff :
    OneLine (c :: text) ↔ isLineTerminator c = false ∧ OneLine text := by
  simp only [oneLine_iff, List.forall_mem_cons]

theorem oneLine_blanks_iff {width : Nat} :
    OneLine (List.replicate width ' ' ++ line) ↔ OneLine line := by
  have blanks : OneLine (List.replicate width ' ') :=
    oneLine_of_forall (· == ' ') (by decide) (by simp)
  rw [oneLine_append_iff, and_iff_right blanks]

/-- The lines of a file as the target language counts them. A line feed behind a carriage return
ends a line of its own, which is empty. -/
def codeLines (text : List Char) : List (List Char) :=
  segments isLineTerminator text

theorem codeLines_of_oneLine (whole : OneLine text) : codeLines text = [text] :=
  segments_of_unseparated (oneLine_iff.mp whole)

theorem oneLine_of_mem_codeLines (member : line ∈ codeLines text) : OneLine line :=
  oneLine_iff.mpr (unseparated_of_mem_segments member)

theorem flatMap_codeLines_eq_self_iff :
    lines.flatMap codeLines = lines ↔ ∀ line ∈ lines, OneLine line := by
  constructor
  · intro found line member
    rw [← found] at member
    obtain ⟨written, _, inside⟩ := List.mem_flatMap.mp member
    exact oneLine_of_mem_codeLines inside
  · intro whole
    rw [List.flatMap_congr fun line member => codeLines_of_oneLine (whole line member),
      List.flatMap_singleton']

/-! ### Literals -/

/-- What a backslash may stand before as a single character. -/
def simpleEscapes : List Char :=
  ['\'', '"', '\\', '0', 'a', 'b', 'f', 'n', 'r', 't', 'v']

/-- The marks of escapes by code, each with a number of digits that may follow it. -/
def codeEscapes : List (Char × Nat) :=
  [('x', 1), ('x', 2), ('x', 3), ('x', 4), ('u', 4), ('U', 8)]

/-- What may stand between the quotes of a regular string literal. -/
inductive IsRegularBody : List Char → Prop
  | nil : IsRegularBody []
  | plain {c rest} : c ≠ '"' → c ≠ '\\' → isLineTerminator c = false → IsRegularBody rest →
      IsRegularBody (c :: rest)
  | simple {c rest} : c ∈ simpleEscapes → IsRegularBody rest → IsRegularBody ('\\' :: c :: rest)
  | coded {c digits rest} : (c, digits.length) ∈ codeEscapes →
      digits.all Toml.isHexDigit = true → IsRegularBody rest →
      IsRegularBody ('\\' :: c :: (digits ++ rest))

def IsRegularLiteral (text : List Char) : Prop :=
  ∃ body, IsRegularBody body ∧ text = '"' :: (body ++ ['"'])

theorem IsRegularBody.oneLine (regular : IsRegularBody text) : OneLine text := by
  have backslash : isLineTerminator '\\' = false := by decide
  induction regular with
  | nil => exact oneLine_iff.mpr (by simp)
  | plain _ _ joins _ ih => exact oneLine_cons_iff.mpr ⟨joins, ih⟩
  | @simple c rest escape _ ih =>
      have marks : OneLine simpleEscapes := by decide
      have mark : isLineTerminator c = false := oneLine_iff.mp marks c escape
      exact oneLine_cons_iff.mpr ⟨backslash, oneLine_cons_iff.mpr ⟨mark, ih⟩⟩
  | @coded c digits rest escape inBase _ ih =>
      have marks : OneLine (codeEscapes.map Prod.fst) := by decide
      have mark : isLineTerminator c = false := oneLine_iff.mp marks c (List.mem_map_of_mem escape)
      have number : OneLine digits := oneLine_of_forall Toml.isHexDigit (by decide) (List.all_eq_true.mp inBase)
      exact oneLine_cons_iff.mpr
        ⟨backslash, oneLine_cons_iff.mpr ⟨mark, oneLine_append_iff.mpr ⟨number, ih⟩⟩⟩

theorem filter_escaped (value : List Char) :
    (value.flatMap escapedChar).filter isLineTerminator = value.filter isLineTerminator := by
  induction value with
  | nil => rfl
  | cons c value ih =>
      have single : (escapedChar c).filter isLineTerminator = [c].filter isLineTerminator := by
        cases special : isSpecial c with
        | true => rw [escapedChar_of_special special, List.filter_cons_of_neg (by decide)]
        | false => rw [escapedChar_of_not_special special]
      rw [List.flatMap_cons, List.filter_append, ih, single, ← List.filter_append,
        List.singleton_append]

theorem filter_stringLiteral (value : List Char) :
    (stringLiteral value).filter isLineTerminator = value.filter isLineTerminator := by
  rw [stringLiteral, List.cons_append, List.filter_cons_of_neg (by decide), List.filter_append,
    filter_escaped, List.filter_cons_of_neg (by decide), List.filter_nil, List.append_nil]

theorem isRegularBody_escaped {value : List Char} (whole : OneLine value) :
    IsRegularBody (value.flatMap escapedChar) := by
  induction value with
  | nil => exact .nil
  | cons c value ih =>
      obtain ⟨joins, later⟩ := oneLine_cons_iff.mp whole
      rw [List.flatMap_cons]
      cases special : isSpecial c with
      | true =>
          have escape : c ∈ simpleEscapes := by
            rcases Bool.or_eq_true _ _ ▸ special with backslash | quote
            · simp [simpleEscapes, beq_iff_eq.mp backslash]
            · simp [simpleEscapes, beq_iff_eq.mp quote]
          rw [escapedChar_of_special special]
          exact .simple escape (ih later)
      | false =>
          obtain ⟨notBackslash, notQuote⟩ : c ≠ '\\' ∧ c ≠ '"' := by
            simpa [isSpecial] using special
          rw [escapedChar_of_not_special special]
          exact .plain notQuote notBackslash joins (ih later)

theorem isRegularLiteral_stringLiteral_iff {value : List Char} :
    IsRegularLiteral (stringLiteral value) ↔ OneLine value := by
  constructor
  · rintro ⟨body, regular, whole⟩
    rw [← filter_eq_nil_iff_oneLine, ← filter_stringLiteral, filter_eq_nil_iff_oneLine, whole,
      oneLine_cons_iff, oneLine_append_iff]
    exact ⟨by decide, regular.oneLine, by decide⟩
  · exact fun whole => ⟨_, isRegularBody_escaped whole, rfl⟩

/-! ### Declarations -/

theorem oneLine_attributeTail (ordinal : UInt32) : OneLine (attributeTail ordinal) := by
  have number : OneLine (decimal ordinal.toNat) :=
    oneLine_of_forall Char.isDigit (by decide) fun _ => isDigit_of_mem_decimal
  have parts := attributeTail_append ordinal []
  rw [List.append_nil] at parts
  rw [parts, oneLine_append_iff, oneLine_append_iff]
  exact ⟨by decide, number, by decide⟩

theorem oneLine_signature (e : Export) : OneLine (Declaration.ofExport e).signature := by
  have name : OneLine (Declaration.ofExport e).name :=
    oneLine_of_forall Char.isAlphanum (by decide) (Identifier.isWord_canonical e.identifier)
  have apart : lineTerminators.all (!isSignatureChar ·) = true := by decide
  exact fun c ends =>
    notMem_signature (by simpa using List.all_eq_true.mp apart c ends) (name c ends)

/-- A declaration ends its line exactly where its literal does. -/
theorem filter_render (e : Export) (literal : List Char) :
    ((Declaration.ofExport e).render literal).filter isLineTerminator =
      literal.filter isLineTerminator := by
  have start : importStart.filter isLineTerminator = [] := by decide
  have tail := filter_eq_nil_iff_oneLine.mpr (oneLine_attributeTail (Declaration.ofExport e).ordinal)
  have signature := filter_eq_nil_iff_oneLine.mpr (oneLine_signature e)
  rw [render_eq_append, List.filter_append, List.filter_append, List.filter_append, start, tail,
    signature, List.nil_append, List.append_nil, List.append_nil]

/-! ### Files -/

/-- Blocks are the same lines around any body. -/
theorem exists_nestedBlocks_eq (headers : List (List Char)) (depth : Nat) :
    ∃ opening closing, ∀ body, nestedBlocks depth body headers =
      opening ++ (body.map (indent (depth + headers.length)) ++ closing) := by
  induction headers generalizing depth with
  | nil => exact ⟨[], [], fun body => by simp [nestedBlocks]⟩
  | cons header headers ih =>
      obtain ⟨opening, closing, inside⟩ := ih (depth + 1)
      have level : depth + 1 + headers.length = depth + (header :: headers).length := by
        rw [List.length_cons]
        omega
      refine ⟨indent depth header :: indent depth ['\x7b'] :: opening,
        closing ++ [indent depth ['\x7d']], fun body => ?_⟩
      rw [nestedBlocks, inside, level]
      simp only [List.cons_append, List.append_assoc]

/-- The declarations of a target as they stand in a file. -/
def indentedDeclarations (target : Target) (declarations : List Declaration) : List (List Char) :=
  declarations.map fun declaration =>
    List.replicate (4 * target.scopeNames.length) ' ' ++ declaration.render target.literal

/-- The declarations of a target are inside a file what they are for themselves, between lines that
do not depend on them. -/
theorem exists_codeLines_render (target : Target) (key : List Char) (before after : List Scope) :
    ∃ opening closing, ∀ declarations : List Declaration,
      codeLines (SourceUnit.mk key (before ++ Scope.ofTarget target declarations :: after)).render =
        opening ++ (indentedDeclarations target declarations).flatMap codeLines ++ closing := by
  obtain ⟨opening, closing, blocks⟩ := exists_nestedBlocks_eq (Scope.ofTarget target []).headers 0
  -- Names of classes may hold line terminators, so what stands around the declarations is cut too.
  let earlier := "using System.Runtime.InteropServices;".toList ::
    before.flatMap (fun scope => [] :: scope.lines) ++ [] :: opening
  let later := closing ++ after.flatMap fun scope => [] :: scope.lines
  refine ⟨earlier.flatMap codeLines, later.flatMap codeLines ++ [[]], fun declarations => ?_⟩
  have block : (Scope.ofTarget target declarations).lines =
      opening ++ (indentedDeclarations target declarations ++ closing) := by
    have found := blocks (declarations.map (·.render target.literal))
    rw [(headers_ofTarget target []).length_eq, Nat.zero_add, List.map_map] at found
    exact found
  have file : (SourceUnit.mk key (before ++ Scope.ofTarget target declarations :: after)).fileLines =
      earlier ++ indentedDeclarations target declarations ++ later := by
    simp [SourceUnit.fileLines, block, earlier, later]
  have cut : codeLines (unlines (earlier ++ indentedDeclarations target declarations ++ later)) =
      _ ++ [[]] := segments_unlines (by decide) _
  rw [render_eq_unlines, file, cut, List.flatMap_append, List.flatMap_append, List.append_assoc]
  rfl

/-- The line terminators of a declaration are those of the library, for an entry without a literal
of its own. So it stays on one line, and the quoted library is a regular literal, exactly if the
library has none; and then, and only then, each declaration of the target is one line of its file. -/
theorem declarations_on_own_lines_iff {entry : TargetEntry} {base : Path} {target : Target}
    (resolved : entry.resolve base = .ok target) (unwritten : entry.literal = none) :
    (∀ e, ((Declaration.ofExport e).render target.literal).filter isLineTerminator =
      entry.library.filter isLineTerminator) ∧
    (∀ e, OneLine ((Declaration.ofExport e).render target.literal) ↔ OneLine entry.library) ∧
    (IsRegularLiteral target.literal ↔ OneLine entry.library) ∧
    ∀ key before after, ∃ opening closing, ∀ exports : List Export,
      let declarations := exports.map Declaration.ofExport
      let unit := SourceUnit.mk key (before ++ Scope.ofTarget target declarations :: after)
      let written := indentedDeclarations target declarations
      codeLines unit.render = opening ++ written.flatMap codeLines ++ closing ∧
        (written.flatMap codeLines = written ↔ exports = [] ∨ OneLine entry.library) := by
  have quoted := literal_of_resolve resolved unwritten
  have terminators : ∀ e, ((Declaration.ofExport e).render target.literal).filter isLineTerminator =
      entry.library.filter isLineTerminator := fun e => by
    rw [filter_render, quoted, filter_stringLiteral]
  have whole : ∀ e, OneLine ((Declaration.ofExport e).render target.literal) ↔
      OneLine entry.library := fun e => by
    rw [← filter_eq_nil_iff_oneLine, terminators, filter_eq_nil_iff_oneLine]
  refine ⟨terminators, whole, quoted ▸ isRegularLiteral_stringLiteral_iff,
    fun key before after => ?_⟩
  obtain ⟨opening, closing, cut⟩ := exists_codeLines_render target key before after
  refine ⟨opening, closing, fun exports => ⟨cut _, ?_⟩⟩
  simp only [flatMap_codeLines_eq_self_iff, indentedDeclarations, List.forall_mem_map,
    oneLine_blanks_iff, whole]
  cases exports with
  | nil => simp
  | cons e rest => simp +contextual

theorem declarations_on_own_lines_iff_fileName :
    let entry : TargetEntry := ⟨[], ['C'], "m.dll".toList, none, none⟩
    let target : Target := ⟨[], [['C']], "\"m.dll\"".toList, "m.dll".toList, .ofString "m.dll"⟩
    let e : Export := ⟨1, ['f'], ⟨.void, 0⟩, []⟩
    entry.resolve ⟨[]⟩ = .ok target ∧ entry.literal = none ∧
      OneLine ((Declaration.ofExport e).render target.literal) ∧ IsRegularLiteral target.literal := by
  intro entry target e
  have resolved : entry.resolve ⟨[]⟩ = .ok target := by decide
  have whole : OneLine entry.library := by decide
  obtain ⟨_, declared, literal, _⟩ := declarations_on_own_lines_iff resolved rfl
  exact ⟨resolved, rfl, (declared e).mpr whole, literal.mpr whole⟩

/-- A line feed in the name of a library goes into the literal as it is, and the one declaration of
the file takes two lines. -/
theorem declaration_broken_by_library :
    let entry : TargetEntry := ⟨[], ['C'], "a\nb.dll".toList, none, none⟩
    let target : Target :=
      ⟨[], [['C']], "\"a\nb.dll\"".toList, "a\nb.dll".toList, .ofString "a\nb.dll"⟩
    let e : Export := ⟨1, ['f'], ⟨.void, 0⟩, []⟩
    let declarations := [Declaration.ofExport e]
    let unit := SourceUnit.mk "a\nb.dll.g.cs".toList [.ofTarget target declarations]
    entry.literal = none ∧ entry.resolve ⟨[]⟩ = .ok target ∧
      decodeLine "1 ?f@@YAXXZ".toList = .ok (some e) ∧
      '\n' ∈ (Declaration.ofExport e).render target.literal ∧ ¬ IsRegularLiteral target.literal ∧
      codeLines unit.render = ["using System.Runtime.InteropServices;".toList, [],
        "partial class C".toList, ['\x7b'], "    [DllImport(\"a".toList,
        "b.dll\", EntryPoint = \"#1\")] public extern static void F();".toList, ['\x7d'], []] := by
  intro entry target e declarations unit
  have decoded : decodeLine "1 ?f@@YAXXZ".toList = .ok (some ⟨1, ['f'], ⟨.void, 0⟩, []⟩) :=
    decodeLine_eq_some_iff.mpr (by cbv)
  have quoted : target.literal = stringLiteral entry.library := rfl
  refine ⟨rfl, by decide, decoded, by decide +kernel, ?_, by decide +kernel⟩
  rw [quoted, isRegularLiteral_stringLiteral_iff]
  decide

end NativeInterop.Binding
