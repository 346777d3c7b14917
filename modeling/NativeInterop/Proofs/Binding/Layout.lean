import Mathlib
import NativeInterop.Proofs.Binding.DeclarationLines
import NativeInterop.Proofs.Identifier.Settling
import NativeInterop.Proofs.Text.Segments

namespace NativeInterop.Binding

open Text

/-! The layout of generated files. A scope is a block of lines that is read back with a counter of
open braces: the counter tells the level of each line, and the blanks before it agree. -/

variable {c : Char} {line : List Char} {lines inner body headers : List (List Char)} {scope : Scope}
  {unit : SourceUnit}

/-! ### Writing at the end of a text -/

theorem unlines_append (before after : List (List Char)) :
    unlines (before ++ after) = unlines before ++ unlines after :=
  List.flatMap_append

theorem foldl_addLine (draft : Draft) (body : List (List Char)) :
    body.foldl Draft.addLine draft =
      ⟨draft.text ++ unlines (body.map (indent draft.depth)), draft.depth⟩ := by
  induction body generalizing draft with
  | nil => simp [unlines]
  | cons line rest ih => rw [List.foldl_cons, ih]; simp [Draft.addLine, unlines]

/-- Closing goes down to the level at which the headers began to be opened. -/
theorem closeBlocks_foldl (body headers : List (List Char)) (text : List Char) (depth : Nat) :
    let written := body.foldl Draft.addLine (headers.foldl Draft.openBlock ⟨text, depth⟩)
    Draft.closeBlocks written.text written.depth =
      Draft.closeBlocks (text ++ unlines (nestedBlocks depth body headers)) depth := by
  induction headers generalizing text depth with
  | nil => simp [foldl_addLine, nestedBlocks]
  | cons header headers ih =>
      dsimp only at ih ⊢
      rw [List.foldl_cons, Draft.openBlock, ih]
      simp [Draft.closeBlocks, Draft.addLine, nestedBlocks, unlines]

theorem renderInto_eq (scope : Scope) (text : List Char) :
    scope.renderInto text = text ++ scope.render := by
  have written := closeBlocks_foldl (scope.declarations.map (·.render scope.literal)) scope.headers
    text 0
  rw [List.foldl_map] at written
  exact written

theorem renderInto_append (scope : Scope) (text : List Char) :
    scope.renderInto text = text ++ scope.renderInto [] := by
  rw [renderInto_eq, renderInto_eq, List.nil_append]

theorem scopes_foldl_push (scopes : List Scope) (unit : SourceUnit) :
    (scopes.foldl SourceUnit.push unit).scopes = unit.scopes ++ scopes := by
  induction scopes generalizing unit with
  | nil => simp
  | cons scope rest ih => rw [List.foldl_cons, ih]; simp [SourceUnit.push]

theorem render_push (unit : SourceUnit) (scope : Scope) :
    (unit.push scope).render = unit.render ++ '\n' :: scope.renderInto [] := by
  simp [SourceUnit.render, SourceUnit.push, renderInto_eq]

/-! ### Reading lines -/

/-- The lines of a text whose last line is ended as well. -/
def endedLines (text : List Char) : List (List Char) :=
  (segments (· == '\n') text).dropLast

/-- Ended lines are cut for themselves, and nothing follows the last. -/
theorem segments_unlines {isSeparator : Char → Bool} (separates : isSeparator '\n' = true)
    (lines : List (List Char)) :
    segments isSeparator (unlines lines) = lines.flatMap (segments isSeparator) ++ [[]] := by
  induction lines with
  | nil => rfl
  | cons line rest ih =>
      have split : unlines (line :: rest) = line ++ '\n' :: unlines rest := by simp [unlines]
      rw [split, segments_append_separator separates, ih, List.flatMap_cons, List.append_assoc]

theorem endedLines_unlines (unbroken : ∀ line ∈ lines, '\n' ∉ line) :
    endedLines (unlines lines) = lines := by
  have whole : ∀ line ∈ lines, segments (· == '\n') line = [line] := fun line member =>
    segments_of_unseparated fun c inside =>
      beq_false_of_ne (ne_of_mem_of_not_mem inside (unbroken line member))
  rw [endedLines, segments_unlines rfl, List.dropLast_concat, List.flatMap_congr whole,
    List.flatMap_singleton']

/-- What a line says behind its indentation. -/
def content (line : List Char) : List Char :=
  line.dropWhile (· == ' ')

/-- How a line changes the count of open braces. -/
def turn (line : List Char) : Int :=
  if content line = ['\x7b'] then 1 else if content line = ['\x7d'] then -1 else 0

/-- A line between the counts of open braces before and after it. -/
structure CountedLine where
  before : Int
  line : List Char
  after : Int

def countLines : Int → List (List Char) → List CountedLine
  | _, [] => []
  | counter, line :: rest =>
      ⟨counter, line, counter + turn line⟩ :: countLines (counter + turn line) rest

def balance (lines : List (List Char)) : Int :=
  (lines.map turn).sum

/-- The level of a line. That of a brace is the one outside its block. -/
def CountedLine.level (counted : CountedLine) : Int :=
  min counted.before counted.after

/-- The line is a declaration; no other line of a file begins like one. -/
def declares (line : List Char) : Bool :=
  importStart.isPrefixOf (content line)

/-- The declarations among counted lines, each with its level. -/
def declarationsAt (counted : List CountedLine) : List (Int × List Char) :=
  (counted.filter (declares ·.line)).map fun counted => (counted.level, content counted.line)

/-- Reading from a count of open braces on, no more blocks are closed than are open, all that are
opened are closed again, and each line has four blanks for each level before what it says. -/
structure WellNested (counter : Int) (lines : List (List Char)) : Prop where
  nonneg : ∀ counted ∈ countLines counter lines, 0 ≤ counted.after
  closed : balance lines = 0
  indented : ∀ counted ∈ countLines counter lines,
    counted.line = List.replicate (4 * counted.level.toNat) ' ' ++ content counted.line

/-! ### Counting the lines of blocks -/

theorem countLines_append (counter : Int) (before after : List (List Char)) :
    countLines counter (before ++ after) =
      countLines counter before ++ countLines (counter + balance before) after := by
  induction before generalizing counter with
  | nil => simp [countLines, balance]
  | cons line rest ih =>
      rw [List.cons_append, countLines, ih, countLines, List.cons_append, balance, balance,
        List.map_cons, List.sum_cons, Int.add_assoc]

theorem map_line_countLines (counter : Int) (lines : List (List Char)) :
    (countLines counter lines).map CountedLine.line = lines := by
  induction lines generalizing counter with
  | nil => rfl
  | cons line rest ih => rw [countLines, List.map_cons, ih]

theorem content_indent (begins : c ≠ ' ') (depth : Nat) (rest : List Char) :
    content (indent depth (c :: rest)) = c :: rest := by
  rw [content, indent, List.dropWhile_append_of_pos (by simp),
    List.dropWhile_cons_of_neg (by simpa using begins)]

/-- A line that begins with neither a blank nor a brace. -/
def IsText (line : List Char) : Prop :=
  ∃ c rest, line = c :: rest ∧ c ≠ ' ' ∧ c ≠ '\x7b' ∧ c ≠ '\x7d'

theorem IsText.content_indent (plain : IsText line) (depth : Nat) :
    content (indent depth line) = line := by
  obtain ⟨c, rest, rfl, begins, _⟩ := plain
  exact Binding.content_indent begins depth rest

theorem IsText.turn_indent (plain : IsText line) (depth : Nat) : turn (indent depth line) = 0 := by
  have said := plain.content_indent depth
  obtain ⟨c, rest, rfl, _, opens, closes⟩ := plain
  simp [turn, said, opens, closes]

theorem turn_opening (depth : Nat) : turn (indent depth ['\x7b']) = 1 := by
  rw [turn, content_indent (by decide), if_pos rfl]

theorem turn_closing (depth : Nat) : turn (indent depth ['\x7d']) = -1 := by
  rw [turn, content_indent (by decide), if_neg (by decide), if_pos rfl]

theorem countLines_texts (plain : ∀ line ∈ body, IsText line) (depth : Nat) :
    countLines depth (body.map (indent depth)) =
      body.map fun line => ⟨depth, indent depth line, depth⟩ := by
  induction body with
  | nil => rfl
  | cons line rest ih =>
      obtain ⟨first, others⟩ := List.forall_mem_cons.mp plain
      rw [List.map_cons, countLines, first.turn_indent, Int.add_zero, ih others, List.map_cons]

theorem balance_nestedBlocks (saidInside : ∀ line ∈ body, IsText line)
    (saidAround : ∀ header ∈ headers, IsText header) (depth : Nat) :
    balance (nestedBlocks depth body headers) = 0 := by
  induction headers generalizing depth with
  | nil =>
      have still : ∀ change ∈ (body.map (indent depth)).map turn, change = 0 := by
        simp only [List.map_map, List.forall_mem_map]
        exact fun line member => (saidInside line member).turn_indent depth
      exact List.sum_eq_zero still
  | cons header headers ih =>
      obtain ⟨outer, others⟩ := List.forall_mem_cons.mp saidAround
      have inner := ih others (depth + 1)
      rw [balance] at inner ⊢
      simp [nestedBlocks, inner, outer.turn_indent, turn_opening, turn_closing]

/-- The lines inside a block are counted from one level further in. -/
theorem countLines_block (plain : IsText line) (closed : balance inner = 0) (depth : Nat) :
    countLines depth (indent depth line :: indent depth ['\x7b'] ::
        (inner ++ [indent depth ['\x7d']])) =
      ⟨depth, indent depth line, depth⟩ :: ⟨depth, indent depth ['\x7b'], depth + 1⟩ ::
        (countLines (depth + 1 : Nat) inner ++ [⟨depth + 1, indent depth ['\x7d'], depth⟩]) := by
  rw [countLines, plain.turn_indent, Int.add_zero, countLines, turn_opening, countLines_append,
    closed, Int.add_zero, countLines, turn_closing, countLines]
  simp

theorem counted_nestedBlocks (saidInside : ∀ line ∈ body, IsText line)
    (saidAround : ∀ header ∈ headers, IsText header) (depth : Nat) :
    ∀ counted ∈ countLines depth (nestedBlocks depth body headers), 0 ≤ counted.after ∧
      counted.line = indent counted.level.toNat (content counted.line) := by
  induction headers generalizing depth with
  | nil =>
      rw [nestedBlocks, countLines_texts saidInside]
      simp only [List.forall_mem_map]
      intro line member
      simp [CountedLine.level, (saidInside line member).content_indent]
  | cons header headers ih =>
      obtain ⟨outer, others⟩ := List.forall_mem_cons.mp saidAround
      have inside := ih others (depth + 1)
      rw [nestedBlocks, countLines_block outer (balance_nestedBlocks saidInside others _)]
      simp only [List.forall_mem_cons, List.forall_mem_append]
      refine ⟨⟨by simp, ?_⟩, ⟨by omega, ?_⟩, inside, ⟨by simp, ?_⟩, by simp⟩
      · simp [CountedLine.level, outer.content_indent]
      · simp [CountedLine.level, content_indent]
      · simp [CountedLine.level, content_indent]

theorem wellNested_nestedBlocks (saidInside : ∀ line ∈ body, IsText line)
    (saidAround : ∀ header ∈ headers, IsText header) (depth : Nat) :
    WellNested depth (nestedBlocks depth body headers) where
  nonneg := fun counted member => (counted_nestedBlocks saidInside saidAround depth counted member).1
  closed := balance_nestedBlocks saidInside saidAround depth
  indented := fun counted member =>
    (counted_nestedBlocks saidInside saidAround depth counted member).2

theorem length_filter_declares (counter : Int) (lines : List (List Char)) :
    (lines.filter declares).length = (declarationsAt (countLines counter lines)).length := by
  rw [declarationsAt, List.length_map, ← List.length_map CountedLine.line,
    ← Function.comp_def declares, ← List.filter_map, map_line_countLines]

/-! ### Declarations in blocks -/

theorem isText_of_importStart (starts : importStart <+: line) : IsText line := by
  obtain ⟨rest, rfl⟩ := starts
  exact ⟨'[', _, rfl, by decide⟩

/-- A line around declarations: no declaration begins like it. -/
def IsHeader (line : List Char) : Prop :=
  IsText line ∧ importStart.isPrefixOf line = false

theorem declarationsAt_nestedBlocks (declared : ∀ line ∈ body, importStart <+: line)
    (framed : ∀ header ∈ headers, IsHeader header) (depth : Nat) :
    declarationsAt (countLines depth (nestedBlocks depth body headers)) =
      body.map fun line => ((depth + headers.length : Int), line) := by
  have inText : ∀ line ∈ body, IsText line := fun line member =>
    isText_of_importStart (declared line member)
  induction headers generalizing depth with
  | nil =>
      rw [nestedBlocks, countLines_texts inText, declarationsAt, List.filter_eq_self.mpr]
      · simp only [List.map_map, List.length_nil]
        refine List.map_congr_left fun line member => ?_
        simp [CountedLine.level, (inText line member).content_indent]
      · simp only [List.forall_mem_map]
        intro line member
        rw [declares, (inText line member).content_indent]
        exact List.isPrefixOf_iff_prefix.mpr (declared line member)
  | cons header headers ih =>
      obtain ⟨outer, others⟩ := List.forall_mem_cons.mp framed
      have closed := balance_nestedBlocks inText (fun header member => (others header member).1)
        (depth + 1)
      have inside := ih others (depth + 1)
      have notHeader : declares (indent depth header) = false := by
        rw [declares, outer.1.content_indent]
        exact outer.2
      have notOpening : declares (indent depth ['\x7b']) = false := by
        rw [declares, content_indent (by decide)]
        decide
      have notClosing : declares (indent depth ['\x7d']) = false := by
        rw [declares, content_indent (by decide)]
        decide
      rw [nestedBlocks, countLines_block outer.1 closed, declarationsAt,
        List.filter_cons_of_neg (by simp [notHeader]),
        List.filter_cons_of_neg (by simp [notOpening]), List.filter_append,
        List.filter_cons_of_neg (by simp [notClosing]), List.filter_nil, List.append_nil,
        ← declarationsAt, inside]
      refine List.map_congr_left fun line _ => ?_
      rw [List.length_cons, Prod.mk.injEq]
      exact ⟨by omega, rfl⟩

/-! ### Scopes of decoded functions -/

/-- The declarations of a scope bind decoded functions, and nothing in it breaks a line. -/
structure Scope.Assembled (scope : Scope) : Prop where
  declared : ∃ exports : List Export, scope.declarations = exports.map Declaration.ofExport
  namespaceName : '\n' ∉ scope.namespaceName
  nesting : ∀ name ∈ scope.nesting, '\n' ∉ name
  literal : '\n' ∉ scope.literal

/-- Names from a listing are letters and digits, so they break no line. -/
theorem Scope.Assembled.unbroken (assembled : scope.Assembled) : scope.Unbroken where
  namespaceName := assembled.namespaceName
  nesting := assembled.nesting
  literal := assembled.literal
  names := by
    obtain ⟨exports, declarations⟩ := assembled.declared
    intro declaration member
    rw [declarations] at member
    obtain ⟨e, _, rfl⟩ := List.mem_map.mp member
    exact fun feed => absurd (Identifier.isWord_canonical e.identifier _ feed) (by decide)

theorem isHeader_headers (scope : Scope) : ∀ header ∈ scope.headers, IsHeader header := by
  intro header member
  rcases List.mem_append.mp member with outermost | inner
  · split at outermost
    · cases outermost
    · obtain rfl := List.mem_singleton.mp outermost
      exact ⟨⟨'n', "amespace ".toList ++ scope.namespaceName, rfl, by decide⟩, rfl⟩
  · obtain ⟨name, _, rfl⟩ := List.mem_map.mp inner
    exact ⟨⟨'p', "artial class ".toList ++ name, rfl, by decide⟩, rfl⟩

/-- The level of the declarations of a scope: inside the namespace, if it has a name, and inside all
classes. -/
def Scope.declarationLevel (scope : Scope) : Nat :=
  (if scope.namespaceName.isEmpty then 0 else 1) + scope.nesting.length

theorem length_headers (scope : Scope) : scope.headers.length = scope.declarationLevel := by
  rw [Scope.headers, List.length_append, List.length_map, Scope.declarationLevel]
  split <;> rfl

/-- The blocks of a target are named like it, outermost first. -/
theorem headers_ofTarget (target : Target) (declarations : List Declaration) :
    List.Forall₂ (fun header name =>
        header = "namespace ".toList ++ name ∨ header = "partial class ".toList ++ name)
      (Scope.ofTarget target declarations).headers target.scopeNames := by
  have classes : List.Forall₂ (fun header name =>
      header = "namespace ".toList ++ name ∨ header = "partial class ".toList ++ name)
      (target.nesting.map ("partial class ".toList ++ ·)) target.nesting := by
    rw [List.forall₂_map_left_iff]
    exact List.forall₂_same.mpr fun name _ => .inr rfl
  rw [Scope.headers, Target.scopeNames, Scope.ofTarget]
  split
  · exact classes
  · exact .cons (.inl rfl) classes

/-- Cut at its dots, the qualified name of a target gives back the names of its blocks; a name that
has dots itself is cut there too. -/
theorem segments_qualifiedName {target : Target} (named : target.scopeNames ≠ []) :
    segments (· == '.') target.qualifiedName =
      target.scopeNames.flatMap (segments (· == '.')) := by
  obtain ⟨first, others, names⟩ := List.exists_cons_of_ne_nil named
  rw [Target.qualifiedName, names]
  clear names
  induction others generalizing first with
  | nil => simp
  | cons second others ih =>
      rw [List.intercalate_cons_cons, List.append_assoc, List.singleton_append,
        segments_append_separator rfl, ih]
      rfl

theorem notMem_indent (visible : c ≠ ' ') (missing : c ∉ line) (depth : Nat) :
    c ∉ indent depth line := by
  simp [indent, visible, missing]

/-- Blocks are written with blanks, braces and what is put into them. -/
theorem notMem_nestedBlocks (outside : c ∉ [' ', '\x7b', '\x7d']) (inBody : ∀ line ∈ body, c ∉ line)
    (inHeaders : ∀ header ∈ headers, c ∉ header) (depth : Nat) :
    ∀ line ∈ nestedBlocks depth body headers, c ∉ line := by
  obtain ⟨visible, opens, closes, _⟩ : c ≠ ' ' ∧ c ≠ '\x7b' ∧ c ≠ '\x7d' ∧ True := by
    simpa using outside
  induction headers generalizing depth with
  | nil =>
      simp only [nestedBlocks, List.forall_mem_map]
      exact fun line member => notMem_indent visible (inBody line member) depth
  | cons header headers ih =>
      obtain ⟨outer, others⟩ := List.forall_mem_cons.mp inHeaders
      simp only [nestedBlocks, List.forall_mem_cons, List.forall_mem_append]
      exact ⟨notMem_indent visible outer depth, notMem_indent visible (by simpa using opens) depth,
        ih others (depth + 1), notMem_indent visible (by simpa using closes) depth, by simp⟩

theorem Scope.Unbroken.feed_notMem_lines (unbroken : scope.Unbroken) :
    ∀ line ∈ scope.lines, '\n' ∉ line :=
  notMem_nestedBlocks (by decide) (fun line member => (unbroken.isDeclarationLine line member).unbroken)
    (fun header member => (unbroken.isFrame_headers header member).unbroken) 0

theorem wellNested_lines (unbroken : scope.Unbroken) : WellNested 0 scope.lines :=
  wellNested_nestedBlocks
    (fun line member => isText_of_importStart (unbroken.isDeclarationLine line member).starts)
    (fun header member => (isHeader_headers scope header member).1) 0

theorem declarationsAt_lines (unbroken : scope.Unbroken) :
    declarationsAt (countLines 0 scope.lines) = scope.declarations.map fun declaration =>
      ((scope.declarationLevel : Int), declaration.render scope.literal) := by
  have found := declarationsAt_nestedBlocks
    (fun line member => (unbroken.isDeclarationLine line member).starts) (isHeader_headers scope) 0
  rw [List.map_map, length_headers] at found
  simpa [Function.comp_def, Scope.lines] using found

/-! ### Whole files -/

def SourceUnit.fileLines (unit : SourceUnit) : List (List Char) :=
  "using System.Runtime.InteropServices;".toList ::
    unit.scopes.flatMap fun scope => [] :: scope.lines

theorem render_eq_unlines (unit : SourceUnit) : unit.render = unlines unit.fileLines := by
  obtain ⟨key, scopes⟩ := unit
  have blocks : (scopes.flatMap fun scope => '\n' :: scope.render) =
      unlines (scopes.flatMap fun scope => [] :: scope.lines) := by
    induction scopes with
    | nil => rfl
    | cons scope rest ih =>
        rw [List.flatMap_cons, List.flatMap_cons, unlines_append, ih]
        rfl
  rw [SourceUnit.render, blocks]
  rfl

theorem length_filter_declares_lines (unbroken : ∀ scope ∈ unit.scopes, scope.Unbroken) :
    (unit.fileLines.filter declares).length = unit.declarationCount := by
  obtain ⟨key, scopes⟩ := unit
  have header : declares "using System.Runtime.InteropServices;".toList = false := by decide
  have blank : declares [] = false := rfl
  rw [SourceUnit.fileLines, List.filter_cons_of_neg (by rw [header]; decide), SourceUnit.declarationCount]
  induction scopes with
  | nil => rfl
  | cons scope rest ih =>
      obtain ⟨first, others⟩ := List.forall_mem_cons.mp unbroken
      have declared := length_filter_declares 0 scope.lines
      rw [declarationsAt_lines first, List.length_map] at declared
      rw [List.flatMap_cons, List.flatMap_cons, List.cons_append,
        List.filter_cons_of_neg (by simp [blank]), List.filter_append, List.length_append,
        List.length_append, declared, ih others]

theorem render_eq_blocks (unit : SourceUnit) :
    unit.render = "using System.Runtime.InteropServices;\n".toList ++
      unit.scopes.flatMap fun scope => '\n' :: scope.renderInto [] := by
  have blocks : (unit.scopes.flatMap fun scope => '\n' :: scope.render) =
      unit.scopes.flatMap fun scope => '\n' :: scope.renderInto [] :=
    List.flatMap_congr fun scope _ => by rw [renderInto_eq, List.nil_append]
  exact congrArg (SourceUnit.usingLine ++ ·) blocks

/-- A file is the using line and, for each scope in turn, a blank line and the block of the scope.
Read line by line, a block is well nested, and its declarations are those of the scope, all at the
level inside the namespace and the classes; a file has as many declarations as it counts. Writing a
scope only appends to a text, and so does pushing it to a unit. -/
theorem render_well_nested (key : List Char) (scopes : List Scope)
    (assembled : ∀ scope ∈ scopes, scope.Assembled) :
    let unit := scopes.foldl SourceUnit.push (.empty key)
    unit.render = "using System.Runtime.InteropServices;\n".toList ++
      scopes.flatMap (fun scope => '\n' :: scope.renderInto []) ∧
    (∀ scope ∈ scopes, ∃ lines, scope.renderInto [] = unlines lines ∧
      endedLines (scope.renderInto []) = lines ∧ WellNested 0 lines ∧
      declarationsAt (countLines 0 lines) = scope.declarations.map fun declaration =>
        ((scope.declarationLevel : Int), declaration.render scope.literal)) ∧
    ((endedLines unit.render).filter declares).length = unit.declarationCount ∧
    (∀ scope : Scope, ∀ text, scope.renderInto text = text ++ scope.renderInto []) ∧
    ∀ scope, (unit.push scope).render = unit.render ++ '\n' :: scope.renderInto [] := by
  intro unit
  have pushed : unit.scopes = scopes := scopes_foldl_push scopes (.empty key)
  have unbroken : ∀ scope ∈ unit.scopes, scope.Unbroken := fun scope member =>
    (assembled scope (pushed ▸ member)).unbroken
  refine ⟨?_, fun scope member => ?_, ?_, renderInto_append, render_push unit⟩
  · rw [render_eq_blocks, pushed]
  · have whole := (assembled scope member).unbroken
    have written : scope.renderInto [] = unlines scope.lines := renderInto_eq scope []
    refine ⟨scope.lines, written, ?_, wellNested_lines whole, declarationsAt_lines whole⟩
    rw [written, endedLines_unlines whole.feed_notMem_lines]
  · have ended : ∀ line ∈ unit.fileLines, '\n' ∉ line := by
      refine List.forall_mem_cons.mpr ⟨by decide, fun line member => ?_⟩
      obtain ⟨scope, inside, found⟩ := List.mem_flatMap.mp member
      rcases List.mem_cons.mp found with rfl | later
      · simp
      · exact (unbroken scope inside).feed_notMem_lines line later
    rw [render_eq_unlines, endedLines_unlines ended, length_filter_declares_lines unbroken]

theorem render_well_nested_nestedClass :
    let e : Export := ⟨3, "clamp".toList, ⟨.int, 0⟩, [⟨.int, 1⟩]⟩
    let scope : Scope :=
      ⟨[], ["Outer".toList, "Inner".toList], "\"m.dll\"".toList, [Declaration.ofExport e]⟩
    let declaration := "[DllImport(\"m.dll\", EntryPoint = \"#3\")] ".toList ++
      "public unsafe extern static int Clamp(int* param1);".toList
    let lines :=
      ["partial class Outer".toList,
        "\x7b".toList,
        "    partial class Inner".toList,
        "    \x7b".toList,
        "        ".toList ++ declaration,
        "    \x7d".toList,
        "\x7d".toList]
    (∀ part ∈ [scope], part.Assembled) ∧ endedLines (scope.renderInto []) = lines ∧
      WellNested 0 lines ∧ declarationsAt (countLines 0 lines) = [(2, declaration)] := by
  intro e scope declaration lines
  have assembled : ∀ part ∈ [scope], part.Assembled := by
    intro part member
    obtain rfl := List.mem_singleton.mp member
    exact ⟨⟨[e], rfl⟩, by decide, by decide, by decide⟩
  have written : endedLines (scope.renderInto []) = lines := by decide +kernel
  have rendered : (Declaration.ofExport e).render scope.literal = declaration := by decide +kernel
  have blocks := (render_well_nested "m.dll.g.cs".toList [scope] assembled).2.1
  obtain ⟨found, _, ended, nested, declared⟩ := blocks scope (List.mem_singleton.mpr rfl)
  obtain rfl : lines = found := written.symm.trans ended
  have single : scope.declarations.map (fun declaration =>
      ((scope.declarationLevel : Int), declaration.render scope.literal)) = [(2, declaration)] := by
    rw [List.map_singleton, rendered]
    rfl
  rw [single] at declared
  exact ⟨assembled, written, nested, declared⟩

end NativeInterop.Binding
