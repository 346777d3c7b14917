import NativeInterop.Binding.SourceUnit
import NativeInterop.Proofs.Text.Digits
import NativeInterop.Proofs.Text.Lines

namespace NativeInterop.Binding

open Text Signature

/-! Finding the declarations in a generated file again. Each is a line of its own that begins like
no other line does, so all of them are found in their order, however deep the blocks around them
are. -/

variable {before line name rest : List Char} {lines body headers : List (List Char)} {c : Char}
  {declaration : Declaration} {literal : List Char} {scope : Scope} {unit : SourceUnit}

/-- What a declaration begins with, and no other line of a generated file. -/
def importStart : List Char :=
  "[DllImport(".toList

theorem importStart_eq_cons : importStart = '[' :: "DllImport(".toList := rfl

/-- The lines of a file that are declarations, without their indentation. -/
def declarationLines (text : List Char) : List (List Char) :=
  ((Text.lines text).map (·.dropWhile (· == ' '))).filter (importStart.isPrefixOf ·)

/-! ### Lines one after the other -/

theorem declarationLines_append (ended : EndsLine before) (text : List Char) :
    declarationLines (before ++ text) = declarationLines before ++ declarationLines text := by
  rw [declarationLines, lines_append ended, List.map_append, List.filter_append]
  rfl

theorem endsLine_unlines (lines : List (List Char)) : EndsLine (unlines lines) := by
  induction lines with
  | nil => exact .inl rfl
  | cons line rest ih => exact (endsLine_append_feed line).append ih

theorem declarationLines_unlines (lines : List (List Char)) :
    declarationLines (unlines lines) = lines.flatMap fun line => declarationLines (line ++ ['\n']) := by
  induction lines with
  | nil => rfl
  | cons line rest ih =>
      rw [List.flatMap_cons, ← ih, ← declarationLines_append (endsLine_append_feed line)]
      rfl

/-- Lines that are written are the lines that are read, if none holds its own end. -/
theorem lines_unlines (unbroken : ∀ line ∈ lines, '\n' ∉ line)
    (plain : ∀ line ∈ lines, line.getLast? ≠ some '\r') : Text.lines (unlines lines) = lines := by
  induction lines with
  | nil => rfl
  | cons line rest ih =>
      rw [List.forall_mem_cons] at unbroken plain
      have split : unlines (line :: rest) = line ++ '\n' :: unlines rest := by simp [unlines]
      rw [split, lines_append_feed unbroken.1 plain.1, ih unbroken.2 plain.2]

/-! ### Lines around declarations -/

/-- A line that is no declaration, whatever stands before it. -/
structure IsFrame (line : List Char) : Prop where
  unbroken : '\n' ∉ line
  begins : ∃ c rest, line = c :: rest ∧ c ≠ ' ' ∧ c ≠ '[' ∧ c ≠ '\r'

theorem lines_indent (begins : c ≠ '\n' ∧ c ≠ '\r') (unbroken : '\n' ∉ rest) (depth : Nat) :
    ∃ kept, Text.lines (List.replicate depth ' ' ++ c :: (rest ++ ['\n'])) =
      [List.replicate depth ' ' ++ c :: kept] := by
  induction depth with
  | zero =>
      obtain ⟨kept, one⟩ := exists_lines_eq_singleton unbroken
      refine ⟨kept, ?_⟩
      rw [List.replicate_zero, List.nil_append, lines_cons begins.1 (absurd · begins.2), one]
      rfl
  | succ depth ih =>
      obtain ⟨kept, one⟩ := ih
      refine ⟨kept, ?_⟩
      rw [List.replicate_succ, List.cons_append, lines_cons (by decide) (by simp), one]
      rfl

theorem IsFrame.declarationLines_indent (frame : IsFrame line) (depth : Nat) :
    declarationLines (indent depth line ++ ['\n']) = [] := by
  obtain ⟨c, rest, rfl, notBlank, notBracket, notReturn⟩ := frame.begins
  obtain ⟨notFeed, unbroken⟩ := List.ne_and_not_mem_of_not_mem_cons frame.unbroken
  obtain ⟨kept, one⟩ := lines_indent ⟨Ne.symm notFeed, notReturn⟩ unbroken (4 * depth)
  have trimmed : (List.replicate (4 * depth) ' ' ++ c :: kept).dropWhile (· == ' ') = c :: kept := by
    rw [List.dropWhile_append_of_pos (by simp), List.dropWhile_cons_of_neg (by simpa using notBlank)]
  rw [declarationLines, indent, List.append_assoc, List.cons_append, one, List.map_singleton,
    trimmed]
  have other : importStart.isPrefixOf (c :: kept) = false := by
    rw [importStart_eq_cons, List.isPrefixOf_cons_cons, beq_false_of_ne (Ne.symm notBracket),
      Bool.false_and]
  rw [List.filter_cons_of_neg (by simp [other]), List.filter_nil]

/-! ### Declarations -/

/-- A line that is found as it is, whatever blanks stand before it. -/
structure IsDeclarationLine (line : List Char) : Prop where
  unbroken : '\n' ∉ line
  starts : importStart <+: line
  ends : line.getLast? ≠ some '\r'

theorem IsDeclarationLine.declarationLines_indent (declared : IsDeclarationLine line)
    (depth : Nat) : declarationLines (indent depth line ++ ['\n']) = [line] := by
  obtain ⟨later, whole⟩ := declared.starts
  have nonempty : line ≠ [] := by
    rw [← whole, importStart_eq_cons]
    exact List.cons_ne_nil _ _
  have unbroken : '\n' ∉ indent depth line := by
    simp [indent, declared.unbroken]
  have ends : (indent depth line).getLast? ≠ some '\r' := by
    rw [indent, List.getLast?_append_of_ne_nil _ nonempty]
    exact declared.ends
  have trimmed : (indent depth line).dropWhile (· == ' ') = line := by
    rw [indent, List.dropWhile_append_of_pos (by simp), ← whole, importStart_eq_cons,
      List.cons_append, List.dropWhile_cons_of_neg (by decide)]
  rw [declarationLines, lines_append_feed unbroken ends, List.map_cons, trimmed,
    List.filter_cons_of_pos (List.isPrefixOf_iff_prefix.mpr declared.starts)]
  rfl

theorem getLast?_render (declaration : Declaration) (literal : List Char) :
    (declaration.render literal).getLast? = some ';' := by
  simp [Declaration.render, Declaration.signature, List.getLast?_append, List.getLast?_cons]

theorem notMem_intercalate {separator : List Char} {parts : List (List Char)}
    (apart : c ∉ separator) (inside : ∀ part ∈ parts, c ∉ part) :
    c ∉ separator.intercalate parts := by
  induction parts with
  | nil => simp
  | cons first parts ih =>
      obtain ⟨firstApart, others⟩ := List.forall_mem_cons.mp inside
      cases parts with
      | nil => simpa using firstApart
      | cons second parts =>
          rw [List.intercalate_cons_cons]
          simp [firstApart, apart, ih others]

theorem feed_notMem_decimal (value : Nat) : '\n' ∉ decimal value :=
  fun member => absurd (isDigit_of_mem_decimal member) (by decide)

theorem isLower_of_mem_keyword {primitive : Primitive} (member : c ∈ primitive.keyword.toList) :
    c.isLower = true := by
  have small : primitive.keyword.toList.all Char.isLower = true := by
    cases primitive <;> decide
  exact List.all_eq_true.mp small c member

theorem mem_typeText {type : NativeType} (member : c ∈ type.text.toList) :
    c.isLower = true ∨ c = '*' := by
  rw [NativeType.text, String.toList_append, String.toList_ofList, List.mem_append] at member
  rcases member with letter | star
  · exact .inl (isLower_of_mem_keyword letter)
  · exact .inr (List.eq_of_mem_replicate star)

/-- What the types, names and numbers of parameters are written with. -/
def isParameterChar (c : Char) : Bool :=
  c.isLower || c.isDigit || c == '*' || c == ' '

theorem isParameterChar_of_mem {index : Nat} {types : List NativeType} {parameter : List Char}
    (listed : parameter ∈ Declaration.parameterList index types) (member : c ∈ parameter) :
    isParameterChar c = true := by
  induction types generalizing index with
  | nil => simp [Declaration.parameterList] at listed
  | cons type rest ih =>
      rw [Declaration.parameterList] at listed
      rcases List.mem_cons.mp listed with rfl | later
      · have name : " param".toList.all isParameterChar = true := by decide
        rcases List.mem_append.mp member with front | digit
        · rcases List.mem_append.mp front with inType | inName
          · rcases mem_typeText inType with small | rfl
            · simp [isParameterChar, small]
            · rfl
          · exact List.all_eq_true.mp name c inName
        · simp [isParameterChar, isDigit_of_mem_decimal digit]
      · exact ih later

/-- What a declaration is written with behind its attribute, apart from the name. -/
def isSignatureChar (c : Char) : Bool :=
  isParameterChar c || ['(', ')', ',', ';'].contains c

theorem isSignatureChar_of_isParameterChar (written : isParameterChar c = true) :
    isSignatureChar c = true := by
  simp [isSignatureChar, written]

theorem notMem_signature (outside : isSignatureChar c = false) (named : c ∉ declaration.name) :
    c ∉ declaration.signature := by
  have foreign : ∀ d, isSignatureChar d = true → d ≠ c := by
    rintro d written rfl
    rw [written] at outside
    contradiction
  have modifiers : c ∉ Declaration.modifiers declaration.requiresUnsafe := by
    have written : (Declaration.modifiers declaration.requiresUnsafe).all isSignatureChar = true := by
      cases declaration.requiresUnsafe <;> decide
    exact fun member => foreign c (List.all_eq_true.mp written c member) rfl
  have returnType : c ∉ declaration.returnType.text.toList := by
    intro member
    rcases mem_typeText member with small | rfl
    · exact foreign c (by simp [isSignatureChar, isParameterChar, small]) rfl
    · exact foreign '*' (by decide) rfl
  have separator : c ∉ [',', ' '] := by
    simp [(foreign ',' (by decide)).symm, (foreign ' ' (by decide)).symm]
  have parameters : c ∉
      List.intercalate [',', ' '] (Declaration.parameterList 1 declaration.parameters) :=
    notMem_intercalate separator fun _ listed member =>
      foreign c (isSignatureChar_of_isParameterChar (isParameterChar_of_mem listed member)) rfl
  simp [Declaration.signature, modifiers, returnType, parameters, named,
    (foreign ' ' (by decide)).symm, (foreign '(' (by decide)).symm,
    (foreign ')' (by decide)).symm, (foreign ';' (by decide)).symm]

/-- A declaration takes one line, if neither the name nor the literal breaks it. -/
theorem isDeclarationLine_render (named : '\n' ∉ declaration.name) (unbroken : '\n' ∉ literal) :
    IsDeclarationLine (declaration.render literal) where
  unbroken := by
    have start : '\n' ∉ importStart ++ literal := List.not_mem_append (by decide) unbroken
    have numbered : '\n' ∉ importStart ++ literal ++ ", EntryPoint = \"#".toList ++
        decimal declaration.ordinal.toNat :=
      List.not_mem_append (List.not_mem_append start (by decide)) (feed_notMem_decimal _)
    have imported : '\n' ∉ Declaration.importAttribute declaration.ordinal literal :=
      List.not_mem_append numbered (by decide)
    rw [Declaration.render]
    refine List.not_mem_append imported ?_
    simp [notMem_signature (by decide) named]
  starts := by
    have first : importStart <+: importStart ++ literal := List.prefix_append _ _
    have numbered := (first.trans (List.prefix_append _ ", EntryPoint = \"#".toList)).trans
      (List.prefix_append _ (decimal declaration.ordinal.toNat))
    have imported : importStart <+: Declaration.importAttribute declaration.ordinal literal :=
      numbered.trans (List.prefix_append _ _)
    exact imported.trans (List.prefix_append _ _)
  ends := by
    rw [getLast?_render]
    decide

/-! ### Whole files -/

theorem isFrame_brace {brace : Char} (curly : brace = '\x7b' ∨ brace = '\x7d') :
    IsFrame [brace] := by
  rcases curly with rfl | rfl
  · exact ⟨by decide, _, _, rfl, by decide⟩
  · exact ⟨by decide, _, _, rfl, by decide⟩

/-- The blocks add nothing to what is inside. -/
theorem declarationLines_nestedBlocks (declared : ∀ line ∈ body, IsDeclarationLine line)
    (framed : ∀ header ∈ headers, IsFrame header) (depth : Nat) :
    declarationLines (unlines (nestedBlocks depth body headers)) = body := by
  induction headers generalizing depth with
  | nil =>
      rw [nestedBlocks, declarationLines_unlines, List.flatMap_map]
      calc (body.flatMap fun line => declarationLines (indent depth line ++ ['\n']))
          = body.flatMap fun line => [line] :=
            List.flatMap_congr fun line member => (declared line member).declarationLines_indent depth
        _ = body := List.flatMap_singleton' body
  | cons header headers ih =>
      obtain ⟨outer, inner⟩ := List.forall_mem_cons.mp framed
      have within := ih inner (depth + 1)
      rw [declarationLines_unlines] at within ⊢
      rw [nestedBlocks, List.flatMap_cons, List.flatMap_cons, List.flatMap_append, within,
        List.flatMap_singleton, outer.declarationLines_indent,
        (isFrame_brace (.inl rfl)).declarationLines_indent,
        (isFrame_brace (.inr rfl)).declarationLines_indent]
      simp

/-- No part of a scope breaks a line. -/
structure Scope.Unbroken (scope : Scope) : Prop where
  namespaceName : '\n' ∉ scope.namespaceName
  nesting : ∀ name ∈ scope.nesting, '\n' ∉ name
  literal : '\n' ∉ scope.literal
  names : ∀ declaration ∈ scope.declarations, '\n' ∉ declaration.name

theorem Scope.Unbroken.isFrame_headers (unbroken : scope.Unbroken) :
    ∀ header ∈ scope.headers, IsFrame header := by
  intro header member
  rcases List.mem_append.mp member with outermost | inner
  · split at outermost
    · cases outermost
    · obtain rfl := List.mem_singleton.mp outermost
      refine ⟨?_, 'n', "amespace ".toList ++ scope.namespaceName, rfl, by decide⟩
      rw [List.mem_append, not_or]
      exact ⟨by decide, unbroken.namespaceName⟩
  · obtain ⟨name, nested, rfl⟩ := List.mem_map.mp inner
    refine ⟨?_, 'p', "artial class ".toList ++ name, rfl, by decide⟩
    rw [List.mem_append, not_or]
    exact ⟨by decide, unbroken.nesting name nested⟩

theorem Scope.Unbroken.isDeclarationLine (unbroken : scope.Unbroken) :
    ∀ line ∈ scope.declarations.map (·.render scope.literal), IsDeclarationLine line := by
  intro line member
  obtain ⟨declaration, inside, rfl⟩ := List.mem_map.mp member
  exact isDeclarationLine_render (unbroken.names declaration inside) unbroken.literal

/-- Printed one after the other, the declarations are the lines of the text. -/
theorem Scope.Unbroken.lines_declarations (unbroken : scope.Unbroken) :
    Text.lines (unlines (scope.declarations.map (·.render scope.literal))) =
      scope.declarations.map (·.render scope.literal) := by
  have declared := unbroken.isDeclarationLine
  exact lines_unlines (fun line member => (declared line member).unbroken)
    fun line member => (declared line member).ends

theorem declarationLines_scope (unbroken : scope.Unbroken) :
    declarationLines scope.render = scope.declarations.map (·.render scope.literal) :=
  declarationLines_nestedBlocks unbroken.isDeclarationLine unbroken.isFrame_headers 0

/-- The declarations of a file are found again, scope after scope. -/
theorem declarationLines_unit (unbroken : ∀ scope ∈ unit.scopes, scope.Unbroken) :
    declarationLines unit.render =
      unit.scopes.flatMap fun scope => scope.declarations.map (·.render scope.literal) := by
  obtain ⟨key, scopes⟩ := unit
  have header : declarationLines SourceUnit.usingLine = [] := by decide
  have ended : EndsLine SourceUnit.usingLine := .inr (by decide)
  rw [SourceUnit.render, declarationLines_append ended, header, List.nil_append]
  induction scopes with
  | nil => rfl
  | cons scope rest ih =>
      obtain ⟨first, others⟩ := List.forall_mem_cons.mp unbroken
      have apart : EndsLine ('\n' :: scope.render) :=
        (endsLine_append_feed []).append (endsLine_unlines scope.lines)
      rw [List.flatMap_cons, List.flatMap_cons, declarationLines_append apart, ih others,
        ← declarationLines_scope first]
      rfl

end NativeInterop.Binding
