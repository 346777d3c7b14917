import NativeInterop.Proofs.Export.Grammar
import NativeInterop.Proofs.Text.Backtracking

namespace NativeInterop.ExportLine

open Text

/-! The form of export lines as a pattern. Reading a line finds what a backtracking search for the
pattern captures. -/

variable {line text : List Char}

def endPattern : Pattern :=
  .either (.word ['X', 'Z']) (.word ['@', 'Z'])

def runPattern : Pattern :=
  .sequence (.group (.most isRunChar)) endPattern

def signaturePattern : Pattern :=
  .sequence (.word freeFunctionMark) runPattern

def namePattern : Pattern :=
  .sequence (.group (.sequence (.char isIdentifierStart) (.most isIdentifierPart)))
    signaturePattern

def markedNamePattern : Pattern :=
  .sequence (.char (· == '?')) namePattern

def gapPattern : Pattern :=
  .sequence (.least (· != '\n')) markedNamePattern

/-- The pattern `(\d+).*?\?([_a-zA-Z][_a-zA-Z0-9]*)@@YA([_A-Z]*)(?:XZ|@Z)`. -/
def linePattern : Pattern :=
  .sequence (.group (.sequence (.char isDecimalDigit) (.most isDecimalDigit))) gapPattern

/-- The fields of a line with these captures. -/
def ofGroups? : List (List Char) → Option ExportLine
  | [digits, identifier, run] => (word32? digits).map (⟨·, identifier, run⟩)
  | _ => none

theorem groups?_endPattern (text : List Char) :
    endPattern.groups? text = if endsRun text then some [] else none := by
  rw [endPattern, Pattern.groups?_either, Pattern.groups?_word, Pattern.groups?_word, endsRun]
  cases ['X', 'Z'].isPrefixOf text <;> rfl

/-- Backtracking from the longest row of run characters ends at the longest type run. -/
theorem findSome?_rows_isRunChar (text : List Char) :
    (rows isRunChar text).reverse.findSome? (fun (row, after) =>
      if endsRun after then some row else none) = typeRun? text := by
  induction text with
  | nil => rfl
  | cons c rest ih =>
      rw [findSome?_rows_reverse_cons, typeRun?_cons, ← ih, List.map_findSome?]
      congr 3
      funext ⟨row, after⟩
      dsimp only [Function.comp_apply]
      split <;> rfl

theorem groups?_runPattern (text : List Char) :
    runPattern.groups? text = (typeRun? text).map ([·]) := by
  rw [runPattern, Pattern.groups?_most_sequence, ← findSome?_rows_isRunChar, List.map_findSome?]
  congr 1
  funext ⟨row, after⟩
  dsimp only [Function.comp_apply]
  rw [groups?_endPattern]
  split <;> rfl

theorem groups?_signaturePattern (text : List Char) :
    signaturePattern.groups? text =
      if freeFunctionMark.isPrefixOf text then
        (typeRun? (text.drop freeFunctionMark.length)).map ([·])
      else none := by
  rw [signaturePattern, Pattern.groups?_word_sequence, groups?_runPattern]

/-- No identifier is cut short: the mark after it begins with a character that no identifier has. -/
theorem groups?_signaturePattern_of_part {c : Char} (goesOn : c ∈ text.head?)
    (accepted : isIdentifierPart c = true) : signaturePattern.groups? text = none := by
  rw [groups?_signaturePattern, if_neg]
  cases text with
  | nil => simp at goesOn
  | cons d rest =>
      obtain rfl : d = c := by simpa using goesOn
      intro marked
      have different : d = '@' := by
        rw [freeFunctionMark, List.isPrefixOf_cons_cons, Bool.and_eq_true, beq_iff_eq] at marked
        exact marked.1.symm
      rw [different] at accepted
      exact absurd accepted (by decide)

theorem decoratedName?_cons (c : Char) (rest : List Char) :
    decoratedName? (c :: rest) =
      if isIdentifierStart c then
        if freeFunctionMark.isPrefixOf (rest.dropWhile isIdentifierPart) then
          (typeRun? ((rest.dropWhile isIdentifierPart).drop freeFunctionMark.length)).map
            (c :: rest.takeWhile isIdentifierPart, ·)
        else none
      else none := by
  rw [decoratedName?]
  by_cases start : isIdentifierStart c = true
  · have part := isIdentifierPart_of_start start
    simp [start, part]
  · have unstarted : ((c :: rest).takeWhile isIdentifierPart).head?.any isIdentifierStart =
        false := by
      rw [List.takeWhile_cons]
      split <;> simp [start]
    simp [start, unstarted]

theorem groups?_namePattern (text : List Char) :
    namePattern.groups? text = (decoratedName? text).map fun (identifier, run) =>
      [identifier, run] := by
  cases text with
  | nil => rfl
  | cons c rest =>
      rw [namePattern, Pattern.groups?_charMost_sequence, decoratedName?_cons]
      split
      · rw [findSome?_rows_reverse]
        · dsimp only
          rw [groups?_signaturePattern]
          split
          · rw [Option.map_map, Option.map_map]
            rfl
          · rfl
        · rintro missing ⟨row, after⟩ member
          rcases mem_rows_cases member with ⟨rfl, rfl⟩ | ⟨d, goesOn, accepted⟩
          · exact missing
          · dsimp only
            rw [groups?_signaturePattern_of_part goesOn accepted]
            rfl
      · rfl

theorem groups?_markedNamePattern_cons (c : Char) (rest : List Char) :
    markedNamePattern.groups? (c :: rest) =
      (if c == '?' then decoratedName? rest else none).map fun (identifier, run) =>
        [identifier, run] := by
  rw [markedNamePattern, Pattern.groups?_char_sequence, groups?_namePattern]
  split <;> rfl

theorem groups?_gapPattern (unbroken : '\n' ∉ text) :
    gapPattern.groups? text = (findName? text).map fun (identifier, run) => [identifier, run] := by
  rw [gapPattern]
  induction text with
  | nil => rfl
  | cons c rest ih =>
      have gap : (c != '\n') = true := by
        simpa using (List.ne_of_not_mem_cons unbroken).symm
      rw [Pattern.groups?_least_sequence_cons, gap, if_pos rfl,
        ih (List.not_mem_of_not_mem_cons unbroken), groups?_markedNamePattern_cons, findName?_cons,
        Option.map_or]

theorem not_mem_of_decimal {row : List Char} (decimal : ∀ c ∈ row, isDecimalDigit c = true) :
    '?' ∉ row :=
  fun member => absurd (decimal '?' member) (by decide)

theorem findName?_eq_none_of_suffix {rest : List Char} (missing : findName? text = none)
    (tail : rest <:+ text) : findName? rest = none := by
  obtain ⟨before, rfl⟩ := tail
  refine findName?_eq_none_iff.mpr fun gap name whole => ?_
  refine findName?_eq_none_iff.mp missing (before ++ gap) name ?_
  rw [whole, List.append_assoc]

/-- Fewer digits than all gain nothing, since none of them is a question mark. -/
theorem groups?_linePattern_cons (c : Char) {rest : List Char} (unbroken : '\n' ∉ rest) :
    linePattern.groups? (c :: rest) =
      if isDecimalDigit c then
        (findName? rest).map fun (identifier, run) =>
          [c :: rest.takeWhile isDecimalDigit, identifier, run]
      else none := by
  rw [linePattern, Pattern.groups?_charMost_sequence]
  split
  · have same : ∀ choice ∈ rows isDecimalDigit rest,
        gapPattern.groups? choice.2 =
          (findName? rest).map fun (identifier, run) => [identifier, run] := by
      rintro ⟨row, after⟩ member
      obtain ⟨rfl, decimal⟩ := mem_rows_iff.mp member
      rw [findName?_append (not_mem_of_decimal decimal), groups?_gapPattern]
      exact fun broken => unbroken (List.mem_append_right row broken)
    have longest : (rest.takeWhile isDecimalDigit, rest.dropWhile isDecimalDigit) ∈
        rows isDecimalDigit rest :=
      mem_rows_iff.mpr ⟨List.takeWhile_append_dropWhile.symm, fun c => List.mem_takeWhile_imp⟩
    rw [findSome?_rows_reverse]
    · dsimp only
      rw [same _ longest, Option.map_map]
      rfl
    · rintro missing ⟨row, after⟩ member
      dsimp only at missing ⊢
      rw [same _ longest] at missing
      rw [same _ member]
      simpa using missing
  · rfl

theorem search?_linePattern (unbroken : '\n' ∉ line) :
    linePattern.search? line =
      (fields? line).map fun (digits, identifier, run) => [digits, identifier, run] := by
  induction line with
  | nil => rfl
  | cons c rest ih =>
      have later := List.not_mem_of_not_mem_cons unbroken
      rw [Pattern.search?, ih later, groups?_linePattern_cons c later]
      by_cases digit : isDecimalDigit c = true
      · have skipped : findName? (rest.dropWhile isDecimalDigit) = findName? rest := by
          have decimal : ∀ d ∈ rest.takeWhile isDecimalDigit, isDecimalDigit d = true :=
            fun d => List.mem_takeWhile_imp
          rw [← findName?_append (not_mem_of_decimal decimal), List.takeWhile_append_dropWhile]
        have here : fields? (c :: rest) = (findName? rest).map fun name =>
            (c :: rest.takeWhile isDecimalDigit, name) := by
          rw [← skipped, fields?, List.dropWhile_cons_of_neg (by simp [digit]),
            List.dropWhile_cons_of_pos digit, List.takeWhile_cons_of_pos digit, Option.map_eq_bind]
          rfl
        rw [if_pos digit, here]
        cases named : findName? rest with
        | some name => rfl
        | none =>
            -- Later digits are no help: the text after them is a part of the text searched.
            have tail : (rest.dropWhile (!isDecimalDigit ·)).dropWhile isDecimalDigit <:+ rest :=
              (List.dropWhile_suffix _).trans (List.dropWhile_suffix _)
            have nowhere : fields? rest = none := by
              rw [fields?, findName?_eq_none_of_suffix named tail]
              rfl
            rw [nowhere]
            rfl
      · have here : fields? (c :: rest) = fields? rest := by
          rw [fields?, fields?, List.dropWhile_cons_of_pos (by simp [digit])]
        rw [if_neg digit, here, Option.none_or]

/-- Reading a line succeeds exactly on lines of the right form. What it returns is fixed by the
first digits, the first question mark and the longest type run, and is what a backtracking search
for the pattern captures. No later digits stand in for first digits that are no ASCII numeral of 32
bits. -/
theorem parse?_leftmost_first (unbroken : '\n' ∉ line) :
    (∀ fields, parse? line = some fields ↔
      ∃ digits after gap name, Captures line digits after gap name fields) ∧
    ((∃ fields, parse? line = some fields) ↔ Accepts line) ∧
    parse? line = (linePattern.search? line).bind ofGroups? ∧
    ∀ digits after, FirstDigits line digits after →
      ¬ ((∀ c ∈ digits, c.isDigit = true) ∧ digitsValue digits < UInt32.size) →
      parse? line = none := by
  refine ⟨fun fields => parse?_eq_some_iff unbroken, exists_parse?_iff unbroken, ?_, ?_⟩
  · rw [parse?_of_unbroken unbroken, search?_linePattern unbroken, Option.bind_map]
    rfl
  · intro digits after digits_first refused
    cases parsed : parse? line with
    | none => rfl
    | some fields =>
        obtain ⟨other, rest, _, _, _, _, other_first, ascii, bound, _⟩ :=
          (exists_parse?_iff unbroken).mp ⟨fields, parsed⟩
        have same : other = digits :=
          (firstDigits_iff.mp other_first).2.1.trans (firstDigits_iff.mp digits_first).2.1.symm
        rw [same] at ascii bound
        exact absurd ⟨ascii, bound⟩ refused

/-- The run of `7 ?f@@YAXXZ=?g@@YAXZ` goes up to the last mark after its name, and the digit of an
overlong number does not count on its own. -/
theorem parse?_leftmost_first_repeatedName :
    '\n' ∉ "7 ?f@@YAXXZ=?g@@YAXZ".toList ∧
    (∃ digits after gap name, Captures "7 ?f@@YAXXZ=?g@@YAXZ".toList digits after gap name
      ⟨7, ['f'], ['X']⟩) ∧
    '\n' ∉ "4294967296 5 ?f@@YAXXZ".toList ∧ parse? "4294967296 5 ?f@@YAXXZ".toList = none := by
  refine ⟨by decide, ?_, by decide, ?_⟩
  · exact ((parse?_leftmost_first (by decide)).1 _).mp (by decide)
  · refine (parse?_leftmost_first (by decide)).2.2.2 "4294967296".toList " 5 ?f@@YAXXZ".toList ?_ ?_
    · exact firstDigits_iff.mpr (by decide)
    · rw [not_and]
      intro _
      decide

end NativeInterop.ExportLine
