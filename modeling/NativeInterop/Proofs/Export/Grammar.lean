import NativeInterop.Export.Listing
import NativeInterop.Proofs.Text.Backtracking
import NativeInterop.Proofs.Text.Digits
import NativeInterop.Proofs.Text.Segments

namespace NativeInterop.ExportLine

open Text

/-! The grammar of export lines, and what is captured where several readings are open: the first
digits, the first question mark with a decorated name after it, and the longest type run. -/

variable {text line after digits identifier run : List Char}

def endMarks : List (List Char) :=
  [['X', 'Z'], ['@', 'Z']]

def IsIdentifier (text : List Char) : Prop :=
  ∃ first rest, text = first :: rest ∧ isIdentifierStart first = true ∧
    ∀ c ∈ rest, isIdentifierPart c = true

/-- The text begins with the type run and an end mark. -/
def Closes (run text : List Char) : Prop :=
  (∀ c ∈ run, isRunChar c = true) ∧ ∃ mark ∈ endMarks, run ++ mark <+: text

/-- The text begins with a decorated name of this identifier and this type run. -/
def Decorates (identifier run text : List Char) : Prop :=
  IsIdentifier identifier ∧ ∃ rest, text = identifier ++ freeFunctionMark ++ rest ∧ Closes run rest

/-- The first row of decimal digits on the line, as a whole, and the text after it. -/
structure FirstDigits (line digits after : List Char) : Prop where
  nonempty : digits ≠ []
  decimal : ∀ c ∈ digits, isDecimalDigit c = true
  whole : ∀ c ∈ after.head?, isDecimalDigit c = false
  first : ∃ before, line = before ++ digits ++ after ∧ ∀ c ∈ before, isDecimalDigit c = false

/-- What is captured of a line: the number is the value of its first digits, the question mark is
the first after them with a decorated name, the identifier reaches up to the first character that
cannot go on with it, and no longer type run is possible. -/
structure Captures (line digits after gap name : List Char) (fields : ExportLine) : Prop where
  digits_first : FirstDigits line digits after
  ascii : ∀ c ∈ digits, c.isDigit = true
  value : digitsValue digits = fields.ordinal.toNat
  marked : after = gap ++ '?' :: name
  decorated : Decorates fields.identifier fields.typeRun name
  mark_first : ∀ earlier other identifier run, after = earlier ++ '?' :: other →
    Decorates identifier run other → gap.length ≤ earlier.length
  identifier_whole : fields.identifier = name.takeWhile isIdentifierPart
  run_longest : ∀ identifier run, Decorates identifier run name →
    run.length ≤ fields.typeRun.length

/-- A line is of the right form when any question mark after its first digits has a decorated name,
and these digits are an ASCII numeral of 32 bits. -/
def Accepts (line : List Char) : Prop :=
  ∃ digits after gap name identifier run, FirstDigits line digits after ∧
    (∀ c ∈ digits, c.isDigit = true) ∧ digitsValue digits < UInt32.size ∧
    after = gap ++ '?' :: name ∧ Decorates identifier run name

/-! ### Type runs -/

theorem closes_nil_iff : Closes [] text ↔ endsRun text = true := by
  simp [Closes, endsRun, endMarks]

theorem closes_cons_iff {c d : Char} {rest : List Char} :
    Closes (d :: run) (c :: rest) ↔ d = c ∧ isRunChar c = true ∧ Closes run rest := by
  simp only [Closes, List.forall_mem_cons, List.cons_append, List.cons_prefix_cons]
  grind

theorem typeRun?_cons (c : Char) (rest : List Char) :
    typeRun? (c :: rest) =
      (if isRunChar c then (typeRun? rest).map (c :: ·) else none).or
        (if endsRun (c :: rest) then some [] else none) := by
  rw [typeRun?]
  split <;> split at * <;> simp_all

theorem closes_of_typeRun? (found : typeRun? text = some run) : Closes run text := by
  induction text generalizing run with
  | nil => simp [typeRun?] at found
  | cons c rest ih =>
      rw [typeRun?_cons, Option.or_eq_some_iff] at found
      rcases found with longer | ⟨_, ended⟩
      · rw [Option.ite_none_right_eq_some, Option.map_eq_some_iff] at longer
        obtain ⟨accepted, inner, found, rfl⟩ := longer
        exact closes_cons_iff.mpr ⟨rfl, accepted, ih found⟩
      · rw [Option.ite_none_right_eq_some, Option.some.injEq] at ended
        obtain ⟨ended, rfl⟩ := ended
        exact closes_nil_iff.mpr ended

theorem typeRun?_longest (closes : Closes run text) :
    ∃ longest, typeRun? text = some longest ∧ run.length ≤ longest.length := by
  induction text generalizing run with
  | nil => simp [Closes, endMarks] at closes
  | cons c rest ih =>
      rw [typeRun?_cons]
      cases run with
      | nil =>
          have ended := closes_nil_iff.mp closes
          cases longer : (if isRunChar c then (typeRun? rest).map (c :: ·) else none) with
          | none => exact ⟨[], by simp [ended], Nat.le_refl _⟩
          | some longest => exact ⟨longest, rfl, Nat.zero_le _⟩
      | cons d run =>
          obtain ⟨rfl, accepted, closes⟩ := closes_cons_iff.mp closes
          obtain ⟨longest, found, bound⟩ := ih closes
          exact ⟨d :: longest, by simp [accepted, found], by simpa using bound⟩

theorem run_prefix_of_closes (closes : Closes run text) : run <+: text := by
  obtain ⟨_, mark, _, starts⟩ := closes
  exact (List.prefix_append run mark).trans starts

theorem typeRun?_eq_some_iff :
    typeRun? text = some run ↔
      Closes run text ∧ ∀ other, Closes other text → other.length ≤ run.length := by
  constructor
  · intro found
    refine ⟨closes_of_typeRun? found, fun other closes => ?_⟩
    obtain ⟨longest, same, bound⟩ := typeRun?_longest closes
    rw [found, Option.some.injEq] at same
    rwa [same]
  · rintro ⟨closes, longest⟩
    obtain ⟨found, same, bound⟩ := typeRun?_longest closes
    have closesFound := closes_of_typeRun? same
    have starts := List.prefix_of_prefix_length_le (run_prefix_of_closes closes)
      (run_prefix_of_closes closesFound) bound
    rw [same, starts.eq_of_length (Nat.le_antisymm bound (longest found closesFound))]

theorem typeRun?_eq_none_iff : typeRun? text = none ↔ ∀ run, ¬ Closes run text := by
  constructor
  · intro missing run closes
    obtain ⟨longest, found, _⟩ := typeRun?_longest closes
    simp [missing] at found
  · intro absent
    cases found : typeRun? text with
    | none => rfl
    | some run => exact absurd (closes_of_typeRun? found) (absent run)

/-! ### Decorated names -/

theorem isIdentifierPart_of_start {c : Char} (start : isIdentifierStart c = true) :
    isIdentifierPart c = true := by
  simp only [isIdentifierStart, isIdentifierPart, Char.isAlphanum, Bool.or_eq_true] at start ⊢
  tauto

/-- The mark after an identifier ends it. -/
theorem span_name (named : IsIdentifier identifier) (rest : List Char) :
    (identifier ++ freeFunctionMark ++ rest).takeWhile isIdentifierPart = identifier ∧
      (identifier ++ freeFunctionMark ++ rest).dropWhile isIdentifierPart =
        freeFunctionMark ++ rest := by
  obtain ⟨first, parts, rfl, start, inside⟩ := named
  have whole : ∀ c ∈ first :: parts, isIdentifierPart c = true := by
    simpa [isIdentifierPart_of_start start] using inside
  have stop : ∀ c ∈ (freeFunctionMark ++ rest).head?, isIdentifierPart c = false := by
    simp [freeFunctionMark]
    decide
  rw [List.append_assoc]
  exact ⟨takeWhile_append_stop whole stop, dropWhile_append_stop whole stop⟩

theorem decorates_iff :
    Decorates identifier run text ↔
      identifier = text.takeWhile isIdentifierPart ∧
      identifier.head?.any isIdentifierStart = true ∧
      freeFunctionMark <+: text.dropWhile isIdentifierPart ∧
      Closes run ((text.dropWhile isIdentifierPart).drop freeFunctionMark.length) := by
  constructor
  · rintro ⟨named, rest, rfl, closes⟩
    obtain ⟨taken, dropped⟩ := span_name named rest
    rw [taken, dropped, List.drop_left]
    refine ⟨rfl, ?_, List.prefix_append _ _, closes⟩
    obtain ⟨first, parts, rfl, start, _⟩ := named
    simpa using start
  · rintro ⟨same, start, ⟨rest, marked⟩, closes⟩
    rw [← marked, List.drop_left] at closes
    have whole : text = identifier ++ (freeFunctionMark ++ rest) := by
      rw [marked, same, List.takeWhile_append_dropWhile]
    cases identifier with
    | nil => simp at start
    | cons first parts =>
        refine ⟨⟨first, parts, rfl, by simpa using start, fun c member => ?_⟩, rest, ?_, closes⟩
        · exact List.mem_takeWhile_imp (same ▸ List.mem_cons_of_mem first member)
        · rw [whole, List.append_assoc]

theorem decoratedName?_append (named : IsIdentifier identifier) (rest : List Char) :
    decoratedName? (identifier ++ freeFunctionMark ++ rest) =
      (typeRun? rest).map (identifier, ·) := by
  obtain ⟨taken, dropped⟩ := span_name named rest
  obtain ⟨first, parts, rfl, start, _⟩ := named
  have marked : freeFunctionMark.isPrefixOf (freeFunctionMark ++ rest) = true :=
    List.isPrefixOf_iff_prefix.mpr (List.prefix_append _ _)
  simp only [decoratedName?, taken, dropped, marked, List.drop_left, List.head?_cons,
    Option.any_some, start, Bool.and_self, if_true]

theorem decoratedName?_eq_some_iff :
    decoratedName? text = some (identifier, run) ↔
      Decorates identifier run text ∧
        ∀ other longer, Decorates other longer text → longer.length ≤ run.length := by
  simp only [decoratedName?, Option.ite_none_right_eq_some, Option.map_eq_some_iff,
    Bool.and_eq_true, List.isPrefixOf_iff_prefix, typeRun?_eq_some_iff, Prod.mk.injEq,
    decorates_iff]
  grind

theorem decoratedName?_eq_none_iff :
    decoratedName? text = none ↔ ∀ identifier run, ¬ Decorates identifier run text := by
  simp only [decoratedName?, ite_eq_right_iff, Option.map_eq_none_iff, Bool.and_eq_true,
    List.isPrefixOf_iff_prefix, typeRun?_eq_none_iff, decorates_iff]
  grind

theorem findName?_cons (c : Char) (rest : List Char) :
    findName? (c :: rest) =
      (if c == '?' then decoratedName? rest else none).or (findName? rest) := by
  rw [findName?]
  split <;> simp_all

theorem findName?_append {row : List Char} (unmarked : '?' ∉ row) (text : List Char) :
    findName? (row ++ text) = findName? text := by
  induction row with
  | nil => rfl
  | cons c row ih =>
      have passed : (c == '?') = false := by
        simpa using (List.ne_of_not_mem_cons unmarked).symm
      rw [List.cons_append, findName?_cons, passed, ih (List.not_mem_of_not_mem_cons unmarked)]
      rfl

theorem findName?_eq_none_iff :
    findName? text = none ↔ ∀ gap name, text = gap ++ '?' :: name → decoratedName? name = none := by
  induction text with
  | nil => simp [findName?]
  | cons c rest ih =>
      rw [findName?_cons, Option.or_eq_none_iff, ih]
      constructor
      · rintro ⟨here, later⟩ gap name whole
        cases gap with
        | nil =>
            cases whole
            simpa using here
        | cons d gap =>
            cases whole
            exact later gap name rfl
      · intro absent
        refine ⟨?_, fun gap name same => absent (c :: gap) name (by rw [same]; rfl)⟩
        split
        · rename_i mark
          exact absent [] rest (by rw [beq_iff_eq.mp mark]; rfl)
        · rfl

theorem findName?_eq_some_iff {name : List Char × List Char} :
    findName? text = some name ↔
      ∃ gap rest, text = gap ++ '?' :: rest ∧ decoratedName? rest = some name ∧
        ∀ earlier other, text = earlier ++ '?' :: other → earlier.length < gap.length →
          decoratedName? other = none := by
  induction text with
  | nil => simp [findName?]
  | cons c rest ih =>
      rw [findName?_cons, Option.or_eq_some_iff, ih]
      constructor
      · rintro (here | ⟨here, gap, after, rfl, found, first⟩)
        · rw [Option.ite_none_right_eq_some, beq_iff_eq] at here
          exact ⟨[], rest, by rw [here.1]; rfl, here.2, by simp⟩
        · refine ⟨c :: gap, after, rfl, found, fun earlier other same shorter => ?_⟩
          cases earlier with
          | nil =>
              cases same
              simpa using here
          | cons d earlier =>
              obtain ⟨_, later⟩ := List.cons.inj same
              exact first earlier other later (by simpa using shorter)
      · rintro ⟨gap, after, whole, found, first⟩
        cases gap with
        | nil =>
            obtain ⟨rfl, rfl⟩ := List.cons.inj whole
            exact .inl (by simpa using found)
        | cons d gap =>
            obtain ⟨rfl, rfl⟩ := List.cons.inj whole
            refine .inr ⟨?_, gap, after, rfl, found, fun earlier other same shorter => ?_⟩
            · split
              · rename_i mark
                exact first [] _ (by rw [beq_iff_eq.mp mark]; rfl) (by simp)
              · rfl
            · exact first (c :: earlier) other (by rw [List.cons_append, ← same])
                (by simpa using shorter)

/-! ### Whole lines -/

theorem firstDigits_iff :
    FirstDigits line digits after ↔
      line.dropWhile (!isDecimalDigit ·) ≠ [] ∧
      digits = (line.dropWhile (!isDecimalDigit ·)).takeWhile isDecimalDigit ∧
      after = (line.dropWhile (!isDecimalDigit ·)).dropWhile isDecimalDigit := by
  constructor
  · rintro ⟨nonempty, decimal, whole, before, rfl, first⟩
    obtain ⟨c, digits, rfl⟩ := List.exists_cons_of_ne_nil nonempty
    have numbered : (before ++ (c :: digits ++ after)).dropWhile (!isDecimalDigit ·) =
        c :: digits ++ after := by
      apply dropWhile_append_stop
      · simpa using first
      · simpa using decimal c
    rw [List.append_assoc, numbered, takeWhile_append_stop decimal whole,
      dropWhile_append_stop decimal whole]
    simp
  · rintro ⟨numbered, rfl, rfl⟩
    obtain ⟨c, rest, cut⟩ := List.exists_cons_of_ne_nil numbered
    have decimal : isDecimalDigit c = true := by
      simpa [cut] using List.head_dropWhile_not (!isDecimalDigit ·) numbered
    refine ⟨by simp [cut, decimal], fun c => List.mem_takeWhile_imp, fun c member => ?_,
      line.takeWhile (!isDecimalDigit ·), ?_, fun c member => ?_⟩
    · have stop := List.head?_dropWhile_not isDecimalDigit (line.dropWhile (!isDecimalDigit ·))
      rwa [member] at stop
    · rw [List.append_assoc, List.takeWhile_append_dropWhile, List.takeWhile_append_dropWhile]
    · simpa using List.mem_takeWhile_imp member

theorem fields?_eq_some_iff {name : List Char × List Char} :
    fields? line = some (digits, name) ↔
      ∃ after, FirstDigits line digits after ∧ findName? after = some name := by
  simp only [fields?, Option.bind_eq_some_iff, firstDigits_iff]
  grind

theorem parse?_of_unbroken (unbroken : '\n' ∉ line) :
    parse? line = (fields? line).bind fun (digits, identifier, run) =>
      (word32? digits).map (⟨·, identifier, run⟩) := by
  have single : segments (· == '\n') line = [line] :=
    segments_of_unseparated fun c member => by
      simpa using ne_of_mem_of_not_mem member unbroken
  rw [parse?, single]
  simp

theorem parse?_eq_some_iff (unbroken : '\n' ∉ line) {fields : ExportLine} :
    parse? line = some fields ↔
      ∃ digits after gap name, Captures line digits after gap name fields := by
  obtain ⟨ordinal, identifier, run⟩ := fields
  rw [parse?_of_unbroken unbroken, Option.bind_eq_some_iff]
  constructor
  · rintro ⟨⟨digits, identifier, run⟩, found, numbered⟩
    obtain ⟨after, digits_first, named⟩ := fields?_eq_some_iff.mp found
    obtain ⟨gap, name, marked, decorated, mark_first⟩ := findName?_eq_some_iff.mp named
    obtain ⟨decorates, longest⟩ := decoratedName?_eq_some_iff.mp decorated
    obtain ⟨word, read, same⟩ := Option.map_eq_some_iff.mp numbered
    cases same
    obtain ⟨ascii, value⟩ := word32?_eq_some_iff.mp read
    refine ⟨digits, after, gap, name, digits_first, ascii, value, marked, decorates, ?_,
      (decorates_iff.mp decorates).1, longest⟩
    intro earlier other identifier run same decorates
    by_contra shorter
    exact decoratedName?_eq_none_iff.mp (mark_first earlier other same (by omega)) _ _ decorates
  · rintro ⟨digits, after, gap, name, captures⟩
    refine ⟨(digits, identifier, run),
      fields?_eq_some_iff.mpr ⟨after, captures.digits_first, ?_⟩, ?_⟩
    · refine findName?_eq_some_iff.mpr ⟨gap, name, captures.marked, ?_, ?_⟩
      · exact decoratedName?_eq_some_iff.mpr ⟨captures.decorated, captures.run_longest⟩
      · intro earlier other same shorter
        refine decoratedName?_eq_none_iff.mpr fun identifier run decorates => ?_
        have bound := captures.mark_first earlier other identifier run same decorates
        omega
    · exact Option.map_eq_some_iff.mpr
        ⟨ordinal, word32?_eq_some_iff.mpr ⟨captures.ascii, captures.value⟩, rfl⟩

theorem exists_parse?_iff (unbroken : '\n' ∉ line) :
    (∃ fields, parse? line = some fields) ↔ Accepts line := by
  constructor
  · rintro ⟨fields, parsed⟩
    obtain ⟨digits, after, gap, name, captures⟩ := (parse?_eq_some_iff unbroken).mp parsed
    refine ⟨digits, after, gap, name, _, _, captures.digits_first, captures.ascii, ?_,
      captures.marked, captures.decorated⟩
    rw [captures.value]
    exact fields.ordinal.toNat_lt
  · rintro ⟨digits, after, gap, name, identifier, run, digits_first, ascii, bound, marked,
      decorates⟩
    have number : word32? digits = some (UInt32.ofNat (digitsValue digits)) :=
      word32?_eq_some_iff.mpr ⟨ascii, (UInt32.toNat_ofNat_of_lt' bound).symm⟩
    cases named : findName? after with
    | none =>
        have absent := findName?_eq_none_iff.mp named gap name marked
        exact absurd decorates (decoratedName?_eq_none_iff.mp absent identifier run)
    | some found =>
        obtain ⟨identifier, run⟩ := found
        refine ⟨⟨UInt32.ofNat (digitsValue digits), identifier, run⟩, ?_⟩
        rw [parse?_of_unbroken unbroken, Option.bind_eq_some_iff]
        exact ⟨_, fields?_eq_some_iff.mpr ⟨after, digits_first, named⟩,
          Option.map_eq_some_iff.mpr ⟨_, number, rfl⟩⟩

end NativeInterop.ExportLine
