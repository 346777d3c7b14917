import Mathlib
import NativeInterop.Export.Listing
import NativeInterop.Proofs.Text.Lines

namespace NativeInterop

/-! A listing is decoded line by line. What is told of a line depends on its text and its number
only, so the reports of two listings make up the report of both together, and every rejected line
goes by its own number. -/

open Text

variable {rows : List (List Char)} {line listing : List Char} {number : Nat}

namespace LineOutcome

theorem export?_ofLine_eq_some_iff {e : Export} :
    (ofLine number line).export? = some e ↔ decodeLine line = .ok (some e) := by
  cases decoded : decodeLine line with
  | error error => simp [ofLine, decoded, export?]
  | ok read => cases read <;> simp [ofLine, decoded, export?]

theorem rejected?_ofLine_eq_some_iff {rejected : RejectedLine} :
    (ofLine number line).rejected? = some rejected ↔
      ∃ error, decodeLine line = .error error ∧ rejected = ⟨number, trim line, error⟩ := by
  cases decoded : decodeLine line with
  | error error => simp [ofLine, decoded, rejected?, eq_comm]
  | ok read => cases read <;> simp [ofLine, decoded, rejected?]

theorem export?_ofLine_eq (number other : Nat) (line : List Char) :
    (ofLine number line).export? = (ofLine other line).export? := by
  ext e
  rw [export?_ofLine_eq_some_iff, export?_ofLine_eq_some_iff]

theorem rejected?_ofLine_add (number before : Nat) (line : List Char) :
    (ofLine (number + before) line).rejected? =
      (ofLine number line).rejected?.map fun rejected =>
        { rejected with number := rejected.number + before } := by
  unfold ofLine
  split <;> rfl

end LineOutcome

open LineOutcome

/-! ### Lines before and after -/

theorem lineOutcomes_append (number : Nat) (rows others : List (List Char)) :
    lineOutcomes number (rows ++ others) =
      lineOutcomes number rows ++ lineOutcomes (number + rows.length) others := by
  induction rows generalizing number with
  | nil => rfl
  | cons line rows ih =>
      have moved : number + 1 + rows.length = number + (rows.length + 1) := by omega
      rw [List.cons_append, lineOutcomes, ih, lineOutcomes, List.length_cons, moved]
      rfl

theorem exports_lineOutcomes_eq (number other : Nat) (rows : List (List Char)) :
    (lineOutcomes number rows).filterMap export? = (lineOutcomes other rows).filterMap export? := by
  induction rows generalizing number other with
  | nil => rfl
  | cons line rows ih =>
      rw [lineOutcomes, lineOutcomes, List.filterMap_cons, List.filterMap_cons,
        export?_ofLine_eq number other, ih (number + 1) (other + 1)]

theorem rejected_lineOutcomes_add (number before : Nat) (rows : List (List Char)) :
    (lineOutcomes (number + before) rows).filterMap rejected? =
      ((lineOutcomes number rows).filterMap rejected?).map fun rejected =>
        { rejected with number := rejected.number + before } := by
  induction rows generalizing number with
  | nil => rfl
  | cons line rows ih =>
      have moved : number + before + 1 = number + 1 + before := by omega
      rw [lineOutcomes, lineOutcomes, List.filterMap_cons, List.filterMap_cons, moved, ih,
        rejected?_ofLine_add]
      cases (ofLine number line).rejected? <;> rfl

theorem exports_append {before : List Char} (ended : EndsLine before) (listing : List Char) :
    (decodeListing (before ++ listing)).exports =
      (decodeListing before).exports ++ (decodeListing listing).exports := by
  simp only [decodeListing, lines_append ended, lineOutcomes_append, List.filterMap_append]
  rw [exports_lineOutcomes_eq (1 + (lines before).length) 1]

theorem rejected_append {before : List Char} (ended : EndsLine before) (listing : List Char) :
    (decodeListing (before ++ listing)).rejected =
      (decodeListing before).rejected ++ (decodeListing listing).rejected.map fun rejected =>
        { rejected with number := rejected.number + (lines before).length } := by
  simp only [decodeListing, lines_append ended, lineOutcomes_append, List.filterMap_append]
  rw [rejected_lineOutcomes_add]

/-! ### Numbered lines -/

/-- The lines of a listing with their numbers, from one on. -/
def numberedLines (listing : List Char) : List (List Char × Nat) :=
  (lines listing).zipIdx 1

theorem mem_numberedLines_iff :
    (line, number) ∈ numberedLines listing ↔ 1 ≤ number ∧ (lines listing)[number - 1]? = some line :=
  List.mem_zipIdx_iff_le_and_getElem?_sub

theorem increasing_numberedLines (listing : List Char) :
    (numberedLines listing).Pairwise fun line later => line.2 < later.2 := by
  have increasing := List.pairwise_lt_range' (s := 1) (n := (lines listing).length)
  rw [← List.zipIdx_map_snd 1 (lines listing), List.pairwise_map] at increasing
  exact increasing

/-- Reading something of some of the lines keeps their order. -/
theorem increasing_filterMap_numberedLines {α : Type} {read : List Char × Nat → Option α}
    {place : α → Nat} (placed : ∀ line result, read line = some result → place result = line.2)
    (listing : List Char) :
    (((numberedLines listing).filterMap read).map place).Pairwise (· < ·) := by
  rw [List.pairwise_map, List.pairwise_filterMap]
  refine (increasing_numberedLines listing).imp fun before result found later follows => ?_
  rw [placed _ _ found, placed _ _ follows]
  exact before

theorem lineOutcomes_eq_map (number : Nat) (rows : List (List Char)) :
    lineOutcomes number rows = (rows.zipIdx number).map fun line => .ofLine line.2 line.1 := by
  induction rows generalizing number with
  | nil => rfl
  | cons line rows ih => rw [lineOutcomes, ih, List.zipIdx_cons, List.map_cons]

def rejectionOf? (line : List Char × Nat) : Option RejectedLine :=
  (ofLine line.2 line.1).rejected?

def exportOf? (line : List Char × Nat) : Option (Nat × Export) :=
  (ofLine line.2 line.1).export?.map (line.2, ·)

theorem rejected_decodeListing (listing : List Char) :
    (decodeListing listing).rejected = (numberedLines listing).filterMap rejectionOf? := by
  simp only [decodeListing, lineOutcomes_eq_map, List.filterMap_map]
  rfl

theorem exports_decodeListing (listing : List Char) :
    (decodeListing listing).exports =
      ((numberedLines listing).filterMap exportOf?).map (·.2) := by
  rw [decodeListing, lineOutcomes_eq_map, List.filterMap_map, List.map_filterMap]
  refine List.filterMap_congr fun line _ => ?_
  simp [exportOf?, Option.map_map, Function.comp_def]

theorem number_of_rejectionOf? {numbered : List Char × Nat} {rejected : RejectedLine}
    (found : rejectionOf? numbered = some rejected) : rejected.number = numbered.2 := by
  obtain ⟨_, _, rfl⟩ := rejected?_ofLine_eq_some_iff.mp found
  rfl

theorem number_of_exportOf? {numbered : List Char × Nat} {placed : Nat × Export}
    (found : exportOf? numbered = some placed) : placed.1 = numbered.2 := by
  obtain ⟨_, _, rfl⟩ := Option.map_eq_some_iff.mp found
  rfl

theorem mem_rejected_iff {rejected : RejectedLine} :
    rejected ∈ (decodeListing listing).rejected ↔
      ∃ line, (line, rejected.number) ∈ numberedLines listing ∧
        decodeLine line = .error rejected.error ∧ rejected.text = trim line := by
  rw [rejected_decodeListing, List.mem_filterMap]
  constructor
  · rintro ⟨⟨line, number⟩, member, found⟩
    obtain ⟨error, failed, rfl⟩ := rejected?_ofLine_eq_some_iff.mp found
    exact ⟨line, member, failed, rfl⟩
  · rintro ⟨line, member, failed, same⟩
    refine ⟨_, member, rejected?_ofLine_eq_some_iff.mpr ⟨_, failed, ?_⟩⟩
    rw [← same]

theorem mem_placedExports_iff {e : Export} :
    (number, e) ∈ (numberedLines listing).filterMap exportOf? ↔
      ∃ line, (line, number) ∈ numberedLines listing ∧ decodeLine line = .ok (some e) := by
  rw [List.mem_filterMap]
  constructor
  · rintro ⟨⟨line, place⟩, member, found⟩
    obtain ⟨decoded, exported, same⟩ := Option.map_eq_some_iff.mp found
    cases same
    exact ⟨line, member, export?_ofLine_eq_some_iff.mp exported⟩
  · rintro ⟨line, member, decoded⟩
    refine ⟨_, member, Option.map_eq_some_iff.mpr ⟨e, ?_, rfl⟩⟩
    exact export?_ofLine_eq_some_iff.mpr decoded

/-- No line has both an export and a rejection. -/
theorem number_ne_of_decoded {e : Export} {rejected : RejectedLine}
    (placed : (number, e) ∈ (numberedLines listing).filterMap exportOf?)
    (member : rejected ∈ (decodeListing listing).rejected) : rejected.number ≠ number := by
  rintro rfl
  obtain ⟨line, here, decoded⟩ := mem_placedExports_iff.mp placed
  obtain ⟨other, there, failed, _⟩ := mem_rejected_iff.mp member
  have same : some line = some other :=
    (mem_numberedLines_iff.mp here).2.symm.trans (mem_numberedLines_iff.mp there).2
  cases same
  rw [decoded] at failed
  contradiction

/-- The reports of two listings make up that of the whole, the later lines counted on from the
earlier. Within a listing the rejected lines are those that cannot be decoded, by increasing number,
and the exports are those of other lines, in order. -/
theorem decodeListing_by_lines :
    (∀ before listing, EndsLine before →
      (decodeListing (before ++ listing)).exports =
        (decodeListing before).exports ++ (decodeListing listing).exports ∧
      (decodeListing (before ++ listing)).rejected =
        (decodeListing before).rejected ++ (decodeListing listing).rejected.map (fun rejected =>
          { rejected with number := rejected.number + (lines before).length }) ∧
      (lines before).length = before.count '\n') ∧
    ∀ listing,
      ((decodeListing listing).rejected.map (·.number)).Pairwise (· < ·) ∧
      (∀ rejected ∈ (decodeListing listing).rejected,
        1 ≤ rejected.number ∧ rejected.number ≤ (lines listing).length) ∧
      (∀ number text error, ⟨number, text, error⟩ ∈ (decodeListing listing).rejected ↔
        ∃ line, (line, number) ∈ numberedLines listing ∧ decodeLine line = .error error ∧
          text = trim line) ∧
      ∃ placed : List (Nat × Export), placed.map (·.2) = (decodeListing listing).exports ∧
        (placed.map (·.1)).Pairwise (· < ·) ∧
        (∀ number e, (number, e) ∈ placed ↔
          ∃ line, (line, number) ∈ numberedLines listing ∧ decodeLine line = .ok (some e)) ∧
        ∀ number ∈ placed.map (·.1),
          number ∉ (decodeListing listing).rejected.map (·.number) := by
  refine ⟨fun before listing ended => ⟨exports_append ended listing,
    rejected_append ended listing, length_lines_of_endsLine ended⟩,
    fun listing => ⟨?_, ?_, fun _ _ _ => mem_rejected_iff, ?_⟩⟩
  · rw [rejected_decodeListing]
    exact increasing_filterMap_numberedLines (fun _ _ => number_of_rejectionOf?) listing
  · intro rejected member
    obtain ⟨line, numbered, _⟩ := mem_rejected_iff.mp member
    have below := List.snd_lt_of_mem_zipIdx numbered
    exact ⟨List.le_snd_of_mem_zipIdx numbered, Nat.le_of_lt_succ below⟩
  · refine ⟨(numberedLines listing).filterMap exportOf?, (exports_decodeListing listing).symm,
      increasing_filterMap_numberedLines (fun _ _ => number_of_exportOf?) listing,
      fun _ _ => mem_placedExports_iff, fun number exported rejected => ?_⟩
    obtain ⟨⟨_, e⟩, placed, rfl⟩ := List.mem_map.mp exported
    obtain ⟨line, member, same⟩ := List.mem_map.mp rejected
    exact number_ne_of_decoded placed member same

/-- A rejected line keeps its place when a listing that ends in a carriage return and a line feed
comes before it. -/
theorem decodeListing_by_lines_carriageReturn :
    EndsLine "1 ?a@@YAQXZ\r\n".toList ∧
      (decodeListing ("1 ?a@@YAQXZ\r\n".toList ++ "2 ?b@@YAHXZ\n3 ?c@@YAQXZ".toList)).rejected =
        [⟨1, "1 ?a@@YAQXZ".toList, ⟨['Q'], 0⟩⟩, ⟨3, "3 ?c@@YAQXZ".toList, ⟨['Q'], 0⟩⟩] := by
  have ended : EndsLine "1 ?a@@YAQXZ\r\n".toList := .inr rfl
  have first : (decodeListing "1 ?a@@YAQXZ\r\n".toList).rejected =
      [⟨1, "1 ?a@@YAQXZ".toList, ⟨['Q'], 0⟩⟩] := by cbv
  have second : (decodeListing "2 ?b@@YAHXZ\n3 ?c@@YAQXZ".toList).rejected =
      [⟨2, "3 ?c@@YAQXZ".toList, ⟨['Q'], 0⟩⟩] := by cbv
  obtain ⟨_, joined, count⟩ :=
    decodeListing_by_lines.1 _ "2 ?b@@YAHXZ\n3 ?c@@YAQXZ".toList ended
  refine ⟨ended, ?_⟩
  rw [joined, first, second, count]
  rfl

end NativeInterop
