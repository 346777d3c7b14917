import Mathlib

namespace NativeInterop.Text

/-! Scanning a text for parts that do not overlap. At each turn the leftmost part is taken, and of
those that begin there the shortest; the scan goes on where it stops. -/

variable {IsPart : Nat → Nat → Prop} {start first stop place : Nat} {parts : List (Nat × Nat)}

/-- The part to be taken next from `start` on. A part goes from its first place up to, but not
including, the place where it stops. -/
structure NextPart (IsPart : Nat → Nat → Prop) (start first stop : Nat) : Prop where
  found : IsPart first stop
  behind : start ≤ first
  leftmost : ∀ other later, start ≤ other → IsPart other later → first ≤ other
  shortest : ∀ other, IsPart first other → stop ≤ other

inductive Scan (IsPart : Nat → Nat → Prop) : Nat → List (Nat × Nat) → Prop
  | done {start : Nat} (absent : ∀ first stop, start ≤ first → ¬ IsPart first stop) :
      Scan IsPart start []
  | next {start first stop : Nat} {rest : List (Nat × Nat)}
      (part : NextPart IsPart start first stop) (later : Scan IsPart stop rest) :
      Scan IsPart start ((first, stop) :: rest)

def Covered (parts : List (Nat × Nat)) (place : Nat) : Prop :=
  ∃ part ∈ parts, part.1 ≤ place ∧ place < part.2

theorem exists_nextPart (behind : start ≤ first) (found : IsPart first stop) :
    ∃ first stop, NextPart IsPart start first stop := by
  classical
  have some : ∃ place, start ≤ place ∧ ∃ stop, IsPart place stop := ⟨first, behind, stop, found⟩
  obtain ⟨leftmostBehind, ending⟩ := Nat.find_spec some
  refine ⟨Nat.find some, Nat.find ending, Nat.find_spec ending, leftmostBehind, ?_, ?_⟩
  · intro other later otherBehind part
    exact Nat.find_min' some ⟨otherBehind, later, part⟩
  · intro other part
    exact Nat.find_min' ending part

theorem NextPart.unique {first' stop' : Nat} (part : NextPart IsPart start first stop)
    (again : NextPart IsPart start first' stop') : first = first' ∧ stop = stop' := by
  have sameFirst : first = first' :=
    Nat.le_antisymm (part.leftmost _ _ again.behind again.found)
      (again.leftmost _ _ part.behind part.found)
  subst sameFirst
  exact ⟨rfl, Nat.le_antisymm (part.shortest _ again.found) (again.shortest _ part.found)⟩

theorem exists_scan {limit : Nat}
    (bounded : ∀ first stop, IsPart first stop → first < stop ∧ stop ≤ limit) (start : Nat) :
    ∃ parts, Scan IsPart start parts := by
  induction left : limit - start using Nat.strong_induction_on generalizing start with
  | _ room ih =>
      by_cases absent : ∀ first stop, start ≤ first → ¬ IsPart first stop
      · exact ⟨[], .done absent⟩
      · push Not at absent
        obtain ⟨_, _, behind, found⟩ := absent
        obtain ⟨first, stop, part⟩ := exists_nextPart behind found
        have bounds := bounded first stop part.found
        have forward := part.behind
        obtain ⟨rest, later⟩ := ih (limit - stop) (by omega) stop rfl
        exact ⟨(first, stop) :: rest, .next part later⟩

theorem Scan.unique {other : List (Nat × Nat)} (scan : Scan IsPart start parts)
    (again : Scan IsPart start other) : parts = other := by
  induction scan generalizing other with
  | done absent =>
      cases again with
      | done => rfl
      | next part _ => exact absurd part.found (absent _ _ part.behind)
  | next part _ ih =>
      cases again with
      | done absent => exact absurd part.found (absent _ _ part.behind)
      | next partAgain laterAgain =>
          obtain ⟨rfl, rfl⟩ := part.unique partAgain
          rw [ih laterAgain]

theorem covered_cons_iff {part : Nat × Nat} :
    Covered (part :: parts) place ↔ (part.1 ≤ place ∧ place < part.2) ∨ Covered parts place := by
  simp [Covered]

/-- Every part is covered where it begins: it begins inside a part that is taken, or after it. -/
theorem Scan.covered_of_isPart (scan : Scan IsPart start parts) (behind : start ≤ place)
    (found : IsPart place stop) : Covered parts place := by
  induction scan with
  | done absent => exact absurd found (absent _ _ behind)
  | @next start first last rest part later ih =>
      rw [covered_cons_iff]
      -- Nothing begins between the start and the leftmost part.
      by_cases after : last ≤ place
      · exact .inr (ih after)
      · exact .inl ⟨part.leftmost _ _ behind found, Nat.lt_of_not_le after⟩

/-- Where each place of a part begins another one, a scan covers just the places where parts
begin. -/
theorem Scan.covered_iff (scan : Scan IsPart start parts) (behind : start ≤ place)
    (inner : ∀ first stop place, IsPart first stop → first ≤ place → place < stop →
      IsPart place stop) :
    Covered parts place ↔ ∃ stop, IsPart place stop := by
  refine ⟨fun covered => ?_, fun ⟨_, found⟩ => scan.covered_of_isPart behind found⟩
  clear behind
  induction scan with
  | done _ => simp [Covered] at covered
  | @next start first last rest part later ih =>
      rcases covered_cons_iff.mp covered with ⟨begun, unfinished⟩ | further
      · exact ⟨last, inner first last place part.found begun unfinished⟩
      · exact ih further

end NativeInterop.Text
