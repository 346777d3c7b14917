import Mathlib
import NativeInterop.Generation.Generate

namespace NativeInterop.Log.Logged

variable {α β : Type}

theorem value_foldlM (step : β → α → Logged β) (first : β) (items : List α) :
    (items.foldlM step first).value =
      items.foldl (fun reached item => (step reached item).value) first := by
  induction items generalizing first with
  | nil => rfl
  | cons item items ih => rw [List.foldlM_cons, value_bind, ih, List.foldl_cons]

end NativeInterop.Log.Logged

namespace NativeInterop.Generation

open Binding Log

/-! The places that are kept for the keys stay in step with the units. So a scope comes to the unit
of its key, and a key without a unit gets one at the end. -/

variable {rendering : Rendering} {units : List SourceUnit} {source : ExportSource}
  {key : List Char} {scope : Scope} {index : Nat}

/-! ### Units and places -/

/-- The scope goes to the unit of the key, which is a new one if no other has it. -/
def addScope (key : List Char) (scope : Scope) (units : List SourceUnit) : List SourceUnit :=
  (if key ∈ units.map (·.key) then units else units ++ [.empty key]).map fun unit =>
    if unit.key = key then unit.push scope else unit

theorem push_key (key : List Char) (scope : Scope) :
    (·.key) ∘ (fun unit : SourceUnit => if unit.key = key then unit.push scope else unit) =
      (·.key) := by
  funext unit
  simp only [Function.comp_apply]
  split <;> rfl

theorem keys_addScope (key : List Char) (scope : Scope) (units : List SourceUnit) :
    (addScope key scope units).map (·.key) =
      if key ∈ units.map (·.key) then units.map (·.key) else units.map (·.key) ++ [key] := by
  rw [addScope, List.map_map, push_key]
  split
  · rfl
  · rw [List.map_append]
    rfl

theorem addScope_of_mem (member : key ∈ units.map (·.key)) :
    addScope key scope units =
      units.map fun unit => if unit.key = key then unit.push scope else unit := by
  rw [addScope, if_pos member]

theorem addScope_of_not_mem (missing : key ∉ units.map (·.key)) :
    addScope key scope units = units ++ [⟨key, [scope]⟩] := by
  have unchanged : units.map (fun unit => if unit.key = key then unit.push scope else unit) =
      units := by
    refine (List.map_congr_left fun unit inside => if_neg ?_).trans (List.map_id _)
    rintro rfl
    exact missing (List.mem_map_of_mem inside)
  rw [addScope, if_neg missing, List.map_append, unchanged]
  simp [SourceUnit.empty, SourceUnit.push]

/-- Each key is kept with its place, and no other key is kept. -/
def Placed (keys : List (List Char)) (places : List (List Char × Nat)) : Prop :=
  ∀ key index, places.lookup key = some index ↔ keys[index]? = some key

section Placed

variable {keys : List (List Char)} {places : List (List Char × Nat)}

theorem Placed.distinct (placed : Placed keys places) : keys.Nodup := by
  rw [List.nodup_iff_injective_get]
  intro first second same
  have kept := (placed _ _).mpr (List.getElem?_eq_getElem first.isLt)
  have keptToo := (placed _ _).mpr (List.getElem?_eq_getElem second.isLt)
  rw [← List.get_eq_getElem, same] at kept
  exact Fin.ext (Option.some.inj (kept.symm.trans keptToo))

theorem Placed.notMem_of_lookup (placed : Placed keys places)
    (unknown : places.lookup key = none) : key ∉ keys := by
  intro member
  obtain ⟨index, found⟩ := List.mem_iff_getElem?.mp member
  rw [(placed key index).mpr found] at unknown
  contradiction

/-- A new key comes last on both sides. -/
theorem Placed.append (placed : Placed keys places) (missing : key ∉ keys) :
    Placed (keys ++ [key]) ((key, keys.length) :: places) := by
  intro other index
  rw [List.lookup_cons]
  by_cases same : other = key
  · subst same
    have new : keys[index]? ≠ some other := fun found => missing (List.mem_of_getElem? found)
    rw [beq_self_eq_true]
    rcases Nat.lt_trichotomy index keys.length with early | rfl | late
    · rw [List.getElem?_append_left early]
      simp only [Option.some.injEq, new, iff_false]
      omega
    · simp
    · rw [List.getElem?_eq_none (by simpa using late)]
      simp only [Option.some.injEq, reduceCtorEq, iff_false]
      omega
  · rw [beq_false_of_ne same]
    refine (placed other index).trans ?_
    rcases Nat.lt_or_ge index keys.length with early | late
    · rw [List.getElem?_append_left early]
    · rw [List.getElem?_eq_none late, List.getElem?_append_right late, List.getElem?_singleton]
      split <;> simp [Ne.symm same]

end Placed

/-- The places are those of the units' keys. -/
def Rendering.InStep (rendering : Rendering) : Prop :=
  Placed (rendering.units.map (·.key)) rendering.places

theorem inStep_empty : Rendering.empty.InStep := by
  simp [Rendering.InStep, Placed, Rendering.empty]

/-- The place is that of the key's unit, and only a new key changes the units. -/
theorem Rendering.InStep.place (inStep : rendering.InStep) (key : List Char) :
    (rendering.place key).1.InStep ∧
      ((rendering.place key).1.units.map (·.key))[(rendering.place key).2]? = some key ∧
      (rendering.place key).1.toRenderedUnits =
        ⟨if key ∈ rendering.units.map (·.key) then rendering.units
          else rendering.units ++ [.empty key], rendering.rejected, rendering.failed⟩ := by
  rw [Rendering.place]
  cases found : rendering.places.lookup key with
  | some index =>
      have known := (inStep key index).mp found
      exact ⟨inStep, known, by simp only [List.mem_of_getElem? known, if_true]⟩
  | none =>
      have missing := Placed.notMem_of_lookup inStep found
      have appended := Placed.append inStep missing
      rw [List.length_map] at appended
      refine ⟨?_, by simp [SourceUnit.empty], by simp only [missing, if_false]⟩
      rw [Rendering.InStep, List.map_append]
      exact appended

theorem modify_eq_map (distinct : (units.map (·.key)).Nodup)
    (found : (units.map (·.key))[index]? = some key) (change : SourceUnit → SourceUnit) :
    units.modify index change =
      units.map fun unit => if unit.key = key then change unit else unit := by
  refine List.ext_getElem? fun place => ?_
  rw [List.getElem?_modify, List.getElem?_map]
  cases here : units[place]? with
  | none => rfl
  | some unit =>
      have named : (units.map (·.key))[place]? = some unit.key := by simp [here]
      have same : index = place ↔ unit.key = key := by
        constructor
        · rintro rfl
          exact Option.some.inj (named.symm.trans found)
        · rintro rfl
          obtain ⟨bound, _⟩ := List.getElem?_eq_some_iff.mp found
          exact (List.getElem?_inj bound distinct).mp (found.trans named.symm)
      simp [same]

theorem Rendering.InStep.succeed (inStep : rendering.InStep) (target : Target) (key : List Char)
    (scope : Scope) (rejected : List RejectedLine) :
    (rendering.succeed target key scope rejected).InStep ∧
      (rendering.succeed target key scope rejected).toRenderedUnits =
        ⟨addScope key scope rendering.units,
          rendering.rejected ++ rejected.map (⟨target.qualifiedName, ·⟩), rendering.failed⟩ := by
  obtain ⟨placed, found, same⟩ := inStep.place key
  obtain ⟨units, rejectedSame, failedSame⟩ := RenderedUnits.mk.injEq .. |>.mp same
  have pushed := modify_eq_map (Placed.distinct placed) found (·.push scope)
  have added : (rendering.place key).1.units.modify (rendering.place key).2 (·.push scope) =
      addScope key scope rendering.units := by
    rw [pushed, units]
    rfl
  have keys : ((rendering.place key).1.units.map fun unit =>
      if unit.key = key then unit.push scope else unit).map (·.key) =
        (rendering.place key).1.units.map (·.key) := by
    rw [List.map_map, push_key]
  constructor
  · rw [Rendering.InStep, Rendering.succeed]
    simp only
    rw [pushed, keys]
    exact placed
  · rw [Rendering.succeed]
    simp only
    rw [added, rejectedSame, failedSame]

theorem Rendering.InStep.fail (inStep : rendering.InStep) (target : Target) (error : BindingError) :
    (rendering.fail target error).InStep :=
  inStep

/-! ### The loop -/

theorem inStep_addTarget (inStep : rendering.InStep) (files : FileSystem) (target : Target) :
    (addTarget source (rendering, files) target).value.1.InStep := by
  rw [addTarget, Logged.value_bind]
  cases (renderKeyed source target files).value.result with
  | ok output => exact (inStep.succeed target _ _ _).1
  | error error => exact inStep.fail target error

/-- What one target keeps, whatever the files are like, holds of all targets in the end. -/
theorem renderUnits_induction (holds : List Target → RenderedUnits → Prop)
    (start : holds [] ⟨[], [], []⟩)
    (step : ∀ (done : List Target) (rendering : Rendering) (files : FileSystem) (target : Target),
      rendering.InStep → holds done rendering.toRenderedUnits →
      holds (done ++ [target])
        (addTarget source (rendering, files) target).value.1.toRenderedUnits)
    (targets : List Target) (files : FileSystem) :
    holds targets (renderUnits source targets files).value.1 := by
  have run : ∀ (done : List Target) (rendering : Rendering) (files : FileSystem),
      rendering.InStep → holds done rendering.toRenderedUnits →
      holds (done ++ targets)
        (targets.foldl (fun reached target => (addTarget source reached target).value)
          (rendering, files)).1.toRenderedUnits := by
    induction targets with
    | nil =>
        intro done rendering files _ reached
        simpa using reached
    | cons target targets ih =>
        intro done rendering files inStep reached
        rw [List.foldl_cons, List.append_cons]
        exact ih _ _ _ (inStep_addTarget inStep files target)
          (step done rendering files target inStep reached)
  rw [renderUnits, Logged.value_bind, Logged.value_foldlM]
  exact run [] .empty files inStep_empty start

end NativeInterop.Generation
