import NativeInterop.Manifest.Resolve
import NativeInterop.Manifest.Schema
import NativeInterop.Proofs.FileSystem.Writing

namespace NativeInterop.Manifest

open Binding Log

/-! From the text of a manifest to targets. There are targets only if all goes well up to the last
entry; an entry without a target, wherever it stands, makes the whole manifest useless. -/

variable {files : FileSystem} {path base : Path} {content : Manifest} {targets : List Target}

/-- The text can be read, it is a manifest, and each entry has a target. -/
structure Resolves (files : FileSystem) (path base : Path) (content : Manifest)
    (targets : List Target) : Prop where
  loaded : ∃ text, files.readText path = .ok text ∧ parse text = .ok content
  resolved : content.targets.map (TargetEntry.resolve base) = targets.map .ok

/-- The text cannot be read, it is no manifest, or some entry has no target. -/
inductive Unusable (files : FileSystem) (path base : Path) : Prop
  | unreadable {error : IoError} : files.readText path = .error error → Unusable files path base
  | misfit {text : List Char} {error : BindingError} : files.readText path = .ok text →
      parse text = .error error → Unusable files path base
  | unresolved {text : List Char} {content : Manifest} {entry : TargetEntry}
      {error : BindingError} : files.readText path = .ok text → parse text = .ok content →
      entry ∈ content.targets → entry.resolve base = .error error → Unusable files path base

theorem resolveAll_eq_ok_iff {entries : List TargetEntry} :
    entries.mapM (TargetEntry.resolve base) = .ok targets ↔
      entries.map (TargetEntry.resolve base) = targets.map .ok := by
  induction entries generalizing targets with
  | nil => cases targets <;> simp [pure, Except.pure]
  | cons entry rest ih =>
      rw [List.mapM_cons, FileSystem.bind_eq_ok_iff]
      constructor
      · rintro ⟨target, resolved, later⟩
        obtain ⟨others, restResolved, whole⟩ := FileSystem.bind_eq_ok_iff.mp later
        obtain rfl := Except.ok.inj whole
        rw [List.map_cons, List.map_cons, resolved, ih.mp restResolved]
      · intro same
        obtain ⟨target, others, rfl, resolved, restResolved⟩ := List.map_eq_cons_iff.mp same.symm
        exact ⟨target, resolved.symm,
          FileSystem.bind_eq_ok_iff.mpr ⟨others, ih.mpr restResolved.symm, rfl⟩⟩

/-- Resolving stops at the first entry that has no target. -/
theorem resolveAll_eq_error_iff {entries : List TargetEntry} {error : BindingError} :
    entries.mapM (TargetEntry.resolve base) = .error error ↔
      ∃ before entry after, entries = before ++ entry :: after ∧
        (∀ earlier ∈ before, ∃ target, earlier.resolve base = .ok target) ∧
        entry.resolve base = .error error := by
  induction entries with
  | nil => simp [pure, Except.pure]
  | cons entry rest ih =>
      rw [List.mapM_cons, FileSystem.bind_eq_error_iff]
      constructor
      · rintro (faulty | ⟨target, resolved, later⟩)
        · exact ⟨[], entry, rest, rfl, by simp, faulty⟩
        · rcases FileSystem.bind_eq_error_iff.mp later with failed | ⟨_, _, impossible⟩
          · obtain ⟨before, culprit, after, rfl, earlier, faulty⟩ := ih.mp failed
            exact ⟨entry :: before, culprit, after, rfl,
              List.forall_mem_cons.mpr ⟨⟨target, resolved⟩, earlier⟩, faulty⟩
          · cases impossible
      · rintro ⟨before, culprit, after, whole, earlier, faulty⟩
        cases before with
        | nil =>
            obtain ⟨rfl, _⟩ := List.cons.inj whole
            exact .inl faulty
        | cons first before =>
            obtain ⟨rfl, rfl⟩ := List.cons.inj whole
            obtain ⟨⟨target, resolved⟩, others⟩ := List.forall_mem_cons.mp earlier
            have failed := ih.mpr ⟨before, culprit, after, rfl, others, faulty⟩
            exact .inr ⟨target, resolved, FileSystem.bind_eq_error_iff.mpr (.inl failed)⟩

theorem value_load (files : FileSystem) (path : Path) :
    (load files path).value = (files.readText path).mapError BindingError.io >>= parse := by
  rw [load]
  split <;> rename_i result <;> rw [result] <;> rfl

theorem value_load_eq_ok_iff :
    (load files path).value = .ok content ↔
      ∃ text, files.readText path = .ok text ∧ parse text = .ok content := by
  rw [value_load, FileSystem.bind_eq_ok_iff]
  cases files.readText path with
  | error error =>
      constructor
      · rintro ⟨_, read, _⟩
        cases read
      · rintro ⟨_, read, _⟩
        cases read
  | ok text =>
      constructor
      · rintro ⟨held, read, parsed⟩
        obtain rfl : text = held := Except.ok.inj read
        exact ⟨text, rfl, parsed⟩
      · rintro ⟨held, read, parsed⟩
        obtain rfl : text = held := Except.ok.inj read
        exact ⟨text, rfl, parsed⟩

theorem resolves_or_unusable (files : FileSystem) (path base : Path) :
    Unusable files path base ∨ ∃ content targets, Resolves files path base content targets := by
  cases readable : files.readText path with
  | error error => exact .inl (.unreadable readable)
  | ok text =>
      cases parsed : parse text with
      | error error => exact .inl (.misfit readable parsed)
      | ok content =>
          cases resolved : content.resolve base with
          | error error =>
              obtain ⟨before, entry, after, listed, _, faulty⟩ := resolveAll_eq_error_iff.mp resolved
              have member : entry ∈ content.targets := by simp [listed]
              exact .inl (.unresolved readable parsed member faulty)
          | ok targets =>
              exact .inr ⟨content, targets, ⟨text, readable, parsed⟩,
                resolveAll_eq_ok_iff.mp resolved⟩

theorem Resolves.unique {otherContent : Manifest} {otherTargets : List Target}
    (resolves : Resolves files path base content targets)
    (again : Resolves files path base otherContent otherTargets) :
    otherContent = content ∧ otherTargets = targets := by
  obtain ⟨text, readable, parsed⟩ := resolves.loaded
  obtain ⟨_, read, parsedToo⟩ := again.loaded
  obtain rfl := Except.ok.inj (read.symm.trans readable)
  obtain rfl := Except.ok.inj (parsedToo.symm.trans parsed)
  have first := resolveAll_eq_ok_iff.mpr resolves.resolved
  have second := resolveAll_eq_ok_iff.mpr again.resolved
  exact ⟨rfl, Except.ok.inj (second.symm.trans first)⟩

/-- What cannot be used has no targets. -/
theorem Unusable.not_resolves (unusable : Unusable files path base) :
    ¬ Resolves files path base content targets := by
  rintro ⟨⟨text, readable, parsed⟩, resolved⟩
  cases unusable with
  | unreadable failed => cases readable.symm.trans failed
  | misfit read failed =>
      obtain rfl := Except.ok.inj (readable.symm.trans read)
      cases parsed.symm.trans failed
  | @unresolved _ _ entry _ read parsedToo member faulty =>
      obtain rfl := Except.ok.inj (readable.symm.trans read)
      obtain rfl := Except.ok.inj (parsed.symm.trans parsedToo)
      have listed : entry.resolve base ∈ targets.map .ok := by
        rw [← resolved]
        exact List.mem_map_of_mem member
      obtain ⟨target, _, found⟩ := List.mem_map.mp listed
      cases found.trans faulty

end NativeInterop.Manifest
