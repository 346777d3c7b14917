import Mathlib
import NativeInterop.Proofs.Binding.OutputKey
import NativeInterop.Proofs.Generation.Keys
import NativeInterop.Proofs.Manifest.Loading
import NativeInterop.Proofs.Text.Trimming

namespace NativeInterop

open Text Binding

/-! Which entries of a manifest have a target. What an entry needs is a part of its class path and a
part of its library that can be seen; the output key asks for no more than that, so a target that
was resolved has one. -/

variable {entry : TargetEntry} {base : Path} {target : Target} {error : BindingError}
  {name className library : List Char}

namespace TargetEntry

/-- A part of the class path is not blank. -/
def HasClass (entry : TargetEntry) : Prop :=
  ∃ segment ∈ segments (· == '.') entry.className, isBlankText segment = false

/-- A part of the library's name is not blank. -/
def HasFileName (entry : TargetEntry) : Prop :=
  ∃ segment ∈ segments isPathSeparator entry.library, isBlankText segment = false

/-- Why an entry has no target. That no class is named comes first, and a library that is blank as a
whole is missing rather than without a file name. -/
inductive Refused (entry : TargetEntry) : TargetFault → Prop
  | noClass : ¬ entry.HasClass → Refused entry (.noClass entry.library)
  | noLibrary : entry.HasClass → isBlankText entry.library = true →
      Refused entry (.noLibrary entry.className)
  | noFileName : entry.HasClass → isBlankText entry.library = false → ¬ entry.HasFileName →
      Refused entry (.noFileName entry.library entry.className)

/-! ### Class paths -/

/-- The names of a class path are its parts that can be seen, trimmed. -/
theorem classNames_eq (className : List Char) :
    classNames className =
      ((segments (· == '.') className).filter (!isBlankText ·)).map trim := by
  rw [classNames, List.filter_map]
  refine congrArg (List.map trim) (List.filter_congr fun segment _ => ?_)
  cases blank : isBlankText segment with
  | true => simp [trim_eq_nil_iff.mpr blank]
  | false => simpa [trim_eq_nil_iff] using blank

theorem classNames_eq_nil_iff : classNames entry.className = [] ↔ ¬ entry.HasClass := by
  simp [classNames_eq, HasClass]

theorem name_of_mem_classNames (member : name ∈ classNames className) :
    name ≠ [] ∧ IsUnpadded name ∧ '.' ∉ name := by
  rw [classNames_eq] at member
  obtain ⟨segment, visible, rfl⟩ := List.mem_map.mp member
  obtain ⟨inside, shown⟩ := List.mem_filter.mp visible
  have trimmed := isTrimmed_trim segment
  refine ⟨?_, trimmed.unpadded, fun dot => ?_⟩
  · rw [Ne, trim_eq_nil_iff]
    simpa using shown
  · have apart := unseparated_of_mem_segments inside '.' (trimmed.mem dot)
    simp at apart

theorem trimmed_classNames (className : List Char) :
    List.Forall₂ IsTrimmed ((segments (· == '.') className).filter (!isBlankText ·))
      (classNames className) := by
  rw [classNames_eq, List.forall₂_map_right_iff, List.forall₂_same]
  exact fun segment _ => isTrimmed_trim segment

/-! ### Libraries -/

theorem libraryFileName?_eq_none_iff_not_hasFileName :
    libraryFileName? entry.library = none ↔ ¬ entry.HasFileName := by
  simp [libraryFileName?_eq_none_iff, HasFileName]

/-- Whoever has a file name has a library. -/
theorem HasFileName.visible (named : entry.HasFileName) : isBlankText entry.library = false := by
  obtain ⟨segment, member, visible⟩ := named
  obtain ⟨before, after, whole, _, _⟩ := surroundings_of_mem_segments member
  rw [whole, isBlankText_append, isBlankText_append, visible]
  simp

theorem HasFileName.keyed (named : entry.HasFileName) (base : Path) :
    ∃ key, (entry.target base).outputKey? = some key := by
  cases found : libraryFileName? entry.library with
  | none => exact absurd named (libraryFileName?_eq_none_iff_not_hasFileName.mp found)
  | some stem => exact ⟨stem ++ outputSuffix, outputKey?_eq_some_iff.mpr ⟨stem, found, rfl⟩⟩

/-! ### Entries -/

theorem Refused.fault?_eq {fault : TargetFault} (refused : Refused entry fault) :
    entry.fault? = some fault := by
  cases refused with
  | noClass unnamed => simp [fault?, classNames_eq_nil_iff.mpr unnamed]
  | noLibrary classed blank =>
      have named : classNames entry.className ≠ [] := (classNames_eq_nil_iff.mp · classed)
      simp [fault?, named, blank]
  | noFileName classed visible unfiled =>
      have named : classNames entry.className ≠ [] := (classNames_eq_nil_iff.mp · classed)
      simp [fault?, named, visible, libraryFileName?_eq_none_iff_not_hasFileName.mpr unfiled]

theorem fault?_of_usable (classed : entry.HasClass) (filed : entry.HasFileName) :
    entry.fault? = none := by
  have named : classNames entry.className ≠ [] := (classNames_eq_nil_iff.mp · classed)
  have found : libraryFileName? entry.library ≠ none :=
    (libraryFileName?_eq_none_iff_not_hasFileName.mp · filed)
  simp [fault?, named, filed.visible, found]

/-- An entry has what it needs or is refused, and the checks find out which. -/
theorem fault?_cases (entry : TargetEntry) :
    ((entry.HasClass ∧ entry.HasFileName) ∧ entry.fault? = none) ∨
      ∃ fault, Refused entry fault ∧ entry.fault? = some fault := by
  by_cases classed : entry.HasClass
  · by_cases filed : entry.HasFileName
    · exact .inl ⟨⟨classed, filed⟩, fault?_of_usable classed filed⟩
    · have refused : ∃ fault, Refused entry fault := by
        cases blank : isBlankText entry.library with
        | true => exact ⟨_, .noLibrary classed blank⟩
        | false => exact ⟨_, .noFileName classed blank filed⟩
      obtain ⟨fault, refused⟩ := refused
      exact .inr ⟨fault, refused, refused.fault?_eq⟩
  · exact .inr ⟨_, .noClass classed, (Refused.noClass classed).fault?_eq⟩

theorem resolve_eq_ok_iff :
    entry.resolve base = .ok target ↔
      (entry.HasClass ∧ entry.HasFileName) ∧ target = entry.target base := by
  rcases fault?_cases entry with ⟨usable, good⟩ | ⟨fault, refused, faulty⟩
  · simp [resolve, good, usable, eq_comm]
  · have unusable : ¬ (entry.HasClass ∧ entry.HasFileName) := by
      rintro ⟨classed, filed⟩
      cases (fault?_of_usable classed filed).symm.trans faulty
    simp [resolve, faulty, unusable]

theorem resolve_eq_error_iff :
    entry.resolve base = .error error ↔ ∃ fault, Refused entry fault ∧ error = .invalidTarget fault := by
  constructor
  · intro failed
    rcases fault?_cases entry with ⟨_, good⟩ | ⟨fault, refused, faulty⟩
    · simp [resolve, good] at failed
    · rw [resolve, faulty] at failed
      exact ⟨fault, refused, (Except.error.inj failed).symm⟩
  · rintro ⟨fault, refused, rfl⟩
    rw [resolve, refused.fault?_eq]

/-- What an entry is resolved to. -/
structure ResolvesTo (entry : TargetEntry) (base : Path) (target : Target) : Prop where
  nonempty : target.nesting ≠ []
  nesting : List.Forall₂ IsTrimmed
    ((segments (· == '.') entry.className).filter (!isBlankText ·)) target.nesting
  names : ∀ name ∈ target.nesting, name ≠ [] ∧ IsUnpadded name ∧ '.' ∉ name
  namespaceName : IsTrimmed entry.namespaceName target.namespaceName
  literal : target.literal = entry.literal.getD (stringLiteral entry.library)
  library : target.library = entry.library
  keyed : ∃ key, target.outputKey? = some key
  binary : target.binary = base.join (entry.binary.getD ⟨entry.library⟩)

theorem resolvesTo_of_resolve (resolved : entry.resolve base = .ok target) :
    entry.ResolvesTo base target := by
  obtain ⟨⟨classed, filed⟩, rfl⟩ := resolve_eq_ok_iff.mp resolved
  exact {
    nonempty := fun empty => classNames_eq_nil_iff.mp empty classed
    nesting := trimmed_classNames entry.className
    names := fun _ member => name_of_mem_classNames member
    namespaceName := isTrimmed_trim entry.namespaceName
    literal := rfl
    library := rfl
    keyed := filed.keyed base
    binary := rfl }

end TargetEntry

namespace Manifest

open TargetEntry Generation

/-- The targets of a manifest fail only by the answers of the source. -/
theorem listing_fails_of_resolve {manifest : Manifest} {targets : List Target}
    (resolved : manifest.resolve base = .ok targets) (source : ExportSource) (files : FileSystem) :
    ∀ failed ∈ (renderUnits source targets files).value.1.failed,
      ∃ files, (source.listing failed.target.binary files).value.result = .error failed.error := by
  intro failed member
  obtain ⟨asked, reason⟩ := (accounted_renderUnits source targets files).failed failed member
  have listed : .ok failed.target ∈ manifest.targets.map (TargetEntry.resolve base) := by
    rw [resolveAll_eq_ok_iff.mp resolved]
    exact List.mem_map_of_mem asked
  obtain ⟨entry, _, accepted⟩ := List.mem_map.mp listed
  obtain ⟨key, named⟩ := (resolvesTo_of_resolve accepted).keyed
  cases reason with
  | unnamed missing => cases missing.symm.trans named
  | unlisted _ answered => exact ⟨_, answered⟩

theorem exists_resolve_iff (manifest : Manifest) :
    (∃ targets, manifest.resolve base = .ok targets) ↔
      ∀ entry ∈ manifest.targets, ∃ target, entry.resolve base = .ok target := by
  constructor
  · rintro ⟨targets, resolved⟩ entry member
    have answered := List.mem_map_of_mem (f := TargetEntry.resolve base) member
    rw [resolveAll_eq_ok_iff.mp resolved] at answered
    obtain ⟨target, _, same⟩ := List.mem_map.mp answered
    exact ⟨target, same.symm⟩
  · intro each
    cases resolved : manifest.resolve base with
    | ok targets => exact ⟨targets, rfl⟩
    | error error =>
        obtain ⟨before, entry, after, listed, _, faulty⟩ := resolveAll_eq_error_iff.mp resolved
        obtain ⟨target, accepted⟩ := each entry (by simp [listed])
        cases accepted.symm.trans faulty

/-- Resolving accepts the entries that name a class and a file, and tells of each other one what it
lacks first. What it gives has a class path of trimmed names and an output key. A manifest has
targets if all its entries do, one for each in their order, and otherwise the fault of the first
entry that does not. No such target fails in rendering but by an answer of the source. -/
theorem resolve_accepts_usable (base : Path) :
    (∀ entry : TargetEntry, (∃ target, entry.resolve base = .ok target) ↔
      entry.HasClass ∧ entry.HasFileName) ∧
    (∀ (entry : TargetEntry) error, entry.resolve base = .error error ↔
      ∃ fault, Refused entry fault ∧ error = .invalidTarget fault) ∧
    (∀ (entry : TargetEntry) target, entry.resolve base = .ok target →
      entry.ResolvesTo base target) ∧
    (∀ manifest : Manifest, (∃ targets, manifest.resolve base = .ok targets) ↔
      ∀ entry ∈ manifest.targets, ∃ target, entry.resolve base = .ok target) ∧
    (∀ (manifest : Manifest) targets, manifest.resolve base = .ok targets ↔
      manifest.targets.map (TargetEntry.resolve base) = targets.map .ok) ∧
    (∀ (manifest : Manifest) error, manifest.resolve base = .error error ↔
      ∃ before entry after, manifest.targets = before ++ entry :: after ∧
        (∀ earlier ∈ before, ∃ target, earlier.resolve base = .ok target) ∧
        entry.resolve base = .error error) ∧
    ∀ (manifest : Manifest) targets, manifest.resolve base = .ok targets →
      ∀ (source : ExportSource) files,
        ∀ failed ∈ (renderUnits source targets files).value.1.failed,
          ∃ state, (source.listing failed.target.binary state).value.result =
            .error failed.error := by
  refine ⟨fun entry => ?_, fun _ _ => resolve_eq_error_iff, fun _ _ => resolvesTo_of_resolve,
    exists_resolve_iff, fun _ _ => resolveAll_eq_ok_iff, fun _ _ => resolveAll_eq_error_iff,
    fun _ _ => listing_fails_of_resolve⟩
  simp [resolve_eq_ok_iff]

/-- Blank parts count for nothing: neither the first part of this class path nor the last ones of
this library. -/
theorem resolve_accepts_usable_blankParts :
    let base : Path := .ofString "/p"
    let entry : TargetEntry :=
      ⟨" N ".toList, " .A b.\u2003C".toList, "lib\\m.dll/ \\".toList, none, none⟩
    let target : Target :=
      ⟨['N'], ["A b".toList, ['C']], "\"lib\\\\m.dll/ \\\\\"".toList, "lib\\m.dll/ \\".toList,
        .ofString "/p/lib\\m.dll/ \\"⟩
    let rendered := (renderUnits Source.textSource [target] ⟨[], []⟩).value.1
    entry.resolve base = .ok target ∧ entry.ResolvesTo base target ∧
      Manifest.resolve base ⟨noSettings, [entry]⟩ = .ok [target] ∧
      ∀ failed ∈ rendered.failed, ∃ state,
        (Source.textSource.listing failed.target.binary state).value.result =
          .error failed.error := by
  intro base entry target rendered
  have accepted : entry.resolve base = .ok target := by decide
  have resolved : Manifest.resolve base ⟨noSettings, [entry]⟩ = .ok [target] := by
    simp [Manifest.resolve, accepted, bind, Except.bind, pure, Except.pure]
  obtain ⟨_, _, resolves, _, _, _, listed⟩ := resolve_accepts_usable base
  exact ⟨accepted, resolves entry target accepted, resolved,
    listed _ [target] resolved Source.textSource ⟨[], []⟩⟩

end Manifest

end NativeInterop
