import NativeInterop.Binding.Declaration
import NativeInterop.Proofs.FileSystem.Naming

namespace NativeInterop.Binding

open Text

/-! Output keys are file names, whatever the library is called. -/

variable {library stem key : List Char} {target : Target}

theorem segment_of_libraryFileName? (named : libraryFileName? library = some stem) :
    stem ∈ segments isPathSeparator library ∧ isBlankText stem = false := by
  obtain ⟨segment, visible⟩ := List.mem_filter.mp (List.mem_of_getLast? named)
  exact ⟨segment, by simpa using visible⟩

/-- The segment of a library's name is not blank, and all segments after it are. -/
def IsLastVisible (segment library : List Char) : Prop :=
  isBlankText segment = false ∧ ∃ before after,
    segments isPathSeparator library = before ++ segment :: after ∧
      ∀ other ∈ after, isBlankText other = true

theorem libraryFileName?_eq_some_iff :
    libraryFileName? library = some stem ↔ IsLastVisible stem library := by
  -- The last of the segments that are not blank is the first one from behind.
  rw [libraryFileName?, List.getLast?_eq_head?_reverse, ← List.filter_reverse, List.head?_filter,
    List.find?_eq_some_iff_append]
  constructor
  · rintro ⟨visible, after, before, cut, blank⟩
    refine ⟨by simpa using visible, before.reverse, after.reverse, ?_, by simpa using blank⟩
    simpa using List.reverse_eq_iff.mp cut
  · rintro ⟨visible, before, after, cut, blank⟩
    refine ⟨by simpa using visible, after.reverse, before.reverse, ?_, by simpa using blank⟩
    simp [cut]

theorem libraryFileName?_eq_none_iff :
    libraryFileName? library = none ↔
      ∀ segment ∈ segments isPathSeparator library, isBlankText segment = true := by
  simp [libraryFileName?]

theorem outputKey?_eq_some_iff :
    target.outputKey? = some key ↔
      ∃ stem, libraryFileName? target.library = some stem ∧ stem ++ outputSuffix = key := by
  rw [Target.outputKey?, Option.map_eq_some_iff]

theorem isFileName_of_outputKey? (named : target.outputKey? = some key) : IsFileName key := by
  obtain ⟨stem, found, rfl⟩ := outputKey?_eq_some_iff.mp named
  have unseparated := unseparated_of_mem_segments (segment_of_libraryFileName? found).1
  have long : 5 ≤ (stem ++ outputSuffix).length := by
    rw [List.length_append]
    exact Nat.le_add_left 5 stem.length
  refine ⟨?_, ?_, ?_, ?_⟩
  · intro empty
    simp [empty] at long
  · intro slash
    rcases List.mem_append.mp slash with inside | suffix
    · exact absurd (unseparated '/' inside) (by decide)
    · exact absurd suffix (by decide)
  · intro here
    simp [here] at long
  · intro around
    simp [around] at long

end NativeInterop.Binding
