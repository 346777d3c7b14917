import NativeInterop.Proofs.FileSystem.Writing
import NativeInterop.Proofs.Text.Segments

namespace NativeInterop

open Text

/-! File names inside a directory. Joining a directory and a file name gives a path that leads to
that name in the directory, so different names lead to different places. -/

variable {directory : Path} {name other : List Char}

/-- A name that stands for a file of its own in any directory. -/
structure IsFileName (name : List Char) : Prop where
  nonempty : name ≠ []
  undivided : '/' ∉ name
  notHere : name ≠ ['.']
  notAround : name ≠ ['.', '.']

namespace Path

theorem names_append (before text : List Char) :
    (Path.mk (before ++ '/' :: text)).names = (Path.mk before).names ++ (Path.mk text).names := by
  have cut : segments (· == '/') (before ++ '/' :: text) =
      segments (· == '/') before ++ segments (· == '/') text :=
    segments_append_separator rfl before text
  rw [names, cut, List.filter_append]
  rfl

theorem names_fileName (plain : IsFileName name) : (Path.mk name).names = [name] := by
  have whole : segments (· == '/') name = [name] := by
    refine segments_of_unseparated fun c member => ?_
    simpa using ne_of_mem_of_not_mem member plain.undivided
  simp [names, whole, plain.nonempty]

theorem isAbsolute_fileName (plain : IsFileName name) : (Path.mk name).isAbsolute = false := by
  cases name with
  | nil => exact absurd rfl plain.nonempty
  | cons c rest =>
      have apart : c ≠ '/' := by
        rintro rfl
        exact plain.undivided (by simp)
      simpa [isAbsolute] using apart

/-- What joining puts between a directory and a name. -/
def gap (directory : Path) : List Char :=
  if directory.text.isEmpty || directory.endsInSlash then [] else ['/']

theorem text_join (plain : IsFileName name) :
    (directory.join ⟨name⟩).text = directory.text ++ (directory.gap ++ name) := by
  rw [join, if_neg (by simp [isAbsolute_fileName plain]), gap, endsInSlash]
  split <;> rfl

theorem join_injective (plain : IsFileName name) (otherPlain : IsFileName other)
    (same : directory.join ⟨name⟩ = directory.join ⟨other⟩) : name = other := by
  have texts := congrArg Path.text same
  rw [text_join plain, text_join otherPlain] at texts
  exact List.append_cancel_left (List.append_cancel_left texts)

theorem isAbsolute_join (plain : IsFileName name) :
    (directory.join ⟨name⟩).isAbsolute = directory.isAbsolute := by
  rw [isAbsolute, text_join plain]
  cases text : directory.text with
  | nil =>
      have relative := isAbsolute_fileName plain
      simpa [isAbsolute, gap, text] using relative
  | cons c rest => simp [isAbsolute, text]

theorem names_join (plain : IsFileName name) :
    (directory.join ⟨name⟩).names = directory.names ++ [name] := by
  have joined : directory.join ⟨name⟩ = ⟨directory.text ++ (directory.gap ++ name)⟩ := by
    rw [← text_join plain]
  rw [joined, gap]
  cases empty : directory.text.isEmpty with
  | true =>
      have nothing : directory.text = [] := List.isEmpty_iff.mp empty
      have none : directory.names = [] := by
        rw [names, nothing]
        rfl
      simp [nothing, none, names_fileName plain]
  | false =>
      cases slash : directory.endsInSlash with
      | true =>
          -- The slash that ends the directory is the one between the two.
          obtain ⟨before, whole⟩ := List.getLast?_eq_some_iff.mp (beq_iff_eq.mp slash)
          have around : directory.names = (Path.mk before).names := by
            rw [show directory = ⟨before ++ '/' :: []⟩ from congrArg Path.mk whole, names_append]
            simp [names, segments]
          rw [around, ← names_fileName plain, ← names_append]
          simp [whole]
      | false =>
          rw [← names_fileName plain, ← names_append]
          rfl

end Path

namespace FileSystem

variable {files : FileSystem} {location : Location}

/-- A file name in a directory leads to that name at the location of the directory. -/
theorem location_of_join (plain : IsFileName name)
    (found : files.locate (directory.join ⟨name⟩) = .ok location) :
    ∃ here, directory.names.foldlM files.enter (files.startOf directory) = .ok here ∧
      location = here ++ [name] := by
  have start : files.startOf (directory.join ⟨name⟩) = files.startOf directory := by
    rw [startOf, startOf, Path.isAbsolute_join plain]
  obtain ⟨_, _, _, leads⟩ := locate_eq_ok_iff.mp found
  simp only [Path.names_join plain, List.getLast?_append, List.getLast?_singleton,
    List.dropLast_concat, Option.some_or, start] at leads
  obtain ⟨here, entered, reached⟩ := leads
  refine ⟨here, entered, ?_⟩
  rw [destination, if_neg (by simpa using plain.notHere), if_neg (by simpa using plain.notAround)]
    at reached
  split at reached
  · cases reached
  · exact (Except.ok.inj reached).symm

theorem fileName_of_location (plain : IsFileName name) (otherPlain : IsFileName other)
    (found : files.locate (directory.join ⟨name⟩) = .ok location)
    (same : files.locate (directory.join ⟨other⟩) = .ok location) : name = other := by
  obtain ⟨here, entered, whole⟩ := location_of_join plain found
  obtain ⟨there, again, otherWhole⟩ := location_of_join otherPlain same
  obtain rfl : here = there := Except.ok.inj (entered.symm.trans again)
  rw [whole] at otherWhole
  exact List.singleton_inj.mp (List.append_cancel_left otherWhole)

end FileSystem

end NativeInterop
