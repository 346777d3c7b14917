import NativeInterop.Proofs.FileSystem.Children
import NativeInterop.Proofs.Generation.Effect

namespace NativeInterop

/-! Generating stays inside the output directory. An output key is a plain file name whatever the
library is called, so each unit goes to a child of the directory, and two targets share a file only
if their libraries end alike. -/

namespace FileSystem

variable {before after : FileSystem} {path : Path} {here : Location}

/-- Where all names of a path lead, each of them through a directory. -/
def walk (files : FileSystem) (path : Path) : Except IoError Location :=
  path.names.foldlM files.enter (files.startOf path)

theorem KeepsDirectories.walk (kept : KeepsDirectories before after)
    (reached : before.walk path = .ok here) : after.walk path = .ok here := by
  have start : after.startOf path = before.startOf path := by
    rw [startOf, startOf, kept.workingDirectory]
  rw [FileSystem.walk, start]
  exact kept.enterAll reached

end FileSystem

namespace Generation

open Binding Log FileSystem

variable {source : ExportSource} {outDir : Path} {files listed : FileSystem} {location : Location}
  {units : List SourceUnit} {targets : List Target} {rendered : RenderedUnits}

/-- Writing units changes nothing but children of the directory that have their keys. -/
theorem place_of_writeUnits {before : FileSystem} (plain : ∀ unit ∈ units, IsFileName unit.key)
    (distinct : (units.map (·.key)).Nodup)
    (changed : (writeUnits outDir before units).value.files.entryAt? location ≠
      before.entryAt? location) :
    ∃ key ∈ units.map (·.key), ∃ here,
      (writeUnits outDir before units).value.files.walk outDir = .ok here ∧
        location = here ++ [key] := by
  induction units generalizing before with
  | nil => exact absurd rfl changed
  | cons unit rest ih =>
      obtain ⟨unitPlain, restPlain⟩ := List.forall_mem_cons.mp plain
      have restDistinct := (List.nodup_cons.mp distinct).2
      cases tried : before.write (outDir.join ⟨unit.key⟩) (Text.Utf8.encode unit.render) with
      | error error =>
          rw [value_writeUnits_of_error tried] at changed
          exact absurd rfl changed
      | ok middle =>
          have keptLater :
              KeepsDirectories middle (writeUnits outDir middle rest).value.files :=
            (writesUpTo_writeUnits restPlain restDistinct).1
          have kept := (keepsDirectories_write tried).trans keptLater
          rw [value_writeUnits_of_ok tried] at changed ⊢
          by_cases later : (writeUnits outDir middle rest).value.files.entryAt? location =
              middle.entryAt? location
          · -- The entry changed with this unit, which was written where its path leads.
            rw [later] at changed
            obtain ⟨_, there, _, found, _, rfl⟩ := exists_put_of_write tried
            obtain rfl : location = there := by
              by_contra different
              exact changed (entryAt?_put_of_ne different before _)
            obtain ⟨here, entered, whole⟩ := location_of_join unitPlain found
            exact ⟨unit.key, by simp, here, kept.walk entered, whole⟩
          · obtain ⟨key, member, reached⟩ := ih restPlain restDistinct later
            exact ⟨key, List.mem_cons_of_mem _ member, reached⟩

/-- Besides making the directory, generating changes only children of it that targets ask for,
whatever the source does before. -/
theorem place_of_generate (rendering : (renderUnits source targets files).value = (rendered, listed))
    (changed : (generate source outDir targets files).value.files.entryAt? location ≠
      (listed.createDirectories outDir).2.entryAt? location) :
    ∃ target ∈ targets, ∃ key here, target.outputKey? = some key ∧
      (generate source outDir targets files).value.files.walk outDir = .ok here ∧
        location = here ++ [key] := by
  obtain ⟨plain, distinct⟩ := keys_renderUnits source targets files
  have keyed := keyedBy_renderUnits source targets files
  have left : listed = (renderUnits source targets files).value.2 := by rw [rendering]
  rw [left] at changed
  cases made : (renderUnits source targets files).value.2.createDirectories outDir with
  | mk result prepared =>
      rw [made] at changed
      cases result with
      | error error =>
          rw [value_generate_of_error made] at changed
          exact absurd rfl changed
      | ok =>
          rw [value_generate_of_ok made] at changed ⊢
          obtain ⟨key, member, here, reached, whole⟩ := place_of_writeUnits plain distinct changed
          obtain ⟨target, asker, named⟩ := keyed.asked key member
          exact ⟨target, asker, key, here, named, reached, whole⟩

end Generation

namespace Binding

open Generation

variable {target first second : Target} {key firstKey secondKey : List Char}

theorem join_outputKey_eq_iff (firstNamed : first.outputKey? = some firstKey)
    (secondNamed : second.outputKey? = some secondKey) (outDir : Path) :
    (outDir.join ⟨firstKey⟩ = outDir.join ⟨secondKey⟩ ↔ firstKey = secondKey) ∧
      ((outDir.join ⟨firstKey⟩).Agrees (outDir.join ⟨secondKey⟩) ↔ firstKey = secondKey) := by
  have plain := isFileName_of_outputKey? firstNamed
  have otherPlain := isFileName_of_outputKey? secondNamed
  refine ⟨⟨Path.join_injective plain otherPlain, fun same => by rw [same]⟩, ?_, ?_⟩
  · intro agrees
    have components := agrees.components
    rw [Path.components_join plain, Path.components_join otherPlain] at components
    exact List.singleton_inj.mp (List.append_cancel_left components)
  · rintro rfl
    exact ⟨rfl, rfl⟩

theorem outputKey_eq_iff (firstNamed : first.outputKey? = some firstKey)
    (secondNamed : second.outputKey? = some secondKey) :
    firstKey = secondKey ↔
      ∃ segment, IsLastVisible segment first.library ∧ IsLastVisible segment second.library := by
  obtain ⟨stem, found, rfl⟩ := outputKey?_eq_some_iff.mp firstNamed
  obtain ⟨other, otherFound, rfl⟩ := outputKey?_eq_some_iff.mp secondNamed
  rw [List.append_left_inj]
  constructor
  · rintro rfl
    exact ⟨stem, libraryFileName?_eq_some_iff.mp found, libraryFileName?_eq_some_iff.mp otherFound⟩
  · rintro ⟨segment, ends, otherEnds⟩
    rw [← libraryFileName?_eq_some_iff] at ends otherEnds
    exact (Option.some.inj (found.symm.trans ends)).trans
      (Option.some.inj (otherEnds.symm.trans otherFound))

theorem outputKey?_eq_none_iff :
    target.outputKey? = none ↔
      ∀ segment ∈ Text.segments isPathSeparator target.library, Text.isBlankText segment = true := by
  rw [Target.outputKey?, Option.map_eq_none_iff, libraryFileName?_eq_none_iff]

/-- The stem of a key is a visible segment of the library. -/
theorem exists_stem_of_outputKey? (named : target.outputKey? = some key) :
    '/' ∉ key ∧ '\\' ∉ key ∧
      ∃ stem, Text.isBlankText stem = false ∧ key = stem ++ ".g.cs".toList := by
  obtain ⟨stem, found, rfl⟩ := outputKey?_eq_some_iff.mp named
  obtain ⟨member, visible⟩ := segment_of_libraryFileName? found
  have unseparated := Text.unseparated_of_mem_segments member
  refine ⟨(isFileName_of_outputKey? named).undivided, ?_, stem, visible, rfl⟩
  intro slash
  rcases List.mem_append.mp slash with inside | suffix
  · exact absurd (unseparated '\\' inside) (by decide)
  · exact absurd suffix (by decide)

/-- Generated files stay inside the output directory and apart from each other. A key is a plain
file name, so that in any directory it is a child. Two targets share a path only if their libraries
end in the same visible segment, and a library without such a segment has no key. Generating
therefore changes nothing but children of the output directory, once that is there. -/
theorem outputKey?_stays_inside :
    (∀ (target : Target) (key : List Char), target.outputKey? = some key →
      '/' ∉ key ∧ '\\' ∉ key ∧ key ≠ ['.'] ∧ key ≠ ['.', '.'] ∧
      (∃ stem, Text.isBlankText stem = false ∧ key = stem ++ ".g.cs".toList) ∧
      ∀ outDir : Path, outDir.IsChild key (outDir.join ⟨key⟩)) ∧
    (∀ (first second : Target) (firstKey secondKey : List Char),
      first.outputKey? = some firstKey → second.outputKey? = some secondKey → ∀ outDir : Path,
      let sameEnd := ∃ segment,
        IsLastVisible segment first.library ∧ IsLastVisible segment second.library
      (outDir.join ⟨firstKey⟩ = outDir.join ⟨secondKey⟩ ↔ sameEnd) ∧
      ((outDir.join ⟨firstKey⟩).Agrees (outDir.join ⟨secondKey⟩) ↔ sameEnd)) ∧
    (∀ target : Target, target.outputKey? = none ↔
      ∀ segment ∈ Text.segments isPathSeparator target.library,
        Text.isBlankText segment = true) ∧
    ∀ (source : ExportSource) (outDir : Path) (targets : List Target) (files : FileSystem)
      (location : Location),
      let listed := (renderUnits source targets files).value.2
      let after := (generate source outDir targets files).value.files
      after.entryAt? location ≠ (listed.createDirectories outDir).2.entryAt? location →
      ∃ target ∈ targets, ∃ key here, target.outputKey? = some key ∧
        after.walk outDir = .ok here ∧ location = here ++ [key] := by
  refine ⟨?_, ?_, fun target => outputKey?_eq_none_iff, ?_⟩
  · intro target key named
    have plain := isFileName_of_outputKey? named
    obtain ⟨slashless, backslashless, ends⟩ := exists_stem_of_outputKey? named
    exact ⟨slashless, backslashless, plain.notHere, plain.notAround, ends,
      fun outDir => Path.isChild_join plain⟩
  · intro first second firstKey secondKey firstNamed secondNamed outDir sameEnd
    have shared := outputKey_eq_iff firstNamed secondNamed
    obtain ⟨same, agree⟩ := join_outputKey_eq_iff firstNamed secondNamed outDir
    exact ⟨same.trans shared, agree.trans shared⟩
  · intro source outDir targets files location listed after changed
    exact place_of_generate rfl changed

/-- A library that climbs out of the directory and one that ends like it share a file inside. -/
theorem outputKey?_stays_inside_climbingLibrary :
    let listing := ['l']
    let files : FileSystem :=
      ⟨[], [([listing], .file (Text.Utf8.encode "1 ?f@@YAHXZ".toList) false)]⟩
    let climbing : Target := ⟨[], [['C']], "\"m\"".toList, "../../m".toList, ⟨listing⟩⟩
    let other : Target := ⟨[], [['D']], "\"m\"".toList, "a\\m/ ".toList, ⟨listing⟩⟩
    let nameless : Target := ⟨[], [['E']], "\"m\"".toList, "/ \\".toList, ⟨listing⟩⟩
    let key := "m.g.cs".toList
    let outDir : Path := ⟨['o']⟩
    let after := (generate Source.textSource outDir [climbing] files).value.files
    outDir.IsChild key ⟨"o/m.g.cs".toList⟩ ∧
      (∃ segment, IsLastVisible segment climbing.library ∧ IsLastVisible segment other.library) ∧
      nameless.outputKey? = none ∧ (after.fileAt? [['o'], key]).isSome ∧
      after.walk outDir = .ok [['o']] := by
  intro listing files climbing other nameless key outDir after
  have named : climbing.outputKey? = some key := by decide
  have otherNamed : other.outputKey? = some key := by decide
  have answers := Source.readsOnly_textSource.answers files
  let unit : SourceUnit :=
    ⟨key, [.ofTarget climbing [⟨1, ['F'], ['f'], ⟨.int, 0⟩, [], false⟩]]⟩
  let prepared := files.put [['o']] .directory
  let written := prepared.put [['o'], key] (.file (Text.Utf8.encode unit.render) false)
  have rendered : (renderUnits Source.textSource [climbing] files).value =
      (⟨[unit], [], []⟩, files) := by
    rw [value_renderUnits_of_answers answers]
    simp only [files, climbing, unit, listing, key]
    cbv
  have made : files.createDirectories outDir = (.ok (), prepared) := by
    rw [FileSystem.createDirectories]
    rfl
  have whole := value_generate_of_unit rendered made
    (show prepared.write (outDir.join ⟨unit.key⟩) (Text.Utf8.encode unit.render) = .ok written by rfl)
  have left : after = written := congrArg Effect.files whole
  obtain ⟨keys, pairs, nones, inside⟩ := outputKey?_stays_inside
  have child := (keys climbing key named).2.2.2.2.2 outDir
  have together := (pairs climbing other key key named otherNamed outDir).1.mp rfl
  have blank : nameless.outputKey? = none := (nones nameless).mpr (by decide)
  have changed : after.entryAt? [['o'], key] ≠
      ((renderUnits Source.textSource [climbing] files).value.2.createDirectories
        outDir).2.entryAt? [['o'], key] := by
    rw [left, rendered, made]
    decide
  obtain ⟨_, _, _, here, _, reached, place⟩ := inside _ _ _ _ _ changed
  obtain ⟨rfl, _⟩ : [['o']] = here ∧ _ := List.append_inj' place rfl
  exact ⟨child, together, blank, by rw [left]; rfl, reached⟩

end Binding

end NativeInterop
