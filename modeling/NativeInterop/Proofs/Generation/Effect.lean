import NativeInterop.Generation.Generate
import NativeInterop.Proofs.Generation.Keys

namespace NativeInterop.Generation

open Binding Log FileSystem

/-! What generating leaves on the disk. All listings are read before anything is written, so the
report and the files follow from the listings at the beginning; and the units are written one after
the other to places of their own, up to the first that cannot be written. -/

variable {source : ExportSource} {outDir : Path} {before middle after : FileSystem}
  {unit : SourceUnit} {units done : List SourceUnit} {targets : List Target}

/-! ### Writing units -/

/-- The files hold the units `done`, and are otherwise as before. -/
structure Wrote (outDir : Path) (done : List SourceUnit) (before after : FileSystem) : Prop where
  contents : ∀ unit ∈ done, after.read (outDir.join ⟨unit.key⟩) = .ok (Text.Utf8.encode unit.render)
  others : ∀ location, (∀ unit ∈ done, after.locate (outDir.join ⟨unit.key⟩) ≠ .ok location) →
    after.fileAt? location = before.fileAt? location

theorem Wrote.nil (same : ∀ location, after.fileAt? location = before.fileAt? location) :
    Wrote outDir [] before after :=
  ⟨by simp, fun location _ => same location⟩

theorem Wrote.after_same (same : ∀ location, middle.fileAt? location = before.fileAt? location)
    (wrote : Wrote outDir done middle after) : Wrote outDir done before after :=
  ⟨wrote.contents, fun location apart => (wrote.others location apart).trans (same location)⟩

/-- The units that are written later have other keys, so they leave this one alone. -/
theorem Wrote.cons (plain : ∀ other ∈ unit :: done, IsFileName other.key)
    (new : unit.key ∉ done.map (·.key))
    (written : before.write (outDir.join ⟨unit.key⟩) (Text.Utf8.encode unit.render) = .ok middle)
    (kept : KeepsDirectories middle after) (wrote : Wrote outDir done middle after) :
    Wrote outDir (unit :: done) before after := by
  obtain ⟨unitPlain, plain⟩ := List.forall_mem_cons.mp plain
  obtain ⟨slashless, here, _, found, _⟩ := exists_put_of_write written
  obtain ⟨executable, held⟩ := fileAt?_write_self written found
  have foundLater : after.locate (outDir.join ⟨unit.key⟩) = .ok here :=
    ((keepsDirectories_write written).trans kept).locate found
  -- The directories are the same in the end, so a unit that went to this place has this key.
  have apart : ∀ other ∈ done, after.locate (outDir.join ⟨other.key⟩) ≠ .ok here := by
    intro other member there
    have same := fileName_of_location unitPlain (plain other member) foundLater there
    exact new (same ▸ List.mem_map_of_mem member)
  have stays : after.fileAt? here = some (Text.Utf8.encode unit.render, executable) :=
    (wrote.others here apart).trans held
  refine ⟨List.forall_mem_cons.mpr ⟨read_of_fileAt? foundLater slashless stays, wrote.contents⟩, ?_⟩
  intro location elsewhere
  obtain ⟨notHere, notThere⟩ := List.forall_mem_cons.mp elsewhere
  have different : before.locate (outDir.join ⟨unit.key⟩) ≠ .ok location := by
    intro same
    exact notHere (((keepsDirectories_write written).trans kept).locate same)
  exact (wrote.others location notThere).trans (fileAt?_write_of_ne written different)

/-- Places of units that were not written are as before. -/
theorem Wrote.unwritten {rest : List SourceUnit} (wrote : Wrote outDir done before after)
    (plain : ∀ unit ∈ done ++ rest, IsFileName unit.key)
    (distinct : ((done ++ rest).map (·.key)).Nodup) :
    ∀ unit ∈ rest, ∀ location, after.locate (outDir.join ⟨unit.key⟩) = .ok location →
      after.fileAt? location = before.fileAt? location := by
  rw [List.map_append, List.nodup_append] at distinct
  intro unit later location found
  refine wrote.others location fun other early there => ?_
  have same := fileName_of_location (plain unit (List.mem_append_right _ later))
    (plain other (List.mem_append_left _ early)) found there
  exact distinct.2.2 _ (List.mem_map_of_mem early) _ (List.mem_map_of_mem later) same.symm

def writtenFiles (outDir : Path) (units : List SourceUnit) : List WrittenFile :=
  units.map fun unit => ⟨outDir.join ⟨unit.key⟩, unit.declarationCount⟩

theorem value_writeUnits_of_error {rest : List SourceUnit} {error : IoError}
    (failed : before.write (outDir.join ⟨unit.key⟩) (Text.Utf8.encode unit.render) = .error error) :
    (writeUnits outDir before (unit :: rest)).value = ⟨.error (.io error), before⟩ := by
  rw [writeUnits, failed]
  rfl

theorem value_writeUnits_of_ok {rest : List SourceUnit}
    (written : before.write (outDir.join ⟨unit.key⟩) (Text.Utf8.encode unit.render) = .ok middle) :
    (writeUnits outDir before (unit :: rest)).value =
      ⟨(writeUnits outDir middle rest).value.result.map
        (⟨outDir.join ⟨unit.key⟩, unit.declarationCount⟩ :: ·),
        (writeUnits outDir middle rest).value.files⟩ := by
  rw [writeUnits, written]
  rfl

/-- The units are written in order: all of them, or those before one that cannot be written. -/
inductive WritesUpTo (outDir : Path) (before : FileSystem) (units : List SourceUnit) :
    Effect (List WrittenFile) → Prop
  | all {after : FileSystem} : Wrote outDir units before after →
      WritesUpTo outDir before units ⟨.ok (writtenFiles outDir units), after⟩
  | stopped {after : FileSystem} {done later : List SourceUnit} {unit : SourceUnit}
      {error : IoError} : units = done ++ unit :: later → Wrote outDir done before after →
      after.write (outDir.join ⟨unit.key⟩) (Text.Utf8.encode unit.render) = .error error →
      WritesUpTo outDir before units ⟨.error (.io error), after⟩

theorem WritesUpTo.after_same {effect : Effect (List WrittenFile)}
    (same : ∀ location, middle.fileAt? location = before.fileAt? location)
    (run : WritesUpTo outDir middle units effect) : WritesUpTo outDir before units effect := by
  cases run with
  | all wrote => exact .all (wrote.after_same same)
  | stopped split wrote failed => exact .stopped split (wrote.after_same same) failed

theorem writesUpTo_writeUnits (plain : ∀ unit ∈ units, IsFileName unit.key)
    (distinct : (units.map (·.key)).Nodup) :
    KeepsDirectories before (writeUnits outDir before units).value.files ∧
      WritesUpTo outDir before units (writeUnits outDir before units).value := by
  -- On the units, from whatever files the units before them have left.
  induction units generalizing before with
  | nil => exact ⟨.refl before, .all (.nil fun _ => rfl)⟩
  | cons unit rest ih =>
      obtain ⟨new, others⟩ := List.nodup_cons.mp distinct
      cases tried : before.write (outDir.join ⟨unit.key⟩) (Text.Utf8.encode unit.render) with
      | error error =>
          rw [value_writeUnits_of_error tried]
          exact ⟨.refl before, .stopped rfl (.nil fun _ => rfl) tried⟩
      | ok middle =>
          obtain ⟨kept, run⟩ : KeepsDirectories middle _ ∧ WritesUpTo outDir middle rest _ :=
            ih (List.forall_mem_cons.mp plain).2 others
          rw [value_writeUnits_of_ok tried]
          refine ⟨(keepsDirectories_write tried).trans kept, ?_⟩
          generalize (writeUnits outDir middle rest).value = effect at kept run
          cases run with
          | all wrote => exact .all (.cons plain new tried kept wrote)
          | @stopped _ done later _ _ split wrote failed =>
              rw [split, List.map_append, List.mem_append, not_or] at new
              have early : ∀ other ∈ unit :: done, IsFileName other.key := by
                intro other member
                refine plain other ?_
                rw [split, ← List.cons_append]
                exact List.mem_append_left _ member
              exact .stopped (congrArg (unit :: ·) split) (.cons early new.1 tried kept wrote) failed

/-! ### The whole run -/

theorem value_generate_of_error {files prepared : FileSystem} {error : IoError}
    (failed : (renderUnits source targets files).value.2.createDirectories outDir =
      (.error error, prepared)) :
    (generate source outDir targets files).value = ⟨.error (.io error), prepared⟩ := by
  simp only [generate, Logged.value_bind, failed, Logged.value_pure]

theorem value_generate_of_ok {files prepared : FileSystem}
    (made : (renderUnits source targets files).value.2.createDirectories outDir =
      (.ok (), prepared)) :
    let rendered := (renderUnits source targets files).value.1
    let effect := (writeUnits outDir prepared rendered.units).value
    (generate source outDir targets files).value =
      ⟨effect.result.map (⟨·, rendered.rejected, rendered.failed⟩), effect.files⟩ := by
  simp only [generate, Logged.value_bind, made]
  cases (writeUnits outDir prepared _).value.result with
  | error error => rfl
  | ok written =>
      dsimp only
      split <;> rfl

/-- A single unit is written once its directory is there. -/
theorem value_generate_of_unit {files listed prepared : FileSystem}
    {rejected : List RejectedExport} {failed : List FailedTarget}
    (rendering : (renderUnits source targets files).value = (⟨[unit], rejected, failed⟩, listed))
    (made : listed.createDirectories outDir = (.ok (), prepared))
    (written : prepared.write (outDir.join ⟨unit.key⟩) (Text.Utf8.encode unit.render) = .ok after) :
    (generate source outDir targets files).value =
      ⟨.ok ⟨writtenFiles outDir [unit], rejected, failed⟩, after⟩ := by
  have whole := value_generate_of_ok (show (renderUnits source targets
    files).value.2.createDirectories outDir = (.ok (), prepared) by rw [rendering, made])
  simp only [rendering, value_writeUnits_of_ok written] at whole
  exact whole

/-- A source that only reads leaves the files as they are, and is asked about nothing else. -/
theorem value_renderUnits_of_readsOnly (reads : source.ReadsOnly) (targets : List Target)
    (files : FileSystem) :
    (renderUnits source targets files).value.2 = files ∧
      ∀ other : ExportSource,
        (∀ path, (other.listing path files).value = (source.listing path files).value) →
        (renderUnits other targets files).value = (renderUnits source targets files).value := by
  have answers := reads.answers files
  refine ⟨by rw [value_renderUnits_of_answers answers], fun other same => ?_⟩
  have otherAnswers : other.Answers (fun path => (source.listing path files).value.result)
      (· = files) := by
    constructor
    · rintro _ path rfl
      rw [same path]
    · rintro _ path rfl
      rw [same path]
      exact reads path _
  rw [value_renderUnits_of_answers answers, value_renderUnits_of_answers otherAnswers]

theorem value_renderUnits_eq (reads : source.ReadsOnly) (targets : List Target)
    (files : FileSystem) :
    (renderUnits source targets files).value = ((renderUnits source targets files).value.1, files) :=
  Prod.ext rfl (value_renderUnits_of_readsOnly reads targets files).1

theorem value_generate_congr {other : ExportSource} {files : FileSystem}
    (same : (renderUnits other targets files).value = (renderUnits source targets files).value) :
    (generate other outDir targets files).value = (generate source outDir targets files).value := by
  cases made : (renderUnits source targets files).value.2.createDirectories outDir with
  | mk result prepared =>
      have madeOther := made
      rw [← same] at madeOther
      cases result with
      | error error => rw [value_generate_of_error made, value_generate_of_error madeOther]
      | ok => rw [value_generate_of_ok made, value_generate_of_ok madeOther, same]

/-- The keys of what is rendered are file names, each of one unit. -/
theorem keys_renderUnits (source : ExportSource) (targets : List Target) (files : FileSystem) :
    (∀ unit ∈ (renderUnits source targets files).value.1.units, IsFileName unit.key) ∧
      ((renderUnits source targets files).value.1.units.map (·.key)).Nodup :=
  have keyed := keyedBy_renderUnits source targets files
  ⟨isFileName_of_keyedBy keyed, keyed.distinct⟩

theorem nodup_writtenFiles (plain : ∀ unit ∈ units, IsFileName unit.key)
    (distinct : (units.map (·.key)).Nodup) :
    ((writtenFiles outDir units).map (·.path)).Nodup := by
  have paths : (writtenFiles outDir units).map (·.path) =
      (units.map (·.key)).map fun key => outDir.join ⟨key⟩ := by
    simp [writtenFiles, Function.comp_def]
  rw [paths]
  refine List.Nodup.map_on (fun name first other second same => ?_) distinct
  obtain ⟨unit, member, rfl⟩ := List.mem_map.mp first
  obtain ⟨another, memberToo, rfl⟩ := List.mem_map.mp second
  exact Path.join_injective (plain unit member) (plain another memberToo) same

/-- Without a directory no file is written. -/
theorem generate_of_directory_error {files listed : FileSystem} {rendered : RenderedUnits}
    {error : IoError} (rendering : (renderUnits source targets files).value = (rendered, listed))
    (failed : (listed.createDirectories outDir).1 = .error error) :
    (generate source outDir targets files).value.result = .error (.io error) ∧
      ∀ location, (generate source outDir targets files).value.files.fileAt? location =
        listed.fileAt? location := by
  have made : (renderUnits source targets files).value.2.createDirectories outDir =
      (.error error, (listed.createDirectories outDir).2) := by
    rw [rendering]
    exact Prod.ext failed rfl
  rw [value_generate_of_error made]
  exact ⟨rfl, fileAt?_createDirectories listed outDir⟩

theorem generate_without_directory (reads : source.ReadsOnly) {files : FileSystem}
    {error : IoError} (failed : (files.createDirectories outDir).1 = .error error) :
    (generate source outDir targets files).value.result = .error (.io error) ∧
      ∀ location, (generate source outDir targets files).value.files.fileAt? location =
        files.fileAt? location :=
  generate_of_directory_error (value_renderUnits_eq reads targets files) failed

/-- With a directory all depends on how far the writing comes. -/
theorem writesUpTo_generate {files listed : FileSystem} {rendered : RenderedUnits}
    (rendering : (renderUnits source targets files).value = (rendered, listed))
    (present : (listed.createDirectories outDir).1 = .ok ()) :
    ∃ writing, WritesUpTo outDir listed rendered.units writing ∧
      (generate source outDir targets files).value =
        ⟨writing.result.map (⟨·, rendered.rejected, rendered.failed⟩), writing.files⟩ := by
  have made : (renderUnits source targets files).value.2.createDirectories outDir =
      (.ok (), (listed.createDirectories outDir).2) := by
    rw [rendering]
    exact Prod.ext present rfl
  obtain ⟨plain, distinct⟩ := keys_renderUnits source targets files
  rw [value_generate_of_ok made]
  rw [rendering] at plain distinct ⊢
  exact ⟨_, (writesUpTo_writeUnits plain distinct).2.after_same
    (fileAt?_createDirectories listed outDir), rfl⟩

theorem generate_reported (reads : source.ReadsOnly) {files : FileSystem}
    {report : GenerationReport}
    (reported : (generate source outDir targets files).value.result = .ok report) :
    let rendered := (renderUnits source targets files).value.1
    report = ⟨writtenFiles outDir rendered.units, rendered.rejected, rendered.failed⟩ ∧
      (report.written.map (·.path)).Nodup ∧
      Wrote outDir rendered.units files (generate source outDir targets files).value.files := by
  cases present : (files.createDirectories outDir).1 with
  | error error =>
      rw [(generate_without_directory reads present).1] at reported
      cases reported
  | ok =>
      have rendering := value_renderUnits_eq reads targets files
      obtain ⟨plain, distinct⟩ := keys_renderUnits source targets files
      obtain ⟨writing, run, whole⟩ := writesUpTo_generate rendering present
      rw [whole] at reported ⊢
      cases run with
      | all wrote =>
          obtain rfl := Except.ok.inj reported
          exact ⟨rfl, nodup_writtenFiles plain distinct, wrote⟩
      | stopped => cases reported

theorem generate_stopped (reads : source.ReadsOnly) {files : FileSystem} {error : BindingError}
    (present : (files.createDirectories outDir).1 = .ok ())
    (failed : (generate source outDir targets files).value.result = .error error) :
    let after := (generate source outDir targets files).value.files
    ∃ done unit later cause,
      (renderUnits source targets files).value.1.units = done ++ unit :: later ∧
        error = .io cause ∧
        after.write (outDir.join ⟨unit.key⟩) (Text.Utf8.encode unit.render) = .error cause ∧
        Wrote outDir done files after ∧
        ∀ other ∈ unit :: later, ∀ location,
          after.locate (outDir.join ⟨other.key⟩) = .ok location →
          after.fileAt? location = files.fileAt? location := by
  have rendering := value_renderUnits_eq reads targets files
  obtain ⟨plain, distinct⟩ := keys_renderUnits source targets files
  obtain ⟨writing, run, whole⟩ := writesUpTo_generate rendering present
  rw [whole] at failed ⊢
  cases run with
  | all => cases failed
  | @stopped after done later unit cause split wrote refused =>
      obtain rfl := Except.error.inj failed
      rw [split] at plain distinct
      exact ⟨done, unit, later, cause, split, rfl, refused, wrote, wrote.unwritten plain distinct⟩

/-- Generating has the effect that its report tells of. It depends on the listings at the beginning
only. A report tells of all units, each of which is then the content of a file of its own, and no
other file has changed. Without a directory no file is written; and when a unit cannot be written,
those before it are on the disk, and neither it nor those after it are. -/
theorem generate_effect (reads : source.ReadsOnly) (outDir : Path) (targets : List Target)
    (files : FileSystem) :
    let rendered := (renderUnits source targets files).value.1
    let effect := (generate source outDir targets files).value
    (∀ other : ExportSource,
      (∀ path, (other.listing path files).value = (source.listing path files).value) →
      (generate other outDir targets files).value = effect) ∧
    (∀ report, effect.result = .ok report →
      report = ⟨writtenFiles outDir rendered.units, rendered.rejected, rendered.failed⟩ ∧
      (report.written.map (·.path)).Nodup ∧ Wrote outDir rendered.units files effect.files) ∧
    (∀ error, (files.createDirectories outDir).1 = .error error →
      effect.result = .error (.io error) ∧
      ∀ location, effect.files.fileAt? location = files.fileAt? location) ∧
    ∀ error, (files.createDirectories outDir).1 = .ok () → effect.result = .error error →
      ∃ done unit later cause, rendered.units = done ++ unit :: later ∧ error = .io cause ∧
        effect.files.write (outDir.join ⟨unit.key⟩) (Text.Utf8.encode unit.render) = .error cause ∧
        Wrote outDir done files effect.files ∧
        ∀ other ∈ unit :: later, ∀ location,
          effect.files.locate (outDir.join ⟨other.key⟩) = .ok location →
          effect.files.fileAt? location = files.fileAt? location := by
  have onlyInitial := (value_renderUnits_of_readsOnly reads targets files).2
  exact ⟨fun other same => value_generate_congr (onlyInitial other same),
    fun _ reported => generate_reported reads reported,
    fun _ failed => generate_without_directory reads failed,
    fun _ present failed => generate_stopped reads present failed⟩

/-- A listing stands where the output goes: it is read, and then makes way for the output. -/
theorem generate_effect_overwrittenListing :
    let name := "m.g.cs".toList
    let files : FileSystem := ⟨[], [([name], .file (Text.Utf8.encode "1 ?f@@YAHXZ".toList) false)]⟩
    let target : Target := ⟨[], [['C']], "\"m\"".toList, ['m'], ⟨name⟩⟩
    let content :=
      ("using System.Runtime.InteropServices;\n" ++
        "\n" ++
        "partial class C\n" ++
        "\x7b\n" ++
        "    [DllImport(\"m\", EntryPoint = \"#1\")] public extern static int F();\n" ++
        "\x7d\n").toList
    let effect := (generate Source.textSource ⟨[]⟩ [target] files).value
    Source.textSource.ReadsOnly ∧ effect.result = .ok ⟨[⟨⟨name⟩, 1⟩], [], []⟩ ∧
      effect.files.read ⟨name⟩ = .ok (Text.Utf8.encode content) := by
  intro name files target content effect
  let unit : SourceUnit := ⟨name, [.ofTarget target [⟨1, ['F'], ['f'], ⟨.int, 0⟩, [], false⟩]]⟩
  have answers := Source.readsOnly_textSource.answers files
  have rendered : (renderUnits Source.textSource [target] files).value =
      (⟨[unit], [], []⟩, files) := by
    rw [value_renderUnits_of_answers answers]
    simp only [files, target, unit, name]
    cbv
  have made : (renderUnits Source.textSource [target] files).value.2.createDirectories ⟨[]⟩ =
      (.ok (), files) := by
    rw [rendered, createDirectories]
    rfl
  have written : files.write (Path.join ⟨[]⟩ ⟨unit.key⟩) (Text.Utf8.encode unit.render) =
      .ok (files.put [name] (.file (Text.Utf8.encode unit.render) false)) := by
    rfl
  have whole := value_generate_of_ok made
  simp only [rendered, value_writeUnits_of_ok written] at whole
  have ran : effect.result = .ok ⟨[⟨⟨name⟩, 1⟩], [], []⟩ := congrArg Effect.result whole
  obtain ⟨_, _, wrote⟩ :=
    (generate_effect Source.readsOnly_textSource ⟨[]⟩ [target] files).2.1 _ ran
  rw [rendered] at wrote
  have held := wrote.contents unit (by simp)
  have path : Path.join ⟨[]⟩ ⟨unit.key⟩ = ⟨name⟩ := rfl
  have text : unit.render = content := by
    decide +kernel
  rw [path, text] at held
  exact ⟨Source.readsOnly_textSource, ran, held⟩

end NativeInterop.Generation
