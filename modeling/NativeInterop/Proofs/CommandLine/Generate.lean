import Mathlib
import NativeInterop.Proofs.CommandLine.Messages
import NativeInterop.Proofs.CommandLine.Running
import NativeInterop.Proofs.Generation.Effect
import NativeInterop.Proofs.Generation.Sources
import NativeInterop.Proofs.Manifest.Loading
import NativeInterop.Proofs.Text.Utf8

namespace NativeInterop.CommandLine

open Binding FileSystem Generation Log

/-! How the command `generate` ends. A manifest that cannot be used stops it before anything is
looked at or changed; a target without a listing is told in the end; and a file that cannot be
written stops it after those before. -/

variable {runner : Runner} {arguments : List (List Char)} {environment : Environment}
  {setup : LogSetup} {logLevel : Option (List Char)} {manifest directory : Path}
  {outDir tool : Option Path} {source : Option SourceKind} {files other listed : FileSystem}
  {content : Manifest} {targets : List Target} {rendered : RenderedUnits} {outcome : Outcome}

/-! ### What to do -/

theorem plan_congr (same : other.readText manifest = files.readText manifest) :
    plan manifest outDir source tool other = plan manifest outDir source tool files := by
  rw [plan, plan, Manifest.load, Manifest.load, same]

theorem value_plan_of_load_error {error : BindingError}
    (failed : (Manifest.load files manifest).value = .error error) :
    (plan manifest outDir source tool files).value = .error error := by
  rw [plan, Logged.value_bind, failed]
  rfl

theorem value_plan_of_load (loaded : (Manifest.load files manifest).value = .ok content) :
    (plan manifest outDir source tool files).value =
      (content.resolve (baseDirectory manifest)).map fun targets =>
        { source := (source.or content.generator.source).getD .default
          tool := tool.or content.generator.tool
          outDir := outDir.getD
            ((baseDirectory manifest).join (content.generator.outDir.getD defaultOutDir))
          targets } := by
  rw [plan, Logged.value_bind, loaded]
  rfl

/-- Options count most, then what the manifest says. Its paths begin in its own directory. -/
theorem value_plan_of_resolves
    (resolves : Manifest.Resolves files manifest (baseDirectory manifest) content targets) :
    (plan manifest outDir source tool files).value = .ok
      { source := (source.or content.generator.source).getD .dumpbin
        tool := tool.or content.generator.tool
        outDir := (outDir.or (content.generator.outDir.map (baseDirectory manifest).join)).getD
          ((baseDirectory manifest).join (.ofString "generated"))
        targets } := by
  have resolved : content.resolve (baseDirectory manifest) = .ok targets :=
    Manifest.resolveAll_eq_ok_iff.mpr resolves.resolved
  rw [value_plan_of_load (Manifest.value_load_eq_ok_iff.mpr resolves.loaded), resolved]
  cases outDir with
  | some chosen => rfl
  | none => cases configured : content.generator.outDir <;> rfl

theorem exists_error_of_unusable
    (unusable : Manifest.Unusable files manifest (baseDirectory manifest)) :
    ∃ error, (plan manifest outDir source tool files).value = .error error := by
  cases loaded : (Manifest.load files manifest).value with
  | error error => exact ⟨error, value_plan_of_load_error loaded⟩
  | ok content =>
      cases resolved : content.resolve (baseDirectory manifest) with
      | error error => exact ⟨error, by rw [value_plan_of_load loaded, resolved]; rfl⟩
      | ok targets =>
          have resolves :
              Manifest.Resolves files manifest (baseDirectory manifest) content targets :=
            ⟨Manifest.value_load_eq_ok_iff.mp loaded, Manifest.resolveAll_eq_ok_iff.mp resolved⟩
          exact absurd resolves unusable.not_resolves

/-! ### How it ends -/

theorem run_generate_of_error (runner : Runner) {error : BindingError}
    (failed : (plan manifest outDir source tool files).value = .error error) :
    (Command.generate manifest outDir source tool).run runner files =
      ⟨⟨.error error, files⟩, (plan manifest outDir source tool files).events⟩ := by
  have events := List.append_nil (plan manifest outDir source tool files).events
  simp only [Command.run, bind, Logged.andThen, failed]
  exact congrArg (Logged.mk _) events

theorem value_run_generate_of_ok (runner : Runner) {plan : GenerationPlan}
    (planned : (CommandLine.plan manifest outDir source tool files).value = .ok plan) :
    let effect :=
      (generate (plan.source.source runner plan.tool) plan.outDir plan.targets files).value
    ((Command.generate manifest outDir source tool).run runner files).value =
      ⟨effect.result.map printReport, effect.files⟩ := by
  simp only [Command.run, Logged.value_bind, planned]
  rfl

/-- The directory is there and holds all units, and no other file has changed. -/
structure AllWritten (directory : Path) (rendered : RenderedUnits)
    (listed after : FileSystem) : Prop where
  made : (listed.createDirectories directory).1 = .ok ()
  units : Wrote directory rendered.units listed after

/-- The end of a run that came to writing, with the files as they were when all was listed. -/
structure EndsWith (directory : Path) (rendered : RenderedUnits) (listed : FileSystem)
    (outcome : Outcome) : Prop where
  success : outcome.exitCode = 0 ↔
    rendered.failed = [] ∧ AllWritten directory rendered listed outcome.files
  failure : outcome.exitCode = 0 ∨ outcome.exitCode = 1
  told : AllWritten directory rendered listed outcome.files →
    outcome.stdout = rendered.units.flatMap (fun unit =>
      (directory.join ⟨unit.key⟩).text ++ " (".toList ++
        (toString unit.declarationCount).toList ++ " declarations)\n".toList) ∧
    outcome.stderr =
      rendered.rejected.flatMap (fun refused =>
        refused.target ++ ": line ".toList ++ (toString refused.line.number).toList ++
          ": Unrecognized type code \"".toList ++ refused.line.error.code ++
          "\" at offset ".toList ++ (toString refused.line.error.offset).toList ++ ['\n']) ++
      rendered.failed.flatMap fun failed =>
        failed.target.qualifiedName ++ ": ".toList ++ failed.error.message.toList ++ ['\n']
  stopped : ¬ AllWritten directory rendered listed outcome.files →
    outcome.stdout = [] ∧
    (∃ cause, outcome.stderr = ("Error: IO error: " ++ IoError.message cause ++ "\n").toList) ∧
    ∃ done later, rendered.units = done ++ later ∧ Wrote directory done listed outcome.files ∧
      ∀ unit ∈ later, ∀ location, outcome.files.locate (directory.join ⟨unit.key⟩) = .ok location →
        outcome.files.fileAt? location = listed.fileAt? location

theorem printed_writtenText (directory : Path) (units : List SourceUnit) :
    printed ((writtenFiles directory units).map writtenText) = units.flatMap fun unit =>
      (directory.join ⟨unit.key⟩).text ++ " (".toList ++
        (toString unit.declarationCount).toList ++ " declarations)\n".toList := by
  rw [printed, writtenFiles, List.map_map, List.flatMap_map]
  refine List.flatMap_congr fun unit _ => ?_
  simp only [Function.comp_apply, writtenText, toList_toString, List.append_assoc]
  rfl

theorem printed_failedText (failed : List FailedTarget) :
    printed (failed.map failedText) = failed.flatMap fun failed =>
      failed.target.qualifiedName ++ ": ".toList ++ failed.error.message.toList ++ ['\n'] := by
  rw [printed, List.flatMap_map]
  rfl

theorem endsWith_of_allWritten (written : AllWritten directory rendered listed outcome.files)
    (accepted : ∀ refused ∈ rendered.rejected, ∀ c ∈ refused.line.error.code,
      ExportLine.isRunChar c = true)
    (exit : outcome.exitCode = if rendered.failed.isEmpty then 0 else 1)
    (stdout : outcome.stdout = printed ((writtenFiles directory rendered.units).map writtenText))
    (stderr : outcome.stderr =
      printed (rendered.rejected.map rejectedExportText ++ rendered.failed.map failedText)) :
    EndsWith directory rendered listed outcome where
  success := by
    rw [exit]
    cases failed : rendered.failed <;> simp [written]
  failure := by
    rw [exit]
    cases rendered.failed <;> simp
  told _ := by
    refine ⟨stdout.trans (printed_writtenText directory rendered.units), stderr.trans ?_⟩
    rw [printed, List.flatMap_append, ← printed, ← printed, printed_rejectedExportText accepted,
      printed_failedText]
  stopped missing := absurd written missing

theorem endsWith_of_stopped {done later : List SourceUnit}
    (missing : ¬ AllWritten directory rendered listed outcome.files)
    (exit : outcome.exitCode = 1) (stdout : outcome.stdout = [])
    (stderr : ∃ cause,
      outcome.stderr = ("Error: IO error: " ++ IoError.message cause ++ "\n").toList)
    (split : rendered.units = done ++ later) (wrote : Wrote directory done listed outcome.files)
    (unwritten : ∀ unit ∈ later, ∀ location,
      outcome.files.locate (directory.join ⟨unit.key⟩) = .ok location →
      outcome.files.fileAt? location = listed.fileAt? location) :
    EndsWith directory rendered listed outcome where
  success := by simp [exit, missing]
  failure := .inr exit
  told written := absurd written missing
  stopped _ := ⟨stdout, stderr, done, later, split, wrote, unwritten⟩

theorem stderr_io (error : IoError) :
    ("Error: " ++ (BindingError.io error).message ++ "\n").toList =
      ("Error: IO error: " ++ error.message ++ "\n").toList := by
  have message : (BindingError.io error).message = "IO error: " ++ error.message := rfl
  rw [message, ← String.append_assoc]
  rfl

theorem endsWith_of_generate {source : ExportSource} {logged : Logged (Effect Printed)}
    (rendering : (renderUnits source targets files).value = (rendered, listed))
    (ended : logged.value =
      ⟨(generate source directory targets files).value.result.map printReport,
        (generate source directory targets files).value.files⟩) :
    EndsWith directory rendered listed (.ofCommand setup logged) := by
  have accepted : ∀ refused ∈ rendered.rejected, ∀ c ∈ refused.line.error.code,
      ExportLine.isRunChar c = true := by
    intro refused member
    have accounted := accounted_renderUnits source targets files
    rw [rendering] at accounted
    obtain ⟨_, _, _, listing, _, inside⟩ := accounted.rejected refused member
    exact isRunChar_of_mem_rejected inside
  cases present : (listed.createDirectories directory).1 with
  | error error =>
      obtain ⟨failed, same⟩ := generate_of_directory_error rendering present
      rw [failed] at ended
      rw [Outcome.ofCommand_of_error ended]
      have nothing : rendered.units = [] ++ rendered.units := rfl
      refine endsWith_of_stopped (fun written => ?_) rfl rfl ⟨error, stderr_io error⟩ nothing
        (.nil same) fun _ _ location _ => same location
      cases present.symm.trans written.made
  | ok =>
      obtain ⟨writing, run, whole⟩ := writesUpTo_generate rendering present
      rw [whole] at ended
      cases run with
      | all wrote =>
          rw [Outcome.ofCommand_of_ok ended]
          exact endsWith_of_allWritten ⟨present, wrote⟩ accepted rfl rfl rfl
      | @stopped after done later unit error split wrote failed =>
          rw [Outcome.ofCommand_of_error ended]
          obtain ⟨plain, distinct⟩ := keys_renderUnits source targets files
          rw [rendering, split] at plain distinct
          refine endsWith_of_stopped (fun written => ?_) rfl rfl ⟨error, stderr_io error⟩ split
            wrote (wrote.unwritten plain distinct)
          -- A unit that is there in the end could have been written.
          have held := written.units.contents unit (by rw [split]; simp)
          obtain ⟨_, again⟩ := exists_write_of_read held (Text.Utf8.encode unit.render)
          cases failed.symm.trans again

theorem endsWith_of_plan {plan : GenerationPlan}
    (planned : (CommandLine.plan manifest outDir source tool files).value = .ok plan) :
    let rendering := (renderUnits (plan.source.source runner plan.tool) plan.targets files).value
    EndsWith plan.outDir rendering.1 rendering.2
      (.ofCommand setup ((Command.generate manifest outDir source tool).run runner files)) := by
  intro rendering
  exact endsWith_of_generate (Prod.mk.eta).symm (value_run_generate_of_ok runner planned)

end NativeInterop.CommandLine
