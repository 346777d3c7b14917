import Mathlib
import NativeInterop.Proofs.Binding.OutputKey
import NativeInterop.Proofs.Generation.Grouping

namespace NativeInterop.Generation

open Binding Log

/-! The keys of the units, and why targets fail. Whatever a source does, even to the files, each
unit has a key of its own and that is the output key of a target. A target without an output key is
refused; any other failure is the answer of the source about its binary. -/

variable {source : ExportSource} {targets : List Target} {units : List SourceUnit}
  {files : FileSystem} {key : List Char}

/-- Each unit has a key of its own, which one of the targets asks for. -/
structure KeyedBy (targets : List Target) (units : List SourceUnit) : Prop where
  distinct : (units.map (·.key)).Nodup
  asked : ∀ key ∈ units.map (·.key), ∃ target ∈ targets, target.outputKey? = some key

theorem KeyedBy.addScope {target : Target} (keyed : KeyedBy targets units)
    (asked : target.outputKey? = some key) (scope : Scope) :
    KeyedBy (targets ++ [target]) (addScope key scope units) := by
  constructor
  · rw [keys_addScope]
    split
    · exact keyed.distinct
    · rename_i new
      rw [List.nodup_append]
      refine ⟨keyed.distinct, by simp, fun other here last there => ?_⟩
      rw [List.mem_singleton.mp there]
      exact ne_of_mem_of_not_mem here new
  · intro other member
    rw [keys_addScope] at member
    have known : other ∈ units.map (·.key) ∨ other = key := by
      split at member
      · exact .inl member
      · simpa using member
    rcases known with here | rfl
    · obtain ⟨asker, inside, named⟩ := keyed.asked other here
      exact ⟨asker, List.mem_append_left _ inside, named⟩
    · exact ⟨target, by simp, asked⟩

/-- What is rendered of a target comes from its listing. -/
theorem listed_of_renderKeyed {target : Target} {scope : Scope} {rejected : List RejectedLine}
    (rendered : (renderKeyed source target files).value.result = .ok (key, scope, rejected)) :
    target.outputKey? = some key ∧ ∃ listing,
      (source.listing target.binary files).value.result = .ok listing ∧
        rejected = (decodeListing listing).rejected := by
  cases named : target.outputKey? with
  | none => simp [renderKeyed, named, Effect.reading] at rendered
  | some name =>
      simp only [renderKeyed, named, Logged.value_bind, Logged.value_pure, value_renderTarget]
        at rendered
      cases answered : (source.listing target.binary files).value.result with
      | error error => simp [answered, Except.map] at rendered
      | ok listing =>
          simp only [answered, Except.map, Except.ok.injEq, Prod.mk.injEq] at rendered
          obtain ⟨rfl, _, rfl⟩ := rendered
          exact ⟨rfl, listing, rfl, rfl⟩

theorem keyedBy_addTarget {rendering : Rendering} (inStep : rendering.InStep)
    (keyed : KeyedBy targets rendering.units) (target : Target) (files : FileSystem) :
    KeyedBy (targets ++ [target]) (addTarget source (rendering, files) target).value.1.units := by
  rw [addTarget, Logged.value_bind]
  cases result : (renderKeyed source target files).value.result with
  | ok output =>
      obtain ⟨key, scope, rejected⟩ := output
      have added := (inStep.succeed target key scope rejected).2
      have units : (rendering.succeed target key scope rejected).units =
          Generation.addScope key scope rendering.units := congrArg RenderedUnits.units added
      simp only [Logged.value_pure]
      rw [units]
      exact keyed.addScope (listed_of_renderKeyed result).1 scope
  | error error =>
      refine ⟨keyed.distinct, fun key member => ?_⟩
      obtain ⟨asker, inside, named⟩ := keyed.asked key member
      exact ⟨asker, List.mem_append_left _ inside, named⟩

/-- Whatever the source does, the keys of the units are those of targets. -/
theorem keyedBy_renderUnits (source : ExportSource) (targets : List Target) (files : FileSystem) :
    KeyedBy targets (renderUnits source targets files).value.1.units := by
  refine renderUnits_induction (fun done rendered => KeyedBy done rendered.units) ?_ ?_ targets
    files
  · exact ⟨List.nodup_nil, by simp⟩
  · exact fun done rendering files target inStep keyed =>
      keyedBy_addTarget inStep keyed target files

theorem isFileName_of_keyedBy (keyed : KeyedBy targets units) :
    ∀ unit ∈ units, IsFileName unit.key := by
  intro unit member
  obtain ⟨_, _, named⟩ := keyed.asked unit.key (List.mem_map_of_mem member)
  exact isFileName_of_outputKey? named

/-! ### Failures -/

/-- The target has no output key, or the source does not list its binary. -/
inductive FailsBy (source : ExportSource) : FailedTarget → Prop
  | unnamed {target : Target} : target.outputKey? = none →
      FailsBy source ⟨target, .invalidTarget (.noOutputFile target.library)⟩
  | unlisted {target : Target} {key : List Char} {files : FileSystem} {error : BindingError} :
      target.outputKey? = some key →
      (source.listing target.binary files).value.result = .error error →
      FailsBy source ⟨target, error⟩

theorem failsBy_renderKeyed {target : Target} {error : BindingError}
    (failed : (renderKeyed source target files).value.result = .error error) :
    FailsBy source ⟨target, error⟩ := by
  cases named : target.outputKey? with
  | none =>
      simp only [renderKeyed, named, Effect.reading, Logged.value_pure] at failed
      obtain rfl := Except.error.inj failed
      exact .unnamed named
  | some key =>
      simp only [renderKeyed, named, Logged.value_bind, Logged.value_pure, value_renderTarget]
        at failed
      cases answered : (source.listing target.binary files).value.result with
      | error told =>
          rw [answered] at failed
          obtain rfl := Except.error.inj failed
          exact .unlisted named answered
      | ok listing =>
          rw [answered] at failed
          cases failed

/-- Each rejected line stands in a listing that the source gave for a target. Those that failed are
some of the targets, each for its own reason. -/
structure Accounted (source : ExportSource) (targets : List Target) (rendered : RenderedUnits) :
    Prop where
  rejected : ∀ refused ∈ rendered.rejected, ∃ target ∈ targets, ∃ files listing,
    (source.listing target.binary files).value.result = .ok listing ∧
      refused.line ∈ (decodeListing listing).rejected
  failed : ∀ failed ∈ rendered.failed, failed.target ∈ targets ∧ FailsBy source failed

theorem Accounted.later {rendered : RenderedUnits} (accounted : Accounted source targets rendered)
    (target : Target) : Accounted source (targets ++ [target]) rendered where
  rejected refused member := by
    obtain ⟨asked, inside, listed⟩ := accounted.rejected refused member
    exact ⟨asked, List.mem_append_left _ inside, listed⟩
  failed failed member := by
    obtain ⟨asked, reason⟩ := accounted.failed failed member
    exact ⟨List.mem_append_left _ asked, reason⟩

theorem accounted_addTarget {rendering : Rendering} (inStep : rendering.InStep)
    (accounted : Accounted source targets rendering.toRenderedUnits) (target : Target)
    (files : FileSystem) :
    Accounted source (targets ++ [target])
      (addTarget source (rendering, files) target).value.1.toRenderedUnits := by
  have earlier := accounted.later target
  rw [addTarget, Logged.value_bind]
  cases result : (renderKeyed source target files).value.result with
  | ok output =>
      obtain ⟨key, scope, rejected⟩ := output
      obtain ⟨_, listing, listed, rfl⟩ := listed_of_renderKeyed result
      simp only [Logged.value_pure]
      rw [(inStep.succeed target key scope _).2]
      refine ⟨fun refused member => ?_, earlier.failed⟩
      rcases List.mem_append.mp member with before | last
      · exact earlier.rejected refused before
      · obtain ⟨line, inside, rfl⟩ := List.mem_map.mp last
        exact ⟨target, by simp, files, listing, listed, inside⟩
  | error error =>
      refine ⟨earlier.rejected, fun failed member => ?_⟩
      rcases List.mem_append.mp member with before | last
      · exact earlier.failed failed before
      · obtain rfl := List.mem_singleton.mp last
        exact ⟨by simp, failsBy_renderKeyed result⟩

theorem accounted_renderUnits (source : ExportSource) (targets : List Target) (files : FileSystem) :
    Accounted source targets (renderUnits source targets files).value.1 := by
  refine renderUnits_induction (Accounted source) ?_ ?_ targets files
  · exact ⟨by simp, by simp⟩
  · exact fun done rendering files target inStep accounted =>
      accounted_addTarget inStep accounted target files

end NativeInterop.Generation
