import Mathlib
import NativeInterop.Proofs.Generation.Rendering

namespace NativeInterop

open Binding Log

/-! Rendering targets is a stable grouping. At every moment the units, the rejected exports and the
failed targets are those of the targets so far: the loop keeps them in step, and a failing target
leaves no trace in the units. -/

/-- In certain states of the files, which the source does not leave, it gives each path one
answer. -/
structure ExportSource.Answers (source : ExportSource)
    (answer : Path → Except BindingError (List Char)) (states : FileSystem → Prop) : Prop where
  result : ∀ files path, states files → (source.listing path files).value.result = answer path
  files : ∀ files path, states files → states (source.listing path files).value.files

def ExportSource.ReadsOnly (source : ExportSource) : Prop :=
  ∀ path files, (source.listing path files).value.files = files

theorem ExportSource.ReadsOnly.answers {source : ExportSource} (reads : source.ReadsOnly)
    (files : FileSystem) :
    source.Answers (fun path => (source.listing path files).value.result) (· = files) where
  result := by
    rintro _ path rfl
    rfl
  files := by
    rintro _ path rfl
    exact reads path _

theorem Source.readsOnly_textSource : Source.textSource.ReadsOnly :=
  fun _ _ => rfl

namespace Generation

variable {answer : Path → Except BindingError (List Char)} {states : FileSystem → Prop}
  {source : ExportSource} {files : FileSystem} {targets : List Target} {units : List SourceUnit}
  {key : List Char}

/-! ### First appearances -/

section FirstAppearances

variable {α : Type} [BEq α] [LawfulBEq α] {x : α}

theorem eraseDups_append_of_mem {xs : List α} (member : x ∈ xs) :
    (xs ++ [x]).eraseDups = xs.eraseDups := by
  simp [List.eraseDups_append, List.removeAll, member]

theorem eraseDups_append_of_not_mem {xs : List α} (missing : x ∉ xs) :
    (xs ++ [x]).eraseDups = xs.eraseDups ++ [x] := by
  simp [List.eraseDups_append, List.removeAll, missing, List.eraseDups_cons]

theorem nodup_eraseDups (xs : List α) : xs.eraseDups.Nodup := by
  induction xs using List.reverseRecOn with
  | nil => simp
  | append_singleton xs x ih =>
      by_cases member : x ∈ xs
      · rw [eraseDups_append_of_mem member]
        exact ih
      · rw [eraseDups_append_of_not_mem member, List.nodup_append]
        refine ⟨ih, by simp, fun y here z last => ?_⟩
        rw [List.mem_singleton.mp last]
        exact ne_of_mem_of_not_mem (List.mem_eraseDups.mp here) member

end FirstAppearances

/-! ### The targets that succeed -/

/-- A target with an output key whose binary has a listing. -/
structure ListedTarget where
  target : Target
  key : List Char
  listing : List Char

namespace ListedTarget

/-- The names of the target around the declarations of its listing. -/
def scope (listed : ListedTarget) : Scope where
  namespaceName := listed.target.namespaceName
  nesting := listed.target.nesting
  literal := listed.target.literal
  declarations := (decodeListing listed.listing).exports.map Declaration.ofExport

/-- The names of the target, joined by dots. A target in the global namespace has only classes. -/
def name (listed : ListedTarget) : List Char :=
  List.intercalate ['.'] (if listed.target.namespaceName.isEmpty then listed.target.nesting
    else listed.target.namespaceName :: listed.target.nesting)

def rejected (listed : ListedTarget) : List RejectedExport :=
  (decodeListing listed.listing).rejected.map fun line => ⟨listed.name, line⟩

end ListedTarget

/-- What becomes of a target. That it has no key comes before what its binary is answered with. -/
def outcome (answer : Path → Except BindingError (List Char)) (target : Target) :
    Except BindingError ListedTarget :=
  match target.outputKey? with
  | none => .error (.invalidTarget (.noOutputFile target.library))
  | some key => (answer target.binary).map (⟨target, key, ·⟩)

def listed? (answer : Path → Except BindingError (List Char)) (target : Target) :
    Option ListedTarget :=
  (outcome answer target).toOption

def failure? (answer : Path → Except BindingError (List Char)) (target : Target) :
    Option FailedTarget :=
  match outcome answer target with
  | .ok _ => none
  | .error error => some ⟨target, error⟩

theorem outcome_eq_ok_iff {target : Target} {listed : ListedTarget} :
    outcome answer target = .ok listed ↔
      listed.target = target ∧ target.outputKey? = some listed.key ∧
        answer target.binary = .ok listed.listing := by
  obtain ⟨whose, key, listing⟩ := listed
  rw [outcome]
  cases named : target.outputKey? with
  | none => simp
  | some name =>
      cases answered : answer target.binary with
      | error error => simp [Except.map]
      | ok text => simp [Except.map, eq_comm (a := target)]

def listedTargets (answer : Path → Except BindingError (List Char)) (targets : List Target) :
    List ListedTarget :=
  targets.filterMap (listed? answer)

/-- The scopes that go to the unit of a key. -/
def scopesOf (key : List Char) (listed : List ListedTarget) : List Scope :=
  (listed.filter (·.key == key)).map (·.scope)

/-- A unit for each key, in the order of first appearance. -/
def unitsOf (listed : List ListedTarget) : List SourceUnit :=
  (listed.map (·.key)).eraseDups.map fun key => ⟨key, scopesOf key listed⟩

theorem keys_unitsOf (listed : List ListedTarget) :
    (unitsOf listed).map (·.key) = (listed.map (·.key)).eraseDups := by
  simp [unitsOf, Function.comp_def]

theorem scopesOf_append (key : List Char) (listed : List ListedTarget) (next : ListedTarget) :
    scopesOf key (listed ++ [next]) =
      scopesOf key listed ++ if next.key = key then [next.scope] else [] := by
  by_cases same : next.key = key <;> simp [scopesOf, same]

theorem scopesOf_eq_nil {listed : List ListedTarget} (missing : key ∉ listed.map (·.key)) :
    scopesOf key listed = [] := by
  rw [scopesOf, List.map_eq_nil_iff, List.filter_eq_nil_iff]
  intro other member same
  exact missing (beq_iff_eq.mp same ▸ List.mem_map_of_mem member)

/-- Adding the scope of one more target keeps the units those of the targets so far. -/
theorem addScope_unitsOf (listed : List ListedTarget) (next : ListedTarget) :
    addScope next.key next.scope (unitsOf listed) = unitsOf (listed ++ [next]) := by
  -- A known key has its unit in place, and only that unit grows; a new key comes last.
  by_cases known : next.key ∈ listed.map (·.key)
  · have member : next.key ∈ (unitsOf listed).map (·.key) := by
      rw [keys_unitsOf]
      exact List.mem_eraseDups.mpr known
    rw [addScope_of_mem member, unitsOf, unitsOf, List.map_append, List.map_singleton,
      eraseDups_append_of_mem known, List.map_map]
    refine List.map_congr_left fun key _ => ?_
    by_cases same : next.key = key
    · simp [scopesOf_append, same, SourceUnit.push]
    · simp [scopesOf_append, same, Ne.symm same]
  · have missing : next.key ∉ (unitsOf listed).map (·.key) := by
      rw [keys_unitsOf]
      exact fun named => known (List.mem_eraseDups.mp named)
    have others : ∀ key ∈ (listed.map (·.key)).eraseDups,
        scopesOf key (listed ++ [next]) = scopesOf key listed := by
      intro key here
      have different : next.key ≠ key :=
        (ne_of_mem_of_not_mem (List.mem_eraseDups.mp here) known).symm
      rw [scopesOf_append, if_neg different, List.append_nil]
    rw [addScope_of_not_mem missing, unitsOf, unitsOf, List.map_append, List.map_singleton,
      eraseDups_append_of_not_mem known, List.map_append, List.map_singleton, scopesOf_append,
      scopesOf_eq_nil known, if_pos rfl, List.nil_append]
    refine congrArg (· ++ _) (List.map_congr_left fun key here => ?_)
    rw [others key here]

/-- The targets of the distinct keys are all targets. -/
theorem length_scopes_unitsOf (listed : List ListedTarget) :
    ((unitsOf listed).flatMap (·.scopes)).length = listed.length := by
  let keys := listed.map (·.key)
  have same : keys.eraseDups.Perm keys.dedup :=
    (List.perm_ext_iff_of_nodup (nodup_eraseDups keys) (List.nodup_dedup keys)).mpr fun key => by
      rw [List.mem_eraseDups, List.mem_dedup]
  have lengths (key : List Char) : (scopesOf key listed).length = keys.count key := by
    rw [scopesOf, List.length_map, List.count, List.countP_map, List.countP_eq_length_filter]
    rfl
  calc ((unitsOf listed).flatMap (·.scopes)).length
      = (keys.eraseDups.map fun key => keys.count key).sum := by
        simp only [unitsOf, List.flatMap_map, List.length_flatMap, lengths]
        rfl
    _ = (keys.dedup.map fun key => keys.count key).sum := (same.map _).sum_eq
    _ = keys.length := by
        rw [← List.sum_map_count_dedup_eq_length keys]
        refine congrArg List.sum (List.map_congr_left fun key _ => ?_)
        exact List.countP_congr fun other _ => by simp
    _ = listed.length := List.length_map _

/-! ### The loop -/

/-- What there is to tell of some targets, from the answers about their binaries. -/
def RenderedUnits.ofAnswers (answer : Path → Except BindingError (List Char))
    (targets : List Target) : RenderedUnits where
  units := unitsOf (listedTargets answer targets)
  rejected := (listedTargets answer targets).flatMap (·.rejected)
  failed := targets.filterMap (failure? answer)

/-- What one target adds to what there is to tell. -/
theorem ofAnswers_append (answer : Path → Except BindingError (List Char)) (targets : List Target)
    (target : Target) :
    RenderedUnits.ofAnswers answer (targets ++ [target]) =
      let told := RenderedUnits.ofAnswers answer targets
      match outcome answer target with
      | .ok listed =>
          ⟨addScope listed.key listed.scope told.units, told.rejected ++ listed.rejected,
            told.failed⟩
      | .error error => ⟨told.units, told.rejected, told.failed ++ [⟨target, error⟩]⟩ := by
  cases became : outcome answer target with
  | error error =>
      simp [RenderedUnits.ofAnswers, listedTargets, listed?, failure?, became, Except.toOption]
  | ok listed =>
      simp [RenderedUnits.ofAnswers, listedTargets, listed?, failure?, became, Except.toOption,
        addScope_unitsOf]

/-- The rendering is that of the targets so far. -/
structure Tells (answer : Path → Except BindingError (List Char)) (done : List Target)
    (rendering : Rendering) : Prop where
  inStep : rendering.InStep
  told : rendering.toRenderedUnits = RenderedUnits.ofAnswers answer done

theorem Tells.succeed {rendering : Rendering} {target : Target} {listed : ListedTarget}
    (tells : Tells answer targets rendering) (became : outcome answer target = .ok listed) :
    Tells answer (targets ++ [target]) (rendering.succeed target listed.key listed.scope
      (decodeListing listed.listing).rejected) := by
  obtain ⟨rfl, _⟩ := outcome_eq_ok_iff.mp became
  obtain ⟨inStep, added⟩ := tells.inStep.succeed listed.target listed.key listed.scope
    (decodeListing listed.listing).rejected
  refine ⟨inStep, ?_⟩
  rw [added, ofAnswers_append, became, ← tells.told]
  rfl

theorem Tells.fail {rendering : Rendering} {target : Target} {error : BindingError}
    (tells : Tells answer targets rendering) (became : outcome answer target = .error error) :
    Tells answer (targets ++ [target]) (rendering.fail target error) := by
  refine ⟨tells.inStep.fail target error, ?_⟩
  rw [ofAnswers_append, became, ← tells.told]
  rfl

theorem value_renderTarget (source : ExportSource) (target : Target) (files : FileSystem) :
    (renderTarget source target files).value =
      ⟨(source.listing target.binary files).value.result.map fun listing =>
        (Scope.ofTarget target ((decodeListing listing).exports.map Declaration.ofExport),
          (decodeListing listing).rejected),
        (source.listing target.binary files).value.files⟩ := by
  rw [renderTarget, Logged.value_bind]
  cases (source.listing target.binary files).value.result <;> rfl

theorem value_renderKeyed (answers : source.Answers answer states) (start : states files)
    (target : Target) :
    (renderKeyed source target files).value.result =
        (outcome answer target).map (fun listed =>
          (listed.key, listed.scope, (decodeListing listed.listing).rejected)) ∧
      states (renderKeyed source target files).value.files := by
  cases named : target.outputKey? with
  | none => simpa [renderKeyed, outcome, named, Effect.reading, Except.map] using start
  | some key =>
      have answered := answers.result files target.binary start
      have stays := answers.files files target.binary start
      simp only [renderKeyed, outcome, named, Logged.value_bind, Logged.value_pure,
        value_renderTarget, answered]
      cases answer target.binary with
      | error error => exact ⟨rfl, stays⟩
      | ok listing => exact ⟨rfl, stays⟩

/-- One step of the loop keeps what is told that of the targets so far. -/
theorem value_addTarget {rendering : Rendering} {done : List Target}
    (answers : source.Answers answer states) (start : states files)
    (tells : Tells answer done rendering) (target : Target) :
    states (addTarget source (rendering, files) target).value.2 ∧
      Tells answer (done ++ [target]) (addTarget source (rendering, files) target).value.1 := by
  obtain ⟨result, stays⟩ := value_renderKeyed answers start target
  rw [addTarget, Logged.value_bind, result]
  cases became : outcome answer target with
  | ok listed => exact ⟨stays, tells.succeed became⟩
  | error error => exact ⟨stays, tells.fail became⟩

theorem value_foldl_addTarget {rendering : Rendering} {done : List Target}
    (answers : source.Answers answer states) (start : states files)
    (tells : Tells answer done rendering) (targets : List Target) :
    let reached := targets.foldl (fun reached target => (addTarget source reached target).value)
      (rendering, files)
    states reached.2 ∧ Tells answer (done ++ targets) reached.1 := by
  -- On the targets to come: what was told of those that are done is the invariant.
  induction targets generalizing done rendering files with
  | nil => simpa using ⟨start, tells⟩
  | cons target targets ih =>
      obtain ⟨stays, next⟩ := value_addTarget answers start tells target
      have whole := ih stays next
      rwa [List.append_assoc, List.singleton_append] at whole

theorem value_renderUnits (answers : source.Answers answer states) (start : states files)
    (targets : List Target) :
    ∃ after, states after ∧
      (renderUnits source targets files).value = (RenderedUnits.ofAnswers answer targets, after) := by
  rw [renderUnits, Logged.value_bind, Logged.value_foldlM]
  have nothing : Tells answer [] .empty := ⟨inStep_empty, rfl⟩
  obtain ⟨stays, tells⟩ := value_foldl_addTarget answers start nothing targets
  exact ⟨_, stays, Prod.ext tells.told rfl⟩

theorem value_renderUnits_of_answers (answers : source.Answers answer (· = files))
    (targets : List Target) :
    (renderUnits source targets files).value = (RenderedUnits.ofAnswers answer targets, files) := by
  obtain ⟨after, same, whole⟩ := value_renderUnits answers rfl targets
  obtain rfl : after = files := same
  exact whole

/-! ### Groups -/

/-- What is rendered of some targets, by the targets that could be listed and those that could
not. -/
structure Groups (answer : Path → Except BindingError (List Char)) (targets : List Target)
    (rendered : RenderedUnits) : Prop where
  distinct : (rendered.units.map (·.key)).Nodup
  order : rendered.units.map (·.key) = ((listedTargets answer targets).map (·.key)).eraseDups
  scopes : ∀ unit ∈ rendered.units,
    unit.scopes = ((listedTargets answer targets).filter (·.key == unit.key)).map (·.scope)
  nonempty : ∀ unit ∈ rendered.units, unit.scopes ≠ []
  rejected : rendered.rejected = (listedTargets answer targets).flatMap (·.rejected)
  failed : rendered.failed = targets.filterMap (failure? answer)
  others : rendered.failed.map (·.target) =
    targets.filter fun target => (listed? answer target).isNone
  complete : (rendered.units.flatMap (·.scopes)).length + rendered.failed.length = targets.length

theorem target_failed (answer : Path → Except BindingError (List Char)) (targets : List Target) :
    (targets.filterMap (failure? answer)).map (·.target) =
      targets.filter fun target => (listed? answer target).isNone := by
  induction targets with
  | nil => rfl
  | cons target targets ih =>
      cases became : outcome answer target <;>
        simp [failure?, listed?, became, Except.toOption, ih]

theorem length_listedTargets_add (answer : Path → Except BindingError (List Char))
    (targets : List Target) :
    (listedTargets answer targets).length + (targets.filterMap (failure? answer)).length =
      targets.length := by
  induction targets with
  | nil => rfl
  | cons target targets ih =>
      simp only [listedTargets] at ih ⊢
      cases became : outcome answer target <;>
        simp only [List.filterMap_cons, failure?, listed?, became, Except.toOption,
          List.length_cons] <;>
        omega

theorem groups_ofAnswers (answer : Path → Except BindingError (List Char))
    (targets : List Target) : Groups answer targets (.ofAnswers answer targets) where
  distinct := by
    rw [RenderedUnits.ofAnswers, keys_unitsOf]
    exact nodup_eraseDups _
  order := keys_unitsOf _
  scopes := by
    intro unit member
    obtain ⟨key, _, rfl⟩ := List.mem_map.mp member
    rfl
  nonempty := by
    intro unit member empty
    obtain ⟨key, appears, rfl⟩ := List.mem_map.mp member
    obtain ⟨listed, inside, rfl⟩ := List.mem_map.mp (List.mem_eraseDups.mp appears)
    have there : listed.scope ∈ scopesOf listed.key (listedTargets answer targets) :=
      List.mem_map_of_mem (List.mem_filter.mpr ⟨inside, by simp⟩)
    rw [show scopesOf _ _ = [] from empty] at there
    contradiction
  rejected := rfl
  failed := rfl
  others := target_failed answer targets
  complete := by
    rw [RenderedUnits.ofAnswers, length_scopes_unitsOf]
    exact length_listedTargets_add answer targets

/-- Rendering groups the targets that can be listed by key, and puts the others aside. Targets that
cannot be listed leave no trace in the units and the rejected exports, wherever they stand. -/
theorem renderUnits_groups (answers : source.Answers answer states) :
    (∀ targets files, states files →
      Groups answer targets (renderUnits source targets files).value.1) ∧
    ∀ before failing after files others, states files → states others →
      (∀ target ∈ failing, listed? answer target = none) →
      (renderUnits source (before ++ failing ++ after) files).value.1.units =
          (renderUnits source (before ++ after) others).value.1.units ∧
        (renderUnits source (before ++ failing ++ after) files).value.1.rejected =
          (renderUnits source (before ++ after) others).value.1.rejected := by
  refine ⟨fun targets files start => ?_, fun before failing after files others start other fails => ?_⟩
  · obtain ⟨_, _, whole⟩ := value_renderUnits answers start targets
    rw [whole]
    exact groups_ofAnswers answer targets
  · obtain ⟨_, _, whole⟩ := value_renderUnits answers start (before ++ failing ++ after)
    obtain ⟨_, _, without⟩ := value_renderUnits answers other (before ++ after)
    have nothing : listedTargets answer failing = [] := List.filterMap_eq_nil_iff.mpr fails
    have same : listedTargets answer (before ++ failing ++ after) =
        listedTargets answer (before ++ after) := by
      simp only [listedTargets] at nothing ⊢
      rw [List.filterMap_append, List.filterMap_append, List.filterMap_append, nothing,
        List.append_nil]
    rw [whole, without]
    exact ⟨congrArg unitsOf same, congrArg (List.flatMap ListedTarget.rejected) same⟩

/-- Two targets share a file. Before each of them stands one that fails, the first with their key
and the other with none. -/
theorem renderUnits_groups_missingListing :
    let files : FileSystem := ⟨[],
      [([['a']], .file (Text.Utf8.encode "1 ?f@@YAHXZ\n2 ?g@@YAQXZ".toList) false),
        ([['c']], .file (Text.Utf8.encode "3 ?h@@YAQXZ\n4 ?k@@YAXXZ".toList) false)]⟩
    let answer (path : Path) := (Source.textSource.listing path files).value.result
    let first : Target := ⟨['N'], [['C']], "\"m\"".toList, ['m'], ⟨['a']⟩⟩
    let second : Target := ⟨[], [['D'], ['E']], "\"x/m\"".toList, "x/m".toList, ⟨['c']⟩⟩
    let missing : Target := { first with binary := ⟨['b']⟩ }
    let nameless : Target := { second with library := ['/'] }
    let whole := (renderUnits Source.textSource [missing, first, nameless, second] files).value.1
    Source.textSource.Answers answer (· = files) ∧
      (∀ target ∈ [missing, nameless], listed? answer target = none) ∧
      whole.units.map (·.key) = ["m.g.cs".toList] ∧
      (∀ unit ∈ whole.units, unit.scopes =
        [⟨['N'], [['C']], "\"m\"".toList, [⟨1, ['F'], ['f'], ⟨.int, 0⟩, [], false⟩]⟩,
          ⟨[], [['D'], ['E']], "\"x/m\"".toList,
            [⟨4, ['K'], ['k'], ⟨.void, 0⟩, [], false⟩]⟩]) ∧
      whole.rejected.map (fun refused => (refused.target, refused.line.number)) =
        [("N.C".toList, 2), ("D.E".toList, 1)] ∧
      whole.failed =
        [⟨missing, .io .notFound⟩, ⟨nameless, .invalidTarget (.noOutputFile ['/'])⟩] ∧
      whole.units = (renderUnits Source.textSource [first, second] files).value.1.units := by
  intro files answer first second missing nameless whole
  have answers : Source.textSource.Answers answer (· = files) :=
    Source.readsOnly_textSource.answers files
  have unlisted : ∀ target ∈ [missing, nameless], listed? answer target = none := by
    simp only [List.forall_mem_cons, List.not_mem_nil, false_implies, implies_true, and_true]
    constructor <;> cbv
  have listed : listedTargets answer [missing, first, nameless, second] =
      [⟨first, "m.g.cs".toList, "1 ?f@@YAHXZ\n2 ?g@@YAQXZ".toList⟩,
        ⟨second, "m.g.cs".toList, "3 ?h@@YAQXZ\n4 ?k@@YAXXZ".toList⟩] := by
    simp only [answer, first, second, missing, nameless, files]
    cbv
  obtain ⟨groups, without⟩ := renderUnits_groups answers
  have grouped : Groups answer [missing, first, nameless, second] whole := groups _ files rfl
  have keys : whole.units.map (·.key) = ["m.g.cs".toList] := by
    rw [grouped.order, listed]
    cbv
  have withoutMissing :=
    (without [] [missing] [first, nameless, second] files files rfl rfl fun target member =>
      unlisted target (by simpa using .inl (List.mem_singleton.mp member))).1
  have withoutNameless :=
    (without [first] [nameless] [second] files files rfl rfl fun target member =>
      unlisted target (by simpa using .inr (List.mem_singleton.mp member))).1
  refine ⟨answers, unlisted, keys, fun unit member => ?_, ?_, ?_,
    withoutMissing.trans withoutNameless⟩
  · have named : unit.key = "m.g.cs".toList := by
      have inside := List.mem_map_of_mem (f := (·.key)) member
      rw [keys] at inside
      exact List.mem_singleton.mp inside
    rw [grouped.scopes unit member, listed, named]
    cbv
  · rw [grouped.rejected, listed]
    cbv
  · rw [grouped.failed]
    simp only [answer, first, second, missing, nameless, files]
    cbv

end Generation

end NativeInterop
