import Mathlib
import NativeInterop.Proofs.Binding.Layout
import NativeInterop.Proofs.CommandLine.Messages
import NativeInterop.Proofs.CommandLine.Running
import NativeInterop.Proofs.Generation.Sources

namespace NativeInterop.CommandLine

open Binding Generation Log Text

/-! The command `decode` prints what generating writes. Both come from one report on the listing;
generating puts its declarations inside blocks, where they are found again line by line. -/

variable {arguments : List (List Char)} {environment : Environment} {setup : LogSetup}
  {logLevel : Option (List Char)} {listing : Path} {text key : List Char}
  {target : Target} {files : FileSystem}

theorem value_textListing (readable : files.readText listing = .ok text) :
    (Source.textListing listing files).value = .ok text := by
  rw [Source.textListing, readable]
  rfl

theorem value_listing_textSource (readable : files.readText listing = .ok text) :
    (Source.textSource.listing listing files).value = ⟨.ok text, files⟩ := by
  rw [Source.value_listing_textSource, readable]
  rfl

theorem value_run_decode (runner : Runner) (readable : files.readText target.binary = .ok text) :
    let report := NativeInterop.decodeListing text
    let scope := Scope.ofTarget target (report.exports.map Declaration.ofExport)
    ((Command.decode target.binary target.literal).run runner files).value =
      ⟨.ok ⟨unlines (scope.declarations.map (·.render scope.literal)),
        printed (report.rejected.map rejectedText), report.isClean⟩, files⟩ := by
  simp only [Command.run, printListing, Logged.value_bind, Logged.value_pure,
    value_textListing readable, Scope.ofTarget, List.map_map]
  rfl

theorem value_renderTarget_textSource (readable : files.readText target.binary = .ok text) :
    let report := NativeInterop.decodeListing text
    (renderTarget Source.textSource target files).value =
      ⟨.ok (.ofTarget target (report.exports.map Declaration.ofExport), report.rejected), files⟩ := by
  rw [value_renderTarget]
  simp only [value_listing_textSource readable]
  rfl

/-- A target with a key goes to a unit of its own if there is no other target. -/
theorem value_renderUnits_singleton {source : ExportSource} {scope : Scope}
    {rejected : List RejectedLine} {after : FileSystem} (named : target.outputKey? = some key)
    (rendered : (renderTarget source target files).value = ⟨.ok (scope, rejected), after⟩) :
    (renderUnits source [target] files).value =
      (⟨[(SourceUnit.empty key).push scope], rejected.map (⟨target.qualifiedName, ·⟩), []⟩,
        after) := by
  rw [renderUnits, Logged.value_bind, Logged.value_foldlM, List.foldl_cons, List.foldl_nil]
  simp only [addTarget, renderKeyed, named, Logged.value_bind, Logged.value_pure, rendered]
  rfl

theorem unbroken_ofTarget (namespaceUnbroken : '\n' ∉ target.namespaceName)
    (nestingUnbroken : ∀ name ∈ target.nesting, '\n' ∉ name) (literalUnbroken : '\n' ∉ target.literal)
    (exports : List Export) :
    (Scope.ofTarget target (exports.map Declaration.ofExport)).Unbroken :=
  Scope.Assembled.unbroken ⟨⟨exports, rfl⟩, namespaceUnbroken, nestingUnbroken, literalUnbroken⟩

/-- What `decode` prints and what generating renders of the same listing agree. The declarations of
the unit are the lines of the output, in the same order and number; the same lines are rejected,
each told with its number, its code with the place of it, and its text; and the exit code tells
whether any is. -/
theorem decode_agrees (runner : Runner)
    (starts :
      Starts arguments environment ⟨logLevel, .decode target.binary target.literal⟩ setup)
    (readable : files.readText target.binary = .ok text)
    (namespaceUnbroken : '\n' ∉ target.namespaceName)
    (nestingUnbroken : ∀ name ∈ target.nesting, '\n' ∉ name)
    (literalUnbroken : '\n' ∉ target.literal) :
    ∃ outcome scope rejected, run runner arguments environment files = .ok outcome ∧
      (renderTarget Source.textSource target files).value = ⟨.ok (scope, rejected), files⟩ ∧
      (∀ key, let unit := (SourceUnit.empty key).push scope
        declarationLines unit.render = lines outcome.stdout ∧
        unit.declarationCount = (lines outcome.stdout).length) ∧
      outcome.stderr = rejected.flatMap (fun line =>
        "line ".toList ++ (toString line.number).toList ++ ": Unrecognized type code \"".toList ++
          line.error.code ++ "\" at offset ".toList ++ (toString line.error.offset).toList ++
          " (".toList ++ line.text ++ ")\n".toList) ∧
      (outcome.exitCode = 0 ↔ rejected = []) ∧
      ∀ key, target.outputKey? = some key →
        (renderUnits Source.textSource [target] files).value =
          (⟨[(SourceUnit.empty key).push scope], rejected.map (⟨target.qualifiedName, ·⟩), []⟩,
            files) := by
  let report := NativeInterop.decodeListing text
  let scope := Scope.ofTarget target (report.exports.map Declaration.ofExport)
  have unbroken : scope.Unbroken :=
    unbroken_ofTarget namespaceUnbroken nestingUnbroken literalUnbroken report.exports
  have rendered := value_renderTarget_textSource readable
  have ended := value_run_decode runner readable
  refine ⟨_, scope, report.rejected, run_of_starts runner starts files, rendered, ?_, ?_, ?_,
    fun key named => value_renderUnits_singleton named rendered⟩
  · intro key unit
    have single : ∀ other ∈ unit.scopes, other.Unbroken := by
      intro other member
      rwa [List.mem_singleton.mp member]
    have found : declarationLines unit.render =
        scope.declarations.map (·.render scope.literal) :=
      (declarationLines_unit single).trans (List.append_nil _)
    rw [Outcome.ofCommand_of_ok ended, found, unbroken.lines_declarations]
    exact ⟨rfl, by simp [unit, SourceUnit.declarationCount, SourceUnit.push, SourceUnit.empty]⟩
  · rw [Outcome.ofCommand_of_ok ended]
    exact printed_rejectedText fun line => isRunChar_of_mem_rejected
  · rw [Outcome.ofCommand_of_ok ended]
    simp [report, ListingReport.isClean]

/-- One line of the listing is a declaration, inside a namespace and a class, and one is rejected. -/
theorem decode_agrees_nestedClass :
    let arguments := ["decode", "l", "--literal", "\"m\""].map String.toList
    let environment : Environment := ⟨none, none, none⟩
    let text := "1 ?f@@YAHXZ\n2 ?g@@YAQXZ".toList
    let files : FileSystem := ⟨[], [(["l".toList], .file (Utf8.encode text) false)]⟩
    let target : Target := ⟨['N'], [['C']], "\"m\"".toList, ['m'], ⟨['l']⟩⟩
    ∃ outcome unit, run noPrograms arguments environment files = .ok outcome ∧
      outcome.exitCode ≠ 0 ∧
      (renderUnits Source.textSource [target] files).value.1.units = [unit] ∧
      lines outcome.stdout = declarationLines unit.render ∧ unit.declarationCount = 1 ∧
      outcome.stderr =
        "line 2: Unrecognized type code \"Q\" at offset 0 (2 ?g@@YAQXZ)\n".toList := by
  intro arguments environment text files target
  let setup : LogSetup := .ofEnvironment environment
  let invocation : Invocation := ⟨none, .decode ⟨['l']⟩ "\"m\"".toList⟩
  have starts : Starts arguments environment invocation setup := ⟨rfl, rfl, rfl⟩
  have readable : files.readText target.binary = .ok text := by
    simp only [files, target, text]
    cbv
  let rejectedLine : RejectedLine := ⟨2, "2 ?g@@YAQXZ".toList, ⟨['Q'], 0⟩⟩
  have report : NativeInterop.decodeListing text =
      ⟨[⟨1, ['f'], ⟨.int, 0⟩, []⟩], [rejectedLine]⟩ := by
    simp only [text, rejectedLine]
    cbv
  obtain ⟨outcome, scope, rejected, ran, rendered, units, complaints, exit, alone⟩ :=
    decode_agrees noPrograms starts readable (by decide) (by decide) (by decide)
  have known := rendered.symm.trans (value_renderTarget_textSource readable)
  rw [report] at known
  obtain ⟨rfl, rfl⟩ := Prod.mk.inj (Except.ok.inj (congrArg Effect.result known))
  let key := "m.g.cs".toList
  obtain ⟨same, count⟩ := units key
  have named : target.outputKey? = some key := by decide
  refine ⟨outcome, _, ran, ?_, ?_, same.symm, ?_, complaints.trans (by decide)⟩
  · rw [Ne, exit]
    exact List.cons_ne_nil _ _
  · rw [alone key named]
  · rfl

end NativeInterop.CommandLine
