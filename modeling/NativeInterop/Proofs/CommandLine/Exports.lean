import Mathlib
import NativeInterop.Proofs.CommandLine.Decode
import NativeInterop.Proofs.Export.TrailingText
import NativeInterop.Proofs.Pe.Listing
import NativeInterop.Proofs.Text.Utf8

namespace NativeInterop.CommandLine

open Log Text

/-! The command `exports` prints the listing of an image, to be captured and read back later. -/

variable {arguments : List (List Char)} {environment : Environment} {setup : LogSetup}
  {logLevel : Option (List Char)} {binary capture : Path} {text written listing : List Char}
  {error : BindingError} {files after later : FileSystem}

/-- The file holds the text, maybe with the line ends of another system. -/
structure Captures (later : FileSystem) (capture : Path) (text written : List Char) : Prop where
  added : ReturnsAdded text written
  stored : later.read capture = .ok (Utf8.encode written)

/-- Whatever characters were printed, the file is valid text, and the same one. -/
theorem Captures.readText (captured : Captures later capture text written) :
    later.readText capture = .ok written := by
  rw [FileSystem.readText, captured.stored]
  simp only [bind, Except.bind, Utf8.decode?_encode]
  rfl

theorem value_run_exports (runner : Runner) (binary : Path) (files : FileSystem) :
    (∃ listing, (Source.imageSource.listing binary files).value = ⟨.ok listing, files⟩ ∧
      ((Command.exports binary).run runner files).value =
        ⟨.ok ⟨listing ++ ['\n'], [], true⟩, files⟩) ∨
    ∃ error, (Source.imageSource.listing binary files).value = ⟨.error error, files⟩ ∧
      ((Command.exports binary).run runner files).value = ⟨.error error, files⟩ := by
  cases read : (Source.imageListing binary files).value with
  | ok listing =>
      refine .inl ⟨listing, ?_, ?_⟩
      · simp only [Source.imageSource, Logged.value_bind, Logged.value_pure, read, Effect.reading]
      · simp only [Command.run, printExports, Logged.value_bind, Logged.value_pure, read, Except.map,
          printed, List.flatMap_cons, List.flatMap_nil, List.append_nil]
  | error error =>
      refine .inr ⟨error, ?_, ?_⟩
      · simp only [Source.imageSource, Logged.value_bind, Logged.value_pure, read, Effect.reading]
      · simp only [Command.run, printExports, Logged.value_bind, Logged.value_pure, read, Except.map]

/-- The report of a listing does not depend on how its lines are ended: not on carriage returns
before any of its line feeds, and not on a line feed at its end. So what the command `exports` prints,
captured in a file and read back as a listing, gives the report that the image itself gives. -/
theorem report_same_over_lineEnds :
    (∀ text written, ReturnsAdded text written → decodeListing written = decodeListing text) ∧
    (∀ text, decodeListing (text ++ ['\n']) = decodeListing text) ∧
    ∀ runner arguments environment logLevel binary setup files after,
      Invocation.parse arguments = .ok ⟨logLevel, .exports binary⟩ →
      Invocation.logSetup ⟨logLevel, .exports binary⟩ environment = .ok setup →
      LogSetup.prepare environment files = (.ok (), after) →
      ∃ outcome, run runner arguments environment files = .ok outcome ∧ outcome.files = after ∧
        ((∃ listing, (Source.imageSource.listing binary after).value = ⟨.ok listing, after⟩ ∧
          outcome.exitCode = 0 ∧ outcome.stdout = listing ++ ['\n'] ∧
          ∀ later capture written, Captures later capture outcome.stdout written →
            (Source.textSource.listing capture later).value = ⟨.ok written, later⟩ ∧
            decodeListing written = decodeListing listing) ∨
        ∃ error, (Source.imageSource.listing binary after).value = ⟨.error error, after⟩ ∧
          outcome.exitCode = 1 ∧ outcome.stdout = []) := by
  refine ⟨fun _ _ => decodeListing_of_returnsAdded, decodeListing_append_feed, ?_⟩
  intro runner arguments environment logLevel binary setup files after parsed logging prepared
  refine ⟨_, run_of_prepared parsed logging prepared, ?_⟩
  rcases value_run_exports runner binary after with ⟨listing, read, ended⟩ | ⟨error, read, ended⟩
  · rw [Outcome.ofCommand_of_ok ended]
    refine ⟨rfl, .inl ⟨listing, read, rfl, rfl, fun later capture written captured => ?_⟩⟩
    refine ⟨value_listing_textSource captured.readText, ?_⟩
    exact (decodeListing_of_returnsAdded captured.added).trans (decodeListing_append_feed listing)
  · rw [Outcome.ofCommand_of_error ended]
    exact ⟨rfl, .inr ⟨error, read, rfl, rfl⟩⟩

/-- A carriage return is left on a line whose line feed got another one, and what the command printed
of two functions was captured with carriage returns. -/
theorem report_same_over_lineEnds_carriageReturns :
    decodeListing "1 ?f@@YAQXZ\r\r\n2 ?g@@YAHXZ".toList =
      ⟨[⟨2, ['g'], ⟨.int, 0⟩, []⟩], [⟨1, "1 ?f@@YAQXZ".toList, ⟨['Q'], 0⟩⟩]⟩ ∧
    let files : FileSystem := ⟨[], [([['m']], .file (Pe.twoFunctions 0x20) false)]⟩
    ∃ outcome listing,
      run noPrograms ["exports".toList, ['m']] ⟨none, none, none⟩ files = .ok outcome ∧
      (Source.imageSource.listing ⟨['m']⟩ files).value = ⟨.ok listing, files⟩ ∧
      outcome.exitCode = 0 ∧
      let written := outcome.stdout.flatMap fun c => if c = '\n' then ['\r', '\n'] else [c]
      let later : FileSystem := ⟨[], [([['l']], .file (Utf8.encode written) false)]⟩
      (Source.textSource.listing ⟨['l']⟩ later).value = ⟨.ok written, later⟩ ∧
      decodeListing written = decodeListing listing ∧
      (decodeListing written).rejected =
        [⟨2, "2          00002010 ?f@@YAQXZ".toList, ⟨['Q'], 0⟩⟩] := by
  have added := returnsAdded_everywhere "1 ?f@@YAQXZ\r\n2 ?g@@YAHXZ".toList
  refine ⟨(report_same_over_lineEnds.1 _ _ added).trans (by cbv), ?_⟩
  intro files
  have known : (Source.imageSource.listing ⟨['m']⟩ files).value =
      ⟨.ok (List.intercalate ['\n'] ((Pe.twoEntries 0x20).map Pe.listingLine)), files⟩ :=
    Pe.value_listing_imageSource rfl (Pe.kind_twoFunctions (.inl rfl))
      (Pe.exportLines_twoFunctions (.inl rfl))
  obtain ⟨outcome, ran, _, ⟨listing, read, exit, stdout, captured⟩ | ⟨error, read, _⟩⟩ :=
    report_same_over_lineEnds.2.2 noPrograms ["exports".toList, ['m']] ⟨none, none, none⟩ none
      ⟨['m']⟩ (.ofEnvironment ⟨none, none, none⟩) files files rfl rfl rfl
  · let written := outcome.stdout.flatMap fun c => if c = '\n' then ['\r', '\n'] else [c]
    let later : FileSystem := ⟨[], [([['l']], .file (Utf8.encode written) false)]⟩
    obtain ⟨text, same⟩ :=
      captured later ⟨['l']⟩ written ⟨returnsAdded_everywhere outcome.stdout, rfl⟩
    refine ⟨outcome, listing, ran, read, exit, text, same, ?_⟩
    obtain rfl : listing = _ := Except.ok.inj (congrArg Effect.result (read.symm.trans known))
    rw [same, Pe.map_listingLine_twoEntries (c := ' ') (by decide)]
    cbv
  · have clash := congrArg Effect.result (read.symm.trans known)
    contradiction

end NativeInterop.CommandLine
