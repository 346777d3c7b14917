import Mathlib
import NativeInterop.Proofs.CommandLine.LevelOption
import NativeInterop.Proofs.CommandLine.Running
import NativeInterop.Proofs.Log.Filter

namespace NativeInterop.CommandLine

open Log

/-! Runs that differ in how they log. Two runs of one command end alike, whatever their filters, their
formats and the levels on their command lines, and a run at a level logs what a run at the most verbose
level logs, without the events below its own. -/

variable {arguments otherArguments : List (List Char)} {environment otherEnvironment : Environment}
  {option otherOption : Option (List Char)} {value : List Char} {command : Command}
  {setup : LogSetup} {level : Log.Level} {runner : Runner}

/-! ### Setups -/

theorem dashless_of_parse (read : Log.Level.parse (String.ofList value) = .ok level) :
    value.head? ≠ some '-' := by
  intro dash
  obtain ⟨rest, rfl⟩ : ∃ rest, value = '-' :: rest := by
    cases value with
    | nil => simp at dash
    | cons c rest =>
        obtain rfl : c = '-' := Option.some.inj dash
        exact ⟨rest, rfl⟩
  have lowered : (String.ofList ('-' :: rest)).toLower.toList.head? = some '-' := by
    simp [String.toLower]
  rw [Log.Level.parse] at read
  split at read <;> simp_all

/-- The arguments ask for the command. They give no level for the log or a valid one, and the log goes
to no file. -/
structure Configured (arguments : List (List Char)) (environment : Environment)
    (option : Option (List Char)) (command : Command) : Prop where
  parsed : Invocation.parse arguments = .ok ⟨option, command⟩
  valid : ∀ name, option = some name →
    ∃ level, Log.Level.parse (String.ofList name) = .ok level
  unlogged : environment.logFile = none

theorem starts_of_configured (configured : Configured arguments environment option command) :
    ∃ setup, Starts arguments environment ⟨option, command⟩ setup := by
  obtain ⟨parsed, valid, unlogged⟩ := configured
  cases option with
  | none => exact ⟨_, parsed, rfl, unlogged⟩
  | some name =>
      obtain ⟨level, read⟩ := valid name rfl
      refine ⟨.ofLevel level, parsed, ?_, unlogged⟩
      simp only [Invocation.logSetup, read]
      rfl

/-- The log is kept at one level: by the option, or else by a variable that is nothing but a level, or
because nothing that could be read tells of another filter. -/
inductive LogsAt : Option (List Char) → Environment → Log.Level → Prop
  | byOption {name : List Char} {environment : Environment} {level : Log.Level}
      (read : Log.Level.parse (String.ofList name) = .ok level) :
      LogsAt (some name) environment level
  | byVariable {environment : Environment} {text : String} {level : Log.Level}
      (set : environment.logFilter = some text) (plain : IsLevelText text.toList level) :
      LogsAt none environment level
  | byDefault {environment : Environment}
      (unread : (environment.logFilter.bind fun text => Filter.ofText? text.toList) = none) :
      LogsAt none environment .info

theorem filter_of_logsAt (logs : LogsAt option environment level)
    (logging : Invocation.logSetup ⟨option, command⟩ environment = .ok setup) :
    setup.filter = .ofLevel level := by
  cases logs with
  | byOption read =>
      simp only [Invocation.logSetup, read] at logging
      obtain rfl := Except.ok.inj logging
      rfl
  | byVariable set plain =>
      obtain rfl := Except.ok.inj logging
      simp only [LogSetup.ofEnvironment, Filter.ofVariable, set, Option.bind_some,
        Filter.ofText?_of_isLevelText plain, Option.getD_some]
  | byDefault unread =>
      obtain rfl := Except.ok.inj logging
      simp only [LogSetup.ofEnvironment, Filter.ofVariable, unread, Option.getD_none]

/-! ### Two runs -/

/-- What a run leaves behind besides its log. -/
structure SameResults (first second : Outcome) : Prop where
  exitCode : first.exitCode = second.exitCode
  stdout : first.stdout = second.stdout
  stderr : first.stderr = second.stderr
  files : first.files = second.files

theorem sameResults_ofCommand (setup other : LogSetup) (logged : Logged (Effect Printed)) :
    SameResults (.ofCommand setup logged) (.ofCommand other logged) := by
  obtain ⟨⟨result, files⟩, events⟩ := logged
  cases result with
  | ok end_ => exact ⟨rfl, rfl, rfl, rfl⟩
  | error error => exact ⟨rfl, rfl, rfl, rfl⟩

theorem log_ofCommand (setup : LogSetup) (logged : Logged (Effect Printed)) :
    (Outcome.ofCommand setup logged).log = setup.filter.select logged.events := by
  obtain ⟨⟨result, files⟩, events⟩ := logged
  cases result with
  | ok end_ => rfl
  | error error => rfl

theorem agree_of_configured (runner : Runner)
    (first : Configured arguments environment option command)
    (second : Configured otherArguments otherEnvironment otherOption command)
    (files : FileSystem) :
    ∃ one other, run runner arguments environment files = .ok one ∧
      run runner otherArguments otherEnvironment files = .ok other ∧ SameResults one other ∧
      ∀ level, LogsAt option environment level → LogsAt otherOption otherEnvironment .trace →
        one.log = other.log.filter fun event => event.level.verbosity ≤ level.verbosity := by
  obtain ⟨setup, starts⟩ := starts_of_configured first
  obtain ⟨otherSetup, otherStarts⟩ := starts_of_configured second
  refine ⟨_, _, run_of_starts runner starts files, run_of_starts runner otherStarts files,
    sameResults_ofCommand setup otherSetup _, fun level logs verbose => ?_⟩
  rw [log_ofCommand, log_ofCommand, filter_of_logsAt logs starts.logging,
    filter_of_logsAt verbose otherStarts.logging, Filter.select_ofLevel_trace,
    Filter.select_ofLevel]

theorem events_run_decode {listing : Path} {literal text : List Char} {files : FileSystem}
    (readable : files.readText listing = .ok text) :
    ((Command.decode listing literal).run runner files).events =
      .readListing listing (Text.Utf8.size text) :: listingEvents text := by
  have listed : Source.textListing listing files =
      ⟨.ok text, [.readListing listing (Text.Utf8.size text)]⟩ := by
    rw [Source.textListing, readable]
    rfl
  simp only [Command.run, printListing, Logged.events_bind, Logged.value_bind, listed,
    Logged.events_pure, List.append_nil]
  rfl

end NativeInterop.CommandLine
