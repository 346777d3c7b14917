import NativeInterop.CommandLine.Run

namespace NativeInterop.CommandLine

open Log

/-! Runs that come to their command. -/

variable {runner : Runner} {arguments : List (List Char)} {environment : Environment}
  {invocation : Invocation} {setup : LogSetup} {logged : Logged (Effect Printed)} {end_ : Printed}
  {error : BindingError} {files after : FileSystem}

/-- A system that finds no program. -/
def noPrograms (_ : FileSystem) (_ : Path) (_ : List (List Char)) : Except IoError Finished :=
  .error .notFound

/-- The arguments ask for a command, and the log is set up without a file. -/
structure Starts (arguments : List (List Char)) (environment : Environment)
    (invocation : Invocation) (setup : LogSetup) : Prop where
  parsed : Invocation.parse arguments = .ok invocation
  logging : invocation.logSetup environment = .ok setup
  unlogged : environment.logFile = none

/-- The command begins with the files as they are when a place for the log was made. -/
theorem run_of_prepared (parsed : Invocation.parse arguments = .ok invocation)
    (logging : invocation.logSetup environment = .ok setup)
    (prepared : LogSetup.prepare environment files = (.ok (), after)) :
    run runner arguments environment files =
      .ok (.ofCommand setup (invocation.command.run runner after)) := by
  rw [run, parsed]
  simp only [Except.map, Invocation.run, logging, prepared]

theorem run_of_starts (runner : Runner) (starts : Starts arguments environment invocation setup)
    (files : FileSystem) :
    run runner arguments environment files =
      .ok (.ofCommand setup (invocation.command.run runner files)) := by
  have prepared : LogSetup.prepare environment files = (.ok (), files) := by
    rw [LogSetup.prepare, starts.unlogged]
  exact run_of_prepared starts.parsed starts.logging prepared

namespace Outcome

theorem ofCommand_of_ok (ended : logged.value = ⟨.ok end_, after⟩) :
    ofCommand setup logged =
      ⟨if end_.isSuccess then 0 else 1, end_.stdout, end_.stderr, setup.format,
        setup.filter.select logged.events, after⟩ := by
  simp only [ofCommand, ended]

theorem ofCommand_of_error (ended : logged.value = ⟨.error error, after⟩) :
    ofCommand setup logged =
      ⟨1, [], ("Error: " ++ error.message ++ "\n").toList, setup.format,
        setup.filter.select logged.events, after⟩ := by
  simp only [ofCommand, ended]

end Outcome

end NativeInterop.CommandLine
