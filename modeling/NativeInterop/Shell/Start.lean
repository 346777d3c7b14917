import NativeInterop.Shell.Evaluate
import NativeInterop.Source.ExportSource

namespace NativeInterop.Shell

/-! Programs that are started from outside. -/

namespace Start

/-- How deep commands may be nested. -/
def depthLimit : Nat := 1500

/-- The process of a program that has nothing but a search path. -/
def process (directory : Location) : Process where
  name := []
  number := 4242
  bindings := [{ name := "PATH".toList, value := some Evaluate.defaultPath, exported := true }]
  descriptors := [(0, 0), (1, 1), (2, 2)]
  directory

/-- A machine whose standard input is empty and whose output is kept. -/
def machine (files : FileSystem) : Machine where
  process := process files.workingDirectory
  files
  streams :=
    #[⟨.special .null, true, false, 0⟩, ⟨.pipe 0, false, true, 0⟩, ⟨.pipe 1, false, true, 0⟩]
  pipes := #[{}, {}]

/-- Starts a program by its name or by the path that leads to it. -/
def program (name : Bytes) (arguments : List Bytes) : Action (Except IoError Nat) :=
  let run := Evaluate.run depthLimit
  Evaluate.launcher (Evaluate.execute run Evaluate.interpreterDepth) (name :: arguments)

def written (machine : Machine) (pipe : Nat) : List UInt8 :=
  ((machine.pipes[pipe]?).map fun pipe => Bytes.toBytes pipe.content.toList).getD []

def finished (ending : Ending) (machine : Machine) : Finished :=
  ⟨ending, written machine 0, written machine 1, machine.files⟩

/-- Runs a program to its end. -/
def run (files : FileSystem) (name : Bytes) (arguments : List Bytes) : Except IoError Finished :=
  match (program name arguments).run (machine files) with
  | .ok (.error error) _ => .error error
  | .ok (.ok status) machine => .ok (finished (.exited (status % 256)) machine)
  | .error (.killed _ signal) machine => .ok (finished (.killed signal false) machine)
  | .error (.exit status) machine | .error (.failure status) machine
  | .error (.replaced status) machine => .ok (finished (.exited (status % 256)) machine)

/-- Runs the programs of a small system: a shell with its utilities, and scripts for it. -/
def runner (files : FileSystem) (tool : Path) (arguments : List (List Char)) :
    Except IoError Finished :=
  run files (System.pathText tool.text) (arguments.map System.pathText)

end Start

end NativeInterop.Shell
