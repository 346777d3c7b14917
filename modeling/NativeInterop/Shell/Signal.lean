import NativeInterop.Shell.Bytes

namespace NativeInterop.Shell.Signal

/-! Signals. -/

/-- The names of the signals, from number 1 on, and how the end by one is told. -/
def table : List (String × String) :=
  [("HUP", "Hangup"), ("INT", "Interrupt"), ("QUIT", "Quit"), ("ILL", "Illegal instruction"),
    ("TRAP", "Trace/breakpoint trap"), ("ABRT", "Aborted"), ("BUS", "Bus error"),
    ("FPE", "Floating point exception"), ("KILL", "Killed"), ("USR1", "User defined signal 1"),
    ("SEGV", "Segmentation fault"), ("USR2", "User defined signal 2"), ("PIPE", "Broken pipe"),
    ("ALRM", "Alarm clock"), ("TERM", "Terminated"), ("16", "Stack fault"),
    ("CHLD", "Child exited"), ("CONT", "Continued"), ("STOP", "Stopped (signal)"),
    ("TSTP", "Stopped"), ("TTIN", "Stopped (tty input)"), ("TTOU", "Stopped (tty output)"),
    ("URG", "Urgent I/O condition"), ("XCPU", "CPU time limit exceeded"),
    ("XFSZ", "File size limit exceeded"), ("VTALRM", "Virtual timer expired"),
    ("PROF", "Profiling timer expired"), ("WINCH", "Window changed"), ("IO", "I/O possible"),
    ("PWR", "Power failure"), ("SYS", "Bad system call")]

def interrupt : Nat := 2
def kill : Nat := 9
def segmentationFault : Nat := 11
def brokenPipe : Nat := 13
def terminate : Nat := 15

/-- The number of the last signal. -/
def count : Nat := 64

/-- The names of the signals that have no meaning of their own are counted from both ends. -/
def name (signal : Nat) : String :=
  match signal with
  | 0 => "EXIT"
  | number + 1 =>
      match table[number]? with
      | some (name, _) => name
      | none =>
          if signal < 34 then toString signal
          else if signal == 34 then "RTMIN"
          else if signal < 50 then "RTMIN+" ++ toString (signal - 34)
          else if signal < count then "RTMAX-" ++ toString (count - signal)
          else "RTMAX"

def description (signal : Nat) : String :=
  match signal with
  | 0 => ""
  | number + 1 =>
      ((table[number]?).map (·.2)).getD ("Real-time signal " ++ toString (signal - 34))

/-- The signal of a number or a name; zero stands for the end of the shell. -/
def parse? (text : Bytes) : Option Nat :=
  if !text.isEmpty && text.all Char.isDigit then
    let number := valueInBase 10 text
    if number ≤ count then some number else none
  else (List.range (count + 1)).find? fun signal => (name signal).toList == text.map Char.toUpper

/-- Whether a process goes on after a signal that it has no action for. -/
def isHarmless (signal : Nat) : Bool :=
  [17, 18, 19, 20, 21, 22, 23, 28].contains signal

def canBeTrapped (signal : Nat) : Bool :=
  signal != kill && signal != 19

end NativeInterop.Shell.Signal
