import NativeInterop.Shell.Utility.Checksum
import NativeInterop.Shell.Utility.Concatenate
import NativeInterop.Shell.Utility.Difference
import NativeInterop.Shell.Utility.Dump
import NativeInterop.Shell.Utility.Files
import NativeInterop.Shell.Utility.Grep
import NativeInterop.Shell.Utility.Identity
import NativeInterop.Shell.Utility.Lines
import NativeInterop.Shell.Utility.Names
import NativeInterop.Shell.Utility.Numbers
import NativeInterop.Shell.Utility.Refusal
import NativeInterop.Shell.Utility.Search
import NativeInterop.Shell.Utility.Sed
import NativeInterop.Shell.Utility.Translate

namespace NativeInterop.Shell.Utility

open Shell.Action

/-- How a utility tells that its output could not be put out, and the status it ends with. -/
def unwritten (utility : String) (name : Bytes) (error : IoError) : Action Nat := do
  let tell (message : String) : Action Unit :=
    complain name (message.toList ++ ": ".toList ++ errorText error)
  match utility with
  | "sort" => do
      tell "fflush failed: 'standard output'"
      complain name "write error".toList
      return 2
  | "sed" => do
      tell (if error == .system 9 then "couldn't close stdout" else "couldn't flush stdout")
      return 4
  | "tee" => do
      tell "'standard output'"
      return 1
  | "yes" => do
      tell "standard output"
      return 1
  | _ => do
      tell "write error"
      return if ["cmp", "egrep", "fgrep", "grep", "ls", "printenv"].contains utility then 2
        else if utility == "expr" then 3
        else if utility == "env" then 125
        else 1

/-- Runs a utility to its end, where it tells if its output could not be put out. -/
def closing (utility : String) (name : Bytes) (body : Action Nat) : Action Nat := do
  let outer := (← process).unwritten
  modifyProcess fun process => { process with unwritten := none }
  let status ← try body
    catch
      | .exit status => pure status
      | stop => throw stop
  let error := (← process).unwritten
  modifyProcess fun process => { process with unwritten := outer }
  match error with
  | none => return status
  | some error =>
      if utility == "rev" && error == .system 9 then return status
      else unwritten utility name error

/-- A utility that calls itself by a name of its own. -/
def calledAs (name : String) (utility : Utility) : Utility := fun launch _ arguments =>
  utility launch name.toList arguments

/-- The utilities by name. -/
def table : List (String × Utility) :=
  [("[", bracket), ("arch", Identity.arch), ("base32", Checksum.digits .base32),
    ("base64", Checksum.digits .base64), ("basename", basename), ("bash", largerShell),
    ("cat", cat), ("chgrp", Identity.giveTo true), ("chmod", Files.chmod),
    ("chown", Identity.giveTo false), ("cksum", Checksum.cksum), ("cmp", Files.cmp),
    ("comm", comm), ("cp", Files.cp), ("cut", Cut.cut), ("dd", Files.dd),
    ("diff", Difference.diff), ("dirname", dirname), ("echo", echo),
    ("egrep", calledAs "grep" (Grep.run 'E')), ("env", env), ("expand", expand),
    ("expr", Expr.expr), ("false", refuse), ("fgrep", calledAs "grep" (Grep.run 'F')),
    ("find", Search.find), ("fold", fold), ("grep", Grep.run 'G'), ("groups", Identity.groups),
    ("head", head), ("hostid", Identity.hostid), ("id", Identity.id), ("link", Files.linkOnce),
    ("ln", Files.ln), ("logname", Identity.logname), ("ls", Files.ls),
    ("md5sum", Checksum.digestFiles Checksum.message5), ("mkdir", Files.mkdir),
    ("mktemp", Files.mktemp), ("mv", Files.mv), ("nice", nice), ("nl", nl), ("nohup", nohup),
    ("nproc", Identity.nproc), ("od", Dump.od), ("paste", paste), ("printenv", printenv),
    ("printf", printf), ("pwd", pwd), ("readlink", Search.readlink), ("realpath", realpath),
    ("rev", rev), ("rm", Files.rm), ("rmdir", Files.rmdir), ("sed", Sed.sed),
    ("seq", Sequence.seq), ("setsid", setsid),
    ("sha1sum", Checksum.digestFiles Checksum.secure1),
    ("sha224sum", Checksum.digestFiles Checksum.secure224),
    ("sha256sum", Checksum.digestFiles Checksum.secure256),
    ("sha384sum", Checksum.digestFiles Checksum.secure384),
    ("sha512sum", Checksum.digestFiles Checksum.secure512), ("sleep", sleep),
    ("sort", Sorting.sort), ("stat", Search.stat), ("stdbuf", stdbuf), ("sum", Checksum.sum),
    ("tac", tac), ("tail", tail), ("tee", tee), ("test", test), ("timeout", timeout),
    ("touch", Files.touch), ("tr", Translate.tr), ("true", succeed),
    ("truncate", Files.truncate), ("tty", Identity.tty), ("uname", Identity.uname),
    ("unexpand", unexpand), ("uniq", uniq), ("unlink", Files.unlink), ("wc", wc),
    ("which", which), ("whoami", Identity.whoami), ("xargs", xargs), ("yes", yes)] ++
  Refusal.table

end NativeInterop.Shell.Utility
