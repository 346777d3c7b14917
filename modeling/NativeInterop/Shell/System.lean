import NativeInterop.FileSystem.Access
import NativeInterop.Shell.Bytes

namespace NativeInterop.Shell

/-! What paths lead to, with the programs and devices of the system beside the files. -/

open Text

/-- A file of the system that stands for no data. -/
inductive SpecialFile
  /-- Takes all that is written to it, and gives nothing. -/
  | null
  /-- Takes all that is written to it, and gives zeros. -/
  | zero
  /-- Takes nothing, and gives zeros. -/
  | full
  deriving DecidableEq

inductive Node
  | directory
  | file (content : List UInt8) (executable : Bool)
  /-- A program of the system, under the name of what it does. -/
  | program (name : String)
  | special (file : SpecialFile)
  deriving DecidableEq

namespace SpecialFile

/-- How many zeros are given at most by what has no end of them. -/
def zeroLimit : Nat := 1048576

def content : SpecialFile → Bytes
  | null => []
  | zero | full => List.replicate zeroLimit '\x00'

/-- The special files by name. -/
def named? : String → Option SpecialFile
  | "null" => some null
  | "zero" => some zero
  | "full" => some full
  | _ => none

end SpecialFile

namespace System

/-- The names of the programs that the system has. -/
def programs : List String :=
  ["[", "arch", "awk", "b2sum", "base32", "base64", "basename", "bash", "cat", "chgrp", "chmod",
    "chown", "cksum", "cmp", "comm", "cp", "csplit", "cut", "dash", "date", "dd", "df", "diff",
    "diff3", "dir", "dircolors", "dirname", "du", "echo", "egrep", "env", "expand", "expr",
    "factor", "false", "fgrep", "find", "fmt", "fold", "getconf", "getent", "grep", "groups", "gunzip",
    "gzip", "head", "hostid", "iconv", "id", "install", "join", "kill", "link", "ln", "locale",
    "logname", "ls", "md5sum", "mkdir", "mktemp", "mv", "nice", "nl", "nohup", "nproc", "numfmt",
    "od", "paste", "pathchk", "perl", "pr", "printenv", "printf", "ptx", "pwd", "readlink",
    "realpath", "rev", "rm", "rmdir", "sed", "seq", "setsid", "sh", "sha1sum", "sha224sum",
    "sha256sum", "sha384sum", "sha512sum", "shred", "shuf", "sleep", "sort", "split", "stat",
    "stdbuf", "stty", "sum", "sync", "tac", "tail", "tar", "tee", "test", "timeout", "touch", "tr",
    "true", "truncate", "tsort", "tty", "uname", "unexpand", "uniq", "unlink", "users", "vdir",
    "wc", "which", "who", "whoami", "xargs", "yes", "zcat"]

def programDirectories : List (List String) :=
  [["bin"], ["usr", "bin"]]

def directories : List (List String) :=
  programDirectories ++
    [["dev"], ["etc"], ["home"], ["lib"], ["opt"], ["proc"], ["root"], ["sbin"], ["tmp"], ["usr"],
      ["usr", "lib"], ["usr", "local"], ["usr", "local", "bin"], ["usr", "local", "sbin"],
      ["usr", "sbin"], ["var"]]

/-- The files that tell about users and places. -/
def records : List (List String × String) :=
  [(["etc", "group"], "root:x:0:\n"), (["etc", "hosts"], "127.0.0.1\tlocalhost\n"),
    (["etc", "passwd"], "root:x:0:0:root:/root:/bin/bash\n")]

/-- What the system has at a location. -/
def nodeAt? (location : Location) : Option Node :=
  let names := location.map String.ofList
  if directories.contains names then some .directory
  else
    match names.getLast? with
    | some name =>
        if names.dropLast == ["dev"] then (SpecialFile.named? name).map .special
        else if programs.contains name && programDirectories.contains names.dropLast then
          some (.program name)
        else
          (records.lookup names).map fun text => .file (Bytes.toBytes text.toList) false
    | none => none

def ofEntry : Entry → Node
  | .directory => .directory
  | .file content executable => .file content executable

/-- What stands at a location. -/
def entryAt? (files : FileSystem) (location : Location) : Option Node :=
  match files.entryAt? location with
  | some entry => some (ofEntry entry)
  | none => nodeAt? location

def enter (files : FileSystem) (here : Location) (name : List Char) : Except IoError Location := do
  let there ← FileSystem.destination here name
  match entryAt? files there with
  | none => throw .notFound
  | some .directory => return there
  | some _ => throw .notADirectory

/-- The path that a text of bytes names. -/
def path (text : Bytes) : Path :=
  ⟨Utf8.decodeLossy (Bytes.toBytes text)⟩

def pathText (text : List Char) : Bytes :=
  Bytes.ofBytes (Utf8.encode text)

/-- The location that a path leads to; its last name need not be there. -/
def locate (files : FileSystem) (text : Bytes) : Except IoError Location :=
  let path := path text
  if path.text.isEmpty then .error .notFound
  else if FileSystem.pathLimit ≤ Utf8.size path.text then .error .nameTooLong
  else
    let start := if path.isAbsolute then [] else files.workingDirectory
    match path.names.getLast? with
    | none => .ok start
    | some last => do
        let directory ← path.names.dropLast.foldlM (enter files) start
        let location ← FileSystem.destination directory last
        if path.endsInSlash then
          match entryAt? files location with
          | some .directory | none => return location
          | some _ => throw .notADirectory
        else return location

def lookup (files : FileSystem) (text : Bytes) : Except IoError Node := do
  match entryAt? files (← locate files text) with
  | none => throw .notFound
  | some node => return node

/-- The names inside a directory, in no particular order. -/
def namesIn (files : FileSystem) (location : Location) : List Bytes :=
  let inside := files.entries.filterMap fun (there, _) =>
    match location.isPrefixOf? there with
    | some [name] => some (pathText name)
    | _ => none
  let ofSystem := directories.filterMap fun names =>
    match location.isPrefixOf? (names.map String.toList) with
    | some [name] => some (pathText name)
    | _ => none
  let ofPrograms :=
    if programDirectories.contains (location.map String.ofList) then
      programs.map String.toList
    else []
  (inside ++ ofSystem ++ ofPrograms).eraseDups

end System

/-- The text of a system error. -/
def errorText : IoError → Bytes
  | .system number => (systemErrorText number).toList
  | error => error.message.toList

end NativeInterop.Shell
