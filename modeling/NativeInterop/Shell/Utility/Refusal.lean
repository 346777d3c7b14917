import NativeInterop.Shell.Utility.Names

namespace NativeInterop.Shell.Utility

/-! Utilities that are followed only as far as they refuse what they are given: what else they do
leaves no trace in files and output. -/

open Shell.Action

namespace Refusal

/-- Goes over paths and complains about those that lead nowhere; may end at the first of them. -/
def ofPaths (letters : String) (status : Nat) (stops : Bool) (tell : Bytes → Bytes → Bytes) :
    Utility := fun _ name arguments => do
  let operands := (← OptionTable.read { letters, status } name arguments).operands
  let files ← files
  let wrong := operands.filterMap fun path =>
    match System.lookup files path with
    | .ok _ => none
    | .error error => some (tell path (errorText error))
  (if stops then wrong.take 1 else wrong).forM (complain name)
  return if wrong.isEmpty then 0 else status

def atPath (path error : Bytes) : Bytes :=
  Quote.shell path ++ ": ".toList ++ error

def doing (text : String) (path error : Bytes) : Bytes :=
  text.toList ++ ' ' :: Quote.shellAlways path ++ ": ".toList ++ error

def opening (path error : Bytes) : Bytes :=
  "cannot open ".toList ++ Quote.shellAlways path ++ " for reading: ".toList ++ error

/-- Refuses operands behind so many. -/
def ofCount (letters : String) (allowed : Nat) (after : Bytes → Bytes → Action Nat) : Utility :=
  fun _ name arguments => do
    let operands := (← OptionTable.read { letters } name arguments).operands
    match operands[allowed]?, operands.head? with
    | some extra, _ => extraOperand name extra
    | none, some first => after name first
    | none, none => return 0

def nothing (_ _ : Bytes) : Action Nat :=
  return 0

/-- Refuses the first operand. -/
def ofFirst (status : Nat) (tell : Bytes → Bytes) : Utility :=
  fun _ name arguments => do
    match arguments with
    | [] => missingOperand name
    | first :: _ => failWith status name (tell first)

/-- The characters that a format stands for whatever the time. -/
def timeless : Bytes → Bytes
  | '%' :: '%' :: rest => '%' :: timeless rest
  | '%' :: 'n' :: rest => '\n' :: timeless rest
  | '%' :: 't' :: rest => '\t' :: timeless rest
  | c :: rest => c :: timeless rest
  | [] => []

/-- A point in time can only be told in words of its own. -/
def date : Utility :=
  ofCount "d:f:I::r:Rsu" 1 fun name first =>
    if first.head? == some '+' then do
      put (line (timeless (first.drop 1)))
      return 0
    else failWith 1 name ("invalid date ".toList ++ Quote.plain first)

def factor : Utility := fun _ name arguments => do
  let operands := (← OptionTable.read { letters := "h" } name arguments).operands
  let wrong := operands.filter fun word => word.isEmpty || !word.all Char.isDigit
  wrong.forM fun word =>
    complain name (Quote.plain word ++ " is not a valid positive integer".toList)
  return if wrong.isEmpty then 0 else 1

def stty : Utility := fun _ name arguments => do
  match arguments with
  | [] => failWith 1 name "'standard input': Inappropriate ioctl for device".toList
  | first :: _ => misuse 1 name ("invalid argument ".toList ++ Quote.plain first)

/-- A pattern that a program begins with has to be closed. -/
def awk : Utility := fun _ name arguments => do
  match arguments with
  | ('/' :: rest) :: _ => do
      if !rest.contains '/' then
        failWith 2 name ("line 1: runaway regular expression /".toList ++ rest ++ " ...".toList)
      return 0
  | _ => return 0

def perl : Utility := fun _ _ arguments => do
  match arguments.find? fun word => word.head? != some '-' with
  | some script =>
      if let .error error := System.lookup (← files) script then
        Action.complain ("Can't open perl script \"".toList ++ script ++ "\": ".toList ++
          errorText error ++ ['\n'])
        return 2
      return 0
  | none => return 0

def diff3 : Utility := fun _ name arguments => do
  if 3 ≤ arguments.length then return 0
  complain name ("missing operand after '".toList ++ arguments.getLastD name ++ ['\''])
  complain name (helpLine name).dropLast
  return 2

/-- Reads the letters of old options, the last of which has no value here. -/
def tar : Utility := fun _ name arguments => do
  match arguments with
  | ('/' :: _) :: _ => do
      complain name "Old option 'T' requires an argument.".toList
      Action.complain "Try 'tar --help' or 'tar --usage' for more information.\n".toList
      return 2
  | _ => return 0

/-- Names of packed files end in a way of their own. -/
def gunzip (isTold : Bool) : Utility := fun _ _ arguments => do
  let name := "gzip".toList
  let statuses ← arguments.mapM fun path => do
    match System.lookup (← files) path with
    | .error error => do
        complain name (path ++ ".gz: ".toList ++ errorText error)
        return 1
    | .ok _ => do
        if isTold then
          Action.complain ("\ngzip: ".toList ++ path ++ ": not in gzip format\n".toList)
          return 1
        complain name (path ++ ": unknown suffix -- ignored".toList)
        return 2
  return if statuses.contains 1 then 1 else statuses.foldl max 0

def gzip : Utility :=
  ofPaths "acdfklLnNqrS:tvV123456789" 1 false fun path error => path ++ ": ".toList ++ error

def getent : Utility := fun _ _ arguments => do
  match arguments with
  | [] => return 0
  | database :: _ => do
      Action.complain (line ("Unknown database: ".toList ++ database))
      put "Try \x60getent --help' or \x60getent --usage' for more information.\n".toList
      return 1

def iconv : Utility :=
  ofPaths "clsf:t:o:" 1 false fun path error =>
    "cannot open input file \x60".toList ++ path ++ "': ".toList ++ error

def pathchk : Utility := fun _ name arguments => do
  let operands := (← OptionTable.read { letters := "pP", leading := true } name arguments).operands
  if operands.isEmpty then missingOperand name
  unless operands.contains [] do return 0
  complain name (atPath [] (errorText .notFound))
  return 1

def table : List (String × Utility) :=
  [("awk", awk), ("b2sum", ofPaths "bctwzl:" 1 false atPath),
    ("csplit", ofPaths "b:f:kn:sqz" 1 true opening), ("date", date),
    ("df", ofPaths "aB:hHiklmPTt:vx:" 1 false atPath), ("diff3", diff3),
    ("dir", ofPaths "1aAbBcCdDfFgGhHiI:klLmnNopqQrRsStT:uUvw:xXZ" 2 false (doing "cannot access")),
    ("dircolors", ofCount "bcp" 1 nothing),
    ("du", ofPaths "0aB:bcDd:hHklLmPsSt:xX:" 1 false (doing "cannot access")),
    ("factor", factor), ("fmt", ofPaths "cp:stuw:" 1 false opening),
    ("getconf", ofFirst 2 fun word => "Unrecognized variable \x60".toList ++ word ++ ['\'']),
    ("getent", getent), ("gunzip", gunzip false), ("gzip", gzip), ("iconv", iconv),
    ("install", ofPaths "bcCdDg:m:o:pS:st:Tv" 1 true (doing "cannot stat")),
    ("join", ofPaths "a:e:ij:o:t:v:1:2:z" 1 true atPath),
    ("kill", ofFirst 1 fun word => "failed to parse argument: '".toList ++ word ++ ['\'']),
    ("locale", ofFirst 1 fun word => "unknown name \"".toList ++ word ++ ['"']),
    ("numfmt", ofFirst 2 fun word => "invalid number: ".toList ++ Quote.plain word),
    ("pathchk", pathchk), ("perl", perl), ("pr", ofPaths "aD:dFfh:Jl:mo:rtTvW:w:" 1 false atPath),
    ("ptx", ofPaths "AF:fg:GM:Ob:i:o:rR:S:tTw:W:" 1 true atPath),
    ("shred", ofPaths "fn:s:uvxz" 1 false fun path error =>
      Quote.shell path ++ ": failed to open for writing: ".toList ++ error),
    ("shuf", ofCount "ei:n:o:rz" 1 nothing),
    ("split", ofPaths "a:b:C:del:n:t:ux" 1 true opening), ("stty", stty),
    ("sync", ofPaths "df" 1 false (doing "error opening")), ("tar", tar),
    ("tsort", ofCount "" 1 nothing), ("users", ofCount "" 1 nothing),
    ("vdir", ofPaths "1aAbBcCdDfFgGhHiI:klLmnNopqQrRsStT:uUvw:xXZ" 2 false
      (doing "cannot access")),
    ("who", ofCount "abdHlmpqrstTuw" 2 nothing), ("zcat", gunzip true)]

end Refusal

end NativeInterop.Shell.Utility
