import NativeInterop.Shell.Utility.Names

namespace NativeInterop.Shell.Utility

/-! Utilities that tell who runs them, and on what. -/

open Shell.Action

namespace Identity

/-- The name of the only user. -/
def user : Bytes :=
  "root".toList

def isUser (text : Bytes) : Bool :=
  text == user || text == ['0']

/-- Tells a text, and takes no operands. -/
def telling (text : String) (status : Nat) (misuseStatus : Nat)
    (names : List (String × Takes × Char)) : Utility := fun _ name arguments => do
  let given ← OptionTable.read { letters := "", names, status := misuseStatus } name arguments
  if let some extra := given.operands.head? then
    misuse misuseStatus name ("extra operand ".toList ++ Quote.plain extra)
  put (line text.toList)
  return status

def arch : Utility := telling "x86_64" 0 1 []
def whoami : Utility := telling "root" 0 1 []
def nproc : Utility := telling "1" 0 1 [("all", .nothing, 'a'), ("ignore", .value, 'i')]
def hostid : Utility := telling "00000000" 0 1 []

/-- The standard input is never a terminal. -/
def tty : Utility := telling "not a tty" 1 2 []

def logname : Utility := fun _ name arguments => do
  let given ← OptionTable.read { letters := "" } name arguments
  if let some extra := given.operands.head? then extraOperand name extra
  failWith 1 name "no login name".toList

def uname : Utility := fun _ name arguments => do
  let given ← OptionTable.read { letters := "asnrvmpio" } name arguments
  if let some extra := given.operands.head? then extraOperand name extra
  let told := [('s', "Linux"), ('n', "localhost"), ('r', "6.1.0"), ('v', "#1 SMP"),
    ('m', "x86_64"), ('o', "GNU/Linux")].filter fun (letter, _) =>
      given.has letter || given.has 'a' || (letter == 's' && given.options.isEmpty)
  put (line (joinWith [' '] (told.map fun (_, text) => text.toList)))
  return 0

/-- Does something for each user that is named, and gives the worst status. -/
def forUsers (name : Bytes) (names : List Bytes) (tell : Bytes → Bytes) : Action Nat := do
  let statuses ← names.mapM fun given => do
    if isUser given then
      put (line (tell given))
      return 0
    complain name (Quote.plain given ++ ": no such user".toList)
    return 1
  return statuses.foldl max 0

def id : Utility := fun _ name arguments => do
  let given ← OptionTable.read
    { letters := "agGnruzZ", names := [("user", .nothing, 'u'), ("group", .nothing, 'g'),
        ("groups", .nothing, 'G'), ("name", .nothing, 'n')] }
    name arguments
  let isShort := given.has 'u' || given.has 'g' || given.has 'G'
  if given.has 'n' && !isShort then
    failWith 1 name "cannot print only names or real IDs in default format".toList
  let text := if !isShort then "uid=0(root) gid=0(root) groups=0(root)"
    else if given.has 'n' then "root" else "0"
  forUsers name (if given.operands.isEmpty then [user] else given.operands) fun _ => text.toList

def groups : Utility := fun _ name arguments => do
  let given ← OptionTable.read { letters := "" } name arguments
  if given.operands.isEmpty then
    put (line user)
    return 0
  forUsers name given.operands fun given => given ++ " : root".toList

/-- Which of a user and a group, in this order, is none. -/
def unknown? (owner : Bytes) : Option String :=
  match Text.segments (· == ':') owner with
  | [user] => if isUser user then none else some "user"
  | user :: group =>
      if !user.isEmpty && !isUser user then some "user"
      else if group.all fun part => part.isEmpty || isUser part then none
      else some "group"
  | [] => none

/-- Gives files to users, of whom there is only one, and to groups. -/
def giveTo (isGroup : Bool) : Utility := fun _ name arguments => do
  let given ← OptionTable.read { letters := "cfhRv" } name arguments
  match given.operands with
  | [] => missingOperand name
  | [only] => misuse 1 name ("missing operand after ".toList ++ Quote.plain only)
  | owner :: paths => do
      if let some kind := unknown? (if isGroup then ':' :: owner else owner) then
        failWith 1 name ("invalid ".toList ++ kind.toList ++ ": ".toList ++ Quote.plain owner)
      let statuses ← paths.mapM fun path => do
        match System.lookup (← files) path with
        | .ok _ => return 0
        | .error error => do
            complain name ("cannot access ".toList ++ Quote.shellAlways path ++ ": ".toList ++
              errorText error)
            return 1
      return statuses.foldl max 0

end Identity

end NativeInterop.Shell.Utility
