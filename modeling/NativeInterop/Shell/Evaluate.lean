import NativeInterop.Shell.Lookup
import NativeInterop.Shell.Redirect
import NativeInterop.Shell.Utility.Table

namespace NativeInterop.Shell

/-! Running commands. Everything here takes a runner of the commands inside, so that only the depth
of their nesting has to be counted. -/

open Shell.Action

/-- Runs a command; `tested` tells that a failure is looked at, and so ends nothing. -/
abbrev Run := (tested : Bool) → Command → Action Nat

namespace Evaluate

/-- How often a loop goes round at most. -/
def loopLimit : Nat := 1000000

/-! ### Scripts -/

/-- Tells the lines of a script as they are read, if that is asked for. -/
def tellLines (isFile : Bool) (lines : Bytes) : Action Unit := do
  if isFile && (← hasOption 'v') then complain lines

/-- Reads the next commands of a script, and what follows them. -/
def nextCommands (isFile : Bool) (rest : Bytes) (line : Nat) :
    Action (Option Command × Bytes × Nat) := do
  let documents := (← get).documents
  match Reader.line.run (.ofText rest line documents (← process).aliases) with
  | .error error => do
      tellLines isFile ((splitLines rest).take (error.line - line + 1)).flatten
      modifyProcess fun process => { process with line := error.line }
      fail ("Syntax error: " ++ error.message).toList
  | .ok (command, source) => do
      tellLines isFile (rest.take (rest.length - source.rest.length))
      modify fun machine =>
        { machine with documents := source.documents, inputLine := source.line }
      return (command, source.rest, source.line)

/-- Runs the commands of a text one after the other, each before the next is read. -/
def lines (run : Run) (isFile tested : Bool) : Nat → Bytes → Nat → Nat → Action Nat
  | 0, _, _, status => return status
  | fuel + 1, rest, line, status => do
      let (command, rest, line) ← nextCommands isFile rest line
      match command with
      | none => return status
      | some .nothing => lines run isFile tested fuel rest line status
      | some command => do
          let status ← run tested command
          if (← process).skip != .none then return status
          lines run isFile tested fuel rest line status

def text (run : Run) (tested : Bool) (text : Bytes) : Action Nat :=
  lines run false tested (text.length + 2) text 1 0

/-- Runs the text of a file, in which zero bytes do not count. -/
def script (run : Run) (text : Bytes) : Action Nat :=
  lines run true false (text.length + 2) (text.filter (· != '\x00')) 1 0

def clearReturn : Action Unit :=
  modifyProcess fun process =>
    { process with skip := if process.skip == .return then .none else process.skip }

/-- Runs a file as part of the script under way. -/
def source (run : Run) (path : Bytes) (content : Bytes) : Action Nat := do
  let builtin := (← process).builtin
  modifyProcess fun process => { process with builtin := some path }
  let status ← script run content
  clearReturn
  modifyProcess fun process => { process with builtin }
  return status

/-! ### Signals and ends -/

/-- Runs the actions of the signals that have come. -/
def runTraps (run : Run) : Action Unit := do
  let before ← process
  if before.signals.isEmpty || before.skip != .none then return
  modifyProcess fun process => { process with signals := [] }
  before.signals.forM fun signal => do
    match (← process).traps.find? (·.signal == signal) with
    | some trap => do
        let _ ← text run false trap.action
        if (← process).skip != .return then setStatus before.status
    | none => return

/-- Runs the action for the end of the shell, and gives the status of that end. -/
def finish (run : Run) (status : Nat) : Action Nat := do
  setStatus status
  let process ← process
  match process.traps.find? (·.signal == 0) with
  | none => return status
  | some trap => do
      modifyProcess fun process =>
        { process with traps := process.traps.filter (·.signal != 0), skip := .none }
      try
        let _ ← text run false trap.action
        return status
      catch
        | .exit status | .failure status | .replaced status => return status
        | stop => throw stop

/-- Runs a shell to its end. -/
def toEnd (run : Run) (body : Action Nat) : Action Nat := do
  try
    let status ← body
    finish run status
  catch
    | .exit status | .failure status => finish run status
    | .replaced status => return status
    | stop => throw stop

/-- Runs something in a process of its own. -/
def asChild (run : Run) (body : Action Nat) : Action Nat := do
  let saved ← process
  modifyProcess fun process =>
    { process with
      isSubshell := true
      traps := process.traps.filter (·.action.isEmpty) }
  let status ← toEnd run body
  modifyProcess fun _ => saved
  return status % 256

def newNumber : Action Nat := do
  modify fun machine => { machine with processes := machine.processes + 1 }
  return 4242 + (← get).processes

/-- Runs a program in a process of its own, which signals can end. -/
def asProgram (run : Run) (body : Action Nat) : Action Nat := do
  let saved ← process
  let number ← newNumber
  try
    asChild run do
      modifyProcess fun process => { process with number }
      body
  catch
    | .killed process signal =>
        if process == number then
          modifyProcess fun _ => saved
          Job.tellKilled signal
          return 128 + signal
        else throw (.killed process signal)
    | stop => throw stop

/-- The output of a command. -/
def outputOf (run : Run) : Expansion.OutputOf := fun command => do
  let (pipe, stream) ← newPipe
  let status ← asChild run do
    setDescriptor 1 (some stream)
    run false command
  modifyProcess fun process => { process with outputStatus := status }
  return (((← get).pipes[pipe]?).map fun pipe => pipe.content.toList).getD []

/-! ### Programs -/

/-- The number of bytes at the beginning of a script that tell its interpreter. -/
def interpreterLimit : Nat := 256

/-- The program that the first line of a script names, and the argument behind it. The beginning is
filled up with zero bytes, which end the line as well as they end names. -/
def interpreter? (content : Bytes) : Option (Bytes × Option Bytes) :=
  let ends (c : Char) : Bool := isBlank c || c == '\x00'
  let start := content.take interpreterLimit
  match start ++ List.replicate (interpreterLimit - start.length) '\x00' with
  | '#' :: '!' :: rest =>
      let hasEnd := rest.contains '\n' || (rest.dropWhile isBlank).any ends
      let line := (rest.takeWhile (· != '\n')).dropWhile isBlank
      let line := (line.reverse.dropWhile isBlank).reverse
      let name := line.takeWhile (!ends ·)
      let argument := (((line.drop name.length).dropWhile isBlank)).takeWhile (· != '\x00')
      if line.isEmpty || !hasEnd then none
      else some (name, if argument.isEmpty then none else some argument)
  | _ => none

/-- The greatest number of scripts that interpret each other. -/
def interpreterDepth : Nat := 5

def defaultPath : Bytes :=
  "/usr/local/sbin:/usr/local/bin:/usr/sbin:/usr/bin:/sbin:/bin".toList

/-- The variables that a shell begins with, beside those that it is given. -/
def shellVariables (directory : Location) (given : List Variable) : List Variable :=
  let own : List Variable :=
    [{ name := "IFS".toList, value := some [' ', '\t', '\n'] },
      { name := "OPTIND".toList, value := some ['1'] },
      { name := "PATH".toList, value := some defaultPath },
      { name := "PS1".toList, value := some ['#', ' '] },
      { name := "PS2".toList, value := some ['>', ' '] },
      { name := "PS4".toList, value := some ['+', ' '] },
      { name := "PPID".toList, value := some "4241".toList },
      { name := "PWD".toList, value := some (Builtin.placeText directory), exported := true }]
  let fixed := ["IFS", "OPTIND", "PPID", "PWD"].map String.toList
  let given := given.filter fun entry => !fixed.contains entry.name
  own.filter (fun entry => given.all (·.name != entry.name)) ++ given

/-- Begins a shell with nothing but what programs are given. -/
def freshShell (name : Bytes) (arguments : List Bytes) : Action Unit :=
  modifyProcess fun process =>
    { name, arguments
      number := process.number
      bindings := shellVariables process.directory (process.bindings.filter (·.exported))
      descriptors := process.descriptors
      directory := process.directory
      traps := process.traps
      mask := process.mask }

def openScript (isProgram : Bool) (path : Bytes) : Action Bytes := do
  match System.lookup (← files) path with
  | .ok (.file content _) => return Bytes.ofBytes content
  | .ok .directory =>
      if !isProgram then return []
      failWith 127 ("cannot open ".toList ++ path ++ ": Is a directory".toList)
  | .ok _ => return []
  | .error error =>
      failWith 2 ("cannot open ".toList ++ path ++ ": ".toList ++ Route.openError false error)

/-- The shell as a program. -/
def shell (run : Run) (name : Bytes) (arguments : List Bytes) : Action Nat := do
  freshShell name []
  modifyProcess fun process => { process with line := 0 }
  toEnd run do
    let reading ← ShellOption.read true (arguments.length + 1) { rest := arguments }
    if reading.wantsCommand then
      match reading.rest with
      | [] => fail "-c requires an argument".toList
      | command :: rest => do
          modifyProcess fun process =>
            { process with name := rest.headD name, arguments := rest.tail }
          text run false command
    else
      match reading.rest, ← hasOption 's' with
      | path :: rest, false => do
          modifyProcess fun process => { process with name := name }
          let content ← openScript true path
          modifyProcess fun process => { process with name := path, arguments := rest }
          script run content
      | rest, _ => do
          modifyProcess fun process => { process with arguments := rest }
          script run ((← readAll 0).getD [])

/-- The directories in which programs look for others if there is no search path. -/
def defaultDirectories : List Bytes :=
  ["/bin".toList, "/usr/bin".toList]

/-- Starts a program by name. -/
def launcher (execute : Bytes → List Bytes → Action (Except IoError Nat)) : Launcher :=
  fun arguments => do
    let execute (path : Bytes) (arguments : List Bytes) : Action (Except IoError Nat) := do
      try execute path arguments
      catch
        | .exit status | .failure status | .replaced status => return .ok (status % 256)
        | stop => throw stop
    match arguments with
    | [] => return .error .notFound
    | name :: _ =>
        if name.contains '/' then execute name arguments
        else
          let directories ←
            if (← lookup "PATH".toList).isSome then Lookup.searchPath else pure defaultDirectories
          let candidates ← Lookup.candidatesIn directories name
          match candidates.find? (Lookup.isProgram ·.2) with
          | some (path, _) => execute path arguments
          | none => return .error (if candidates.isEmpty then .notFound else .permissionDenied)

/-- Puts a program in the place of the process, and runs it to its end. -/
def execute (run : Run) : Nat → Bytes → List Bytes → Action (Except IoError Nat)
  | 0, _, _ => return .error (.system 40)
  | depth + 1, path, arguments => do
      match System.lookup (← files) path with
      | .error error => return .error error
      | .ok .directory | .ok (.special _) | .ok (.file _ false) => return .error .permissionDenied
      | .ok (.program name) =>
          let called := arguments.headD []
          if name == "sh" || name == "dash" then return .ok (← shell run called arguments.tail)
          match Utility.table.lookup name with
          | none => return .error .notFound
          | some utility =>
              let launch := launcher fun path arguments =>
                execute run depth path arguments
              return .ok (← Utility.closing name called (utility launch called arguments.tail))
      | .ok (.file content true) =>
          match interpreter? (Bytes.ofBytes content) with
          | none => return .error .invalidProgram
          | some ([], _) => return .error .permissionDenied
          | some (interpreter, argument) =>
              execute run depth interpreter
                (interpreter :: argument.toList ++ path :: arguments.tail)

/-- The status of a shell that cannot start a program. -/
def launchStatus (error : IoError) : Nat :=
  if [IoError.notFound, .notADirectory, .nameTooLong, .system 40].contains error then 127 else 126

def launchErrorText (error : IoError) : Bytes :=
  if error == .notFound || error == .notADirectory then "not found".toList else errorText error

/-- Puts a program in the place of the shell. A file that is no program counts as a script. -/
def replace (run : Run) (path : Bytes) (arguments : List Bytes) : Action Nat := do
  let bindings ← exportedVariables
  modifyProcess fun process => { process with bindings }
  match ← execute run interpreterDepth path arguments with
  | .ok status => throw (.replaced status)
  | .error .invalidProgram => do
      let status ← shell run (arguments.headD []) (path :: arguments.tail)
      throw (.replaced status)
  | .error error => do
      warn (arguments.headD [] ++ ": ".toList ++ launchErrorText error)
      throw (.exit (launchStatus error))

def program (run : Run) (path : Bytes) (arguments : List Bytes) : Action Nat :=
  asProgram run (replace run path arguments)

/-! ### Simple commands -/

/-- A word that assigns stays one field behind commands that declare variables. -/
def argumentFields (run : Run) (declares : Bool) (word : Word) : Action (List Bytes) := do
  match if declares then word.assignment? else none with
  | some (name, value) =>
      return [name ++ '=' :: (← Expansion.assigned (outputOf run) value)]
  | none => Expansion.fields (outputOf run) word

def declares (name : Bytes) : Bool :=
  ["export", "readonly", "local"].any fun declaration => declaration.toList == name

/-- The fields of the words; what the first one is decides how the others are expanded. -/
def commandFields (run : Run) : List Word → Action (List Bytes)
  | [] => return []
  | word :: rest => do
      match ← Expansion.fields (outputOf run) word with
      | [] => commandFields run rest
      | name :: fields => do
          let others ← rest.mapM (argumentFields run (declares name))
          return name :: fields ++ others.flatten

/-- What a command line calls, and whether errors in it end the shell. -/
structure Call where
  callee : Callee
  name : Bytes
  arguments : List Bytes
  isSpecial : Bool

/-- Takes off the options of `command`; nothing if they ask to tell what names mean. -/
def commandTarget? : List Bytes → Option (List Bytes)
  | ['-', '-'] :: rest => some rest
  | ('-' :: c :: letters) :: rest =>
      if (c :: letters).all (· == 'p') then commandTarget? rest else none
  | rest => some rest

def callOf : Nat → (plain : Bool) → List Bytes → Action (Option Call)
  | 0, _, _ | _, _, [] => return none
  | fuel + 1, plain, name :: arguments => do
      let callee ← Lookup.callee name (!plain)
      let isSpecial := match callee with
        | .builtin _ | .runner _ => !plain && Lookup.isSpecial name
        | _ => false
      let call : Call := ⟨callee, name, arguments, isSpecial⟩
      match callee, commandTarget? arguments with
      | .runner .command, some [] => return some { call with callee := .builtin Builtin.succeed }
      | .runner .command, some target => callOf fuel true target
      | _, _ => return some call

/-- Runs a builtin command. What it has written is put out even after an error; only special ones
end the shell by an error. -/
def builtin (name : Bytes) (isSpecial : Bool) (body : Action Nat) : Action Nat := do
  let outer := (← process).builtin
  let leave : Action Bool := do
    let isWritten := (← flush).isNone
    unless isWritten do warn (name ++ ": I/O error".toList)
    modifyProcess fun process => { process with builtin := outer }
    return isWritten
  modifyProcess fun process => { process with builtin := some name }
  try
    let status ← body
    return if ← leave then status else max 1 status
  catch stop => do
    let _ ← leave
    match stop with
    | .failure status => if isSpecial then throw stop else return status
    | stop => throw stop

def call (run : Run) (tested : Bool) (body : Command) (arguments : List Bytes) : Action Nat := do
  let outer ← process
  modifyProcess fun process =>
    { process with arguments, loops := 0, calls := process.calls + 1 }
  let status ← run tested body
  clearReturn
  modifyProcess fun process =>
    { process with arguments := outer.arguments, loops := outer.loops, calls := outer.calls }
  return status

/-- The file that `.` runs. -/
def sourceFile (name : Bytes) : Action (Bytes × Bytes) := do
  if name.contains '/' then return (name, ← openScript false name)
  match (← Lookup.candidates name).find? fun candidate => Lookup.isRegular candidate.2 with
  | some (path, .file content _) => return (path, Bytes.ofBytes content)
  | some (path, _) => return (path, [])
  | none => fail (name ++ ": not found".toList)

def withoutMark : List Bytes → List Bytes
  | ['-', '-'] :: rest => rest
  | arguments => arguments

def runner (run : Run) (tested : Bool) (runner : Runner) (arguments : List Bytes) :
    Action Nat := do
  match runner with
  | .eval =>
      if arguments.isEmpty then return 0
      text run tested (joinWith [' '] arguments)
  | .source =>
      match withoutMark arguments with
      | [] => return 0
      | name :: _ => do
          let (path, content) ← sourceFile name
          source run path content
  | .exec =>
      match withoutMark arguments with
      | [] => return 0
      | name :: rest => do
          match ← Lookup.program name with
          | .program path => replace run path (name :: rest)
          | .missing message => do
              warn (name ++ ": ".toList ++ message.toList)
              throw (.exit 127)
          | _ => return 0
  | .command => do
      let (options, names) ← optionsOf "pvV" arguments
      match names with
      | [] => return 0
      | name :: _ => Lookup.tell (!options.any (·.1 == 'V')) name
  | .type => Lookup.tellAll arguments
  | .hash => Lookup.hash arguments

def invoke (run : Run) (tested : Bool) (target : Option Call) : Action Nat := do
  match target with
  | none => return (← process).outputStatus
  | some target =>
      match target.callee with
      | .function body => call run tested body target.arguments
      | .builtin body => builtin target.name target.isSpecial (body target.arguments)
      | .runner kind =>
          builtin target.name target.isSpecial (runner run tested kind target.arguments)
      | .program path => program run path (target.name :: target.arguments)
      | .missing message => do
          warn (target.name ++ ": ".toList ++ message.toList)
          return 127

/-- Makes the assignments before a command. They last as long as the command if it is no special
one, and programs are given them. -/
def assignAll (run : Run) (lasting exports : Bool) (assignments : List Word) :
    Action (List Bytes) :=
  assignments.mapM fun word => do
    match word.assignment? with
    | none => return []
    | some (name, value) =>
        let value ← Expansion.assigned (outputOf run) value
        unless lasting do saveVariable name
        assign name value
        if exports then markVariable name fun entry => { entry with exported := true }
        return name ++ '=' :: value

/-- Tells a command before it is run, if that is asked for. -/
def trace (stream : Option Nat) (parts : List Bytes) : Action Unit := do
  if ← hasOption 'x' then
    let current ← streamOf? 2
    setDescriptor 2 stream
    Action.complain (((← lookup "PS4".toList).getD "+ ".toList) ++ joinWith [' '] parts ++ ['\n'])
    setDescriptor 2 current

def isExec : Callee → Bool
  | .runner .exec => true
  | _ => false

def simple (run : Run) (tested : Bool) (assignments words : List Word)
    (redirections : List Redirection) : Action Nat := do
  let fields ← commandFields run words
  let target ← callOf (fields.length + 1) false fields
  let lasting := target.elim true (·.isSpecial)
  let isExec := target.any (isExec ·.callee)
  unless lasting do beginSaving
  let finish (undo : Undo) (status : Nat) : Action Nat := do
    Route.restore undo
    unless lasting do restoreSaved
    return status
  let errors ← streamOf? 2
  let routes ← redirections.mapM (Route.ofRedirection (outputOf run))
  match ← Route.applyAll (outputOf run) routes with
  | .error status =>
      if target.any (·.isSpecial) then throw (.failure status)
      finish [] status
  | .ok undo => do
      let exports := !lasting || isExec && target.any (!·.arguments.isEmpty)
      let assigned ← assignAll run lasting exports assignments
      trace errors (assigned ++ fields)
      let status ← invoke run tested target
      finish (if isExec then [] else undo) status

/-! ### Compound commands -/

def withRoutes (run : Run) (redirections : List Redirection) (body : Action Nat) : Action Nat := do
  let routes ← redirections.mapM (Route.ofRedirection (outputOf run))
  match ← Route.applyAll (outputOf run) routes with
  | .error status => return status
  | .ok undo => do
      let status ← body
      Route.restore undo
      return status

/-- Runs the stages of a pipeline, each with the output of the one before it. -/
def stages (run : Run) (tested : Bool) : Option Nat → List Command → Action Nat
  | _, [] => return 0
  | stdin, stage :: rest => do
      let pipe ← if rest.isEmpty then pure none else pure (some (← newPipe).2)
      let status ← asChild run do
        if stdin.isSome then setDescriptor 0 stdin
        if pipe.isSome then setDescriptor 1 pipe
        run tested stage
      if rest.isEmpty then return status else stages run tested pipe rest

/-- Runs something as a job of its own, without input. -/
def job (run : Run) (body : Action Nat) : Action Nat := do
  let number ← newNumber
  let status ← asChild run do
    setDescriptor 0 (some (← newStream ⟨.special .null, true, true, 0⟩))
    body
  modifyProcess fun process => { process with jobs := (number, status) :: process.jobs }
  return 0

/-- Takes one loop off the way out, and tells whether to leave this one. -/
def leavesLoop : Action Bool := do
  match (← process).skip with
  | .none => return false
  | .return => return true
  | .next (count + 2) => leave (.next (count + 1))
  | .leave (count + 2) => leave (.leave (count + 1))
  | .next _ => do
      modifyProcess fun process => { process with skip := .none }
      return false
  | .leave _ => leave .none
where
  leave (skip : Skip) : Action Bool := do
    modifyProcess fun process => { process with skip }
    return true

def inLoop (body : Action Nat) : Action Nat := do
  modifyProcess fun process => { process with loops := process.loops + 1 }
  let status ← body
  modifyProcess fun process => { process with loops := process.loops - 1 }
  return status

def each (run : Run) (tested : Bool) (name : Bytes) (body : Command) :
    List Bytes → Nat → Action Nat
  | [], status => return status
  | value :: rest, _ => do
      Builtin.requireName name
      assign name value
      let status ← run tested body
      if ← leavesLoop then return status
      each run tested name body rest status

def loop (run : Run) (tested whileSuccess : Bool) (condition body : Command) :
    Nat → Nat → Action Nat
  | 0, status => return status
  | limit + 1, status => do
      let verdict ← run true condition
      let skipped := (← process).skip
      if ← leavesLoop then return if skipped == .return then verdict else status
      if skipped != .none then loop run tested whileSuccess condition body limit status
      else if (verdict == 0) != whileSuccess then return status
      else
        let status ← run tested body
        if ← leavesLoop then return status
        loop run tested whileSuccess condition body limit status

def matchesAny (run : Run) (subject : Bytes) : List Word → Action Bool
  | [] => return false
  | word :: rest => do
      if Pattern.isMatch (← Expansion.pattern (outputOf run) word) subject then return true
      matchesAny run subject rest

def choose (run : Run) (tested : Bool) (subject : Bytes) :
    List (List Word × Command) → Action Nat
  | [] => return 0
  | (patterns, body) :: rest => do
      if (← process).skip != .none then return 0
      if ← matchesAny run subject patterns then
        match body with
        | .nothing => return 0
        | body => run tested body
      else choose run tested subject rest

def setLine (line : Nat) : Action Unit :=
  modifyProcess fun process => { process with line }

def skips : Action Bool := do
  return (← process).skip != .none

/-- Runs a command of any form. -/
def form (run : Run) (tested : Bool) : Command → Action Nat
  | .nothing => return (← process).status
  | .simple line assignments words redirections => do
      setLine line
      modifyProcess fun process => { process with outputStatus := 0 }
      simple run tested assignments words redirections
  | .pipeline false stages => Evaluate.stages run tested none stages
  | .pipeline true stages => job run (Evaluate.stages run false none stages)
  | .redirected line body redirections => do
      setLine line
      withRoutes run redirections (run tested body)
  | .inBackground line body redirections => do
      if 0 < line then setLine line
      let routes ← redirections.mapM (Route.ofRedirection (outputOf run))
      job run do
        routes.forM (Route.apply (outputOf run) false)
        run false body
  | .subshell line body redirections => do
      setLine line
      let routes ← redirections.mapM (Route.ofRedirection (outputOf run))
      asChild run do
        routes.forM (Route.apply (outputOf run) false)
        run tested body
  | .sequence first second => do
      let status ← run tested first
      if ← skips then return status
      run tested second
  | .both first second => do
      let status ← run true first
      if status != 0 || (← skips) then return status
      run tested second
  | .either first second => do
      let status ← run true first
      if status == 0 || (← skips) then return status
      run tested second
  | .negation body => do
      return if (← run true body) == 0 then 1 else 0
  | .conditional condition chosen otherwise => do
      let verdict ← run true condition
      if ← skips then return verdict
      if verdict == 0 then run tested chosen
      else
        match otherwise with
        | .nothing => return 0
        | otherwise => run tested otherwise
  | .loop whileSuccess condition body =>
      inLoop (loop run tested whileSuccess condition body loopLimit 0)
  | .each line name words body => do
      setLine line
      let fields ← words.mapM (Expansion.fields (outputOf run))
      inLoop (each run tested name body fields.flatten 0)
  | .choice line subject branches => do
      setLine line
      let subject ← Expansion.text (outputOf run) { tilde := true } subject
      choose run tested subject branches
  | .function _ name body => do
      modifyProcess fun process =>
        { process with functions := (name, body) :: process.functions.filter (·.1 != name) }
      return 0

/-- The commands whose failure may end the shell. -/
def mayEnd : Command → Bool
  | .simple .. | .pipeline .. | .subshell .. | .inBackground .. => true
  | _ => false

/-- Runs a command inside so many others at most. Deeper nesting is more than the shell can hold. -/
def run : Nat → Run
  | 0, _, _ => do throw (.killed (← process).number Signal.segmentationFault)
  | depth + 1, tested, command => do
      if ← hasOption 'n' then return (← process).status
      let inner := run depth
      runTraps inner
      let status ← form inner tested command
      setStatus status
      runTraps inner
      if mayEnd command && status != 0 && !tested && (← hasOption 'e') then throw (.exit status)
      return status

end Evaluate

end NativeInterop.Shell
