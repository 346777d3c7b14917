import NativeInterop.Shell.Lookup
import NativeInterop.Shell.Utility.Message

namespace NativeInterop.Shell.Utility

/-! Utilities that work on names, on the environment and on other programs. -/

open Shell.Action

def line (text : Bytes) : Bytes :=
  text ++ ['\n']

def succeed : Utility := fun _ _ _ => return 0

def refuse : Utility := fun _ _ _ => return 1

/-! ### Names of files -/

def dropSlashes (text : Bytes) : Bytes :=
  (text.reverse.dropWhile (· == '/')).reverse

/-- The last name in a path; a path of slashes has one for its name. -/
def lastName (path : Bytes) : Bytes :=
  let trimmed := dropSlashes path
  if trimmed.isEmpty then path.take 1
  else (trimmed.reverse.takeWhile (· != '/')).reverse

def withoutEnding (name ending : Bytes) : Bytes :=
  if ending.length < name.length && ending.isSuffixOf name then
    name.take (name.length - ending.length)
  else name

def basename : Utility := fun _ name arguments => do
  let table : OptionTable :=
    { letters := "as:z"
      names := [("multiple", .nothing, 'a'), ("suffix", .value, 's'), ("zero", .nothing, 'z')]
      leading := true }
  let given ← table.read name arguments
  let finish (text : Bytes) : Bytes := if given.has 'z' then text ++ ['\x00'] else line text
  if given.has 'a' || given.has 's' then
    if given.operands.isEmpty then missingOperand name
    let ending := (given.value? 's').getD []
    put (given.operands.flatMap fun path => finish (withoutEnding (lastName path) ending))
    return 0
  match given.operands with
  | [] => missingOperand name
  | [path] => put (finish (lastName path))
  | [path, ending] => put (finish (withoutEnding (lastName path) ending))
  | _ :: _ :: extra :: _ => extraOperand name extra
  return 0

/-- A path without its last name. -/
def directoryPart (path : Bytes) : Bytes :=
  let trimmed := dropSlashes path
  if trimmed.isEmpty then (if path.isEmpty then ['.'] else ['/'])
  else
    let before := trimmed.reverse.dropWhile (· != '/')
    if before.isEmpty then ['.']
    else
      let kept := dropSlashes before.reverse
      if kept.isEmpty then ['/'] else kept

def dirname : Utility := fun _ name arguments => do
  let given ← OptionTable.read { letters := "z" } name arguments
  if given.operands.isEmpty then missingOperand name
  put (given.operands.flatMap fun path =>
    directoryPart path ++ if given.has 'z' then ['\x00'] else ['\n'])
  return 0

def pwd : Utility := fun _ name arguments => do
  unless arguments.isEmpty do complain name "ignoring non-option arguments".toList
  put (line (Builtin.placeText (← process).directory))
  return 0

/-- The location that a path leads to; with `-e` it has to be there. -/
def realpath : Utility := fun _ name arguments => do
  let given ← OptionTable.read { letters := "emqsLP" } name arguments
  if given.operands.isEmpty then missingOperand name
  let statuses ← given.operands.mapM fun path => do
    match System.locate (← files) path with
    | .ok location => do
        put (line (Builtin.placeText location))
        return 0
    | .error error => do
        complain name (Quote.shell path ++ ": ".toList ++ errorText error)
        return 1
  return statuses.foldl max 0

/-! ### Writing arguments -/

/-- Whether an argument is an option of `echo`: some of the letters behind a hyphen. -/
def isEchoOption : Bytes → Bool
  | '-' :: c :: letters => (c :: letters).all fun c => c == 'n' || c == 'e' || c == 'E'
  | _ => false

def echo : Utility := fun _ _ arguments => do
  let options := arguments.takeWhile isEchoOption
  let letters := options.flatMap List.tail
  let words := arguments.drop options.length
  let resolves := (letters.filter (· != 'n')).getLast? == some 'e'
  let ends := !letters.contains 'n'
  if resolves then
    let (text, stops) := Escape.text true (joinWith [' '] words)
    put (if ends && !stops then line text else text)
  else
    let text := joinWith [' '] words
    put (if ends then line text else text)
  return 0

def printf : Utility := fun _ name arguments => do
  match arguments with
  | [] => missingOperand name
  | format :: rest => do
      let dialect : Printf.Dialect := .utility name
      let progress ← Printf.format dialect (format.length + 1) format { arguments := rest }
      if progress.stops then
        putKept
        return progress.status
      if progress.arguments.length == rest.length && !rest.isEmpty then
        putKept
        complain name ("warning: ignoring excess arguments, starting with ".toList ++
          Quote.plain (rest.headD []))
        return progress.status
      let status ←
        if progress.arguments.isEmpty then pure progress.status
        else Printf.formatAll dialect format (rest.length + 1) progress
      putKept
      return status

/-- How many lines are written at most by what goes on without an end. -/
def endlessLimit : Nat := 20000

def yes : Utility := fun _ _ arguments => do
  let text := if arguments.isEmpty then ['y'] else joinWith [' '] arguments
  put (List.replicate endlessLimit (line text)).flatten
  return 0

/-! ### Conditions -/

structure Tested where
  words : Array Bytes
  position : Nat := 0

/-- Reads a condition word by word; every word that is missing is complained about. -/
abbrev Testing := StateT Tested Action

namespace Testing

def word? (ahead : Nat) : Testing (Option Bytes) := do
  let tested ← get
  return tested.words[tested.position + ahead]?

def advance (count : Nat) : Testing Unit :=
  modify fun tested => { tested with position := tested.position + count }

def refuse {α : Type} (name message : Bytes) : Testing α := do
  failWith 2 name message

def missing {α : Type} (name : Bytes) : Testing α := do
  refuse name ("missing argument after ".toList ++ Quote.plain (((← get).words.back?).getD []))

/-- The word that stands next. -/
def here (name : Bytes) : Testing Bytes := do
  match ← word? 0 with
  | some word => return word
  | none => missing name

def left : Testing Nat := do
  return (← get).words.size - (← get).position

def comparison? (word : Option Bytes) : Option Condition.Comparison :=
  match word.bind Condition.operator? with
  | some (.binary comparison) =>
      if comparison == .less || comparison == .greater then none else some comparison
  | _ => if word == some ['=', '='] then some .equal else none

def isNumeric (comparison : Condition.Comparison) : Bool :=
  [.numberEqual, .numberUnequal, .numberLess, .numberLessEqual, .numberGreater,
    .numberGreaterEqual].contains comparison

def isInteger (text : Bytes) : Bool :=
  let trimmed := ((text.dropWhile isSpace).reverse.dropWhile isSpace).reverse
  let digits := match trimmed with
    | '-' :: rest | '+' :: rest => rest
    | rest => rest
  !digits.isEmpty && digits.all Char.isDigit

/-- A word alone: whether it has any characters. -/
def single (name : Bytes) : Testing Bool := do
  let word ← here name
  advance 1
  return !word.isEmpty

def binary (name : Bytes) (comparison : Condition.Comparison) : Testing Bool := do
  let a ← here name
  advance 2
  let b ← here name
  advance 1
  if isNumeric comparison then
    [a, b].forM fun text =>
      unless isInteger text do refuse name ("invalid integer ".toList ++ Quote.plain text)
  Condition.compare comparison a b

def unary (name : Bytes) : Testing Bool := do
  let word ← here name
  match Condition.operator? word with
  | some (.unary letter) => do
      advance 1
      let operand ← here name
      advance 1
      if letter == 't' && !isInteger operand then
        refuse name ("invalid integer ".toList ++ Quote.plain operand)
      Condition.unary letter operand
  | _ => refuse name (Quote.plain word ++ ": unary operator expected".toList)

def isUnary (word : Option Bytes) : Bool :=
  match word with
  | some ['-', _] => true
  | _ => false

def two (name : Bytes) : Testing Bool := do
  if (← word? 0) == some ['!'] then
    advance 1
    return !(← single name)
  else if isUnary (← word? 0) then unary name
  else missing name

/-- Conditions at one depth of parentheses. -/
def term (name : Bytes) (whole : Testing Bool) : Nat → Testing Bool
  | 0 => return false
  | fuel + 1 => do
      let word ← here name
      if word == ['!'] then
        advance 1
        return !(← term name whole fuel)
      if word == ['('] then
        advance 1
        let result ← whole
        match ← word? 0 with
        | some [')'] => advance 1
        | some other =>
            refuse name ("')' expected, found ".toList ++ other)
        | none => refuse name "')' expected".toList
        return result
      if 3 ≤ (← left) then
        if let some comparison := comparison? (← word? 1) then return ← binary name comparison
      if isUnary (some word) then unary name else single name

def all (operand : Testing Bool) (mark : Bytes) (join : Bool → Bool → Bool) :
    Nat → Bool → Testing Bool
  | 0, value => return value
  | fuel + 1, value => do
      if (← word? 0) == some mark then
        advance 1
        all operand mark join fuel (join value (← operand))
      else return value

def expression (name : Bytes) : Nat → Testing Bool
  | 0 => return false
  | depth + 1 => do
      let length := (← get).words.size + 1
      let term := term name (expression name depth) length
      let both : Testing Bool := do all term ['-', 'a'] and length (← term)
      all both ['-', 'o'] or length (← both)

def three (name : Bytes) (whole : Testing Bool) : Testing Bool := do
  if let some comparison := comparison? (← word? 1) then return ← binary name comparison
  let first ← word? 0
  let second ← word? 1
  if first == some ['!'] then
    advance 1
    return !(← two name)
  else if first == some ['('] && (← word? 2) == some [')'] then
    advance 1
    let result ← single name
    advance 1
    return result
  else if second == some ['-', 'a'] || second == some ['-', 'o'] then whole
  else refuse name (Quote.plain (second.getD []) ++ ": binary operator expected".toList)

/-- Up to four words are told apart by how many there are. -/
def few (name : Bytes) (whole : Testing Bool) : Testing Bool := do
  match ← left with
  | 1 => single name
  | 2 => two name
  | 3 => three name whole
  | 4 =>
      if (← word? 0) == some ['!'] then
        advance 1
        return !(← three name whole)
      else if (← word? 0) == some ['('] && (← word? 3) == some [')'] then
        advance 1
        let result ← two name
        advance 1
        return result
      else whole
  | _ => whole

end Testing

def condition (name : Bytes) (words : List Bytes) : Action Nat := do
  if words.isEmpty then return 1
  let whole := Testing.expression name (words.length + 1)
  let (result, tested) ← (Testing.few name whole).run { words := words.toArray }
  if let some extra := tested.words[tested.position]? then
    failWith 2 name ("extra argument ".toList ++ Quote.plain extra)
  return if result then 0 else 1

def test : Utility := fun _ name arguments => condition name arguments

def bracket : Utility := fun _ name arguments => do
  if arguments.getLast? != some [']'] then failWith 2 name "missing ']'".toList
  condition name arguments.dropLast

/-! ### Words of a text -/

/-- The quotation mark that is opened in a line and not closed, if there is one. -/
def openQuote? : Option Char → Bytes → Option Char
  | quote, [] => quote
  | none, '\\' :: _ :: rest => openQuote? none rest
  | none, c :: rest => openQuote? (if c == '"' || c == '\'' then some c else none) rest
  | some quote, c :: rest =>
      if c == '\n' then some quote
      else openQuote? (if c == quote then none else some quote) rest

/-- Splits a text into words, with quotes and backslashes; `atBlanks` tells whether blanks and not
only line ends stand between words. -/
def inputWords (atBlanks : Bool) : Nat → Option Bytes → Bytes → List Bytes
  | 0, current, _ | _, current, [] => current.toList.map List.reverse
  | fuel + 1, current, c :: rest =>
      let add (c : Char) (rest : Bytes) : List Bytes :=
        inputWords atBlanks fuel (some (c :: current.getD [])) rest
      if (atBlanks && isBlank c) || c == '\n' then
        current.toList.map List.reverse ++ inputWords atBlanks fuel none rest
      else if c == '"' || c == '\'' then
        let inside := rest.takeWhile (· != c)
        inputWords atBlanks fuel (some (inside.reverse ++ current.getD []))
          (rest.drop (inside.length + 1))
      else
        match c, rest with
        | '\\', d :: rest => add d rest
        | c, rest => add c rest

/-! ### Environment and programs -/

def launchFailure (name : Bytes) (program : Bytes) (error : IoError) : Action Nat := do
  complain name (program ++ ": ".toList ++ errorText error)
  return if error == .notFound then 127 else 126

/-- What is told where the first line of a script gives several arguments as one. -/
def tellSplitting (name : Bytes) : Action Unit :=
  complain name "use -[v]S to pass options in shebang lines".toList

/-- Takes apart an argument that holds several. -/
def splitArgument : List Bytes → List Bytes
  | ('-' :: 'S' :: text) :: rest =>
      let text := if text.head? == some '=' then text.drop 1 else text
      inputWords true (text.length + 1) none text ++ rest
  | arguments => arguments

def env : Utility := fun launch name arguments => do
  let table : OptionTable :=
    { letters := "iu:0"
      names := [("ignore-environment", .nothing, 'i'), ("unset", .value, 'u'),
        ("null", .nothing, '0')]
      status := 125, leading := true }
  let arguments := splitArgument arguments
  let arguments := match arguments with
    | ['-'] :: rest => ['-', 'i'] :: rest
    | arguments => arguments
  if let ('-' :: letter :: letters) :: _ := arguments then
    let isFlag := "i0".toList.contains
    if isFlag letter && (letters.dropWhile isFlag).head? == some ' ' then
      complain name "invalid option -- ' '".toList
      tellSplitting name
      Action.complain (helpLine name)
      stop 125
  let given ← table.read name arguments
  let command := given.operands.dropWhile (·.contains '=')
  let saved ← process
  modifyProcess fun process =>
    { process with
      bindings := process.bindings.filter fun entry =>
        !(entry.exported && given.has 'i') && !(given.values 'u').contains entry.name }
  (given.operands.takeWhile (·.contains '=')).forM fun assignment => do
    let (key, value) := splitAssignment assignment
    replaceVariable key (some { name := key, value, exported := true })
  if command.isEmpty then
    let shown := (← environment).flatMap line
    modifyProcess fun _ => saved
    put shown
    return 0
  match ← launch command with
  | .ok status => return status
  | .error error => do
      let status ← launchFailure name (Quote.shellAlways (command.headD [])) error
      if error == .notFound && (command.headD []).contains ' ' then tellSplitting name
      return status

def printenv : Utility := fun _ name arguments => do
  let given ← OptionTable.read { letters := "0", status := 2, leading := true } name arguments
  if given.operands.isEmpty then
    put ((← environment).flatMap line)
    return 0
  let values ← given.operands.mapM fun key => do
    return (← variableOf? key).bind fun entry => if entry.exported then entry.value else none
  put (values.flatMap fun value => value.elim [] line)
  return if values.all Option.isSome then 0 else 1

def which : Utility := fun _ name arguments => do
  let given ← OptionTable.read { letters := "as", leading := true } name arguments
  let statuses ← given.operands.mapM fun program => do
    let places ←
      if program.contains '/' then pure [(program, (System.lookup (← files) program).toOption)]
      else pure ((← Lookup.candidates program).map fun place => (place.1, some place.2))
    let found := places.filter fun place => place.2.any Lookup.isProgram
    put ((if given.has 'a' then found else found.take 1).flatMap fun place => line place.1)
    return if found.isEmpty then 1 else 0
  return if given.operands.isEmpty then 1 else statuses.foldl max 0

def isInterval (text : Bytes) : Bool :=
  let digits := text.takeWhile fun c => c.isDigit || c == '.'
  let rest := text.drop digits.length
  digits.any Char.isDigit && digits.count '.' ≤ 1 &&
    (rest.isEmpty || ["s", "m", "h", "d"].contains (String.ofList rest))

def sleep : Utility := fun _ name arguments => do
  let arguments := (← OptionTable.read { letters := "" } name arguments).operands
  if arguments.isEmpty then missingOperand name
  let wrong := arguments.filter fun text => !isInterval text
  if wrong.isEmpty then return 0
  wrong.forM fun text => complain name ("invalid time interval ".toList ++ Quote.plain text)
  Action.complain (helpLine name)
  return 1

def timeout : Utility := fun launch name arguments => do
  let given ← OptionTable.read { letters := "k:s:v", status := 125, leading := true } name arguments
  match given.operands with
  | interval :: command :: rest => do
      if !isInterval interval then
        misuse 125 name ("invalid time interval ".toList ++ Quote.plain interval)
      match ← launch (command :: rest) with
      | .ok status => return status
      | .error error =>
          launchFailure name ("failed to run command ".toList ++ Quote.shellAlways command) error
  | _ => do
      Action.complain (helpLine name)
      return 125

/-- Runs a program; `failure` tells the name of one that cannot be run. -/
def launchAt (launch : Launcher) (name : Bytes) (failure : Bytes → Bytes) (command : List Bytes) :
    Action Nat := do
  match ← launch command with
  | .ok status => return status
  | .error error => launchFailure name (failure (command.headD [])) error

def nice : Utility := fun launch name arguments => do
  let given ← OptionTable.read
    { letters := "n:", names := [("adjustment", .value, 'n')], status := 125, leading := true }
    name arguments
  if let some text := given.value? 'n' then
    let digits := text.dropWhile fun c => c == '-' || c == '+'
    if digits.isEmpty || !digits.all Char.isDigit then
      failWith 125 name ("invalid adjustment ".toList ++ Quote.plain text)
  if given.operands.isEmpty then
    if given.has 'n' then misuse 125 name "a command must be given with an adjustment".toList
    put (line ['0'])
    return 0
  launchAt launch name Quote.shellAlways given.operands

/-- Nothing hangs up, so that a program runs as it does alone. -/
def nohup : Utility := fun launch name arguments => do
  let given ← OptionTable.read { letters := "", status := 125, leading := true } name arguments
  if given.operands.isEmpty then misuse 125 name "missing operand".toList
  launchAt launch name ("failed to run command ".toList ++ Quote.shellAlways ·) given.operands

def setsid : Utility := fun launch name arguments => do
  let given ← OptionTable.read { letters := "cfw", leading := true } name arguments
  if given.operands.isEmpty then misuse 1 name "no command specified".toList
  launchAt launch name ("failed to execute ".toList ++ ·) given.operands

def stdbuf : Utility := fun launch name arguments => do
  let given ← OptionTable.read
    { letters := "e:i:o:"
      names := [("error", .value, 'e'), ("input", .value, 'i'), ("output", .value, 'o')]
      status := 125, leading := true }
    name arguments
  if given.operands.isEmpty then misuse 125 name "missing operand".toList
  if given.options.isEmpty then
    misuse 125 name "you must specify a buffering mode option".toList
  launchAt launch name ("failed to run command ".toList ++ Quote.shellAlways ·) given.operands

/-- A larger shell, which runs what the smaller one can. -/
def largerShell : Utility := fun launch name arguments => do
  let scripts := arguments.dropWhile fun word => word.head? == some '-' && word != ['-', 'c']
  if let script :: _ := scripts then
    if script != ['-', 'c'] then
      if let .error error := System.lookup (← files) script then
        complain name (script ++ ": ".toList ++ errorText error)
        return 127
  launchAt launch name id ("/bin/sh".toList :: arguments)

/-! ### Arguments from input -/

def substitute (mark item : Bytes) : Nat → Bytes → Bytes
  | 0, text => text
  | _, [] => []
  | fuel + 1, c :: rest =>
      match mark.isPrefixOf? (c :: rest) with
      | some after => item ++ substitute mark item fuel after
      | none => c :: substitute mark item fuel rest

def groupsOf (count : Nat) : Nat → List Bytes → List (List Bytes)
  | 0, _ | _, [] => []
  | fuel + 1, items => items.take count :: groupsOf count fuel (items.drop count)

def runEach (launch : Launcher) (name : Bytes) (tells : Bool) : List (List Bytes) → Action Nat
  | [] => return 0
  | command :: rest => do
      if tells then Action.complain (joinWith [' '] (command.map Quote.shell) ++ ['\n'])
      let saved ← process
      match ← launch command with
      | .error error => do
          complain name (command.headD [] ++ ": ".toList ++ errorText error)
          return if error == .notFound then 127 else 126
      | .ok status => do
          modifyProcess fun _ => saved
          if status == 255 then
            complain name (command.headD [] ++ ": exited with status 255; aborting".toList)
            return 124
          let later ← runEach launch name tells rest
          return if status != 0 then max 123 later else later

def xargs : Utility := fun launch name arguments => do
  let given ← OptionTable.read
    { letters := "0rtn:L:I:P:d:", leading := true } name arguments
  let command := if given.operands.isEmpty then ["echo".toList] else given.operands
  let text := (← readAll 0).getD []
  if let some quote := if given.has '0' then none else openQuote? none text then
    let kind := if quote == '"' then "double" else "single"
    failWith 1 name (("unmatched " ++ kind ++ " quote; by default quotes are special to xargs " ++
      "unless you use the -0 option").toList)
  let words :=
    if given.has '0' then
      (Text.segments (· == '\x00') text).filter (!·.isEmpty)
    else if given.has 'I' || given.has 'L' then
      ((splitLines text).flatMap fun line =>
        inputWords false (line.length + 1) none (line.dropWhile isBlank))
    else inputWords true (text.length + 1) none text
  let commands := match given.value? 'I' with
    | some mark => words.map fun word =>
        command.map fun part => substitute mark word (part.length + 1) part
    | none =>
        let count := valueInBase 10 (((given.value? 'n').or (given.value? 'L')).getD [])
        if words.isEmpty then (if given.has 'r' then [] else [command])
        else
          (groupsOf (if count == 0 then words.length else count) (words.length + 1) words).map
            (command ++ ·)
  runEach launch name (given.has 't') commands

end NativeInterop.Shell.Utility
