import NativeInterop.Shell.Utility.Message
import NativeInterop.Shell.Utility.SedScript

namespace NativeInterop.Shell.Utility.Sed

/-! The stream editor at work. -/

open Shell.Action

/-- How far a range of lines has come. -/
inductive RangeState
  /-- Up to a line; without a number up to what the end is searched for. -/
  | active (last : Option Nat)
  | closed
  deriving DecidableEq

structure InputLine where
  text : Bytes
  hasEnd : Bool
  file : Bytes

structure Editor where
  rest : List InputLine
  space : Bytes := []
  held : Bytes := []
  heldHasEnd : Bool := true
  number : Nat := 0
  file : Bytes := []
  hasEnd : Bool := true
  changed : Bool := false
  ranges : List (Nat × RangeState) := []
  queue : List Bytes := []
  lastSearch : Option (Regex × Bool) := none
  /-- Whether what has been written lacks the end of its last line. -/
  lacksEnd : Bool := false
  output : Bytes := []
  /-- What lines end in. -/
  separator : Char := '\n'
  quiet : Bool

abbrev Editing := StateT Editor Action

/-- How the commands for a line come to an end. -/
inductive Outcome
  | finished
  | deleted
  /-- Begins again with what is left, without reading a line. -/
  | restarted
  | quit (status : Nat) (silently : Bool)

namespace Editing

def write (text : Bytes) (hasEnd : Bool) : Editing Unit :=
  modify fun editor =>
    { editor with
      output := editor.output ++ (if editor.lacksEnd then [editor.separator] else []) ++
        text ++ if hasEnd then [editor.separator] else []
      lacksEnd := !hasEnd }

def printSpace : Editing Unit := do
  let editor ← get
  write editor.space editor.hasEnd

/-- Writes what has been put off until the end of the line. -/
def dump : Editing Unit := do
  let queue := (← get).queue
  modify fun editor => { editor with queue := [] }
  queue.forM fun text =>
    unless text.isEmpty do
      write (chomp text) (text.getLast? == some '\n')

/-- Takes the next line; `joins` puts it behind what is there. -/
def takeLine (joins : Bool) : Editing Bool := do
  let editor ← get
  match editor.rest with
  | [] => return false
  | line :: rest => do
      dump
      modify fun editor =>
        { editor with
          rest
          space := if joins then editor.space ++ editor.separator :: line.text else line.text
          hasEnd := line.hasEnd
          file := line.file
          number := editor.number + 1 }
      return true

def searchOf (regex : Option Regex) (ignoresCase : Bool) : Editing (Regex × Bool) := do
  match regex with
  | some regex => do
      modify fun editor => { editor with lastSearch := some (regex, ignoresCase) }
      return (regex, ignoresCase)
  | none =>
      match (← get).lastSearch with
      | some search => return search
      | none => do
          Action.complain
            "sed: -e expression #1, char 0: no previous regular expression\n".toList
          throw (.exit 1)

def addressMatches : Address → Editing Bool
  | .line number => do return (← get).number == number
  | .last => do return (← get).rest.isEmpty
  | .step first width => do
      let number := (← get).number
      return if width == 0 then number == first
        else first ≤ number && (number - first) % width == 0
  | .search regex ignoresCase => do
      let (regex, ignoresCase) ← searchOf regex ignoresCase
      let subject : Regex.Subject := ⟨(← get).space.toArray, ignoresCase⟩
      return (Regex.searchFrom regex subject 0).isSome

def setRange (index : Nat) (state : RangeState) : Editing Unit :=
  modify fun editor =>
    { editor with ranges := (index, state) :: editor.ranges.filter (·.1 != index) }

/-- Begins a range, and tells where it ends if that is known. -/
def beginRange (index : Nat) (first : Address) (last : RangeEnd) : Editing Unit := do
  let number := (← get).number
  let upTo (stop : Nat) : Editing Unit :=
    setRange index (if stop ≤ number then .closed else .active (some stop))
  match last with
  | .linesMore count => upTo (number + count)
  | .multipleOf width =>
      upTo (if width == 0 then number else (number + width - 1) / width * width)
  | .address (.line stop) => upTo stop
  | .address .last =>
      setRange index (if (← get).rest.isEmpty then .closed else .active none)
  | .address other =>
      let early := match first with
        | .line 0 => true
        | _ => false
      if early && (← addressMatches other) then setRange index .closed
      else setRange index (.active none)

def inRange (index : Nat) (first : Address) (last : RangeEnd) : Editing Bool := do
  match (← get).ranges.lookup index with
  | some (.active (some stop)) => do
      let number := (← get).number
      if stop ≤ number then setRange index .closed
      return number ≤ stop
  | some (.active none) => do
      let ends ← match last with
        | .address address => addressMatches address
        | _ => pure true
      if ends then setRange index .closed
      return true
  | _ => do
      let begins ← match first with
        | .line 0 => pure ((← get).number == 1)
        | first => addressMatches first
      if begins then beginRange index first last
      return begins

def selects (index : Nat) (selector : Selector) : Editing Bool := do
  let selected ← match selector.first, selector.last with
    | none, _ => pure true
    | some address, none => addressMatches address
    | some first, some last => inRange index first last
  return selected != selector.negated

/-! ### Substitution -/

structure Casing where
  mode : CaseMode := .plain
  once : Option CaseMode := none

def cased (casing : Casing) (text : Bytes) : Bytes :=
  let all := match casing.mode with
    | .upper => text.map Char.toUpper
    | .lower => text.map Char.toLower
    | _ => text
  match casing.once, all with
  | some .upperNext, c :: rest => c.toUpper :: rest
  | some .lowerNext, c :: rest => c.toLower :: rest
  | _, all => all

def replacement (subject : Array Char) (found : Regex.Match) : Casing → List Piece → Bytes
  | _, [] => []
  | casing, piece :: rest =>
      let add (text : Bytes) : Bytes :=
        let casing' := if text.isEmpty then casing else { casing with once := none }
        cased casing text ++ replacement subject found casing' rest
      match piece with
      | .text text => add text
      | .group 0 => add (subject.extract found.start found.hit.position).toList
      | .group index =>
          match found.hit.groups.lookup index with
          | some (first, last) => add (subject.extract first last).toList
          | none => add []
      | .case .upperNext => replacement subject found { casing with once := some .upperNext } rest
      | .case .lowerNext => replacement subject found { casing with once := some .lowerNext } rest
      | .case mode => replacement subject found { mode } rest

/-- The text with matches replaced, from the given one on, and whether any has been. -/
def replaceFrom (substitution : Substitution) (regex : Regex) (subject : Regex.Subject) :
    Nat → (start : Nat) → (last : Option Nat) → (count : Nat) → Bytes × Bool
  | 0, start, _, _ => ((subject.text.extract start subject.text.size).toList, false)
  | fuel + 1, start, last, count =>
      let text := subject.text
      let slice (first stop : Nat) : Bytes := (text.extract first stop).toList
      match if text.size < start then none else Regex.searchFrom regex subject start with
      | none => (slice start text.size, false)
      | some found =>
          let stop := found.hit.position
          let isEmpty := stop == found.start
          let before := slice start found.start
          if isEmpty && last == some found.start then
            let (rest, changed) :=
              replaceFrom substitution regex subject fuel (found.start + 1) last count
            (before ++ slice found.start (found.start + 1) ++ rest, changed)
          else
            let replaces := substitution.number ≤ count + 1
            let shown :=
              if replaces then replacement text found {} substitution.pieces
              else slice found.start stop
            if replaces && !substitution.global then
              (before ++ shown ++ slice stop text.size, true)
            else
              let next := if isEmpty then stop + 1 else stop
              let kept := if isEmpty then slice stop (stop + 1) else []
              let (rest, changed) :=
                replaceFrom substitution regex subject fuel next (some stop) (count + 1)
              (before ++ shown ++ kept ++ rest, replaces || changed)

/-! ### Instructions -/

def appendToFile (path text : Bytes) : Editing Unit := do
  if path == "/dev/stdout".toList then write text true
  else
    let files ← Action.files
    let before := (files.read (System.path path)).toOption.getD []
    match files.write (System.path path) (before ++ Bytes.toBytes text ++ [10]) with
    | .ok files => Action.setFiles files
    | .error _ => return

def substitute (substitution : Substitution) : Editing Unit := do
  let (regex, ignoresCase) ← searchOf substitution.regex substitution.ignoresCase
  let space := (← get).space
  let subject : Regex.Subject := ⟨space.toArray, ignoresCase⟩
  let (text, changed) :=
    replaceFrom substitution regex subject (2 * space.length + 2) 0 none 0
  if changed then
    modify fun editor => { editor with space := text, changed := true }
    if substitution.prints then printSpace
    if let some path := substitution.file then appendToFile path text

def visible (text : Bytes) : Bytes :=
  text.flatMap fun c => if c == '\\' then ['\\', '\\'] else
    if Quote.isPrintable c then [c] else Quote.escape c

/-- Breaks a line into pieces of 69 characters with a backslash behind each but the last. -/
def folded : Nat → Bytes → Bytes
  | 0, text => text
  | fuel + 1, text =>
      if text.length < 70 then text else text.take 69 ++ '\\' :: '\n' :: folded fuel (text.drop 69)

def target? (script : Script) (name : Bytes) : Option Nat :=
  if name.isEmpty then some script.size
  else script.findIdx? fun step =>
    match step.instruction with
    | .label label => label == name
    | _ => false

/-- What comes after an instruction: another one, or the end. -/
abbrev Next := Except Outcome Nat

def jump (script : Script) (name : Bytes) : Editing Next := do
  match target? script name with
  | some index => return .ok index
  | none => do
      Action.complain
        ("sed: -e expression #1, char 0: can't find label for jump to \x60".toList ++ name ++
          "'\n".toList)
      throw (.exit 1)

def setSpace (change : Bytes → Bytes) : Editing Unit :=
  modify fun editor => { editor with space := change editor.space }

def perform (script : Script) (index : Nat) (selector : Selector) (instruction : Instruction) :
    Editing Next := do
  let after : Next := .ok (index + 1)
  match instruction with
  | .block _ | .closeBlock | .label _ => return after
  | .branch name => jump script name
  | .branchIfChanged name => do
      let changed := (← get).changed
      modify fun editor => { editor with changed := false }
      if changed then jump script name else return after
  | .branchUnlessChanged name => do
      let changed := (← get).changed
      modify fun editor => { editor with changed := false }
      if changed then return after else jump script name
  | .append text => do
      modify fun editor => { editor with queue := editor.queue ++ [text] }
      return after
  | .insert text => do
      write (chomp text) true
      return after
  | .change text => do
      let isOpen := match (← get).ranges.lookup index with
        | some (.active _) => selector.last.isSome
        | _ => false
      unless isOpen do write (chomp text) true
      return .error .deleted
  | .delete => return .error .deleted
  | .deleteFirst => do
      if !(← get).space.contains '\n' then return .error .deleted
      setSpace fun space => (space.dropWhile (· != '\n')).drop 1
      return .error .restarted
  | .print => do
      printSpace
      return after
  | .printFirst => do
      write ((← get).space.takeWhile (· != '\n')) true
      return after
  | .next => do
      if (← get).rest.isEmpty then return .error (.quit 0 false)
      unless (← get).quiet do printSpace
      let _ ← takeLine false
      return after
  | .appendNext => do
      if ← takeLine true then return after
      return .error (.quit 0 false)
  | .hold => do
      modify fun editor => { editor with held := editor.space, heldHasEnd := editor.hasEnd }
      return after
  | .holdMore => do
      modify fun editor => { editor with held := editor.held ++ '\n' :: editor.space }
      return after
  | .get => do
      modify fun editor => { editor with space := editor.held, hasEnd := editor.heldHasEnd }
      return after
  | .getMore => do
      modify fun editor => { editor with space := editor.space ++ '\n' :: editor.held }
      return after
  | .exchange => do
      modify fun editor =>
        { editor with
          space := editor.held, hasEnd := editor.heldHasEnd
          held := editor.space, heldHasEnd := editor.hasEnd }
      return after
  | .quit status silently => return .error (.quit status silently)
  | .tellNumber => do
      write (Bytes.ofNat (← get).number) true
      return after
  | .tellText => do
      let text := visible (← get).space ++ ['$']
      write (folded text.length text) true
      return after
  | .tellFile => do
      write (← get).file true
      return after
  | .clear => do
      setSpace fun _ => []
      return after
  | .readFile path => do
      match ← input path with
      | .ok text => modify fun editor => { editor with queue := editor.queue ++ [text] }
      | .error _ => pure ()
      return after
  | .writeFile path => do
      appendToFile path (← get).space
      return after
  | .substitute substitution => do
      substitute substitution
      return after
  | .transliterate pairs => do
      setSpace fun space => space.map fun c => (pairs.lookup c).getD c
      return after

/-- Runs the instructions for a line, from one on. -/
def perLine (script : Script) : Nat → Nat → Editing Outcome
  | 0, _ => return .finished
  | fuel + 1, index => do
      match script[index]? with
      | none => return .finished
      | some step => do
          if ← selects index step.selector then
            match ← perform script index step.selector step.instruction with
            | .ok next => perLine script fuel next
            | .error outcome => return outcome
          else
            match step.instruction with
            | .block stop => perLine script fuel stop
            | _ => perLine script fuel (index + 1)

def stepLimit : Nat := 1000000

/-- Goes through all lines, and gives the status. -/
def allLines (script : Script) : Nat → (reads : Bool) → Editing Nat
  | 0, _ => return 0
  | fuel + 1, reads => do
      if reads then
        if !(← takeLine false) then return 0
        modify fun editor => { editor with changed := false }
      let outcome ← perLine script stepLimit 0
      let shows := match outcome with
        | .finished => true
        | .quit _ silently => !silently
        | _ => false
      if shows && !(← get).quiet then printSpace
      match outcome with
      | .quit _ true => pure ()
      | _ => dump
      match outcome with
      | .quit status _ => return status
      | .restarted => allLines script fuel false
      | _ => allLines script fuel true

end Editing

/-! ### Arguments -/

def inputLines (separator : Char) (path text : Bytes) : List InputLine :=
  if separator == '\n' then
    (splitLines text).map fun line => ⟨chomp line, line.getLast? == some '\n', path⟩
  else
    let lines := Text.segments (· == separator) text
    lines.dropLast.map (⟨·, true, path⟩) ++
      (lines.getLast?.toList.filter (!·.isEmpty)).map (⟨·, false, path⟩)

/-- Edits lines, and gives the output and the status. -/
def edit (script : Script) (separator : Char) (quiet : Bool) (lines : List InputLine) :
    Action (Bytes × Nat) := do
  let (status, editor) ← (Editing.allLines script (2 * lines.length + 1000000) true).run
    { rest := lines, separator, quiet }
  return (editor.output, status)

def readInput (separator : Char) (name path : Bytes) : Action (List InputLine × Nat) := do
  match ← input path with
  | .ok text => return (inputLines separator path text, 0)
  | .error (.reading error) => do
      complain name ("read error on ".toList ++ path ++ ": ".toList ++ errorText error)
      return ([], 4)
  | .error (.opening error) => do
      complain name ("can't read ".toList ++ path ++ ": ".toList ++ errorText error)
      return ([], 2)

def editInPlace (script : Script) (separator : Char) (quiet : Bool) (name path : Bytes) :
    Action Nat := do
  let (lines, failed) ← readInput separator name path
  if failed != 0 then return if failed == 2 then 4 else failed
  let (text, status) ← edit script separator quiet lines
  match (← files).write (System.path path) (Bytes.toBytes text) with
  | .ok files => setFiles files
  | .error error => complain name (path ++ ": ".toList ++ errorText error)
  return status

def faultText (fault : Fault) : Bytes :=
  ("-e expression #1, char " ++ toString fault.1 ++ ": " ++ fault.2).toList

def table : OptionTable :=
  { letters := "nEre:f:si::uzl:"
    names := [("quiet", .nothing, 'n'), ("silent", .nothing, 'n'), ("expression", .value, 'e'),
      ("file", .value, 'f'), ("regexp-extended", .nothing, 'E'), ("in-place", .possibly, 'i'),
      ("separate", .nothing, 's')] }

def scriptText (name : Bytes) (given : Arguments) : Action (Bytes × List Bytes) := do
  let parts ← (given.options.filter fun option => option.1 == 'e' || option.1 == 'f').mapM
    fun (letter, value) => do
      if letter == 'e' then return value
      match ← input value with
      | .ok text => return chomp text
      | .error error =>
          failWith 1 name ("couldn't open file ".toList ++ value ++ ": ".toList ++
            errorText error.error)
  if parts.isEmpty then
    match given.operands with
    | [] => misuse 1 name "no script".toList
    | script :: paths => return (script, paths)
  else return (joinWith ['\n'] parts, given.operands)

/-- Puts a text behind another, whose last line gets an end if it lacks one. -/
def joinEnds (separator : Char) (before after : Bytes) : Bytes :=
  let lacksEnd := !before.isEmpty && before.getLast? != some separator
  before ++ (if lacksEnd && !after.isEmpty then [separator] else []) ++ after

def sed : Utility := fun _ name arguments => do
  let given ← table.read name arguments
  let (text, paths) ← scriptText name given
  let script ← match parse (given.has 'E' || given.has 'r') text with
    | .ok script => pure script
    | .error fault => failWith 1 name (faultText fault)
  let quiet := given.has 'n' || "#n\n".toList.isPrefixOf text
  let separator := if given.has 'z' then '\x00' else '\n'
  let paths := if paths.isEmpty then [['-']] else paths
  if given.has 'i' then
    let statuses ← paths.mapM (editInPlace script separator quiet name)
    return statuses.foldl max 0
  let inputs ← paths.mapM (readInput separator name)
  let failed := (inputs.map (·.2)).foldl max 0
  if given.has 's' then
    let edited ← inputs.mapM fun (lines, _) => edit script separator quiet lines
    put ((edited.map (·.1)).foldl (joinEnds separator) [])
    return max failed ((edited.map (·.2)).foldl max 0)
  let (output, status) ← edit script separator quiet (inputs.flatMap (·.1))
  put output
  return if status != 0 then status else failed

end NativeInterop.Shell.Utility.Sed
