import NativeInterop.Shell.Arithmetic
import NativeInterop.Shell.Utility.Message

namespace NativeInterop.Shell.Utility

/-! Utilities that give out files, whole or in part. -/

open Shell.Action

/-! ### Whole files -/

structure CatStyle where
  numbersAll : Bool
  numbersFilled : Bool
  squeezes : Bool
  marksEnds : Bool
  marksTabs : Bool
  marksOthers : Bool

/-- The state between lines and files. -/
structure CatState where
  number : Nat := 0
  atStart : Bool := true
  blankLines : Nat := 0

def visibleByte (style : CatStyle) (c : Char) : Bytes :=
  let code := c.toNat
  let low (code : Nat) : Bytes :=
    if code < 32 then ['^', Char.ofNat (code + 64)]
    else if code == 127 then ['^', '?']
    else [Char.ofNat code]
  if c == '\t' then (if style.marksTabs then ['^', 'I'] else [c])
  else if !style.marksOthers || c == '\n' then [c]
  else if code < 128 then low code
  else 'M' :: '-' :: low (code - 128)

def catLine (style : CatStyle) (state : CatState) (line : Bytes) : CatState × Bytes :=
  let text := chomp line
  let ends := line.length != text.length
  let isBlank := state.atStart && text.isEmpty
  if isBlank && style.squeezes && 0 < state.blankLines then (state, [])
  else
    let isNumbered := state.atStart && (style.numbersAll && !style.numbersFilled ||
      style.numbersFilled && !text.isEmpty)
    let number := if isNumbered then state.number + 1 else state.number
    let digits := Bytes.ofNat number
    let label :=
      if isNumbered then List.replicate (6 - digits.length) ' ' ++ digits ++ ['\t'] else []
    let shown :=
      if style.marksEnds && ends && text.getLast? == some '\r' then
        text.dropLast.flatMap (visibleByte style) ++ ['^', 'M']
      else text.flatMap (visibleByte style)
    let finish := if !ends then [] else if style.marksEnds then ['$', '\n'] else ['\n']
    (⟨number, ends, if isBlank then state.blankLines + 1 else 0⟩, label ++ shown ++ finish)

def catText (style : CatStyle) (state : CatState) (text : Bytes) : CatState × Bytes :=
  let (state, reversed) := (splitLines text).foldl
    (fun (state, shown) line =>
      let (state, more) := catLine style state line
      (state, more :: shown))
    (state, [])
  (state, reversed.reverse.flatten)

/-- The file that a descriptor leads to, with its place in it and whether it is always at the
end. -/
def fileOf? (descriptor : Nat) : Action (Option (Location × Nat × Bool)) := do
  let some index ← streamOf? descriptor | return none
  match (← get).streams[index]? with
  | some ⟨.file location appends, _, _, position⟩ => return some (location, position, appends)
  | _ => return none

/-- Whether what is read from a path would be what is written, without an end. -/
def feedsItself (path : Bytes) : Action Bool := do
  let some (output, written, appends) ← fileOf? 1 | return false
  let stop ← if appends then pure (← fileContent output).length else pure written
  if path == ['-'] then
    let some (location, position, _) ← fileOf? 0 | return false
    return location == output && position < stop
  else
    return (System.locate (← files) path).toOption == some output && 0 < stop

def catFiles (style : CatStyle) (name : Bytes) : CatState → List Bytes → Action Nat
  | _, [] => return 0
  | state, path :: rest => do
      if ← feedsItself path then
        complain name (Quote.shell path ++ ": input file is output file".toList)
        return max 1 (← catFiles style name state rest)
      match ← input path with
      | .ok bytes =>
          let (state, shown) := catText style state bytes
          put shown
          catFiles style name state rest
      | .error error =>
          complainAbout name path error
          return max 1 (← catFiles style name state rest)

/-- Tells if the standard input was asked for and is closed. -/
def checkInput (name : Bytes) (paths : List Bytes) : Action Nat := do
  if paths.contains ['-'] && (← streamOf? 0).isNone then
    complain name "closing standard input: Bad file descriptor".toList
    return 1
  return 0

def cat : Utility := fun _ name arguments => do
  let table : OptionTable :=
    { letters := "AbeEnstTuv"
      names := [("number", .nothing, 'n'), ("number-nonblank", .nothing, 'b'),
        ("squeeze-blank", .nothing, 's'), ("show-all", .nothing, 'A'),
        ("show-ends", .nothing, 'E'), ("show-tabs", .nothing, 'T'),
        ("show-nonprinting", .nothing, 'v')] }
  let given ← table.read name arguments
  let anyOf (letters : String) : Bool := letters.toList.any given.has
  let style : CatStyle :=
    ⟨given.has 'n', given.has 'b', given.has 's', anyOf "AeE", anyOf "AtT", anyOf "Aetv"⟩
  let paths := if given.operands.isEmpty then [['-']] else given.operands
  if (← streamOf? 1).isNone then
    complain name "standard output: Bad file descriptor".toList
    stop 1
  let status ← catFiles style name {} paths
  return max status (← checkInput name paths)

/-- The lines of a file from last to first. -/
def tac : Utility := fun _ name arguments => do
  let given ← OptionTable.read { letters := "brs:" } name arguments
  let complain (path : Bytes) (error : InputError) : Action Unit :=
    match error with
    | .opening error =>
        complain name ("failed to open ".toList ++ Quote.shellAlways path ++
          " for reading: ".toList ++ errorText error)
    | .reading error =>
        complain name (Quote.shell path ++ ": read error: ".toList ++ errorText error)
  overInputs given.operands complain fun _ bytes => put (splitLines bytes).reverse.flatten

def rev : Utility := fun _ name arguments => do
  let given ← OptionTable.read { letters := "" } name arguments
  let complain (path : Bytes) (error : InputError) : Action Unit :=
    Utility.complain "rev".toList
      ("cannot open ".toList ++ path ++ ": ".toList ++ errorText error.error)
  overInputs given.operands complain fun _ bytes =>
    put ((splitLines bytes).flatMap fun line =>
      (chomp line).reverse ++ if line.getLast? == some '\n' then ['\n'] else [])

/-! ### Beginnings and ends -/

/-- A count of lines or bytes, as the options of `head` and `tail` give it. -/
structure Portion where
  inBytes : Bool
  /-- The sign before the number. -/
  sign : Option Char
  count : Nat

def suffixFactor? (text : Bytes) : Option Nat :=
  match String.ofList text with
  | "" => some 1
  | "b" => some 512
  | "K" | "k" | "KiB" => some 1024
  | "M" | "MiB" => some 1048576
  | "kB" | "KB" => some 1000
  | "MB" => some 1000000
  | _ => none

def portion? (inBytes : Bool) (text : Bytes) : Option Portion :=
  let (sign, digits) := match text with
    | '-' :: rest => (some '-', rest)
    | '+' :: rest => (some '+', rest)
    | rest => (none, rest.dropWhile isSpace)
  let number := digits.takeWhile Char.isDigit
  if number.isEmpty then none
  else (suffixFactor? (digits.drop number.length)).map fun factor =>
    ⟨inBytes, sign, valueInBase 10 number * factor⟩

/-- The count that the options give; the last one counts. -/
def portionOf (name : Bytes) (given : Arguments) : Action Portion := do
  match (given.options.filter fun option => option.1 == 'n' || option.1 == 'c').getLast? with
  | none => return ⟨false, none, 10⟩
  | some (letter, value) =>
      match portion? (letter == 'c') value with
      | some portion => return portion
      | none =>
          let unit := if letter == 'c' then "bytes" else "lines"
          failWith 1 name (("invalid number of " ++ unit ++ ": ").toList ++ Quote.plain value)

def firstPart (portion : Portion) (text : Bytes) : Bytes :=
  let fromEnd := portion.sign == some '-'
  if portion.inBytes then
    text.take (if fromEnd then text.length - portion.count else portion.count)
  else
    let lines := splitLines text
    (lines.take (if fromEnd then lines.length - portion.count else portion.count)).flatten

def lastPart (portion : Portion) (text : Bytes) : Bytes :=
  let skipped (length : Nat) : Nat :=
    if portion.sign == some '+' then portion.count - 1 else length - portion.count
  if portion.inBytes then text.drop (skipped text.length)
  else
    let lines := splitLines text
    (lines.drop (skipped lines.length)).flatten

/-- The letters that may stand behind the number of an old option. -/
def isOldLetter (c : Char) : Bool :=
  "clqvz".toList.contains c

/-- Turns an old option such as `-5` into new ones. -/
def modernized (plusToo : Bool) : List Bytes → List Bytes
  | ('-' :: digit :: rest) :: others =>
      let letters := rest.dropWhile Char.isDigit
      if digit.isDigit && letters.all isOldLetter && !(plusToo && 1 < others.length) then
        let digits := digit :: rest.takeWhile Char.isDigit
        let unit := if letters.contains 'c' then 'c' else 'n'
        let further := (letters.filter fun c => c != 'c' && c != 'l').map (['-', ·])
        ['-', unit] :: digits :: (further ++ others)
      else ('-' :: digit :: rest) :: others
  | ('+' :: digit :: rest) :: others =>
      if plusToo && digit.isDigit && rest.all Char.isDigit then
        ['-', 'n'] :: ('+' :: digit :: rest) :: others
      else ('+' :: digit :: rest) :: others
  | arguments => arguments

def headingOf (path : Bytes) (isFirst : Bool) : Bytes :=
  let shown := if path == ['-'] then "standard input".toList else path
  (if isFirst then [] else ['\n']) ++ "==> ".toList ++ shown ++ " <==\n".toList

def partComplaint (name path : Bytes) (error : InputError) : Action Unit :=
  match error with
  | .opening error =>
      complain name ("cannot open ".toList ++ Quote.shellAlways path ++ " for reading: ".toList ++
        errorText error)
  | .reading error =>
      complain name ("error reading ".toList ++ Quote.shellAlways path ++ ": ".toList ++
        errorText error)

def parts (name : Bytes) (shows : Bool) (part : Bytes → Bytes) :
    (isFirst : Bool) → List Bytes → Action Nat
  | _, [] => return 0
  | isFirst, path :: rest => do
      match ← input path with
      | .ok bytes =>
          if shows then put (headingOf path isFirst)
          put (part bytes)
          parts name shows part false rest
      | .error error => do
          if let .reading _ := error then
            if shows then put (headingOf path isFirst)
          partComplaint name path error
          return max 1 (← parts name shows part isFirst rest)

def partTable (isTail : Bool) : OptionTable :=
  { letters := if isTail then "c:n:qvfz" else "c:n:qvz"
    digits := some (if isTail then ("option used in invalid context", true)
      else ("invalid trailing option", false))
    names := [("lines", .value, 'n'), ("bytes", .value, 'c'), ("quiet", .nothing, 'q'),
      ("silent", .nothing, 'q'), ("verbose", .nothing, 'v')] }

def checkOldOption (name : Bytes) : List Bytes → Action Unit
  | ('-' :: digit :: rest) :: _ => do
      if digit.isDigit then
        if let c :: _ := (rest.dropWhile Char.isDigit).dropWhile isOldLetter then
          misuse 1 name ("invalid trailing option -- ".toList ++ [c])
  | _ => return

def partsOf (part : Portion → Bytes → Bytes) (plusToo : Bool) : Utility :=
  fun _ name arguments => do
    unless plusToo do checkOldOption name arguments
    let given ← (partTable plusToo).read name (modernized plusToo arguments)
    let portion ← portionOf name given
    let paths := if given.operands.isEmpty then [['-']] else given.operands
    let shows := (1 < paths.length || given.has 'v') && !given.has 'q'
    parts name shows (part portion) true paths

/-- The beginning of files. What is left of a file that is the standard input stays there. -/
def head : Utility := fun launch name arguments => do
  let before ← streamOf? 0
  let stream := before.bind ((← get).streams[·]?)
  let text := (← remaining 0).getD []
  let status ← partsOf firstPart false launch name arguments
  let given ← (partTable false).read name (modernized false arguments)
  match stream, before with
  | some ⟨.file location appends, readable, writable, position⟩, some index =>
      if given.operands.isEmpty || given.operands.contains ['-'] then
        let used := (firstPart (← portionOf name given) text).length
        modify fun machine =>
          { machine with
            streams := machine.streams.setIfInBounds index
              ⟨.file location appends, readable, writable, position + used⟩ }
  | _, _ => pure ()
  return status

def tail : Utility :=
  partsOf lastPart true

/-- Gives out its input, into files as well. -/
def tee : Utility := fun _ name arguments => do
  let given ← OptionTable.read
    { letters := "aip", names := [("append", .nothing, 'a')] } name arguments
  let bytes := (← readAll 0).getD []
  let statuses ← given.operands.mapM fun path => do
    let files ← files
    let before := if given.has 'a' then (files.read (System.path path)).toOption.getD [] else []
    if let .ok (.special file) := System.lookup files path then
      return if file == .full && !bytes.isEmpty then 1 else 0
    match files.write (System.path path) (before ++ Bytes.toBytes bytes) with
    | .ok files => do
        setFiles files
        return 0
    | .error error => do
        complain name (Quote.shell path ++ ": ".toList ++ errorText error)
        return 1
  put bytes
  for path in given.operands do
    if System.lookup (← files) path matches .ok (.special .full) && !bytes.isEmpty then
      complain name (Quote.shell path ++ ": ".toList ++ errorText (.system 28))
  return statuses.foldl max 0

/-! ### Numbering and counting -/

/-- How lines are numbered. -/
structure Numbering where
  numbersAll : Bool
  start : Int
  step : Int
  width : Nat
  separator : Bytes
  /-- `ln`, `rn` or `rz`: at the left, at the right, or with zeros. -/
  format : Bytes

def Numbering.shown (numbering : Numbering) (number : Int) : Bytes :=
  let digits := Bytes.ofInt number
  let missing := numbering.width - digits.length
  match String.ofList numbering.format with
  | "ln" => digits ++ List.replicate missing ' '
  | "rz" =>
      if number < 0 then '-' :: List.replicate missing '0' ++ digits.drop 1
      else List.replicate missing '0' ++ digits
  | _ => List.replicate missing ' ' ++ digits

def Numbering.line (numbering : Numbering) (state : Int × List Bytes) (text : Bytes) :
    Int × List Bytes :=
  let text := chomp text
  if numbering.numbersAll || !text.isEmpty then
    (state.1 + numbering.step,
      (numbering.shown state.1 ++ numbering.separator ++ text ++ ['\n']) :: state.2)
  else
    (state.1,
      (List.replicate (numbering.width + numbering.separator.length) ' ' ++ ['\n']) :: state.2)

def nl : Utility := fun _ name arguments => do
  let given ← OptionTable.read { letters := "b:w:s:v:i:n:" } name arguments
  let number (letter : Char) (default : Int) : Int :=
    (given.value? letter).elim default fun text => (Arithmetic.leadingNumber text).1
  let numbering : Numbering :=
    { numbersAll := given.value? 'b' == some ['a']
      start := number 'v' 1, step := number 'i' 1, width := (number 'w' 6).toNat
      separator := (given.value? 's').getD ['\t']
      format := (given.value? 'n').getD "rn".toList }
  let paths := if given.operands.isEmpty then [['-']] else given.operands
  let texts ← paths.mapM fun path => do
    match ← input path with
    | .ok bytes => return (bytes, 0)
    | .error error => do
        complainAbout name path error
        return ([], 1)
  let lines := splitLines (texts.flatMap (·.1))
  put ((lines.foldl numbering.line (numbering.start, [])).2.reverse.flatten)
  return (texts.map (·.2)).foldl max 0

structure Counts where
  lines : Nat := 0
  words : Nat := 0
  bytes : Nat := 0
  longest : Nat := 0

def countWords : (inWord : Bool) → Bytes → Nat
  | _, [] => 0
  | inWord, c :: rest =>
      if isSpace c then countWords false rest
      else (if inWord then 0 else 1) + countWords true rest

/-- How wide a line is, with stops for tabs at every eighth place. -/
def displayWidth (line : Bytes) : Nat :=
  line.foldl (fun width c => if c == '\t' then width / 8 * 8 + 8 else width + 1) 0

def countsOf (text : Bytes) : Counts :=
  ⟨text.count '\n', countWords false text, text.length,
    (splitLines text).foldl (fun longest line => max longest (displayWidth (chomp line))) 0⟩

def Counts.add (a b : Counts) : Counts :=
  ⟨a.lines + b.lines, a.words + b.words, a.bytes + b.bytes, max a.longest b.longest⟩

def wcLine (letters : List Char) (width : Nat) (counts : Counts) (path : Bytes) : Bytes :=
  let numbers := letters.map fun letter =>
    let digits := Bytes.ofNat (match letter with
      | 'l' => counts.lines
      | 'w' => counts.words
      | 'L' => counts.longest
      | _ => counts.bytes)
    List.replicate (width - digits.length) ' ' ++ digits
  joinWith [' '] numbers ++ (if path.isEmpty then [] else ' ' :: path) ++ ['\n']

/-- How many places the counts take, decided by the sizes of the files. -/
def wcWidth (single : Bool) (paths : List Bytes) : Action Nat := do
  if single then return 1
  let sizes ← paths.mapM fun path => do
    if path == ['-'] then
      let stream := (← streamOf? 0).bind ((← get).streams[·]?)
      match stream with
      | some ⟨.file location _, _, _, _⟩ =>
          return (some (← fileContent location).length : Option Nat)
      | _ => return none
    match System.lookup (← files) path with
    | .ok (.file content _) => return some content.length
    | .ok _ => return none
    | .error _ => return some 0
  let total := sizes.foldl (fun total size => total + size.getD 0) 0
  let least := if sizes.any Option.isNone then 7 else 1
  return max least (Bytes.ofNat total).length

def wc : Utility := fun _ name arguments => do
  let table : OptionTable :=
    { letters := "clmwL"
      names := [("lines", .nothing, 'l'), ("words", .nothing, 'w'), ("bytes", .nothing, 'c'),
        ("chars", .nothing, 'm'), ("max-line-length", .nothing, 'L')] }
  let given ← table.read name arguments
  let chosen := "lwmcL".toList.filter given.has
  let letters := if chosen.isEmpty then ['l', 'w', 'c'] else chosen
  let paths := if given.operands.isEmpty then [['-']] else given.operands
  let width ← wcWidth (paths.length == 1 && letters.length == 1) paths
  let results ← paths.mapM fun path => do
    let shown := if given.operands.isEmpty then [] else path
    if path.isEmpty then
      complain name "invalid zero-length file name".toList
      return ({}, 1)
    match ← input path with
    | .ok bytes => do
        put (wcLine letters width (countsOf bytes) shown)
        return (countsOf bytes, 0)
    | .error error => do
        complainAbout name path error
        if let .reading _ := error then put (wcLine letters width {} shown)
        return ({}, 1)
  if 1 < paths.length then
    put (wcLine letters width ((results.map (·.1)).foldl Counts.add {}) "total".toList)
  return (results.map (·.2)).foldl max 0

end NativeInterop.Shell.Utility
