import NativeInterop.Shell.Arithmetic
import NativeInterop.Shell.FileNames
import NativeInterop.Shell.Utility.Message

namespace NativeInterop.Shell.Utility

/-! Utilities that work on the lines of their input. -/

open Shell.Action

namespace Sorting

/-- What lines are compared by. -/
structure Key where
  firstField : Nat := 1
  firstChar : Nat := 1
  /-- The last field and the last character in it; zero stands for its end. -/
  last : Option (Nat × Nat) := none
  letters : List Char := []

structure Order where
  keys : List Key
  letters : List Char
  separator : Option Char
  reverse : Bool
  unique : Bool
  stable : Bool

/-- The fields of a line: with a separator what stands between two, otherwise blanks and what
follows them. -/
def fields (separator : Option Char) (text : Bytes) : List Bytes :=
  match separator with
  | some c => Text.segments (· == c) text
  | none => go (text.length + 1) text
where
  go : Nat → Bytes → List Bytes
    | 0, _ | _, [] => []
    | fuel + 1, text =>
        let blanks := text.takeWhile isBlank
        let word := (text.drop blanks.length).takeWhile (!isBlank ·)
        (blanks ++ word) :: go fuel (text.drop (blanks.length + word.length))

def keyText (order : Order) (key : Key) (text : Bytes) : Bytes :=
  let fields := fields order.separator text
  let glue := order.separator.toList
  let whole := joinWith glue (fields.drop (key.firstField - 1))
  let skipsBlanks := key.letters.contains 'b' || (key.letters.isEmpty && order.letters.contains 'b')
  let start (text : Bytes) : Bytes := if skipsBlanks then text.dropWhile isBlank else text
  let kept := match key.last with
    | none => whole
    | some (field, char) =>
        let chosen := (fields.take field).drop (key.firstField - 1)
        if char == 0 then joinWith glue chosen
        else joinWith glue (chosen.dropLast ++ (chosen.getLast?.map (·.take char)).toList)
  (start kept).drop (key.firstChar - 1)

/-- The number at the beginning of a text, with so many places behind the point counted. -/
def numeric (text : Bytes) : Int :=
  let trimmed := text.dropWhile isBlank
  let (negative, digits) := match trimmed with
    | '-' :: rest => (true, rest)
    | rest => (false, rest)
  let whole := digits.takeWhile Char.isDigit
  let behind := match digits.drop whole.length with
    | '.' :: rest => rest.takeWhile Char.isDigit
    | _ => []
  let places := (behind.take 9) ++ List.replicate (9 - behind.length) '0'
  let value := Int.ofNat (valueInBase 10 (whole ++ places))
  if negative then -value else value

def compareBytes (a b : Bytes) : Ordering :=
  compare (a.map Char.toNat) (b.map Char.toNat)

/-- The rank of the unit behind a number, which counts unless the number is zero. -/
def unitRank (text : Bytes) : Int :=
  let (negative, digits) := match text.dropWhile isBlank with
    | '-' :: rest => (true, rest)
    | rest => (false, rest)
  let number := digits.takeWhile fun c => c.isDigit || c == '.'
  let rank := match digits.drop number.length with
    | 'k' :: _ => 1
    | c :: _ => " KMGTPEZYRQ".toList.idxOf c % 11
    | [] => 0
  if number.any fun c => c != '0' && c != '.' then (if negative then -rank else rank) else 0

/-! Versions are compared part by part, characters and numbers in turn. -/

/-- The rank of a character in a version; a tilde comes before the end, and letters before all
others. -/
def versionRank : Option Char → Int
  | none => -1
  | some c =>
      if c.isDigit then 0
      else if c.isAlpha then c.toNat
      else if c == '~' then -2
      else c.toNat + 256

def compareVersionsWithin : Nat → Bytes → Bytes → Ordering
  | 0, _, _ => .eq
  | _, [], [] => .eq
  | fuel + 1, a, b =>
      let isOther (text : Bytes) : Bool := text.head?.any (!·.isDigit)
      if isOther a || isOther b then
        (compare (versionRank a.head?) (versionRank b.head?)).then
          (compareVersionsWithin fuel (a.drop 1) (b.drop 1))
      else if a.isEmpty || b.isEmpty then compare a.length b.length
      else
        let first := a.takeWhile Char.isDigit
        let second := b.takeWhile Char.isDigit
        (compare (valueInBase 10 first) (valueInBase 10 second)).then
          (compareVersionsWithin fuel (a.drop first.length) (b.drop second.length))

def compareParts (a b : Bytes) : Ordering :=
  compareVersionsWithin (a.length + b.length + 1) a b

/-- A name without its endings, each of which is a point and a word that begins with a letter. -/
def withoutEndings (name : Bytes) : Bytes :=
  go name.length name
where
  go : Nat → Bytes → Bytes
    | 0, name => name
    | fuel + 1, name =>
        let ending := (name.reverse.takeWhile fun c => c.isAlphanum || c == '~').reverse
        let rest := name.take (name.length - ending.length)
        if rest.getLast? == some '.' && (ending.head?.any fun c => c.isAlpha || c == '~') then
          go fuel rest.dropLast
        else name

/-- How names with versions compare; hidden ones come first. -/
def compareVersions (a b : Bytes) : Ordering :=
  let rank (name : Bytes) : Nat :=
    match name with
    | [] => 0
    | ['.'] => 1
    | ['.', '.'] => 2
    | '.' :: _ => 3
    | _ => 4
  (compare (rank a) (rank b)).then
    ((compareParts (withoutEndings a) (withoutEndings b)).then (compareParts a b))

def compareTexts (letters : List Char) (a b : Bytes) : Ordering :=
  if letters.contains 'V' then compareVersions a b
  else if letters.contains 'h' then
    (compare (unitRank a) (unitRank b)).then (compare (numeric a) (numeric b))
  else if letters.contains 'n' || letters.contains 'g' then compare (numeric a) (numeric b)
  else
    let prepared (text : Bytes) : Bytes :=
      let text := if letters.contains 'd' then
          text.filter fun c => c.isAlphanum || isBlank c
        else text
      if letters.contains 'f' then text.map Char.toUpper else text
    compareBytes (prepared a) (prepared b)

def reversed (reverse : Bool) (ordering : Ordering) : Ordering :=
  if reverse then ordering.swap else ordering

def compareKeys (order : Order) (a b : Bytes) : List Key → Ordering
  | [] => .eq
  | key :: rest =>
      let letters := if key.letters.isEmpty then order.letters else key.letters
      let ordering := reversed (letters.contains 'r')
        (compareTexts letters (keyText order key a) (keyText order key b))
      ordering.then (compareKeys order a b rest)

/-- How two lines compare; the whole lines decide last. -/
def compareLines (order : Order) (a b : Bytes) : Ordering :=
  let trim (text : Bytes) : Bytes :=
    if order.letters.contains 'b' then text.dropWhile isBlank else text
  let byKeys :=
    if order.keys.isEmpty then
      reversed order.reverse (compareTexts order.letters (trim a) (trim b))
    else compareKeys order a b order.keys
  if order.unique || order.stable then byKeys
  else byKeys.then (reversed order.reverse (compareBytes a b))

def withoutRepeats (order : Order) : List Bytes → List Bytes
  | [] => []
  | first :: rest =>
      match withoutRepeats order rest with
      | [] => [first]
      | second :: others =>
          if compareLines order first second == .eq then first :: others
          else first :: second :: others

def sorted (order : Order) (lines : List Bytes) : List Bytes :=
  let sorted := lines.mergeSort fun a b => compareLines order a b != .gt
  if order.unique then withoutRepeats order sorted else sorted

/-- A place in a line: the number of a field, that of a character in it, and letters. -/
def place (text : Bytes) : Nat × Option Nat × List Char × Bytes :=
  let field := text.takeWhile Char.isDigit
  let rest := text.drop field.length
  let (char, rest) := match rest with
    | '.' :: more => (some (valueInBase 10 (more.takeWhile Char.isDigit)),
        more.dropWhile Char.isDigit)
    | rest => (none, rest)
  let letters := rest.takeWhile Char.isAlpha
  (valueInBase 10 field, char, letters, rest.drop letters.length)

def keyOf (name text : Bytes) : Action Key := do
  unless text.head?.any Char.isDigit do
    failWith 2 name ("invalid number at field start: invalid count at start of ".toList ++
      Quote.plain text)
  let (field, char, letters, rest) := place text
  if field == 0 then
    failWith 2 name ("-: invalid field specification ".toList ++ Quote.plain text)
  match rest with
  | ',' :: rest =>
      let (lastField, lastChar, more, _) := place rest
      return ⟨field, char.getD 1, some (lastField, lastChar.getD 0), letters ++ more⟩
  | _ => return ⟨field, char.getD 1, none, letters⟩

def complainAbout (name path : Bytes) (error : InputError) : Action Unit :=
  let verb := match error with
    | .opening _ => "cannot read: "
    | .reading _ => "read failed: "
  complain name (verb.toList ++ Quote.shell path ++ ": ".toList ++ errorText error.error)

/-- Tells the first line that is out of order. -/
def check (order : Order) (name path : Bytes) : Nat → List Bytes → Action Nat
  | number, first :: second :: rest => do
      let ordering := compareLines order first second
      if ordering == .gt || (order.unique && ordering == .eq) then
        complain name (path ++ ':' :: Bytes.ofNat (number + 1) ++ ": disorder: ".toList ++ second)
        return 1
      check order name path (number + 1) (second :: rest)
  | _, _ => return 0

def sort : Utility := fun _ name arguments => do
  let table : OptionTable :=
    { letters := "bcCdfghik:mno:rsS:t:T:uVz"
      names := [("numeric-sort", .nothing, 'n'), ("human-numeric-sort", .nothing, 'h'),
        ("version-sort", .nothing, 'V'), ("reverse", .nothing, 'r'),
        ("unique", .nothing, 'u'), ("key", .value, 'k'), ("field-separator", .value, 't'),
        ("ignore-case", .nothing, 'f'), ("output", .value, 'o'), ("check", .nothing, 'c'),
        ("stable", .nothing, 's')]
      status := 2 }
  let given ← table.read name arguments
  let keys ← (given.values 'k').mapM (keyOf name)
  let letters := "bdfghnrV".toList.filter given.has
  let order : Order :=
    { keys, letters
      separator := (given.value? 't').bind List.head?
      reverse := given.has 'r', unique := given.has 'u', stable := given.has 's' }
  let paths := if given.operands.isEmpty then [['-']] else given.operands
  let texts ← paths.mapM fun path => do
    match ← input path with
    | .ok bytes => return bytes
    | .error error => do
        complainAbout name path error
        stop 2
  let lines := texts.flatMap fun text => (splitLines text).map chomp
  if given.has 'c' || given.has 'C' then
    return ← check order name (paths.headD []) 1 lines
  let output := (sorted order lines).flatMap (· ++ ['\n'])
  match given.value? 'o' with
  | none => put output
  | some path =>
      match (← files).write (System.path path) (Bytes.toBytes output) with
      | .ok files => setFiles files
      | .error error =>
          failWith 2 name ("open failed: ".toList ++ Quote.shell path ++ ": ".toList ++
            errorText error)
  return 0

end Sorting

/-! ### Repeated lines -/

/-- Groups neighbouring lines that count as the same, with how many they are. -/
def runsOf (key : Bytes → Bytes) : List Bytes → List (Bytes × Nat)
  | [] => []
  | first :: rest =>
      match runsOf key rest with
      | [] => [(first, 1)]
      | (other, count) :: runs =>
          if key first == key other then (first, count + 1) :: runs
          else (first, 1) :: (other, count) :: runs

def skipFields : Nat → Bytes → Bytes
  | 0, text => text
  | count + 1, text => skipFields count ((text.dropWhile isBlank).dropWhile (!isBlank ·))

def uniq : Utility := fun _ name arguments => do
  let table : OptionTable :=
    { letters := "cdDf:is:uw:z"
      names := [("count", .nothing, 'c'), ("repeated", .nothing, 'd'), ("unique", .nothing, 'u'),
        ("ignore-case", .nothing, 'i'), ("skip-fields", .value, 'f'), ("skip-chars", .value, 's'),
        ("check-chars", .value, 'w')] }
  let given ← table.read name arguments
  let numberAt (letter : Char) : Option Nat := (given.value? letter).map (valueInBase 10)
  if let some extra := given.operands[2]? then extraOperand name extra
  let text ← match ← input (given.operands.headD ['-']) with
    | .ok text => pure text
    | .error error => do
        complainAbout name (given.operands.headD []) error
        stop 1
  let key (line : Bytes) : Bytes :=
    let text := (skipFields ((numberAt 'f').getD 0) line).drop ((numberAt 's').getD 0)
    let text := (numberAt 'w').elim text text.take
    if given.has 'i' then text.map Char.toLower else text
  let runs := runsOf key ((splitLines text).map chomp)
  let chosen := runs.filter fun (_, count) =>
    (!given.has 'd' || 1 < count) && (!given.has 'u' || count == 1)
  let output := chosen.flatMap fun (line, count) =>
    let digits := Bytes.ofNat count
    (if given.has 'c' then List.replicate (7 - digits.length) ' ' ++ digits ++ [' '] else []) ++
      line ++ ['\n']
  match given.operands[1]? with
  | none => put output
  | some path =>
      match (← files).write (System.path path) (Bytes.toBytes output) with
      | .ok files => setFiles files
      | .error error => complain name (Quote.shell path ++ ": ".toList ++ errorText error)
  return 0

/-! ### Columns -/

namespace Cut

/-- A range of positions; without a last one it has no end. -/
abbrev Span := Nat × Option Nat

def contains (spans : List Span) (position : Nat) : Bool :=
  spans.any fun (first, last) => first ≤ position && last.all (position ≤ ·)

/-- A span that is being read: its number so far, of which `first` stands before a dash. -/
structure Reading where
  first : Option Nat := none
  digits : Bytes := []
  hasDash : Bool := false

namespace Reading

/-- The numbers from here on are not told apart. -/
def limit : Nat := 18446744073709551615

def zero (isField : Bool) : Bytes :=
  (if isField then "fields are numbered from 1"
    else "byte/character positions are numbered from 1").toList

def value (reading : Reading) : Nat :=
  valueInBase 10 reading.digits

/-- The span that has been read, or what is wrong with it. -/
def span (isField : Bool) (reading : Reading) : Except Bytes Span := do
  if reading.hasDash then
    if reading.digits.isEmpty then
      if reading.first.isNone then throw "invalid range with no endpoint: -".toList
      return (reading.first.getD 1, none)
    let first := reading.first.getD 1
    if reading.value < first then throw "invalid decreasing range".toList
    return (first, some reading.value)
  if reading.value == 0 then throw (zero isField)
  return (reading.value, some reading.value)

/-- The spans of a list, or what is wrong with it. -/
def spans (isField : Bool) : Reading → Bytes → Except Bytes (List Span)
  | reading, [] => return [← reading.span isField]
  | reading, c :: rest => do
      if c == '-' then
        if reading.hasDash then
          throw (if isField then "invalid field range"
            else "invalid byte or character range").toList
        if !reading.digits.isEmpty && reading.value == 0 then throw (zero isField)
        let first := if reading.digits.isEmpty then none else some reading.value
        spans isField { first, hasDash := true } rest
      else if c == ',' || isBlank c then
        return (← reading.span isField) :: (← spans isField {} rest)
      else if c.isDigit then
        let digits := reading.digits ++ [c]
        if limit ≤ valueInBase 10 digits then
          throw ((if isField then "field number " else "byte/character offset ").toList ++
            Quote.plain (digits ++ rest.takeWhile Char.isDigit) ++ " is too large".toList)
        spans isField { reading with digits } rest
      else
        throw ((if isField then "invalid field value "
          else "invalid byte/character position ").toList ++ Quote.plain (c :: rest))

end Reading

def selectPositions {α : Type} (spans : List Span) (complement : Bool) (items : List α) : List α :=
  (items.zipIdx 1).filterMap fun (item, position) =>
    if contains spans position != complement then some item else none

def cut : Utility := fun _ name arguments => do
  let table : OptionTable :=
    { letters := "b:c:d:f:nsz"
      names := [("bytes", .value, 'b'), ("characters", .value, 'c'), ("delimiter", .value, 'd'),
        ("fields", .value, 'f'), ("only-delimited", .nothing, 's'),
        ("output-delimiter", .value, 'O'), ("complement", .nothing, 'C')] }
  let given ← table.read name arguments
  let lists := given.options.filter fun option => "bcf".contains option.1
  let (letter, text) ← match lists with
    | [] => misuse 1 name "you must specify a list of bytes, characters, or fields".toList
    | [list] => pure list
    | _ => misuse 1 name "only one list may be specified".toList
  let isField := letter == 'f'
  let delimiter ← match given.value? 'd' with
    | none => pure '\t'
    | some [c] => pure c
    | some [] => pure '\x00'
    | some _ => misuse 1 name "the delimiter must be a single character".toList
  if given.has 'd' && !isField then
    misuse 1 name
      "an input delimiter may be specified only when operating on fields".toList
  if given.has 's' && !isField then
    misuse 1 name
      "suppressing non-delimited lines makes sense\n\tonly when operating on fields".toList
  let spans ← match Reading.spans isField {} text with
    | .ok spans => pure spans
    | .error message => misuse 1 name message
  let glue := (given.value? 'O').getD [delimiter]
  let cutLine (line : Bytes) : Bytes :=
    if isField then
      if !line.contains delimiter then (if given.has 's' then [] else line ++ ['\n'])
      else
        joinWith glue (selectPositions spans (given.has 'C')
          (Text.segments (· == delimiter) line)) ++ ['\n']
    else selectPositions spans (given.has 'C') line ++ ['\n']
  overInputs given.operands (complainAbout name) fun _ bytes =>
    put ((splitLines bytes).flatMap fun line => cutLine (chomp line))

end Cut

/-! ### Putting lines together -/

/-- Joins texts with the separators taken in turn. -/
def joinInTurn (separators : List Char) : Nat → List Bytes → Bytes
  | _, [] => []
  | _, [text] => text
  | index, text :: rest =>
      let between := if separators.isEmpty then [] else
        (separators[index % separators.length]?).toList
      text ++ between ++ joinInTurn separators (index + 1) rest

def separatorsOf : Bytes → List Char
  | '\\' :: 'n' :: rest => '\n' :: separatorsOf rest
  | '\\' :: 't' :: rest => '\t' :: separatorsOf rest
  | '\\' :: c :: rest => c :: separatorsOf rest
  | c :: rest => c :: separatorsOf rest
  | [] => []

/-- Deals lines out to so many columns. -/
def dealt (count : Nat) (lines : List Bytes) (column : Nat) : List Bytes :=
  lines.zipIdx.filterMap fun (line, index) => if index % count == column then some line else none

def paste : Utility := fun _ name arguments => do
  let table : OptionTable :=
    { letters := "d:sz"
      names := [("delimiters", .value, 'd'), ("serial", .nothing, 's')] }
  let given ← table.read name arguments
  let separators := separatorsOf ((given.value? 'd').getD ['\t'])
  let paths := if given.operands.isEmpty then [['-']] else given.operands
  let dashes := paths.count ['-']
  let stdin ← if 0 < dashes then pure ((← readAll 0).getD []) else pure []
  let stdinLines := (splitLines stdin).map chomp
  let isSerial := given.has 's'
  let mut columns : Array (List Bytes) := #[]
  let mut taken := 0
  let mut status := 0
  for path in paths do
    if path == ['-'] then
      columns := columns.push
        (if isSerial then (if taken == 0 then stdinLines else [])
          else dealt dashes stdinLines taken)
      taken := taken + 1
    else
      match ← input path with
      | .ok bytes => columns := columns.push ((splitLines bytes).map chomp)
      | .error error => do
          complainAbout name path error
          unless isSerial do stop 1
          status := 1
          if error matches .reading _ then columns := columns.push []
  if isSerial then
    put (columns.toList.flatMap fun lines => joinInTurn separators 0 lines ++ ['\n'])
  else
    let count := columns.foldl (fun count lines => max count lines.length) 0
    put ((List.range count).flatMap fun index =>
      joinInTurn separators 0 (columns.toList.map fun lines => (lines[index]?).getD []) ++ ['\n'])
  return status

/-- The column behind a character. -/
def columnAfter (inBytes : Bool) (column : Nat) (c : Char) : Nat :=
  if inBytes then column + 1
  else if c == '\t' then column / 8 * 8 + 8
  else if c == '\x08' then column - 1
  else if c == '\r' then 0
  else column + 1

/-- How many characters fit into a width, at least one. -/
def fitting (inBytes : Bool) (width : Nat) : (count column : Nat) → Bytes → Nat
  | count, _, [] => count
  | count, column, c :: rest =>
      let column := columnAfter inBytes column c
      if width < column && 0 < count then count else fitting inBytes width (count + 1) column rest

def foldLine (inBytes atBlanks : Bool) (width : Nat) : Nat → Bytes → Bytes
  | 0, text => text
  | fuel + 1, text =>
      let count := fitting inBytes width 0 0 text
      if text.length ≤ count then text
      else
        let broken := (text.take count).reverse.dropWhile (!isBlank ·)
        let count := if atBlanks && !broken.isEmpty then broken.length else count
        text.take count ++ '\n' :: foldLine inBytes atBlanks width fuel (text.drop count)

def fold : Utility := fun _ name arguments => do
  let given ← OptionTable.read { letters := "bsw:" } name arguments
  let width ← match given.value? 'w' with
    | none => pure 80
    | some text =>
        let isNumber := !text.isEmpty && text.all Char.isDigit
        if isNumber && 0 < valueInBase 10 text then pure (valueInBase 10 text)
        else
          let reason := if isNumber then ": Numerical result out of range" else ""
          failWith 1 name ("invalid number of columns: ".toList ++ Quote.plain text ++
            reason.toList)
  overInputs given.operands (complainAbout name) fun _ bytes =>
    put ((splitLines bytes).flatMap fun line =>
      foldLine (given.has 'b') (given.has 's') width line.length (chomp line) ++
        if line.getLast? == some '\n' then ['\n'] else [])

/-! ### Tabs -/

def tabWidth (name : Bytes) (given : Arguments) : Action Nat := do
  match given.value? 't' with
  | none => return 8
  | some text =>
      if !text.isEmpty && text.all Char.isDigit then
        if valueInBase 10 text == 0 then failWith 1 name "tab size cannot be 0".toList
        return valueInBase 10 text
      failWith 1 name ("tab size contains invalid character(s): ".toList ++
        Quote.plain (text.dropWhile Char.isDigit))

/-- A line with blanks in the place of tabs. -/
def expandLine (width : Nat) : (column : Nat) → Bytes → Bytes
  | _, [] => []
  | column, c :: rest =>
      if c == '\t' then
        let count := width - column % width
        List.replicate count ' ' ++ expandLine width (column + count) rest
      else c :: expandLine width (if c == '\x08' then column - 1 else column + 1) rest

def expand : Utility := fun _ name arguments => do
  let given ← OptionTable.read
    { letters := "it:", names := [("tabs", .value, 't')] } name arguments
  let width ← tabWidth name given
  overInputs given.operands (complainAbout name) fun _ bytes =>
    put ((splitLines bytes).flatMap (expandLine width 0))

/-- A line with tabs in the place of blanks that reach up to one; `pending` blanks stand before the
column, the last of which may follow no other. -/
def unexpandLine (width : Nat) (everywhere : Bool) : (column pending : Nat) → Bytes → Bytes
  | _, pending, [] => List.replicate pending ' '
  | column, pending, c :: rest =>
      if c == ' ' then
        if (column + 1) % width == 0 && 0 < pending then
          '\t' :: unexpandLine width everywhere (column + 1) 0 rest
        else unexpandLine width everywhere (column + 1) (pending + 1) rest
      else if c == '\t' then
        '\t' :: unexpandLine width everywhere (column + width - column % width) 0 rest
      else
        let before := List.replicate pending ' '
        if everywhere then before ++ c :: unexpandLine width everywhere (column + 1) 0 rest
        else before ++ c :: rest

def unexpand : Utility := fun _ name arguments => do
  let given ← OptionTable.read
    { letters := "at:", names := [("all", .nothing, 'a'), ("tabs", .value, 't')] } name arguments
  let width ← tabWidth name given
  overInputs given.operands (complainAbout name) fun _ bytes =>
    put ((splitLines bytes).flatMap (unexpandLine width (given.has 'a' || given.has 't') 0 0))

/-! ### Lines in common -/

/-- The lines of two ordered files, each with whether it is only in the first, only in the second,
or in both. -/
def merged : Nat → List Bytes → List Bytes → List (Nat × Bytes)
  | 0, _, _ => []
  | _, [], second => second.map fun line => (2, line)
  | _, first, [] => first.map fun line => (1, line)
  | fuel + 1, a :: first, b :: second =>
      match Sorting.compareBytes a b with
      | .lt => (1, a) :: merged fuel first (b :: second)
      | .gt => (2, b) :: merged fuel (a :: first) second
      | .eq => (3, a) :: merged fuel first second

/-- The two operands of a utility that compares files. -/
def twoOperands (name : Bytes) (operands : List Bytes) : Action (Bytes × Bytes) := do
  match operands with
  | [] => missingOperand name
  | [only] => misuse 1 name ("missing operand after ".toList ++ Quote.plain only)
  | [first, second] => return (first, second)
  | _ :: _ :: extra :: _ => extraOperand name extra

def comm : Utility := fun _ name arguments => do
  let given ← OptionTable.read { letters := "123z" } name arguments
  let (first, second) ← twoOperands name given.operands
  let lines (path : Bytes) : Action (List Bytes) := do
    match ← input path with
    | .ok bytes => return (splitLines bytes).map chomp
    | .error error => do
        complainAbout name path error
        stop 1
  let first ← lines first
  let second ← lines second
  let shown := merged (first.length + second.length + 1) first second
  let isShown (column : Nat) : Bool := !given.has (Nat.digitChar column)
  put (shown.flatMap fun (column, line) =>
    if isShown column then
      ((List.range column).filter fun before => 0 < before && isShown before).map (fun _ => '\t') ++
        line ++ ['\n']
    else [])
  return 0

end NativeInterop.Shell.Utility
