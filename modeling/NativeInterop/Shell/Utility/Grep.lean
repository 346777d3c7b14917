import NativeInterop.Shell.FileNames
import NativeInterop.Shell.Regex
import NativeInterop.Shell.Utility.Message

namespace NativeInterop.Shell.Utility.Grep

/-! The utility `grep`. -/

open Shell.Action

/-- A pattern that lines are searched for. -/
structure Search where
  regexes : List Regex
  ignoresCase : Bool
  wholeWords : Bool
  wholeLines : Bool
  inverted : Bool

namespace Search

def isWordAt (line : Bytes) (start stop : Nat) : Bool :=
  let subject : Regex.Subject := ⟨line.toArray, false⟩
  !subject.wordBefore start && !subject.wordAt stop

/-- The first match of a regex from a place on that may count. -/
def regexMatch (search : Search) (line : Bytes) (regex : Regex) (start : Nat) :
    Option (Nat × Nat) :=
  let subject : Regex.Subject := ⟨line.toArray, search.ignoresCase⟩
  (List.range' start (line.length + 1 - start)).findSome? fun start =>
    let hits := (Regex.hits subject regex ⟨start, []⟩).map (·.position)
    let counting := hits.filter fun stop =>
      (!search.wholeLines || (start == 0 && stop == line.length)) &&
        (!search.wholeWords || isWordAt line start stop)
    counting.max?.map (start, ·)

/-- The first match of any of the patterns, the longest of those that begin there. -/
def first (search : Search) (line : Bytes) (start : Nat) : Option (Nat × Nat) :=
  let found := search.regexes.filterMap fun regex => search.regexMatch line regex start
  found.foldl (fun best next =>
    match best with
    | none => some next
    | some best =>
        if next.1 < best.1 || (next.1 == best.1 && best.2 < next.2) then some next
        else some best) none

def selects (search : Search) (line : Bytes) : Bool :=
  (search.first line 0).isSome != search.inverted

/-- All matches in a line that are not empty. -/
def all (search : Search) (line : Bytes) : Nat → Nat → List (Nat × Nat)
  | 0, _ => []
  | fuel + 1, start =>
      match search.first line start with
      | none => []
      | some (first, stop) =>
          if first == stop then
            if first < line.length then all search line fuel (first + 1) else []
          else (first, stop) :: all search line fuel stop

end Search

/-- How what is found is shown. -/
structure Style where
  withName : Bool
  withNumber : Bool
  withOffset : Bool
  counts : Bool
  namesOnly : Bool
  namesMissing : Bool
  quiet : Bool
  partsOnly : Bool
  limit : Option Nat
  before : Nat
  after : Nat

def label (style : Style) (path : Bytes) (mark : Char) (number offset : Nat) : Bytes :=
  (if style.withName then path ++ [mark] else []) ++
    (if style.withNumber then Bytes.ofNat number ++ [mark] else []) ++
    (if style.withOffset then Bytes.ofNat offset ++ [mark] else [])

structure Line where
  number : Nat
  offset : Nat
  text : Bytes
  selected : Bool

/-- The lines of a text, those beyond the limit of selected ones not being selected. -/
def linesOf (search : Search) :
    Option Nat → (number offset : Nat) → List Bytes → List Line
  | _, _, _, [] => []
  | limit, number, offset, text :: rest =>
      let selected := limit != some 0 && search.selects (chomp text)
      let limit := if selected then limit.map (· - 1) else limit
      ⟨number, offset, chomp text, selected⟩ ::
        linesOf search limit (number + 1) (offset + text.length) rest

def shownLine (search : Search) (style : Style) (path : Bytes) (found : Line) : Bytes :=
  if style.partsOnly then
    if search.inverted then []
    else
      (search.all found.text (found.text.length + 1) 0).flatMap fun (start, stop) =>
        label style path ':' found.number (found.offset + start) ++
          (found.text.take stop).drop start ++ ['\n']
  else label style path ':' found.number found.offset ++ found.text ++ ['\n']

/-- The lines that are shown, with those around them; a mark stands where some are left out. -/
def shownLines (search : Search) (style : Style) (path : Bytes) (lines : List Line) : Bytes :=
  let chosen := (lines.filter (·.selected)).map (·.number)
  let isNear (number : Nat) : Bool :=
    chosen.any fun there => there ≤ number + style.before && number ≤ there + style.after
  let shown := lines.filter fun found => found.selected || isNear found.number
  let hasContext := 0 < style.before || 0 < style.after
  let rec go : Option Nat → List Line → Bytes
    | _, [] => []
    | last, found :: rest =>
        let gap := last.any fun last => hasContext && last + 1 != found.number
        (if gap then ['-', '-', '\n'] else []) ++
          (if found.selected then shownLine search style path found
            else if style.partsOnly then []
            else label style path '-' found.number found.offset ++ found.text ++ ['\n']) ++
          go (some found.number) rest
  go none shown

/-- Searches a file, and tells whether any line is selected. -/
def searchText (search : Search) (style : Style) (path text : Bytes) : Action Bool := do
  let lines := linesOf search style.limit 1 0 (splitLines text)
  let count := (lines.filter (·.selected)).length
  let found := 0 < count
  if style.quiet then return found
  if style.namesOnly then
    if found then put (path ++ ['\n'])
  else if style.namesMissing then
    if !found then put (path ++ ['\n'])
  else if style.counts then
    put ((if style.withName then path ++ [':'] else []) ++ Bytes.ofNat count ++ ['\n'])
  else if text.contains '\x00' then
    if found then put ("grep: ".toList ++ path ++ ": binary file matches\n".toList)
  else put (shownLines search style path lines)
  return found

/-- Searches files one after the other: whether any line is selected, and whether any file could
not be read. -/
def searchFiles (search : Search) (style : Style) (name : Bytes) (silent : Bool) :
    List Bytes → Action (Bool × Bool)
  | [] => return (false, false)
  | path :: rest => do
      let (found, failed) ← match ← input path with
        | .ok text =>
            let shown := if path == ['-'] then "(standard input)".toList else path
            pure (← searchText search style shown text, false)
        | .error error => do
            unless silent do complain name (path ++ ": ".toList ++ errorText error.error)
            pure (false, true)
      if found && style.quiet then return (true, failed)
      let (others, otherFailed) ← searchFiles search style name silent rest
      return (found || others, failed || otherFailed)

def usageText : String :=
  "[OPTION]... PATTERNS [FILE]..."

def usage {α : Type} (name : Bytes) : Action α := do
  Action.complain ("Usage: ".toList ++ name ++ ' ' :: usageText.toList ++ '\n' :: helpLine name)
  stop 2

/-- A text that stands for itself. -/
def literal (text : Bytes) : Regex :=
  text.foldr (fun c rest => .sequence (.char c) rest) .nothing

def regexOf (name : Bytes) (kind : Char) (text : Bytes) : Action Regex := do
  if kind == 'F' then return literal text
  match Regex.parse (kind != 'G') text with
  | .ok regex => return regex
  | .error message =>
      let message :=
        if message == Regex.Reader.unmatchedBracket then "Invalid regular expression" else message
      failWith 2 name message.toList

def numberOf (name : Bytes) (text : Bytes) (message : Bytes) : Action Nat := do
  if text.isEmpty || !text.all Char.isDigit then failWith 2 name message
  return valueInBase 10 text

def table : OptionTable :=
  { letters := "A:B:C:EFGHLPTUVabce:f:hilm:noqrRsuvwxyzZ"
    names := [("count", .nothing, 'c'), ("ignore-case", .nothing, 'i'),
      ("invert-match", .nothing, 'v'), ("line-number", .nothing, 'n'), ("regexp", .value, 'e'),
      ("file", .value, 'f'), ("quiet", .nothing, 'q'), ("silent", .nothing, 'q'),
      ("no-messages", .nothing, 's'), ("only-matching", .nothing, 'o'),
      ("word-regexp", .nothing, 'w'), ("line-regexp", .nothing, 'x'),
      ("extended-regexp", .nothing, 'E'), ("fixed-strings", .nothing, 'F'),
      ("files-with-matches", .nothing, 'l'), ("files-without-match", .nothing, 'L'),
      ("with-filename", .nothing, 'H'), ("no-filename", .nothing, 'h'),
      ("max-count", .value, 'm'), ("color", .possibly, 'Z'), ("colour", .possibly, 'Z')]
    status := 2, usage := some usageText }

/-- The texts of the patterns, and the files. -/
def patternsOf (name : Bytes) (given : Arguments) : Action (List Bytes × List Bytes) := do
  let ofFiles ← (given.values 'f').mapM fun path => do
    match ← input path with
    | .ok text => return (splitLines text).map chomp
    | .error error => failWith 2 name (path ++ ": ".toList ++ errorText error.error)
  let direct := (given.values 'e').flatMap (Text.segments (· == '\n'))
  if given.has 'e' || given.has 'f' then return (direct ++ ofFiles.flatten, given.operands)
  match given.operands with
  | [] => usage name
  | text :: paths => return (Text.segments (· == '\n') text, paths)

/-- The files below a directory, in the order of their names. -/
def filesBelow (files : FileSystem) : Nat → Bytes → List Bytes
  | 0, path => [path]
  | depth + 1, path =>
      match System.lookup files path, System.locate files path with
      | .ok .directory, .ok location =>
          let names := (System.namesIn files location).mergeSort FileNames.precedes
          names.flatMap fun name => filesBelow files depth (path ++ '/' :: name)
      | _, _ => [path]

/-- The files that a search through directories goes over, and whether there are directories among
the paths. Without paths it is that of the working directory. -/
def searchedFiles (paths : Option (List Bytes)) : Action (List Bytes × Bool) := do
  let files ← files
  match paths with
  | none => return ((filesBelow files 100 ['.']).map (·.drop 2), true)
  | some paths =>
      let isTree := paths.any fun path => (System.lookup files path).toOption == some .directory
      return (paths.flatMap (filesBelow files 100), isTree)

def run (kind : Char) : Utility := fun _ name arguments => do
  let given ← table.read name arguments
  let (texts, paths) ← patternsOf name given
  let kind := ((given.options.filter fun option => "EFGP".contains option.1).getLast?.map
    (·.1)).getD kind
  let regexes ← texts.mapM (regexOf name kind)
  let context (letter : Char) : Action Nat := do
    match (given.value? letter).or (given.value? 'C') with
    | none => return 0
    | some text => numberOf name text (text ++ ": invalid context length argument".toList)
  let limit ← match given.value? 'm' with
    | none => pure none
    | some text => pure (some (← numberOf name text "invalid max count".toList))
  let after ← context 'A'
  let before ← context 'B'
  let recurses := given.has 'r' || given.has 'R'
  let (paths, isTree) ←
    if recurses then searchedFiles (if paths.isEmpty then none else some paths)
    else pure (if paths.isEmpty then [['-']] else paths, false)
  let search : Search :=
    ⟨regexes, given.has 'i' || given.has 'y', given.has 'w', given.has 'x', given.has 'v'⟩
  let style : Style :=
    { withName := given.has 'H' || ((1 < paths.length || isTree) && !given.has 'h')
      withNumber := given.has 'n', withOffset := given.has 'b', counts := given.has 'c'
      namesOnly := given.has 'l', namesMissing := given.has 'L', quiet := given.has 'q'
      partsOnly := given.has 'o', limit, before, after }
  let (found, failed) ← searchFiles search style name (given.has 's') paths
  if failed && !(found && style.quiet) then return 2
  return if found then 0 else 1

end NativeInterop.Shell.Utility.Grep
