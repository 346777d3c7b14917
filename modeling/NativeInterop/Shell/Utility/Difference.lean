import NativeInterop.Shell.Utility.Files

namespace NativeInterop.Shell.Utility

/-! A utility that tells by which lines files differ. -/

open Shell.Action

namespace Difference

/-- What happens to a line on the way from one file to another. -/
inductive Step
  | keep
  | delete
  | insert
  deriving DecidableEq

/-- For each rest of the second file, how many lines it has at most in common with what begins with
a line, given the same for what follows the line. -/
def commonFrom {α : Type} [BEq α] (line : α) : List α → List Nat → List Nat
  | other :: second, count :: counts =>
      let rest := commonFrom line second counts
      (if line == other then counts.headD 0 + 1 else max count (rest.headD 0)) :: rest
  | _, _ => [0]

/-- The counts of common lines for each rest of the first file. -/
def common {α : Type} [BEq α] (second : List α) : List α → List (List Nat)
  | [] => [List.replicate (second.length + 1) 0]
  | line :: first =>
      let below := common second first
      commonFrom line second (below.headD []) :: below

/-- The fewest steps that lead from one list of lines to another. -/
def stepsWithin {α : Type} [BEq α] : Nat → List α → List α → List (List Nat) → List Step
  | 0, _, _, _ => []
  | _, first, [], _ => first.map fun _ => .delete
  | _, [], second, _ => second.map fun _ => .insert
  | fuel + 1, a :: first, b :: second, counts =>
      let below := counts.tail
      if a == b then .keep :: stepsWithin fuel first second (below.map List.tail)
      else if ((counts.headD []).tail).headD 0 ≤ (below.headD []).headD 0 then
        .delete :: stepsWithin fuel first (b :: second) below
      else .insert :: stepsWithin fuel (a :: first) second (counts.map List.tail)

def steps {α : Type} [BEq α] (first second : List α) : List Step :=
  stepsWithin (first.length + second.length + 1) first second (common second first)

/-- Lines that take the place of others. -/
structure Hunk where
  /-- How many lines stand before those that are deleted, and before those that are inserted. -/
  places : Nat × Nat
  deleted : List Bytes := []
  inserted : List Bytes := []

def Hunk.isEmpty (hunk : Hunk) : Bool :=
  hunk.deleted.isEmpty && hunk.inserted.isEmpty

/-- The hunks of steps; `hunk` is under way. -/
def hunks (hunk : Hunk) : List Step → List Bytes → List Bytes → List Hunk
  | .keep :: steps, _ :: first, _ :: second =>
      let (deleting, inserting) := hunk.places
      let next : Hunk :=
        ⟨(deleting + hunk.deleted.length + 1, inserting + hunk.inserted.length + 1), [], []⟩
      (if hunk.isEmpty then [] else [hunk]) ++ hunks next steps first second
  | .delete :: steps, line :: first, second =>
      hunks { hunk with deleted := hunk.deleted ++ [line] } steps first second
  | .insert :: steps, first, line :: second =>
      hunks { hunk with inserted := hunk.inserted ++ [line] } steps first second
  | _, _, _ => if hunk.isEmpty then [] else [hunk]

/-- The numbers of the lines behind a place; the place itself if there are none. -/
def range (place : Nat) (lines : List Bytes) : Bytes :=
  match lines.length with
  | 0 => Bytes.ofNat place
  | 1 => Bytes.ofNat (place + 1)
  | count => Bytes.ofNat (place + 1) ++ ',' :: Bytes.ofNat (place + count)

def shownLine (mark : Char) (text : Bytes) : Bytes :=
  mark :: ' ' :: (if text.getLast? == some '\n' then text
    else text ++ "\n\\ No newline at end of file\n".toList)

def Hunk.shown (hunk : Hunk) : Bytes :=
  let kind := if hunk.inserted.isEmpty then 'd' else if hunk.deleted.isEmpty then 'a' else 'c'
  line (range hunk.places.1 hunk.deleted ++ kind :: range hunk.places.2 hunk.inserted) ++
    hunk.deleted.flatMap (shownLine '<') ++ (if kind == 'c' then "---\n".toList else []) ++
    hunk.inserted.flatMap (shownLine '>')

/-- Ends because of wrong arguments. -/
def misuse {α : Type} (name message : Bytes) : Action α := do
  complain name message
  complain name (helpLine name).dropLast
  stop 2

/-- A path, or what has the name of the other path inside of it if it is a directory. -/
def inside (path other : Bytes) : Action Bytes := do
  match ← Files.find path, ← Files.find other with
  | .ok (_, .directory), .ok _ => return Files.join path (lastName other)
  | _, _ => return path

def diff : Utility := fun _ name arguments => do
  let table : OptionTable :=
    { letters := "bBiqrsNtTwa"
      names := [("brief", .nothing, 'q'), ("report-identical-files", .nothing, 's'),
        ("ignore-case", .nothing, 'i'), ("ignore-all-space", .nothing, 'w'),
        ("ignore-space-change", .nothing, 'b')]
      status := 2, namesHelp := true }
  let given ← table.read name arguments
  let (first, second) ← match given.operands with
    | [] => misuse name ("missing operand after '".toList ++ name ++ ['\''])
    | [only] => misuse name ("missing operand after '".toList ++ only ++ ['\''])
    | [first, second] => pure (first, second)
    | _ :: _ :: extra :: _ => misuse name ("extra operand '".toList ++ extra ++ ['\''])
  let firstPath ← inside first second
  let secondPath ← inside second first
  let content (path : Bytes) : Action (Option Bytes) := do
    match ← input path with
    | .ok bytes => return some bytes
    | .error error => do
        complain name (path ++ ": ".toList ++ errorText error.error)
        return none
  let a? ← content firstPath
  let b? ← content secondPath
  let (some a, some b) := (a?, b?) | return 2
  let names := firstPath ++ " and ".toList ++ secondPath
  if a == b then
    if given.has 's' then put (line ("Files ".toList ++ names ++ " are identical".toList))
    return 0
  if given.has 'q' then
    put (line ("Files ".toList ++ names ++ " differ".toList))
    return 1
  if a.contains '\x00' || b.contains '\x00' then
    put (line ("Binary files ".toList ++ names ++ " differ".toList))
    return 2
  let prepared (text : Bytes) : Bytes :=
    let text := if given.has 'w' then text.filter (!isSpace ·)
      else if given.has 'b' then
        joinWith [' '] ((Text.segments isSpace (chomp text)).filter (!·.isEmpty))
      else text
    if given.has 'i' then text.map Char.toLower else text
  let first := splitLines a
  let second := splitLines b
  let steps := steps (first.map prepared) (second.map prepared)
  let found := hunks ⟨(0, 0), [], []⟩ steps first second
  put (found.flatMap Hunk.shown)
  return if found.isEmpty then 0 else 1

end Difference

end NativeInterop.Shell.Utility
