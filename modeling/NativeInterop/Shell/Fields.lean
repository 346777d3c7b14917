import NativeInterop.Shell.Bytes

namespace NativeInterop.Shell

/-! Splitting expanded text into fields. -/

/-- A piece of an expanded word. -/
inductive Glyph
  /-- A character; one that is escaped has no special meaning. -/
  | char (escaped : Bool) (c : Char)
  /-- A quotation mark, which keeps an empty field. -/
  | quotes
  deriving DecidableEq

namespace Glyph

def text (glyphs : List Glyph) : Bytes :=
  glyphs.filterMap fun
    | char _ c => some c
    | quotes => none

/-- The pattern in which the escaped characters stand for themselves. -/
def pattern (glyphs : List Glyph) : Bytes :=
  glyphs.flatMap fun
    | char true c => ['\\', c]
    | char false c => [c]
    | quotes => []

def isNul : Glyph → Bool
  | char _ c => c == '\x00'
  | quotes => false

end Glyph

/-- A stretch of expanded text that is split. -/
structure Region where
  first : Nat
  last : Nat
  /-- Split where arguments end, not where separators stand. -/
  betweenArguments : Bool
  deriving DecidableEq

structure Expanded where
  text : Array Glyph := #[]
  regions : Array Region := #[]

namespace Expanded

def push (expanded : Expanded) (glyph : Glyph) : Expanded :=
  { expanded with text := expanded.text.push glyph }

def append (expanded : Expanded) (glyphs : List Glyph) : Expanded :=
  { expanded with text := expanded.text ++ glyphs }

/-- Marks what has been added since an offset as text that is split. -/
def split (expanded : Expanded) (first : Nat) (betweenArguments : Bool := false) : Expanded :=
  { expanded with
    regions := expanded.regions.push ⟨first, expanded.text.size, betweenArguments⟩ }

end Expanded

/-- The state of a splitting. -/
structure Splitting where
  fields : Array (List Glyph) := #[]
  /-- Where the field under way begins. -/
  start : Nat := 0
  /-- Whether blanks have just ended a field. -/
  afterBlank : Bool := false
  /-- How many fields may still be made; without a number there may be any. -/
  left : Option Nat
  /-- Where the last field ends, if not at the end. -/
  stop : Option Nat := none

namespace Splitting

def isDefaultSeparator (c : Char) : Bool :=
  c == ' ' || c == '\t' || c == '\n' || c == '\x00'

/-- Goes over a character of the last field, which blanks at the end do not belong to. -/
def lastField (splitting : Splitting) (index : Nat) (separates isBlank : Bool) : Splitting :=
  if isBlank then { splitting with stop := splitting.stop.or (some index) }
  else
    { splitting with
      stop := if separates && splitting.afterBlank then splitting.stop else none
      afterBlank := false }

/-- Ends the field under way at a separator. -/
def endField (splitting : Splitting) (text : Array Glyph) (index next : Nat)
    (mayBeBlank isBlank : Bool) : Splitting :=
  let splitting :=
    if mayBeBlank then { splitting with afterBlank := isBlank } else splitting
  if index == splitting.start && splitting.afterBlank then
    { splitting with start := next, afterBlank := false }
  else if splitting.left == some 1 then
    { splitting with left := some 0, stop := some index }
  else
    { splitting with
      left := splitting.left.map (· - 1)
      fields := splitting.fields.push (text.extract splitting.start index).toList
      start := next }

/-- Goes over the character at an index, within a region. -/
def step (separators : Bytes) (text : Array Glyph) (betweenArguments afterArguments : Bool)
    (splitting : Splitting) (index : Nat) : Splitting :=
  let c := match text[index]? with
    | some (.char _ c) => c
    | _ => '"'
  let separates := c == '\x00' || (!betweenArguments && separators.contains c)
  let isBlank := separates && isDefaultSeparator c
  let next := index + 1
  if splitting.left == some 0 then splitting.lastField index separates isBlank
  else
    let mayBeBlank := !(afterArguments || betweenArguments)
    let finish (splitting : Splitting) : Splitting :=
      if separates then splitting.endField text index next mayBeBlank isBlank
      else { splitting with afterBlank := false }
    if splitting.afterBlank then
      let splitting := { splitting with start := if separates then next else index }
      if isBlank then splitting else { splitting with afterBlank := false }
    else finish splitting

def region (separators : Bytes) (text : Array Glyph) (afterArguments : Bool)
    (splitting : Splitting) (region : Region) : Splitting :=
  (List.range' region.first (region.last - region.first)).foldl
    (step separators text region.betweenArguments afterArguments)
    { splitting with afterBlank := false }

def regions (separators : Bytes) (text : Array Glyph) :
    List Region → (afterArguments : Bool) → Splitting → Splitting
  | [], _, splitting => splitting
  | first :: rest, afterArguments, splitting =>
      regions separators text rest first.betweenArguments
        (region separators text afterArguments splitting first)

end Splitting

/-- The fields of an expanded word, at most as many as are allowed. -/
def Expanded.fields (expanded : Expanded) (separators : Bytes) (limit : Option Nat) :
    List (List Glyph) :=
  let splitting :=
    Splitting.regions separators expanded.text expanded.regions.toList false { left := limit }
  let rest := (expanded.text.extract splitting.start
    (splitting.stop.getD expanded.text.size)).toList
  let keepsEmpty := expanded.regions.back?.any (·.betweenArguments)
  let isEmpty := rest.isEmpty || rest.head?.any Glyph.isNul
  splitting.fields.toList ++ if isEmpty && !keepsEmpty then [] else [rest]

end NativeInterop.Shell
