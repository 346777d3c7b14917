import NativeInterop.Text.Basic

namespace NativeInterop.Identifier

/-! The words of a raw name. White space and underscores stand between words; of the other
characters only ASCII letters and digits count. -/

open Text

def isSeparator (c : Char) : Bool :=
  c == '_' || isBlank c

def rawWords (raw : List Char) : List (List Char) :=
  segments isSeparator (raw.filter fun c => isSeparator c || c.isAlphanum)

def words (raw : List Char) : List (List Char) :=
  (rawWords raw).filter (!·.isEmpty)

/-! ### Casing

A word of ASCII letters and digits is recased in three passes, each over the result of the one
before. The passes that lower acronyms look for them by place. -/

def capitalizeLeading : List Char → List Char
  | [] => []
  | c :: rest => c.toUpper :: rest

def isCapitalOrDigit (c : Char) : Bool :=
  c.isUpper || c.isDigit

def isCapitalAt (word : List Char) (place : Nat) : Bool :=
  word[place]?.any Char.isUpper

/-- Lowers the characters from place `first` on, up to but not including that at `stop`. -/
def lowerBetween (first stop : Nat) (word : List Char) : List Char :=
  word.take first ++ ((word.take stop).drop first).map Char.toLower ++ word.drop stop

/-- Where the row of capitals and digits begins that goes up to place `stop`. -/
def tailStart (word : List Char) : Nat → Nat
  | 0 => 0
  | stop + 1 => if word[stop]?.any isCapitalOrDigit then tailStart word stop else stop + 1

/-- Lowers what follows the first capital of the tail of capitals and digits. -/
def lowerTrailingAcronym (word : List Char) : List Char :=
  let start := max (tailStart word word.length) 1
  let places := List.range' start (word.length - start)
  match places.find? fun place => isCapitalAt word (place - 1) with
  | some first => lowerBetween first word.length word
  | none => word

/-- Raises each letter after a digit; `afterDigit` tells of the character before the text. -/
def capitalizeAfterDigit (afterDigit : Bool) : List Char → List Char
  | [] => []
  | c :: rest => (if afterDigit then c.toUpper else c) :: capitalizeAfterDigit c.isDigit rest

/-- Where the capitals at the beginning of the text reach a digit or the capital of a new word,
which has a lower-case letter after it. The text begins at `place`. -/
def acronymEnd? (place : Nat) : List Char → Option Nat
  | [] => none
  | c :: rest =>
      if (c.isUpper && rest.head?.any Char.isLower) || c.isDigit then some place
      else if c.isUpper then acronymEnd? (place + 1) rest
      else none

/-- The end of an acronym that begins at a place. Its first letter comes after a capital. -/
def acronymAt? (word : List Char) (place : Nat) : Option Nat :=
  if isCapitalAt word (place - 1) && isCapitalAt word place then
    acronymEnd? (place + 1) (word.drop (place + 1))
  else none

theorem le_of_acronymEnd? {text : List Char} {place stop : Nat}
    (found : acronymEnd? place text = some stop) : place ≤ stop := by
  induction text generalizing place with
  | nil => simp [acronymEnd?] at found
  | cons c rest ih =>
      rw [acronymEnd?] at found
      split at found
      · exact Nat.le_of_eq (Option.some.inj found)
      · split at found
        · exact Nat.le_of_succ_le (ih found)
        · simp at found

theorem lt_of_acronymAt? {word : List Char} {place stop : Nat}
    (found : acronymAt? word place = some stop) : place < stop := by
  rw [acronymAt?] at found
  split at found
  · exact le_of_acronymEnd? found
  · simp at found

/-- Lowers the acronyms of a word from a place on in a copy of it, and goes on where each ends. -/
def lowerAcronyms (word : List Char) (place : Nat) (copy : List Char) : List Char :=
  if place < word.length then
    match found : acronymAt? word place with
    | some stop => lowerAcronyms word stop (lowerBetween place stop copy)
    | none => lowerAcronyms word (place + 1) copy
  else copy
termination_by word.length - place
decreasing_by
  · have further := lt_of_acronymAt? found
    omega
  · omega

def lowerInteriorAcronyms (word : List Char) : List Char :=
  lowerAcronyms word 1 word

def recase (word : List Char) : List Char :=
  lowerInteriorAcronyms (capitalizeAfterDigit false (lowerTrailingAcronym word))

/-! ### The canonical form

The canonical form of a raw name: its words with one capital each, joined and recased until
nothing changes. -/

def settle : Nat → List Char → List Char
  | 0, word => word
  | rounds + 1, word => if recase word = word then word else settle rounds (recase word)

def settleRounds : Nat :=
  8

def joinWords (raw : List Char) : List Char :=
  (words raw).flatMap fun word => recase (capitalizeLeading word)

def canonical (raw : List Char) : List Char :=
  settle settleRounds (joinWords raw)

end NativeInterop.Identifier
