import NativeInterop.Log.Logged
import NativeInterop.Text.Basic

namespace NativeInterop.Log

/-! Filters of the log, and how they are written: directives with commas between them. -/

open Text

/-- Lets through the events down to a level, or none, if they come from a place whose name begins
with the origin and have all of the fields. -/
structure Directive where
  origin : Option (List Char)
  fields : List (List Char)
  level : Option Level
  deriving DecidableEq

namespace Directive

def concerns (directive : Directive) (event : Event) : Bool :=
  (directive.origin.all fun origin => origin.isPrefixOf event.origin.toList) &&
    directive.fields.all fun field => event.fieldNames.any (·.toList == field)

def admits (directive : Directive) (event : Event) : Bool :=
  directive.level.any fun most => event.level.verbosity ≤ most.verbosity

/-- How narrow a directive is: first by the length of its origin, then by its fields. -/
def rank (directive : Directive) : Nat × Nat :=
  (directive.origin.elim 0 fun origin => origin.length + 1,
    directive.fields.length)

def sameScope (first second : Directive) : Bool :=
  first.origin == second.origin && first.fields == second.fields

/-- Whether the first directive is narrower. Names decide between equal ranks. -/
def outranks (first second : Directive) : Bool :=
  if first.rank.1 != second.rank.1 then second.rank.1 < first.rank.1
  else if first.rank.2 != second.rank.2 then second.rank.2 < first.rank.2
  else if first.origin != second.origin then second.origin.getD [] < first.origin.getD []
  else second.fields < first.fields

/-- The level behind an equals sign; if nothing is there, it is the most verbose one. -/
def levelText? (text : List Char) : Option (Option Level) :=
  if text.isEmpty then some (some .trace) else Level.ofFilterText? text

/-- A text without an equals sign: a level for everything, or an origin. -/
def ofName (text : List Char) : Directive :=
  match Level.ofFilterText? text with
  | some level => ⟨none, [], level⟩
  | none => ⟨some text, [], some .trace⟩

/-- What follows a scope in brackets, at some place of the text. -/
def tailLevel? (text tail : List Char) (start : Nat) : Option (Option Level) :=
  match tail with
  | [] => some (some .trace)
  | '=' :: _ => levelText? (text.drop (start + 1))
  | _ => none

/-- The rest of a directive with a scope in brackets. A scope with a name, or a field with a value,
concerns no event. -/
def scoped? (origin : Option (List Char)) (text body : List Char) (start : Nat) :
    Option (Option Directive) :=
  let isName (c : Char) := c != ']' && c != '\x7b'
  let rest := body.drop start
  let nameLength := (rest.takeWhile isName).length
  match rest.drop nameLength with
  | ']' :: tail => (tailLevel? text tail (start + nameLength + 1)).map fun _ => none
  | '\x7b' :: rest =>
      let fieldStart := start + nameLength + 1
      let length := (rest.takeWhile (· != '\x7d')).length
      match rest.drop length with
      | '\x7d' :: ']' :: tail =>
          let field := (text.drop fieldStart).take length
          if length == 0 then none
          else
            (tailLevel? text tail (fieldStart + length + 2)).map fun level =>
              if nameLength == 0 && !field.contains '=' then some ⟨origin, [field], level⟩
              else none
      | _ => none
  | _ => none

def beginsOrigin (c : Char) : Bool :=
  c.isAlphanum || c == '-' || c == ':' || c == '_' || 0x80 ≤ c.toNat

/-- Reads a directive, if the text is one; it may be one that concerns no event. Blanks around the
text are left out in finding its parts, but not in cutting them out. -/
def read? (text : List Char) : Option (Option Directive) :=
  let body := trim text
  match body with
  | [] => none
  | '[' :: _ => scoped? none text body 1
  | c :: _ =>
      let length := (body.takeWhile fun c => c != '=' && c != '[').length
      if !beginsOrigin c then none
      else
        match body.drop length with
        | [] => some (some (ofName text))
        | '=' :: _ =>
            (levelText? (text.drop (length + 1))).map fun level =>
              some ⟨some (text.take length), [], level⟩
        | _ => scoped? (some (text.take length)) text body (length + 1)

end Directive

/-- Directives, the narrower ones first. -/
abbrev Filter := List Directive

namespace Filter

def ofLevel (level : Level) : Filter :=
  [⟨none, [], some level⟩]

/-- Adds a directive, in place of one with the same scope. -/
def add (directive : Directive) : Filter → Filter
  | [] => [directive]
  | first :: others =>
      if directive.sameScope first then directive :: others
      else if directive.outranks first then directive :: first :: others
      else first :: add directive others

/-- The narrowest directive that concerns an event decides. -/
def admits (filter : Filter) (event : Event) : Bool :=
  (filter.find? (·.concerns event)).any (·.admits event)

def select (filter : Filter) (events : List Event) : List Event :=
  events.filter filter.admits

def ofText? (text : List Char) : Option Filter :=
  let texts := (segments (· == ',') text).filter (!·.isEmpty)
  (texts.mapM Directive.read?).map fun directives =>
    directives.foldl (fun filter directive => directive.elim filter filter.add) []

/-- Reads the filter from its variable. A text that is no filter counts as if it were missing. -/
def ofVariable (text : Option String) : Filter :=
  (text.bind fun text => ofText? text.toList).getD (ofLevel .info)

end Filter

end NativeInterop.Log
