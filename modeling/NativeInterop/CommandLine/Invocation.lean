import NativeInterop.CommandLine.Argument
import NativeInterop.Path

namespace NativeInterop.CommandLine

/-! Reading arguments from left to right. A value is looked at only when the next option or
positional argument begins, or at the end; until then, an argument that is not known at all is the
first error. -/

inductive Pending
  | nothing
  | setting (setting : Setting) (value : Option (List Char))
  | positional (value : List Char)

/-- What has been read for the program or one of its commands. -/
structure Reading where
  pending : Pending
  settings : List (Setting × List Char)
  positionals : List (List Char)
  escaped : Bool

namespace Reading

def start : Reading :=
  ⟨.nothing, [], [], false⟩

def get? (reading : Reading) (setting : Setting) : Option (List Char) :=
  (reading.settings.find? fun entry => entry.1 == setting).map (·.2)

/-- Whether an option waits for its value. -/
def awaits (reading : Reading) : Option Setting :=
  match reading.escaped, reading.pending with
  | false, .setting setting none => some setting
  | _, _ => none

/-- Whether the name of a command may come next. -/
def expectsCommand (reading : Reading) : Bool :=
  !reading.escaped && reading.awaits.isNone

def add (reading : Reading) (setting : Setting) (value : List Char) : Except UsageError Reading :=
  if (reading.get? setting).isSome then .error .repeatedOption
  else if setting.accepts value then
    .ok { reading with pending := .nothing, settings := reading.settings ++ [(setting, value)] }
  else .error .invalidValue

/-- Looks at the value that is pending. -/
def resolve (level : Level) (reading : Reading) : Except UsageError Reading :=
  match reading.pending with
  | .nothing => .ok reading
  | .setting _ none => .error .invalidValue
  | .setting setting (some value) => reading.add setting value
  | .positional value =>
      if level.acceptsPositional value then .ok { reading with pending := .nothing }
      else .error .invalidValue

/-- The error for an argument that there is no place for. -/
def surplus (level : Level) (reading : Reading) (text : List Char) : UsageError :=
  if level == .program && !(reading.escaped && Level.isCommandName text) then .invalidCommand
  else .unknownArgument

def place (level : Level) (reading : Reading) (text : List Char) : Except UsageError Reading := do
  if level.takesPositional reading.positionals.length then
    let reading ← reading.resolve level
    return { reading with
      pending := .positional text, positionals := reading.positionals ++ [text] }
  else throw (reading.surplus level text)

/-- Takes an option with the value attached to it, if there is one. -/
def option (level : Level) (reading : Reading) (key : Option OptionKey)
    (attached : Option (List Char)) : Except UsageError Reading := do
  match key, attached with
  | none, _ => throw .unknownArgument
  | some (.setting setting), some value => (← reading.resolve level).add setting value
  | some (.setting setting), none =>
      return { ← reading.resolve level with pending := .setting setting none }
  | some _, some _ => throw .surplusValue
  | some .help, none => do
      let _ ← reading.resolve level
      throw .help
  | some .version, none => do
      let _ ← reading.resolve level
      throw .version

/-- The value written right after the letter of an option, with or without an equals sign. -/
def attachedValue : List Char → Option (List Char)
  | [] => none
  | '=' :: value => some value
  | value => some value

def shortOption (level : Level) (reading : Reading) (letter : Char) (attached : List Char) :
    Except UsageError Reading :=
  match level.short? letter with
  | some (.setting setting) =>
      reading.option level (some (.setting setting)) (attachedValue attached)
  | key => reading.option level key none

def step (level : Level) (reading : Reading) (text : List Char) : Except UsageError Reading :=
  if reading.escaped then reading.place level text
  else
    match Argument.ofText text with
    | .escape => .ok { reading with escaped := true }
    | .long name value => reading.option level (level.long? name) value
    | .short letter attached => reading.shortOption level letter attached
    | .plain text =>
        match reading.awaits with
        | some setting => .ok { reading with pending := .setting setting (some text) }
        | none => reading.place level text

/-- Reads all arguments of a command. -/
def readAll (level : Level) (reading : Reading) (arguments : List (List Char)) :
    Except UsageError Reading := do
  (← arguments.foldlM (step level) reading).resolve level

end Reading

inductive Command
  | generate (manifest : Path) (outDir : Option Path) (source : Option SourceKind)
      (tool : Option Path)
  | decode (listing : Path) (literal : List Char)
  | normalize (names : List (List Char))
  | exports (binary : Path)
  deriving DecidableEq

structure Invocation where
  logLevel : Option (List Char)
  command : Command
  deriving DecidableEq

namespace Command

def defaultManifest : Path :=
  .ofString "dllbind.toml"

def defaultLiteral : List Char :=
  "\"library.dll\"".toList

/-- The command that has been read at a level. -/
def ofReading (level : Level) (reading : Reading) : Except UsageError Command :=
  match level, reading.positionals with
  | .program, _ => .error .missingCommand
  | .generate, _ =>
      .ok (.generate (((reading.get? .manifest).map Path.mk).getD defaultManifest)
        ((reading.get? .outDir).map Path.mk)
        ((reading.get? .source).bind fun label => SourceKind.ofLabel? (String.ofList label))
        ((reading.get? .tool).map Path.mk))
  | .decode, path :: _ => .ok (.decode ⟨path⟩ ((reading.get? .literal).getD defaultLiteral))
  | .normalize, name :: names => .ok (.normalize (name :: names))
  | .exports, path :: _ => .ok (.exports ⟨path⟩)
  | _, [] => .error .missingArgument

end Command

namespace Invocation

/-- Help is there for each command, and for help itself. -/
def helpFor : List (List Char) → UsageError
  | [] => .help
  | [name] => if Level.isCommandName name then .help else .invalidCommand
  | _ :: _ :: _ => .invalidCommand

/-- The end of the arguments without a command. -/
def withoutCommand (reading : Reading) : Except UsageError Invocation := do
  let reading ← reading.resolve .program
  if reading.settings.isEmpty then throw .helpForLackOfArguments else throw .missingCommand

/-- A command after the options of the program. The log level next to the command counts most. -/
def withCommand (reading : Reading) (level : Level) (arguments : List (List Char)) :
    Except UsageError Invocation := do
  let inner ← Reading.readAll level .start arguments
  let command ← Command.ofReading level inner
  let outer ← reading.resolve .program
  return ⟨(inner.get? .logLevel).or (outer.get? .logLevel), command⟩

/-- The command that a text names where one may stand. -/
def commandAt? (reading : Reading) (text : List Char) : Option Level :=
  if reading.expectsCommand then Level.ofName? text else none

def read (reading : Reading) : List (List Char) → Except UsageError Invocation
  | [] => withoutCommand reading
  | text :: rest =>
      if reading.expectsCommand && text == Level.helpName then .error (helpFor rest)
      else
        match commandAt? reading text with
        | some level => withCommand reading level rest
        | none =>
            match reading.step .program text with
            | .error error => .error error
            | .ok reading => read reading rest

def parse (arguments : List (List Char)) : Except UsageError Invocation :=
  read .start arguments

end Invocation

end NativeInterop.CommandLine
