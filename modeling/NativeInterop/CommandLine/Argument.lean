import NativeInterop.Source.Kind

namespace NativeInterop.CommandLine

/-! The forms of an argument, and what the program and each of its commands take. -/

inductive Argument
  /-- After this, all arguments are taken as they are. -/
  | escape
  | long (name : List Char) (value : Option (List Char))
  | short (letter : Char) (attached : List Char)
  | plain (text : List Char)
  deriving DecidableEq

def Argument.ofText (text : List Char) : Argument :=
  match text with
  | ['-', '-'] => .escape
  | '-' :: '-' :: rest =>
      match rest.dropWhile (· != '=') with
      | [] => .long rest none
      | _ :: value => .long (rest.takeWhile (· != '=')) (some value)
  | '-' :: letter :: attached => .short letter attached
  | text => .plain text

inductive UsageError
  | help | version | helpForLackOfArguments
  | missingCommand | invalidCommand | unknownArgument | missingArgument
  | invalidValue | surplusValue | repeatedOption
  deriving DecidableEq, Repr

/-- Options with a value. -/
inductive Setting
  | logLevel | manifest | outDir | source | tool | literal
  deriving DecidableEq, Repr

namespace Setting

def name : Setting → String
  | logLevel => "log-level"
  | manifest => "manifest"
  | outDir => "out-dir"
  | source => "source"
  | tool => "tool"
  | literal => "literal"

def letter? : Setting → Option Char
  | manifest => some 'm'
  | outDir => some 'o'
  | source => some 's'
  | logLevel | tool | literal => none

/-- Paths may not be empty, and sources must be known. -/
def accepts (setting : Setting) (value : List Char) : Bool :=
  match setting with
  | logLevel | literal => true
  | manifest | outDir | tool => !value.isEmpty
  | source => (SourceKind.ofLabel? (String.ofList value)).isSome

end Setting

/-- The program itself, or one of its commands. -/
inductive Level
  | program | generate | decode | normalize | exports
  deriving DecidableEq, Repr

inductive OptionKey
  | setting (setting : Setting)
  | help
  | version

namespace Level

def name : Level → String
  | program => ""
  | generate => "generate"
  | decode => "decode"
  | normalize => "normalize"
  | exports => "exports"

def commands : List Level :=
  [generate, decode, normalize, exports]

def ofName? (text : List Char) : Option Level :=
  commands.find? fun level => level.name.toList == text

def helpName : List Char :=
  "help".toList

/-- The name of a command, or of the one that shows help. -/
def isCommandName (text : List Char) : Bool :=
  text == helpName || (ofName? text).isSome

def settings : Level → List Setting
  | generate => [.logLevel, .manifest, .outDir, .source, .tool]
  | decode => [.logLevel, .literal]
  | program | normalize | exports => [.logLevel]

def long? (level : Level) (name : List Char) : Option OptionKey :=
  if name == "help".toList then some .help
  else if name == "version".toList && level == program then some .version
  else (level.settings.find? fun setting => setting.name.toList == name).map .setting

def short? (level : Level) (letter : Char) : Option OptionKey :=
  if letter == 'h' then some .help
  else if letter == 'V' && level == program then some .version
  else (level.settings.find? fun setting => setting.letter? == some letter).map .setting

/-- Whether one more positional argument is taken after `count` of them. -/
def takesPositional (level : Level) (count : Nat) : Bool :=
  match level with
  | program | generate => false
  | decode | exports => count == 0
  | normalize => true

def acceptsPositional (level : Level) (value : List Char) : Bool :=
  match level with
  | decode | exports => !value.isEmpty
  | program | generate | normalize => true

end Level

end NativeInterop.CommandLine
