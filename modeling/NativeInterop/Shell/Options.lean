import NativeInterop.Shell.Variables

namespace NativeInterop.Shell

/-! Options: those that the builtin commands take, and those of the shell itself. -/

open Shell.Action

/-- The options of a builtin command, each with its value if it takes one, and the other arguments.
A colon in `allowed` stands behind an option that takes a value. -/
def options (allowed : List Char) : Nat → List Bytes → Action (List (Char × Bytes) × List Bytes)
  | 0, arguments => return ([], arguments)
  | fuel + 1, arguments =>
      match arguments with
      | ['-', '-'] :: rest => return ([], rest)
      | ('-' :: letter :: letters) :: rest => do
          if !allowed.contains letter || letter == ':' then
            fail ("Illegal option -".toList ++ [letter])
          let takesValue := ((allowed.dropWhile (· != letter))[1]?) == some ':'
          if takesValue then
            let (value, rest) ← match letters, rest with
              | [], value :: rest => pure (value, rest)
              | [], [] => fail ("No arg for -".toList ++ [letter] ++ " option".toList)
              | letters, rest => pure (letters, rest)
            let (more, rest) ← options allowed fuel rest
            return ((letter, value) :: more, rest)
          else
            let rest := if letters.isEmpty then rest else ('-' :: letters) :: rest
            let (more, rest) ← options allowed fuel rest
            return ((letter, []) :: more, rest)
      | arguments => return ([], arguments)

def optionsOf (allowed : String) (arguments : List Bytes) :
    Action (List (Char × Bytes) × List Bytes) :=
  options allowed.toList ((arguments.map List.length).foldl (· + ·) 0 + 1) arguments

namespace ShellOption

/-- The options of the shell, each with the letter it is known by; those without one of their own
have a digit. -/
def table : List (String × Char) :=
  [("errexit", 'e'), ("noglob", 'f'), ("ignoreeof", 'I'), ("interactive", 'i'), ("monitor", 'm'),
    ("noexec", 'n'), ("stdin", 's'), ("xtrace", 'x'), ("verbose", 'v'), ("vi", 'V'),
    ("emacs", 'E'), ("noclobber", 'C'), ("allexport", 'a'), ("notify", 'b'), ("nounset", 'u'),
    ("privileged", 'p'), ("nolog", '1'), ("debug", '2')]

def set (letter : Char) (on : Bool) : Action Unit := do
  if letter.isDigit || !table.any (·.2 == letter) then
    fail ("Illegal option -".toList ++ [letter])
  modifyProcess fun process =>
    let others := process.options.filter (· != letter)
    { process with options := if on then letter :: others else others }

def setNamed (name : Bytes) (on : Bool) : Action Unit := do
  match table.lookup (String.ofList name) with
  | some letter =>
      modifyProcess fun process =>
        let others := process.options.filter (· != letter)
        { process with options := if on then letter :: others else others }
  | none => fail ("Illegal option -o ".toList ++ name)

/-- Tells which options are on, as a table or as commands that set them. -/
def tell (asCommands : Bool) : Action Unit := do
  unless asCommands do emit "Current option settings\n".toList
  table.forM fun (name, letter) => do
    let on ← hasOption letter
    if asCommands then
      emit ((if on then "set -o " else "set +o ") ++ name ++ "\n").toList
    else
      let blanks := List.replicate (16 - name.length) ' '
      emit (name.toList ++ blanks ++ (if on then "on\n" else "off\n").toList)

/-- What the words before the arguments of a shell or of `set` say. -/
structure Reading where
  /-- The command to run, with `-c`. -/
  wantsCommand : Bool := false
  /-- Whether the arguments are replaced even by none. -/
  ends : Bool := false
  rest : List Bytes

/-- Sets the options at the beginning. `isStart` allows what only the start of a shell takes. -/
def read (isStart : Bool) : Nat → Reading → Action Reading
  | 0, reading => return reading
  | fuel + 1, reading =>
      match reading.rest with
      | (sign :: letters) :: rest => do
          if sign != '-' && sign != '+' then return reading
          if sign == '-' && (letters.isEmpty || letters == ['-']) then
            if !isStart && letters.isEmpty then
              set 'x' false
              set 'v' false
            return { reading with ends := !letters.isEmpty, rest }
          let mut wantsCommand := reading.wantsCommand
          let mut rest := rest
          for letter in letters do
            if letter == 'c' && isStart then wantsCommand := true
            else if letter == 'l' && isStart then pure ()
            else if letter == 'o' then
              match rest with
              | name :: others =>
                  setNamed name (sign == '-')
                  rest := others
              | [] => tell (sign == '+')
            else set letter (sign == '-')
          read isStart fuel { reading with wantsCommand, rest }
      | _ => return reading

end ShellOption

end NativeInterop.Shell
