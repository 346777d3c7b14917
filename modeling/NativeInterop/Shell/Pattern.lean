import NativeInterop.Shell.Bytes

namespace NativeInterop.Shell

/-! Patterns of file names and texts. A backslash takes away the meaning of what follows it. -/

abbrev Pattern := Bytes

namespace Pattern

/-- The classes of characters that a bracket may name. -/
def classes : List (String × (Char → Bool)) :=
  [("alnum", Char.isAlphanum), ("alpha", Char.isAlpha), ("blank", isBlank),
    ("cntrl", fun c => c.toNat < 32 || c.toNat == 127), ("digit", Char.isDigit),
    ("graph", fun c => 32 < c.toNat && c.toNat < 127), ("lower", Char.isLower),
    ("print", fun c => 32 ≤ c.toNat && c.toNat < 127),
    ("punct", fun c => 32 < c.toNat && c.toNat < 127 && !c.isAlphanum), ("space", isSpace),
    ("upper", Char.isUpper),
    ("xdigit", fun c => c.isDigit || ('a' ≤ c && c ≤ 'f') || ('A' ≤ c && c ≤ 'F'))]

def inClass (name : Bytes) (c : Char) : Bool :=
  (classes.find? fun entry => entry.1.toList == name).elim false fun entry => entry.2 c

/-- The name of a class, behind the bracket and up to the end of both brackets. -/
def className? (text : Pattern) : Option (Bytes × Pattern) :=
  classes.findSome? fun entry =>
    (":" ++ entry.1 ++ ":]").toList.isPrefixOf? text |>.map (entry.1.toList, ·)

/-- The place of a byte in the order that ranges go by: bytes above 127 come first. -/
def order (c : Char) : Int :=
  if c.toNat < 128 then c.toNat else (c.toNat : Int) - 256

/-- Looks a character up among the members of a bracket, of which one is read; gives what follows
the bracket. Nothing is given for a bracket without an end. -/
def members (subject : Char) : Nat → Bool → Pattern → Option (Bool × Pattern)
  | 0, _, _ => none
  | _, _, [] => none
  | fuel + 1, found, c :: rest =>
      let go (found : Bool) : Pattern → Option (Bool × Pattern)
        | ']' :: rest => some (found, rest)
        | rest => members subject fuel found rest
      match if c == '[' then className? rest else none with
      | some (name, rest) => go (found || inClass name subject) rest
      | none =>
          let (low, rest) := match c, rest with
            | '\\', d :: rest => (d, rest)
            | c, rest => (c, rest)
          match rest with
          | '-' :: high :: rest =>
              if high == ']' then go (found || subject == low) ('-' :: ']' :: rest)
              else
                let (high, rest) := match high, rest with
                  | '\\', d :: rest => (d, rest)
                  | high, rest => (high, rest)
                let within := order low ≤ order subject && order subject ≤ order high
                go (found || within) rest
          | rest => go (found || subject == low) rest

/-- Whether a character belongs to a bracket, whose opening has been read, and what follows it. -/
def bracket? (subject : Char) (pattern : Pattern) : Option (Bool × Pattern) :=
  let (inverted, body) := match pattern with
    | '!' :: rest => (true, rest)
    | pattern => (false, pattern)
  (members subject (body.length + 1) false body).map fun (found, rest) => (found != inverted, rest)

def matchesWithin : Nat → Pattern → Bytes → Bool
  | 0, _, _ => false
  | _, [], text => text.isEmpty
  | fuel + 1, '*' :: rest, text =>
      matchesWithin fuel rest text ||
        match text with
        | [] => false
        | _ :: later => matchesWithin fuel ('*' :: rest) later
  | fuel + 1, '?' :: rest, text =>
      match text with
      | [] => false
      | _ :: later => matchesWithin fuel rest later
  | fuel + 1, '[' :: rest, text =>
      match text with
      | [] => false
      | c :: later =>
          match bracket? c rest with
          | some (found, rest) => found && matchesWithin fuel rest later
          | none => c == '[' && matchesWithin fuel rest later
  | fuel + 1, '\\' :: c :: rest, text => text.head? == some c && matchesWithin fuel rest text.tail
  | fuel + 1, c :: rest, text => text.head? == some c && matchesWithin fuel rest text.tail

def isMatch (pattern : Pattern) (text : Bytes) : Bool :=
  matchesWithin (pattern.length + text.length + 1) pattern text

/-- The pattern without the backslashes that take away a meaning. -/
def unescaped : Pattern → Bytes
  | '\\' :: c :: rest => c :: unescaped rest
  | c :: rest => c :: unescaped rest
  | [] => []

/-- Whether a bracket has an end before the next slash. -/
def closesBracket : Pattern → Bool
  | '\\' :: c :: rest => closesAfter c rest
  | c :: rest => closesAfter c rest
  | [] => false
where
  closesAfter (c : Char) : Pattern → Bool
    | ']' :: _ => c != '/'
    | '\\' :: d :: rest => c != '/' && closesAfter d rest
    | d :: rest => c != '/' && closesAfter d rest
    | [] => false

/-- Whether a pattern can match anything but itself. -/
def hasWildcard : Pattern → Bool
  | '\\' :: _ :: rest => hasWildcard rest
  | '[' :: rest =>
      closesBracket (match rest with
        | '!' :: rest => rest
        | rest => rest) || hasWildcard rest
  | c :: rest => c == '*' || c == '?' || hasWildcard rest
  | [] => false

/-- What is left of a text after cutting off a match at its end or beginning. -/
def cut (pattern : Pattern) (atEnd longest : Bool) (text : Bytes) : Bytes :=
  let counts := List.range (text.length + 1)
  if atEnd then
    let found := (if longest then counts else counts.reverse).find? fun count =>
      isMatch pattern (text.drop count)
    text.take (found.getD text.length)
  else
    let found := (if longest then counts.reverse else counts).find? fun count =>
      isMatch pattern (text.take count)
    text.drop (found.getD 0)

end Pattern

end NativeInterop.Shell
