import NativeInterop.Shell.Pattern
import NativeInterop.Shell.System

namespace NativeInterop.Shell

/-! Finding the files whose names match a pattern. -/

namespace FileNames

/-- The parts of a pattern between its slashes, escaped ones among them. -/
def components : Pattern → List Pattern
  | [] => [[]]
  | '\\' :: '/' :: rest | '/' :: rest => [] :: components rest
  | '\\' :: c :: rest => addFirst ['\\', c] (components rest)
  | c :: rest => addFirst [c] (components rest)
where
  addFirst (text : Pattern) : List Pattern → List Pattern
    | [] => [text]
    | first :: rest => (text ++ first) :: rest

/-- The directory that a text leads to; an empty one leads to the working directory. -/
def directory? (files : FileSystem) (text : Bytes) : Option Location :=
  match System.locate files (if text.isEmpty then ['.'] else text) with
  | .error _ => none
  | .ok location =>
      if System.entryAt? files location == some .directory then some location else none

/-- The names in a directory that match. Names that begin with a dot match only a dot. -/
def matching (files : FileSystem) (location : Location) (pattern : Pattern) : List Bytes :=
  let first := match pattern with
    | '\\' :: c :: _ => some c
    | c :: _ => some c
    | [] => none
  let names := ['.'] :: ['.', '.'] :: System.namesIn files location
  names.filter fun name =>
    (name.head? != some '.' || first == some '.') && Pattern.isMatch pattern name

/-- The paths that match the components behind a path. -/
def expand (files : FileSystem) : Nat → Bytes → List Pattern → List Bytes
  | 0, _, _ => []
  | fuel + 1, before, components =>
      let plain := components.takeWhile fun component => !Pattern.hasWildcard component
      match components.drop plain.length with
      | [] =>
          let whole := before ++ joinWith ['/'] (plain.map Pattern.unescaped)
          if !before.isEmpty && (System.lookup files whole).isOk then [whole] else []
      | pattern :: rest =>
          let before := before ++ plain.flatMap fun component =>
            Pattern.unescaped component ++ ['/']
          match directory? files before with
          | none => []
          | some location =>
              let found := (matching files location pattern).map (before ++ ·)
              if rest.isEmpty then found
              else found.flatMap fun path => expand files fuel (path ++ ['/']) rest

def precedes (a b : Bytes) : Bool :=
  !decide (b.map Char.toNat < a.map Char.toNat)

/-- The paths that match a pattern, in the order of their bytes. -/
def find (files : FileSystem) (pattern : Pattern) : List Bytes :=
  let components := components pattern
  (expand files (components.length + 1) [] components).mergeSort precedes

end FileNames

end NativeInterop.Shell
