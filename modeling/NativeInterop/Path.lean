import NativeInterop.Text.Basic

namespace NativeInterop

/-! Paths with `/` between their components. A path keeps the text it was written as. -/

open Text

structure Path where
  text : List Char
  deriving DecidableEq

namespace Path

def ofString (text : String) : Path :=
  ⟨text.toList⟩

def display (path : Path) : String :=
  String.ofList path.text

def isAbsolute (path : Path) : Bool :=
  path.text.head? == some '/'

/-- An absolute right side replaces the left; otherwise one slash stands between the two, unless
the left is empty or ends in one. -/
def join (left right : Path) : Path :=
  if right.isAbsolute then right
  else if left.text.isEmpty || left.text.getLast? == some '/' then ⟨left.text ++ right.text⟩
  else ⟨left.text ++ '/' :: right.text⟩

def endsInSlash (path : Path) : Bool :=
  path.text.getLast? == some '/'

def names (path : Path) : List (List Char) :=
  (segments (· == '/') path.text).filter (!·.isEmpty)

/-- Leaves out trailing slashes and components `.`, in the reversed text. -/
def trimEnd : List Char → List Char
  | '/' :: rest => trimEnd rest
  | '.' :: '/' :: rest => trimEnd rest
  | text => text

/-- The last component and, reversed, what stands before it. A component `.` counts only at the
very beginning. -/
def lastComponent (path : Path) : List Char × List Char :=
  let backward := trimEnd path.text.reverse
  ((backward.takeWhile (· != '/')).reverse, backward.dropWhile (· != '/'))

/-- The path without its last component; a root and the empty path have none. -/
def parent? (path : Path) : Option Path :=
  let (last, before) := path.lastComponent
  if last.isEmpty then none
  else
    let kept := (trimEnd before).reverse
    some ⟨if kept.isEmpty && path.isAbsolute then ['/'] else kept⟩

theorem trimEnd_length_le (text : List Char) : (trimEnd text).length ≤ text.length := by
  fun_induction trimEnd text with
  | case1 rest ih => simp only [List.length_cons]; omega
  | case2 rest ih => simp only [List.length_cons]; omega
  | case3 text => exact Nat.le_refl _

theorem length_takeWhile_add_length_dropWhile (keep : Char → Bool) (text : List Char) :
    (text.takeWhile keep).length + (text.dropWhile keep).length = text.length := by
  rw [← List.length_append, List.takeWhile_append_dropWhile]

theorem parent?_length {path parent : Path} (found : path.parent? = some parent) :
    parent.text.length < path.text.length := by
  have whole := trimEnd_length_le path.text.reverse
  have parts := length_takeWhile_add_length_dropWhile (· != '/') (trimEnd path.text.reverse)
  have before := trimEnd_length_le ((trimEnd path.text.reverse).dropWhile (· != '/'))
  rw [List.length_reverse] at whole
  simp only [parent?, lastComponent, List.isEmpty_reverse] at found
  split at found
  · contradiction
  · rename_i named
    have last : 0 < ((trimEnd path.text.reverse).takeWhile (· != '/')).length := by
      cases taken : (trimEnd path.text.reverse).takeWhile (· != '/') with
      | nil => simp [taken] at named
      | cons c rest => simp
    cases found
    split
    · rename_i rooted
      cases text : path.text with
      | nil => simp [text, isAbsolute] at rooted
      | cons c rest =>
          cases rest with
          | nil =>
              have absolute := (Bool.and_eq_true_iff.mp rooted).2
              have slash : c = '/' := by simpa [text, isAbsolute] using absolute
              simp [text, slash, trimEnd] at last
          | cons d rest => simp
    · simp only [List.length_reverse]
      omega

/-- The last component, if it is a name. -/
def fileName? (path : Path) : Option (List Char) :=
  let (last, _) := path.lastComponent
  if last.isEmpty || last == ['.'] || last == ['.', '.'] then none else some last

end Path

end NativeInterop
