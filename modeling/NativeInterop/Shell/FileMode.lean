import NativeInterop.Shell.Bytes
import NativeInterop.Text.Basic

namespace NativeInterop.Shell.FileMode

/-! Permissions of files, as numbers of nine bits. -/

def allBits : Nat := 511

/-- The bits of the users that a letter stands for. -/
def usersOf? : Char → Option Nat
  | 'u' => some 448
  | 'g' => some 56
  | 'o' => some 7
  | 'a' => some allBits
  | _ => none

/-- The bits of a permission for all users. -/
def permissionOf? : Char → Option Nat
  | 'r' => some 292
  | 'w' => some 146
  | 'x' | 'X' => some 73
  | 's' | 't' => some 0
  | _ => none

def join (bits : List Nat) : Nat :=
  bits.foldl (· ||| ·) 0

def without (bits others : Nat) : Nat :=
  bits &&& (allBits ^^^ others)

/-- What a clause makes of the permissions that there are, behind the letters of its users. -/
def change (users : Nat) : Nat → Bytes → Nat → Option Nat
  | _, [], before => some before
  | 0, _, _ => none
  | fuel + 1, sign :: rest, before => do
      let letters := rest.takeWhile fun c => (permissionOf? c).isSome
      let bits := join (letters.filterMap permissionOf?) &&& users
      let after ← match sign with
        | '+' => some (before ||| bits)
        | '-' => some (without before bits)
        | '=' => some (without before users ||| bits)
        | _ => none
      change users fuel (rest.drop letters.length) after

def clause (before : Nat) (text : Bytes) : Option Nat :=
  let letters := text.takeWhile fun c => (usersOf? c).isSome
  let users := if letters.isEmpty then allBits else join (letters.filterMap usersOf?)
  match text.drop letters.length with
  | [] => none
  | rest => change users rest.length rest before

/-- What clauses between commas make of the permissions that there are. -/
def ofClauses? (text : Bytes) (before : Nat) : Option Nat :=
  (Text.segments (· == ',') text).foldlM clause before

/-- The letters of permissions, by users. -/
def letters (bits : Nat) : Bytes :=
  let of (user : Char) : Bytes :=
    let users := (usersOf? user).getD 0
    let granted := "rwx".toList.filter fun c => bits &&& users &&& (permissionOf? c).getD 0 != 0
    user :: '=' :: granted
  joinWith [','] ("ugo".toList.map of)

def octal (bits : Nat) : Bytes :=
  let digits := Nat.toDigits 8 bits
  List.replicate (4 - digits.length) '0' ++ digits

end NativeInterop.Shell.FileMode
