import NativeInterop.Shell.Digest
import NativeInterop.Shell.Utility.Names

namespace NativeInterop.Shell.Utility

/-! Utilities that give check values of files, or write them with other digits. -/

open Shell.Action

namespace Checksum

/-! ### Digests -/

/-- A digest, with the name that it is told by. -/
structure Method where
  title : String
  digest : List UInt8 → List UInt8

def Method.of (method : Method) (content : Bytes) : Bytes :=
  Digest.hexadecimal (method.digest (Bytes.toBytes content))

def message5 : Method := ⟨"MD5", Digest.Message.digest⟩
def secure1 : Method := ⟨"SHA1", Digest.Secure.digest⟩
def secure224 : Method := ⟨"SHA224", Digest.Family.bits224.digest⟩
def secure256 : Method := ⟨"SHA256", Digest.Family.bits256.digest⟩
def secure384 : Method := ⟨"SHA384", Digest.Family.bits384.digest⟩
def secure512 : Method := ⟨"SHA512", Digest.Family.bits512.digest⟩

/-- A name on one line, and whether that takes other characters. -/
def nameOnLine (path : Bytes) : Bytes × Bool :=
  let shown := path.flatMap fun c =>
    match c with
    | '\n' => ['\\', 'n']
    | '\r' => ['\\', 'r']
    | '\\' => ['\\', '\\']
    | c => [c]
  (shown, shown.length != path.length)

/-- A digest and a name, taken from a line of a list. -/
def listed? (size : Nat) (text : Bytes) : Option (Bytes × Bytes) :=
  let text := if text.head? == some '\\' then text.drop 1 else text
  let digits := text.takeWhile fun c => c.isDigit || ('a' ≤ c && c ≤ 'f') || ('A' ≤ c && c ≤ 'F')
  match text.drop digits.length with
  | ' ' :: kind :: path =>
      if digits.length == size && (kind == ' ' || kind == '*') && !path.isEmpty then
        some (digits.map Char.toLower, path)
      else none
  | _ => none

/-- Compares the files of a list with the digests in it. -/
def checkList (method : Method) (name path content : Bytes) : Action Nat := do
  let shown := if path == ['-'] then "'standard input'".toList else Quote.shell path
  let size := 2 * (method.digest []).length
  let lines := ((splitLines content).map chomp).filterMap (listed? size)
  if lines.isEmpty then
    complain name (shown ++ ": no properly formatted checksum lines found".toList)
    return 1
  let verdicts ← lines.mapM fun (digest, file) => do
    let tell (verdict : String) : Action Unit :=
      put (line (file ++ ": ".toList ++ verdict.toList))
    match ← input file with
    | .error error => do
        complainAbout name file error
        tell "FAILED open or read"
        return (true, false)
    | .ok content => do
        let agrees := method.of content == digest
        tell (if agrees then "OK" else "FAILED")
        return (false, !agrees)
  let warn (count : Nat) (one several : String) : Action Unit := do
    if 0 < count then
      complain name ("WARNING: ".toList ++ Bytes.ofNat count ++
        (if count == 1 then one else several).toList)
  let unread := verdicts.countP (·.1)
  let different := verdicts.countP (·.2)
  warn unread " listed file could not be read" " listed files could not be read"
  warn different " computed checksum did NOT match" " computed checksums did NOT match"
  return if unread + different == 0 then 0 else 1

def digestFiles (method : Method) : Utility := fun _ name arguments => do
  let table : OptionTable :=
    { letters := "bctwz"
      names := [("binary", .nothing, 'b'), ("check", .nothing, 'c'), ("tag", .nothing, 'T'),
        ("text", .nothing, 't'), ("zero", .nothing, 'z'), ("warn", .nothing, 'w')] }
  let given ← table.read name arguments
  if given.has 'c' then
    let paths := if given.operands.isEmpty then [['-']] else given.operands
    let statuses ← paths.mapM fun path => do
      match ← input path with
      | .error error => do
          complainAbout name path error
          return 1
      | .ok content => checkList method name path content
    return statuses.foldl max 0
  overInputs given.operands (complainAbout name) fun path content =>
    let (shown, isEscaped) := if given.has 'z' then (path, false) else nameOnLine path
    let digest := method.of content
    let text :=
      if given.has 'T' then method.title.toList ++ " (".toList ++ shown ++ ") = ".toList ++ digest
      else digest ++ ' ' :: (if given.has 'b' then '*' else ' ') :: shown
    let text := if isEscaped then '\\' :: text else text
    put (if given.has 'z' then text ++ ['\x00'] else line text)

/-! ### Sums -/

def cksum : Utility := fun _ name arguments => do
  let given ← OptionTable.read { letters := "" } name arguments
  overInputs given.operands (complainAbout name) fun path content =>
    let shown := if given.operands.isEmpty then [] else ' ' :: path
    put (line (Bytes.ofNat (Digest.crc (Bytes.toBytes content)) ++ ' ' ::
      Bytes.ofNat content.length ++ shown))

def padLeft (filling : Char) (width : Nat) (text : Bytes) : Bytes :=
  List.replicate (width - text.length) filling ++ text

def sum : Utility := fun _ name arguments => do
  let given ← OptionTable.read
    { letters := "rs", names := [("sysv", .nothing, 's')] } name arguments
  let ofCarries := (given.options.getLast?).any (·.1 == 's')
  overInputs given.operands (complainAbout name) fun path content =>
    let data := Bytes.toBytes content
    let shown := if given.operands.isEmpty then [] else ' ' :: path
    put (line
      (if ofCarries then
        Bytes.ofNat (Digest.carriedSum data) ++ ' ' :: Bytes.ofNat ((data.length + 511) / 512) ++
          shown
      else
        padLeft '0' 5 (Bytes.ofNat (Digest.turnedSum data)) ++ ' ' ::
          padLeft ' ' 5 (Bytes.ofNat ((data.length + 1023) / 1024)) ++ shown))

/-! ### Other digits -/

def encoded (alphabet : Digest.Alphabet) (width : Nat) (content : Bytes) : Bytes :=
  let text := alphabet.encode (Bytes.toBytes content)
  if width == 0 then text else (Digest.parts width text).flatMap line

def digits (alphabet : Digest.Alphabet) : Utility := fun _ name arguments => do
  let table : OptionTable :=
    { letters := "diw:"
      names := [("decode", .nothing, 'd'), ("ignore-garbage", .nothing, 'i'),
        ("wrap", .value, 'w')] }
  let given ← table.read name arguments
  let width ← match given.value? 'w' with
    | none => pure 76
    | some text =>
        if !text.isEmpty && text.all Char.isDigit then pure (valueInBase 10 text)
        else failWith 1 name ("invalid wrap size: ".toList ++ Quote.plain text)
  if let some extra := given.operands[1]? then extraOperand name extra
  let path := given.operands.headD ['-']
  match ← input path with
  | .error (.opening error) => do
      complainAbout name path (.opening error)
      return 1
  | .error (.reading error) => failWith 1 name ("read error: ".toList ++ errorText error)
  | .ok content => do
      if given.has 'd' then
        let text := if given.has 'i'
          then content.filter fun c => c == '=' || alphabet.digits.contains c
          else content.filter (· != '\n')
        let (data, isWhole) := alphabet.decode text
        put (Bytes.ofBytes data)
        unless isWhole do failWith 1 name "invalid input".toList
      else put (encoded alphabet width content)
      return 0

end Checksum

end NativeInterop.Shell.Utility
