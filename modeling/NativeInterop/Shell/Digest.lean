import NativeInterop.Shell.Bytes

namespace NativeInterop.Shell.Digest

/-! Check values and digests of data, and digits that stand for data. -/

/-! ### Numbers as bytes -/

def littleEndian : (size value : Nat) → List UInt8
  | 0, _ => []
  | size + 1, value => UInt8.ofNat (value % 256) :: littleEndian size (value / 256)

def bigEndian (size value : Nat) : List UInt8 :=
  (littleEndian size value).reverse

def ofLittleEndian (bytes : List UInt8) : Nat :=
  bytes.foldr (fun byte value => byte.toNat + 256 * value) 0

def ofBigEndian (bytes : List UInt8) : Nat :=
  bytes.foldl (fun value byte => 256 * value + byte.toNat) 0

/-- Splits a list into parts of a size, the last of which may be shorter. -/
def partsOf {α : Type} (size : Nat) : (fuel : Nat) → List α → List (List α)
  | 0, _ | _, [] => []
  | fuel + 1, items => items.take size :: partsOf size fuel (items.drop size)

def parts {α : Type} (size : Nat) (items : List α) : List (List α) :=
  partsOf size items.length items

/-! ### Check values -/

/-- One byte more in the remainder by the polynomial of degree 32. -/
def crcStep (crc : UInt32) (byte : UInt8) : UInt32 :=
  (List.range 8).foldl
    (fun crc _ => if 0x80000000 ≤ crc then (crc <<< 1) ^^^ 0x04c11db7 else crc <<< 1)
    (crc ^^^ (byte.toUInt32 <<< 24))

/-- The remainder of data and of the count of its bytes. -/
def crc (data : List UInt8) : Nat :=
  let count := data.length
  let size := (Nat.toDigits 256 count).length
  let crc := (data ++ if count == 0 then [] else littleEndian size count).foldl crcStep 0
  (crc ^^^ 0xffffffff).toNat

/-- A sum of 16 bits that is turned by one bit before each byte. -/
def turnedSum (data : List UInt8) : Nat :=
  data.foldl (fun sum byte => (sum / 2 + sum % 2 * 32768 + byte.toNat) % 65536) 0

/-- A sum whose carries out of 16 bits are added again. -/
def carriedSum (data : List UInt8) : Nat :=
  let sum := data.foldl (fun sum byte => sum + byte.toNat) 0 % 4294967296
  let folded := sum % 65536 + sum / 65536
  folded % 65536 + folded / 65536

/-! ### Words of a width -/

/-- How the words of a digest are calculated with. -/
structure Width where
  bits : Nat

namespace Width

def limit (width : Width) : Nat :=
  Nat.pow 2 width.bits

def add (width : Width) (a b : Nat) : Nat :=
  (a + b) % width.limit

def sum (width : Width) (words : List Nat) : Nat :=
  words.foldl width.add 0

def not (width : Width) (a : Nat) : Nat :=
  width.limit - 1 - a

def left (width : Width) (a count : Nat) : Nat :=
  (a <<< count) % width.limit ||| a >>> (width.bits - count)

def right (width : Width) (a count : Nat) : Nat :=
  width.left a (width.bits - count)

def choose (width : Width) (condition a b : Nat) : Nat :=
  (condition &&& a) ^^^ (width.not condition &&& b)

end Width

def wordAt (words : Array Nat) (index : Nat) : Nat :=
  (words[index]?).getD 0

def majority (a b c : Nat) : Nat :=
  (a &&& b) ^^^ (a &&& c) ^^^ (b &&& c)

/-- Data with a mark, zeros and its length in bits, up to whole blocks. -/
def padded (block : Nat) (length : List UInt8) (data : List UInt8) : List UInt8 :=
  let used := data.length + 1 + length.length
  data ++ 0x80 :: List.replicate ((block - used % block) % block) 0 ++ length

def hexadecimal (bytes : List UInt8) : Bytes :=
  bytes.flatMap fun byte =>
    [Nat.digitChar (byte.toNat / 16), Nat.digitChar (byte.toNat % 16)]

/-! ### The fifth message digest -/

namespace Message

def width : Width := ⟨32⟩

/-- The sines of the first whole numbers, without sign, as fractions of 32 bits. -/
def sines : Array Nat :=
  #[
    0xd76aa478, 0xe8c7b756, 0x242070db, 0xc1bdceee, 0xf57c0faf, 0x4787c62a,
    0xa8304613, 0xfd469501, 0x698098d8, 0x8b44f7af, 0xffff5bb1, 0x895cd7be,
    0x6b901122, 0xfd987193, 0xa679438e, 0x49b40821, 0xf61e2562, 0xc040b340,
    0x265e5a51, 0xe9b6c7aa, 0xd62f105d, 0x02441453, 0xd8a1e681, 0xe7d3fbc8,
    0x21e1cde6, 0xc33707d6, 0xf4d50d87, 0x455a14ed, 0xa9e3e905, 0xfcefa3f8,
    0x676f02d9, 0x8d2a4c8a, 0xfffa3942, 0x8771f681, 0x6d9d6122, 0xfde5380c,
    0xa4beea44, 0x4bdecfa9, 0xf6bb4b60, 0xbebfbc70, 0x289b7ec6, 0xeaa127fa,
    0xd4ef3085, 0x04881d05, 0xd9d4d039, 0xe6db99e5, 0x1fa27cf8, 0xc4ac5665,
    0xf4292244, 0x432aff97, 0xab9423a7, 0xfc93a039, 0x655b59c3, 0x8f0ccc92,
    0xffeff47d, 0x85845dd1, 0x6fa87e4f, 0xfe2ce6e0, 0xa3014314, 0x4e0811a1,
    0xf7537e82, 0xbd3af235, 0x2ad7d2bb, 0xeb86d391]

/-- How far the sum is turned in each round of four. -/
def turns : Array Nat :=
  #[7, 12, 17, 22, 5, 9, 14, 20, 4, 11, 16, 23, 6, 10, 15, 21]

structure State where
  a : Nat := 0x67452301
  b : Nat := 0xefcdab89
  c : Nat := 0x98badcfe
  d : Nat := 0x10325476

def round (words : Array Nat) (state : State) (index : Nat) : State :=
  let ⟨a, b, c, d⟩ := state
  let (mixed, place) := match index / 16 with
    | 0 => (width.choose b c d, index)
    | 1 => (width.choose d b c, 5 * index + 1)
    | 2 => (b ^^^ c ^^^ d, 3 * index + 5)
    | _ => (c ^^^ (b ||| width.not d), 7 * index)
  let total := width.sum [a, mixed, wordAt sines index, wordAt words (place % 16)]
  ⟨d, width.add b (width.left total (wordAt turns (index / 16 * 4 + index % 4))), b, c⟩

def block (state : State) (bytes : List UInt8) : State :=
  let words := ((parts 4 bytes).map ofLittleEndian).toArray
  let last := (List.range 64).foldl (round words) state
  ⟨width.add state.a last.a, width.add state.b last.b, width.add state.c last.c,
    width.add state.d last.d⟩

def digest (data : List UInt8) : List UInt8 :=
  let length := littleEndian 8 (8 * data.length)
  let last := (parts 64 (padded 64 length data)).foldl block {}
  [last.a, last.b, last.c, last.d].flatMap (littleEndian 4)

end Message

/-! ### Secure hashes -/

namespace Secure

def width : Width := ⟨32⟩

structure State where
  a : Nat := 0x67452301
  b : Nat := 0xefcdab89
  c : Nat := 0x98badcfe
  d : Nat := 0x10325476
  e : Nat := 0xc3d2e1f0

/-- The words of a block and those that are mixed out of them. -/
def schedule (bytes : List UInt8) : Array Nat :=
  (List.range 64).foldl
    (fun words index =>
      let before (distance : Nat) : Nat := wordAt words (index + 16 - distance)
      words.push (width.left (before 3 ^^^ before 8 ^^^ before 14 ^^^ before 16) 1))
    ((parts 4 bytes).map ofBigEndian).toArray

def round (words : Array Nat) (state : State) (index : Nat) : State :=
  let ⟨a, b, c, d, e⟩ := state
  let (mixed, constant) := match index / 20 with
    | 0 => (width.choose b c d, 0x5a827999)
    | 1 => (b ^^^ c ^^^ d, 0x6ed9eba1)
    | 2 => (majority b c d, 0x8f1bbcdc)
    | _ => (b ^^^ c ^^^ d, 0xca62c1d6)
  ⟨width.sum [width.left a 5, mixed, e, constant, wordAt words index], a, width.left b 30, c, d⟩

def block (state : State) (bytes : List UInt8) : State :=
  let last := (List.range 80).foldl (round (schedule bytes)) state
  ⟨width.add state.a last.a, width.add state.b last.b, width.add state.c last.c,
    width.add state.d last.d, width.add state.e last.e⟩

def digest (data : List UInt8) : List UInt8 :=
  let length := bigEndian 8 (8 * data.length)
  let last := (parts 64 (padded 64 length data)).foldl block {}
  [last.a, last.b, last.c, last.d, last.e].flatMap (bigEndian 4)

end Secure

/-- The greatest number whose power is not above a value, found bit by bit from the highest. -/
def root (power value bits : Nat) : Nat :=
  (List.range bits).reverse.foldl
    (fun found bit =>
      let next := found + Nat.pow 2 bit
      if Nat.pow next power ≤ value then next else found)
    0

/-- The first bits behind the point in the root of a number. -/
def rootFraction (power bits number : Nat) : Nat :=
  root power (number * Nat.pow 2 (power * bits)) (bits + 5) % Nat.pow 2 bits

def isPrime (number : Nat) : Bool :=
  2 ≤ number && (List.range number).all fun divisor => divisor < 2 || number % divisor != 0

/-- The first 80 primes. -/
def primes : List Nat :=
  (List.range 410).filter isPrime

/-- A digest of the second family of secure hashes. -/
structure Family where
  width : Width
  rounds : Nat
  /-- How far words are turned or shifted where they are mixed. -/
  mixing : List (Nat × Nat × Nat)
  start : List Nat
  /-- How many bytes of the last state are given. -/
  size : Nat

namespace Family

def ofWidth (bits rounds : Nat) (mixing : List (Nat × Nat × Nat)) (start : List Nat) (size : Nat) :
    Family :=
  ⟨⟨bits⟩, rounds, mixing, start, size⟩

def short (start : List Nat) (size : Nat) : Family :=
  ofWidth 32 64 [(2, 13, 22), (6, 11, 25), (7, 18, 3), (17, 19, 10)] start size

def long (start : List Nat) (size : Nat) : Family :=
  ofWidth 64 80 [(28, 34, 39), (14, 18, 41), (1, 8, 7), (19, 61, 6)] start size

def bits224 : Family :=
  short (((primes.drop 8).take 8).map fun prime => rootFraction 2 64 prime % 4294967296) 28

def bits256 : Family :=
  short ((primes.take 8).map (rootFraction 2 32)) 32

def bits384 : Family :=
  long (((primes.drop 8).take 8).map (rootFraction 2 64)) 48

def bits512 : Family :=
  long ((primes.take 8).map (rootFraction 2 64)) 64

/-- Mixes a word out of itself; the last of three amounts turns it or shifts it. -/
def mixed (family : Family) (which : Nat) (shifts : Bool) (a : Nat) : Nat :=
  let (first, second, third) := (family.mixing[which]?).getD (0, 0, 0)
  family.width.right a first ^^^ family.width.right a second ^^^
    (if shifts then a >>> third else family.width.right a third)

def schedule (family : Family) (bytes : List UInt8) : Array Nat :=
  (List.range (family.rounds - 16)).foldl
    (fun words index =>
      let before (distance : Nat) : Nat := wordAt words (index + 16 - distance)
      words.push (family.width.sum
        [family.mixed 3 true (before 2), before 7, family.mixed 2 true (before 15), before 16]))
    ((parts (family.width.bits / 8) bytes).map ofBigEndian).toArray

def round (family : Family) (state : List Nat) (wordAndConstant : Nat × Nat) : List Nat :=
  match state with
  | [a, b, c, d, e, f, g, h] =>
      let width := family.width
      let first := width.sum [h, family.mixed 1 false e, width.choose e f g,
        wordAndConstant.1, wordAndConstant.2]
      let second := width.add (family.mixed 0 false a) (majority a b c)
      [width.add first second, a, b, c, width.add d first, e, f, g]
  | state => state

def block (family : Family) (constants : List Nat) (state : List Nat) (bytes : List UInt8) :
    List Nat :=
  let last := ((family.schedule bytes).toList.zip constants).foldl family.round state
  List.zipWith family.width.add state last

def digest (family : Family) (data : List UInt8) : List UInt8 :=
  let size := family.width.bits / 8
  let constants := (primes.take family.rounds).map (rootFraction 3 family.width.bits)
  let length := bigEndian (2 * size) (8 * data.length)
  let last := (parts (16 * size) (padded (16 * size) length data)).foldl
    (family.block constants) family.start
  (last.flatMap (bigEndian size)).take family.size

end Family

/-! ### Digits for data -/

/-- Digits that stand for a number of bits each. -/
structure Alphabet where
  digits : List Char
  bits : Nat
  /-- How many bytes make up a group of whole digits. -/
  group : Nat

namespace Alphabet

def base64 : Alphabet :=
  ⟨"ABCDEFGHIJKLMNOPQRSTUVWXYZabcdefghijklmnopqrstuvwxyz0123456789+/".toList, 6, 3⟩

def base32 : Alphabet :=
  ⟨"ABCDEFGHIJKLMNOPQRSTUVWXYZ234567".toList, 5, 5⟩

/-- How many digits a group has. -/
def groupDigits (alphabet : Alphabet) : Nat :=
  alphabet.group * 8 / alphabet.bits

def encodeGroup (alphabet : Alphabet) (bytes : List UInt8) : Bytes :=
  let value := ofBigEndian (bytes ++ List.replicate (alphabet.group - bytes.length) 0)
  let used := (bytes.length * 8 + alphabet.bits - 1) / alphabet.bits
  (List.range alphabet.groupDigits).map fun place =>
    if place < used then
      let shift := (alphabet.groupDigits - 1 - place) * alphabet.bits
      (alphabet.digits[(value >>> shift) % Nat.pow 2 alphabet.bits]?).getD '='
    else '='

def encode (alphabet : Alphabet) (data : List UInt8) : Bytes :=
  (parts alphabet.group data).flatMap alphabet.encodeGroup

/-- The bytes of a group, and whether it is a proper one. -/
def decodeGroup (alphabet : Alphabet) (text : Bytes) : List UInt8 × Bool :=
  let digits := text.takeWhile alphabet.digits.contains
  let value := digits.foldl
    (fun value c => value * Nat.pow 2 alphabet.bits + alphabet.digits.idxOf c) 0
  let missing := alphabet.groupDigits - digits.length
  let bytes := bigEndian alphabet.group (value * Nat.pow 2 (missing * alphabet.bits))
  let count := digits.length * alphabet.bits / 8
  let isProper := text.length == alphabet.groupDigits &&
    (text.drop digits.length).all (· == '=') &&
    (count * 8 + alphabet.bits - 1) / alphabet.bits == digits.length && 0 < count
  (bytes.take count, isProper)

/-- The data that digits stand for, up to the first group that is not proper. -/
def decodeGroups (alphabet : Alphabet) : List Bytes → List UInt8 × Bool
  | [] => ([], true)
  | text :: rest =>
      let (bytes, isProper) := alphabet.decodeGroup text
      if isProper then
        let (more, isWhole) := alphabet.decodeGroups rest
        (bytes ++ more, isWhole)
      else (bytes, false)

def decode (alphabet : Alphabet) (text : Bytes) : List UInt8 × Bool :=
  alphabet.decodeGroups (parts alphabet.groupDigits text)

end Alphabet

end NativeInterop.Shell.Digest
