import JobLauncher.Shell.Bytes

/-!
# Digests

Short numbers that tell texts apart. All but the two plain sums go through a text in blocks: the text
is filled up to whole blocks, its length last, and each block stirs a few words that are the digest in
the end. Words have 32 or 64 bits; additions wrap.
-/

namespace JobLauncher.Shell.Digest

/-! ## Plain sums -/

/-- A sum of 16 bits that is turned by one bit before each byte. -/
def turning (text : Bytes) : Nat :=
  text.foldl (fun s c => ((s / 2 + s % 2 * 32768) + c.toNat) % 65536) 0

/-- A sum of all bytes, folded to 16 bits. -/
def folding (text : Bytes) : Nat :=
  let s := text.foldl (fun s c => (s + c.toNat) % UInt32.size) 0
  let r := s % 65536 + s / 65536
  r % 65536 + r / 65536

/-- The remainder that a byte at the top leaves when it is divided by the polynomial. -/
def remainderOf (byte : UInt32) : UInt32 :=
  (List.range 8).foldl (fun r _ => if r &&& 0x80000000 ≠ 0 then (r <<< 1) ^^^ 0x04C11DB7 else r <<< 1)
    (byte <<< 24)

/-- The bytes of a number, the least first, without zeros at the end. -/
def fewestBytes : Nat → Nat → List Nat
  | 0, _ => []
  | fuel + 1, n => if n = 0 then [] else n % 256 :: fewestBytes fuel (n / 256)

/-- The remainder of a text with its length behind it, least byte first. -/
def cyclic (text : Bytes) : UInt32 :=
  let table := ((List.range 256).map fun n => remainderOf n.toUInt32).toArray
  let step (r : UInt32) (b : Nat) : UInt32 :=
    (r <<< 8) ^^^ table.getD ((r >>> 24) ^^^ b.toUInt32).toNat 0
  ~~~ (fewestBytes 8 text.length).foldl step (text.foldl (fun r c => step r c.toNat) 0)

/-! ## Blocks -/

/-- The bytes of a number, the greatest first. -/
def bigEndian (count n : Nat) : List Nat :=
  (List.range count).reverse.map fun i => n / Nat.pow 256 i % 256

/-- The number that bytes write, the greatest first. -/
def valueOf (bs : List Nat) : Nat := bs.foldl (fun n b => 256 * n + b) 0

/-- Pieces of a length. -/
def pieces (length : Nat) (fuel : Nat) (xs : List Nat) : List (List Nat) :=
  match fuel, xs with
  | 0, _ | _, [] => []
  | fuel + 1, xs => xs.take length :: pieces length fuel (xs.drop length)

/-- The blocks of a text of so many bytes each: a one bit, zeros and the number of bits are added, the
number in an eighth of a block. -/
def blocks (size : Nat) (greatestFirst : Bool) (text : Bytes) : List (List Nat) :=
  let field := size / 8
  let length := text.length
  let zeros := (2 * size - (length + 1 + field) % size) % size
  let count := bigEndian field (8 * length)
  let filled := text.map Char.toNat ++ 128 :: List.replicate zeros 0
    ++ if greatestFirst then count else count.reverse
  pieces size (filled.length / size + 1) filled

/-! ## Constants -/

/-- The greatest number whose power is not above a number. -/
def root (power : Nat) (bits : Nat) (n : Nat) : Nat :=
  (List.range (bits + 4)).reverse.foldl (fun r i =>
    let next := r + Nat.pow 2 i
    if Nat.pow next power ≤ n then next else r) 0

/-- The first primes. -/
def primes (count : Nat) : List Nat :=
  ((List.range 410).filter fun n =>
    2 ≤ n && (List.range n).all fun d => d < 2 || n % d ≠ 0).take count

/-- The first bits behind the point of roots of primes. -/
def rootBits (power bits : Nat) (ps : List Nat) : List Nat :=
  ps.map fun p => root power bits (p * Nat.pow 2 (power * bits)) % Nat.pow 2 bits

/-! ## The digest of four words -/

/-- The words that are added in each step: the first bits of sines. -/
def sines : Array UInt32 := #[
  0xd76aa478, 0xe8c7b756, 0x242070db, 0xc1bdceee, 0xf57c0faf, 0x4787c62a, 0xa8304613, 0xfd469501,
  0x698098d8, 0x8b44f7af, 0xffff5bb1, 0x895cd7be, 0x6b901122, 0xfd987193, 0xa679438e, 0x49b40821,
  0xf61e2562, 0xc040b340, 0x265e5a51, 0xe9b6c7aa, 0xd62f105d, 0x02441453, 0xd8a1e681, 0xe7d3fbc8,
  0x21e1cde6, 0xc33707d6, 0xf4d50d87, 0x455a14ed, 0xa9e3e905, 0xfcefa3f8, 0x676f02d9, 0x8d2a4c8a,
  0xfffa3942, 0x8771f681, 0x6d9d6122, 0xfde5380c, 0xa4beea44, 0x4bdecfa9, 0xf6bb4b60, 0xbebfbc70,
  0x289b7ec6, 0xeaa127fa, 0xd4ef3085, 0x04881d05, 0xd9d4d039, 0xe6db99e5, 0x1fa27cf8, 0xc4ac5665,
  0xf4292244, 0x432aff97, 0xab9423a7, 0xfc93a039, 0x655b59c3, 0x8f0ccc92, 0xffeff47d, 0x85845dd1,
  0x6fa87e4f, 0xfe2ce6e0, 0xa3014314, 0x4e0811a1, 0xf7537e82, 0xbd3af235, 0x2ad7d2bb, 0xeb86d391]

/-- How far a word of 32 bits is turned to the left. -/
def turn (x : UInt32) (n : UInt32) : UInt32 := (x <<< n) ||| (x >>> (32 - n))

def fourWords (text : Bytes) : List Nat :=
  let start : UInt32 × UInt32 × UInt32 × UInt32 := (0x67452301, 0xefcdab89, 0x98badcfe, 0x10325476)
  let (a, b, c, d) := (blocks 64 false text).foldl block start
  [a, b, c, d].flatMap fun w => (bigEndian 4 w.toNat).reverse
where
  turns (i : Nat) : UInt32 :=
    ([[7, 12, 17, 22], [5, 9, 14, 20], [4, 11, 16, 23], [6, 10, 15, 21]].getD (i / 16) []).getD
      (i % 4) 0
  block (start : UInt32 × UInt32 × UInt32 × UInt32) (bs : List Nat) :
      UInt32 × UInt32 × UInt32 × UInt32 :=
    let words := ((pieces 4 16 bs).map fun w => (valueOf w.reverse).toUInt32).toArray
    let (a, b, c, d) := (List.range 64).foldl (fun (a, b, c, d) i =>
      let (mixed, k) := match i / 16 with
        | 0 => ((b &&& c) ||| (~~~b &&& d), i)
        | 1 => ((d &&& b) ||| (~~~d &&& c), (5 * i + 1) % 16)
        | 2 => (b ^^^ c ^^^ d, (3 * i + 5) % 16)
        | _ => (c ^^^ (b ||| ~~~d), 7 * i % 16)
      let sum := a + mixed + sines.getD i 0 + words.getD k 0
      (d, b + turn sum (turns i), b, c)) start
    (start.1 + a, start.2.1 + b, start.2.2.1 + c, start.2.2.2 + d)

/-! ## The digest of five words -/

def fiveWords (text : Bytes) : List Nat :=
  let start : List UInt32 := [0x67452301, 0xefcdab89, 0x98badcfe, 0x10325476, 0xc3d2e1f0]
  ((blocks 64 true text).foldl block start).flatMap fun w => bigEndian 4 w.toNat
where
  block (start : List UInt32) (bs : List Nat) : List UInt32 :=
    let first := ((pieces 4 16 bs).map fun w => (valueOf w).toUInt32).toArray
    let words := (List.range 64).foldl (fun ws k =>
      let past (back : Nat) : UInt32 := ws.getD (k + 16 - back) 0
      ws.push (turn (past 3 ^^^ past 8 ^^^ past 14 ^^^ past 16) 1)) first
    let final := (List.range 80).foldl (fun s i =>
      match s with
      | [a, b, c, d, e] =>
        let (mixed, k) : UInt32 × UInt32 := match i / 20 with
          | 0 => ((b &&& c) ||| (~~~b &&& d), 0x5a827999)
          | 1 => (b ^^^ c ^^^ d, 0x6ed9eba1)
          | 2 => ((b &&& c) ||| (b &&& d) ||| (c &&& d), 0x8f1bbcdc)
          | _ => (b ^^^ c ^^^ d, 0xca62c1d6)
        [turn a 5 + mixed + e + k + words.getD i 0, a, turn b 30, c, d]
      | s => s) start
    List.zipWith (· + ·) start final

/-! ## The digests of eight words -/

/-- Which of the digests of eight words. -/
structure Eight where
  /-- The bits of a word. -/
  bits : Nat
  rounds : Nat
  /-- What the words are at first. -/
  start : List Nat
  /-- How far words are turned, and the last of three shifted, when new words are made and when words
  are stirred. -/
  early : List Nat
  late : List Nat
  high : List Nat
  low : List Nat
  /-- How many bytes of the words are shown. -/
  shown : Nat

namespace Eight

/-- A sum of words. -/
def sum (e : Eight) (ns : List Nat) : Nat := ns.foldl (· + ·) 0 % Nat.pow 2 e.bits

/-- A word turned to the right. -/
def turned (e : Eight) (n count : Nat) : Nat :=
  n / Nat.pow 2 count ||| n % Nat.pow 2 count * Nat.pow 2 (e.bits - count)

/-- Three copies of a word on top of each other, each turned, the last only shifted if that is
wanted. -/
def stirred (e : Eight) (shifts : Bool) (turns : List Nat) (n : Nat) : Nat :=
  match turns with
  | [a, b, c] => e.turned n a ^^^ e.turned n b ^^^ (if shifts then n / Nat.pow 2 c else e.turned n c)
  | _ => n

def block (e : Eight) (keys : List Nat) (start : List Nat) (bs : List Nat) : List Nat :=
  let first := ((pieces (e.bits / 8) 16 bs).map valueOf).toArray
  let words := (List.range (e.rounds - 16)).foldl (fun ws k =>
    let past (back : Nat) : Nat := ws.getD (k + 16 - back) 0
    ws.push (e.sum [e.stirred true e.late (past 2), past 7, e.stirred true e.early (past 15), past 16])) first
  let final := (words.toList.zip keys).foldl (fun s (word, key) =>
    match s with
    | [a, b, c, d, x, y, z, h] =>
      let choice := (x &&& y) ^^^ ((Nat.pow 2 e.bits - 1 - x) &&& z)
      let one := e.sum [h, e.stirred false e.low x, choice, key, word]
      let most := (a &&& b) ^^^ (a &&& c) ^^^ (b &&& c)
      [e.sum [one, e.stirred false e.high a, most], a, b, c, e.sum [d, one], x, y, z]
    | s => s) start
  List.zipWith (fun a b => e.sum [a, b]) start final

def digest (e : Eight) (text : Bytes) : List Nat :=
  let keys := rootBits 3 e.bits (primes e.rounds)
  (((blocks (2 * e.bits) true text).foldl (e.block keys) e.start).flatMap
    (bigEndian (e.bits / 8))).take e.shown

/-- The digests of words of 32 bits. -/
def narrow (start : List Nat) (shown : Nat) : Eight :=
  { bits := 32, rounds := 64, start, shown
    early := [7, 18, 3], late := [17, 19, 10], high := [2, 13, 22], low := [6, 11, 25] }

/-- The digests of words of 64 bits. -/
def wide (start : List Nat) (shown : Nat) : Eight :=
  { bits := 64, rounds := 80, start, shown
    early := [1, 8, 7], late := [19, 61, 6], high := [28, 34, 39], low := [14, 18, 41] }

end Eight

/-! ## By name -/

/-- A way to make a digest. -/
inductive Method where
  | md5
  | sha1
  | sha224
  | sha256
  | sha384
  | sha512
  deriving DecidableEq, Repr

namespace Method

def all : List Method := [.md5, .sha1, .sha224, .sha256, .sha384, .sha512]

def name : Method → String
  | md5 => "md5"
  | sha1 => "sha1"
  | sha224 => "sha224"
  | sha256 => "sha256"
  | sha384 => "sha384"
  | sha512 => "sha512"

/-- The number of bytes of a digest. -/
def size : Method → Nat
  | md5 => 16
  | sha1 => 20
  | sha224 => 28
  | sha256 => 32
  | sha384 => 48
  | sha512 => 64

/-- The bytes of the digest of a text. -/
def digest (m : Method) (text : Bytes) : List Nat :=
  match m with
  | md5 => fourWords text
  | sha1 => fiveWords text
  | sha224 =>
    let start := (rootBits 2 64 ((primes 16).drop 8)).map (· % UInt32.size)
    (Eight.narrow start m.size).digest text
  | sha256 => (Eight.narrow (rootBits 2 32 (primes 8)) m.size).digest text
  | sha384 => (Eight.wide (rootBits 2 64 ((primes 16).drop 8)) m.size).digest text
  | sha512 => (Eight.wide (rootBits 2 64 (primes 8)) m.size).digest text

/-- A digest as it is shown. -/
def shown (m : Method) (text : Bytes) : Bytes :=
  (m.digest text).flatMap fun b => padLeft '0' 2 (Nat.toDigits 16 b)

end Method

end JobLauncher.Shell.Digest
