/-!
# Checksums

Checksums of bytes. All of them cut the bytes into blocks of words and mix each block into a state
of a few words.
-/

namespace AgentLaunch.Tools.Checksum

/-- The words of so many bytes, the first byte being the highest, or the lowest. -/
def words (highFirst : Bool) (width : Nat) : Nat → List Nat → List Nat
  | 0, _ | _, [] => []
  | n + 1, bytes =>
    let front := bytes.take width
    let ordered := if highFirst then front else front.reverse
    ordered.foldl (fun w b => w * 256 + b) 0 :: words highFirst width n (bytes.drop width)

def bytesOf : Nat → Nat → List Nat
  | 0, _ => []
  | n + 1, w => w % 256 :: bytesOf n (w / 256)

/-- Bytes with a mark, zeros and their length behind them, so that they fill blocks. -/
def padded (highFirst : Bool) (block lengthBytes : Nat) (bytes : List Nat) : List Nat :=
  let zeros := (block - (bytes.length + 1 + lengthBytes) % block) % block
  let length := bytesOf lengthBytes (8 * bytes.length)
  bytes ++ 128 :: List.replicate zeros 0 ++ (if highFirst then length.reverse else length)

/-- Cuts a list into parts of a length. The number bounds how many there are. -/
def blocks {α : Type} (size : Nat) : Nat → List α → List (List α)
  | 0, _ | _, [] => []
  | n + 1, xs => xs.take size :: blocks size n (xs.drop size)

structure Word where
  bits : Nat

namespace Word

def size (w : Word) : Nat :=
  Nat.pow 2 w.bits

def turn (w : Word) (n x : Nat) : Nat :=
  (x * Nat.pow 2 n) % w.size + x / Nat.pow 2 (w.bits - n)

/-- Turns the bits of a word to the lower side. -/
def turnDown (w : Word) (n x : Nat) : Nat :=
  w.turn (w.bits - n) x

def not (w : Word) (x : Nat) : Nat :=
  w.size - 1 - x

def choose (w : Word) (x y z : Nat) : Nat :=
  (x &&& y) ||| (w.not x &&& z)

end Word

def majority (x y z : Nat) : Nat :=
  (x &&& y) ||| (x &&& z) ||| (y &&& z)

def short : Word := ⟨32⟩

def long : Word := ⟨64⟩

def added (w : Word) (a b : List Nat) : List Nat :=
  (a.zip b).map fun (x, y) => (x + y) % w.size

def digits (bytes : List Nat) : String :=
  let digit (n : Nat) : Char := ("0123456789abcdef".toList[n]?).getD '0'
  String.ofList (bytes.flatMap fun b => [digit (b / 16), digit (b % 16)])

/-! ### The sums of 128 and 160 bits -/

/-- The parts of a sine that the rounds add. -/
def sines : List Nat :=
  [0xd76aa478, 0xe8c7b756, 0x242070db, 0xc1bdceee, 0xf57c0faf, 0x4787c62a, 0xa8304613, 0xfd469501,
    0x698098d8, 0x8b44f7af, 0xffff5bb1, 0x895cd7be, 0x6b901122, 0xfd987193, 0xa679438e, 0x49b40821,
    0xf61e2562, 0xc040b340, 0x265e5a51, 0xe9b6c7aa, 0xd62f105d, 0x02441453, 0xd8a1e681, 0xe7d3fbc8,
    0x21e1cde6, 0xc33707d6, 0xf4d50d87, 0x455a14ed, 0xa9e3e905, 0xfcefa3f8, 0x676f02d9, 0x8d2a4c8a,
    0xfffa3942, 0x8771f681, 0x6d9d6122, 0xfde5380c, 0xa4beea44, 0x4bdecfa9, 0xf6bb4b60, 0xbebfbc70,
    0x289b7ec6, 0xeaa127fa, 0xd4ef3085, 0x04881d05, 0xd9d4d039, 0xe6db99e5, 0x1fa27cf8, 0xc4ac5665,
    0xf4292244, 0x432aff97, 0xab9423a7, 0xfc93a039, 0x655b59c3, 0x8f0ccc92, 0xffeff47d, 0x85845dd1,
    0x6fa87e4f, 0xfe2ce6e0, 0xa3014314, 0x4e0811a1, 0xf7537e82, 0xbd3af235, 0x2ad7d2bb, 0xeb86d391]

/-- How far the rounds turn, four of them in each quarter. -/
def turns : List Nat :=
  [7, 12, 17, 22, 5, 9, 14, 20, 4, 11, 16, 23, 6, 10, 15, 21]

def start : List Nat :=
  [0x67452301, 0xefcdab89, 0x98badcfe, 0x10325476, 0xc3d2e1f0]

def nth (xs : List Nat) (k : Nat) : Nat :=
  (xs[k]?).getD 0

def round128 (block : List Nat) (s : List Nat) (k : Nat) : List Nat :=
  match s with
  | [a, b, c, d] =>
    let (f, g) := match k / 16 with
      | 0 => (short.choose b c d, k)
      | 1 => (short.choose d b c, (5 * k + 1) % 16)
      | 2 => (b ^^^ c ^^^ d, (3 * k + 5) % 16)
      | _ => (c ^^^ (b ||| short.not d), (7 * k) % 16)
    let sum := (a + f + nth sines k + nth block g) % short.size
    [d, (b + short.turn (nth turns (k / 16 * 4 + k % 4)) sum) % short.size, b, c]
  | s => s

def sum128 (bytes : List Nat) : List Nat :=
  let ws := words false 4 (bytes.length + 64) (padded false 64 8 bytes)
  let final := (blocks 16 ws.length ws).foldl (fun s block =>
    added short s ((List.range 64).foldl (round128 block) s)) (start.take 4)
  final.flatMap (bytesOf 4)

/-- The words of a block with those that are made of them. -/
def spread160 : Nat → List Nat → List Nat
  | 0, ws => ws
  | n + 1, ws =>
    let k := ws.length
    let w := short.turn 1
      (nth ws (k - 3) ^^^ nth ws (k - 8) ^^^ nth ws (k - 14) ^^^ nth ws (k - 16))
    spread160 n (ws ++ [w])

def round160 (ws : List Nat) (s : List Nat) (k : Nat) : List Nat :=
  match s with
  | [a, b, c, d, e] =>
    let (f, constant) := match k / 20 with
      | 0 => (short.choose b c d, 0x5a827999)
      | 1 => (b ^^^ c ^^^ d, 0x6ed9eba1)
      | 2 => (majority b c d, 0x8f1bbcdc)
      | _ => (b ^^^ c ^^^ d, 0xca62c1d6)
    [(short.turn 5 a + f + e + constant + nth ws k) % short.size, a, short.turn 30 b, c, d]
  | s => s

def sum160 (bytes : List Nat) : List Nat :=
  let ws := words true 4 (bytes.length + 64) (padded true 64 8 bytes)
  let final := (blocks 16 ws.length ws).foldl (fun s block =>
    added short s ((List.range 80).foldl (round160 (spread160 64 block)) s)) start
  final.flatMap fun w => (bytesOf 4 w).reverse

/-! ### The sums of the second family -/

def primes : List Nat :=
  (List.range 410).filter fun n => n > 1 && (List.range n).all fun d => d < 2 || n % d ≠ 0

/-- The largest number whose power is not above a number, from its bits from the highest on. -/
def root (power : Nat) (n : Nat) : Nat → Nat → Nat
  | 0, found => found
  | k + 1, found =>
    let next := found + Nat.pow 2 k
    root power n k (if Nat.pow next power ≤ n then next else found)

/-- The first 64 bits behind the point of the root of a number. -/
def fraction (power n : Nat) : Nat :=
  root power (n * Nat.pow 2 (64 * power)) 70 0 % Nat.pow 2 64

/-- How the words of the family are mixed: their turns, for short or long words. -/
structure Mixing where
  word : Word
  rounds : Nat
  spreadLow : Nat × Nat × Nat
  spreadHigh : Nat × Nat × Nat
  first : Nat × Nat × Nat
  second : Nat × Nat × Nat

def shortMixing : Mixing :=
  ⟨short, 64, (7, 18, 3), (17, 19, 10), (2, 13, 22), (6, 11, 25)⟩

def longMixing : Mixing :=
  ⟨long, 80, (1, 8, 7), (19, 61, 6), (28, 34, 39), (14, 18, 41)⟩

namespace Mixing

def shifted (m : Mixing) (t : Nat × Nat × Nat) (x : Nat) : Nat :=
  m.word.turnDown t.1 x ^^^ m.word.turnDown t.2.1 x ^^^ (x / Nat.pow 2 t.2.2)

def turned (m : Mixing) (t : Nat × Nat × Nat) (x : Nat) : Nat :=
  m.word.turnDown t.1 x ^^^ m.word.turnDown t.2.1 x ^^^ m.word.turnDown t.2.2 x

def spread (m : Mixing) : Nat → List Nat → List Nat
  | 0, ws => ws
  | n + 1, ws =>
    let k := ws.length
    let w := m.shifted m.spreadHigh (nth ws (k - 2)) + nth ws (k - 7) +
      m.shifted m.spreadLow (nth ws (k - 15)) + nth ws (k - 16)
    m.spread n (ws ++ [w % m.word.size])

def round (m : Mixing) (constants ws : List Nat) (s : List Nat) (k : Nat) : List Nat :=
  match s with
  | [a, b, c, d, e, f, g, h] =>
    let x := h + m.turned m.second e + m.word.choose e f g + nth constants k + nth ws k
    let y := m.turned m.first a + majority a b c
    [(x + y) % m.word.size, a, b, c, (d + x) % m.word.size, e, f, g]
  | s => s

/-- The sum of bytes from a first state on. -/
def sum (m : Mixing) (start : List Nat) (bytes : List Nat) : List Nat :=
  let width := m.word.bits / 8
  let block := 16 * width
  let constants := (primes.take m.rounds).map fun p =>
    fraction 3 p / Nat.pow 2 (64 - m.word.bits)
  let ws := words true width (bytes.length + block) (padded true block (2 * width) bytes)
  let final := (blocks 16 ws.length ws).foldl (fun s block =>
    added m.word s ((List.range m.rounds).foldl
      (m.round constants (m.spread (m.rounds - 16) block)) s)) start
  final.flatMap fun w => (bytesOf width w).reverse

end Mixing

/-- The words that the sums of the family begin with. -/
def roots (later : Bool) : List Nat :=
  ((primes.drop (if later then 8 else 0)).take 8).map (fraction 2)

def sum256 (bytes : List Nat) : List Nat :=
  shortMixing.sum ((roots false).map (· / Nat.pow 2 32)) bytes

def sum224 (bytes : List Nat) : List Nat :=
  (shortMixing.sum ((roots true).map (· % Nat.pow 2 32)) bytes).take 28

def sum512 (bytes : List Nat) : List Nat :=
  longMixing.sum (roots false) bytes

def sum384 (bytes : List Nat) : List Nat :=
  (longMixing.sum (roots true) bytes).take 48

/-! ### Remainders -/

def remainder (bytes : List Nat) : Nat :=
  let step (r b : Nat) : Nat :=
    (List.range 8).foldl (fun r k =>
      let bit := (r / Nat.pow 2 31 + b / Nat.pow 2 (7 - k)) % 2
      let r := r * 2 % Nat.pow 2 32
      if bit = 1 then r ^^^ 0x04c11db7 else r) r
  let rec lengthBytes : Nat → Nat → List Nat
    | 0, _ => []
    | n + 1, k => if k = 0 then [] else k % 256 :: lengthBytes n (k / 256)
  Nat.pow 2 32 - 1 - (bytes ++ lengthBytes 8 bytes.length).foldl step 0

/-- The sum of bytes with a turn before each one. -/
def turnedSum (bytes : List Nat) : Nat :=
  bytes.foldl (fun r b => (r / 2 + r % 2 * 32768 + b) % 65536) 0

end AgentLaunch.Tools.Checksum
