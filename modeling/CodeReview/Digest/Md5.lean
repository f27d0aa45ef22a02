import CodeReview.Text.Hex

/-!
# MD5

The MD5 digest of a text, as sixteen bytes and as thirty-two hexadecimal digits. It serves as a
content address, not as a protection.
-/

set_option autoImplicit false

namespace CodeReview.Digest

namespace Md5

/-- The four words that a message is folded into. -/
structure State where
  a : UInt32
  b : UInt32
  c : UInt32
  d : UInt32
deriving DecidableEq, Repr

/-- The state before the first block. -/
def State.initial : State := ⟨0x67452301, 0xefcdab89, 0x98badcfe, 0x10325476⟩

/-- The constants added in the sixty-four steps. -/
def constants : Array UInt32 := #[
  0xd76aa478, 0xe8c7b756, 0x242070db, 0xc1bdceee, 0xf57c0faf, 0x4787c62a, 0xa8304613, 0xfd469501,
  0x698098d8, 0x8b44f7af, 0xffff5bb1, 0x895cd7be, 0x6b901122, 0xfd987193, 0xa679438e, 0x49b40821,
  0xf61e2562, 0xc040b340, 0x265e5a51, 0xe9b6c7aa, 0xd62f105d, 0x02441453, 0xd8a1e681, 0xe7d3fbc8,
  0x21e1cde6, 0xc33707d6, 0xf4d50d87, 0x455a14ed, 0xa9e3e905, 0xfcefa3f8, 0x676f02d9, 0x8d2a4c8a,
  0xfffa3942, 0x8771f681, 0x6d9d6122, 0xfde5380c, 0xa4beea44, 0x4bdecfa9, 0xf6bb4b60, 0xbebfbc70,
  0x289b7ec6, 0xeaa127fa, 0xd4ef3085, 0x04881d05, 0xd9d4d039, 0xe6db99e5, 0x1fa27cf8, 0xc4ac5665,
  0xf4292244, 0x432aff97, 0xab9423a7, 0xfc93a039, 0x655b59c3, 0x8f0ccc92, 0xffeff47d, 0x85845dd1,
  0x6fa87e4f, 0xfe2ce6e0, 0xa3014314, 0x4e0811a1, 0xf7537e82, 0xbd3af235, 0x2ad7d2bb, 0xeb86d391]

/-- The rotations of the steps: each round of sixteen repeats four of them. -/
def rotations : Array UInt32 := #[7, 12, 17, 22, 5, 9, 14, 20, 4, 11, 16, 23, 6, 10, 15, 21]

/-- Rotates a word to the left by a number of bits between one and thirty-one. -/
def rotate (x n : UInt32) : UInt32 := (x <<< n) ||| (x >>> (32 - n))

/-- One step with the given words of the block. -/
def step (block : Array UInt32) (s : State) (i : Nat) : State :=
  let mix : UInt32 × Nat :=
    if i < 16 then ((s.b &&& s.c) ||| (~~~s.b &&& s.d), i)
    else if i < 32 then ((s.d &&& s.b) ||| (~~~s.d &&& s.c), (5 * i + 1) % 16)
    else if i < 48 then (s.b ^^^ s.c ^^^ s.d, (3 * i + 5) % 16)
    else (s.c ^^^ (s.b ||| ~~~s.d), (7 * i) % 16)
  let sum := mix.1 + s.a + constants[i]?.getD 0 + block[mix.2]?.getD 0
  ⟨s.d, s.b + rotate sum (rotations[i / 16 * 4 + i % 4]?.getD 0), s.b, s.c⟩

/-- Folds a block of sixteen words into the state. -/
def compress (s : State) (block : Array UInt32) : State :=
  let t := (List.range 64).foldl (step block) s
  ⟨s.a + t.a, s.b + t.b, s.c + t.c, s.d + t.d⟩

/-- The low `count` bytes of a number, the lowest first. -/
def littleEndian : Nat → Nat → List UInt8
  | 0, _ => []
  | count + 1, n => UInt8.ofNat (n % 256) :: littleEndian count (n / 256)

/-- A message with its end mark and length, a whole number of blocks long. -/
def pad (message : List UInt8) : List UInt8 :=
  let n := message.length
  message ++ 0x80 :: List.replicate ((119 - n % 64) % 64) 0 ++ littleEndian 8 (8 * n)

/-- The words that bytes stand for, four bytes each. -/
def words : List UInt8 → List UInt32
  | w :: x :: y :: z :: rest =>
    (w.toUInt32 ||| (x.toUInt32 <<< 8) ||| (y.toUInt32 <<< 16) ||| (z.toUInt32 <<< 24)) ::
      words rest
  | _ => []

/-- Folds all blocks of a message into the state. -/
def compressAll : Nat → State → List UInt32 → State
  | 0, s, _ => s
  | fuel + 1, s, ws =>
    if ws.isEmpty then s else compressAll fuel (compress s (ws.take 16).toArray) (ws.drop 16)

/-- The digest of some bytes. -/
def digest (message : List UInt8) : List UInt8 :=
  let ws := words (pad message)
  let s := compressAll ws.length .initial ws
  [s.a, s.b, s.c, s.d].flatMap fun w => littleEndian 4 w.toNat

end Md5

/-- The two hexadecimal digits of a byte. -/
def hexByte (b : UInt8) : List Char := [Text.hexDigit (b.toNat / 16), Text.hexDigit (b.toNat % 16)]

/-- The hexadecimal digits of some bytes. -/
def hex (bytes : List UInt8) : List Char := bytes.flatMap hexByte

/-- The digits of the MD5 digest of a text in UTF-8. -/
def md5Digits (text : String) : List Char := hex (Md5.digest text.toUTF8.toList)

/-- The MD5 digest of a text in hexadecimal. -/
def md5 (text : String) : String := String.ofList (md5Digits text)

/-! ## The digits of a digest -/

theorem Md5.length_littleEndian (count n : Nat) : (littleEndian count n).length = count := by
  induction count generalizing n with
  | zero => rfl
  | succ count ih => rw [littleEndian, List.length_cons, ih]

theorem Md5.length_digest (message : List UInt8) : (digest message).length = 16 := by
  simp only [digest, List.flatMap_cons, List.flatMap_nil, List.length_append, length_littleEndian,
    List.length_nil]

theorem length_hex (bytes : List UInt8) : (hex bytes).length = 2 * bytes.length := by
  induction bytes with
  | nil => rfl
  | cons b bytes ih =>
    have hcons : hex (b :: bytes) = hexByte b ++ hex bytes := rfl
    rw [hcons, List.length_append, ih, List.length_cons, hexByte, List.length_cons,
      List.length_singleton]
    omega

theorem mem_digits_of_mem_hex {c : Char} {bytes : List UInt8} (h : c ∈ hex bytes) :
    c ∈ "0123456789abcdef".toList := by
  obtain ⟨b, -, hc⟩ := List.mem_flatMap.1 h
  have hb := b.toNat_lt
  simp only [hexByte, List.mem_cons, List.not_mem_nil, or_false] at hc
  rcases hc with rfl | rfl
  · exact Text.hexDigit_mem (by omega)
  · exact Text.hexDigit_mem (by omega)

theorem length_md5Digits (text : String) : (md5Digits text).length = 32 := by
  rw [md5Digits, length_hex, Md5.length_digest]

end CodeReview.Digest
