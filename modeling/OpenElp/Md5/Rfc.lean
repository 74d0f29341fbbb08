import OpenElp.Md5

/-!
# The MD5 message digest of RFC 1321

What `md5.c` implements, as RFC 1321 defines it, on its own terms.  The message is padded with
a one bit, zeros up to 448 bits modulo 512, and its length in bits modulo `2^64`, low-order byte
first (`padding`); the padded message is cut into blocks of 64 bytes, each read as sixteen
little-endian words (`blockWord`); each block goes through sixty-four operations
`[abcd k s i] : a = b + ((a + F(b,c,d) + X[k] + T[i]) <<< s)` in four rounds, whose function,
word, shift and registers follow from the operation's number (`op`), and the registers before the
block are added back (`compress`); the digest is the four registers, low-order byte first.

Nothing here is read from `md5.c` but the constants `T[i]`, "the integer part of
`4294967296 * abs(sin(i))`", which are given as the table they are.

* `md5` : the digest of a message.
-/

namespace OpenElp

namespace Rfc1321

open Md5

/-- `F(X,Y,Z) = XY v not(X) Z`. -/
def F (x y z : UInt32) : UInt32 := (x &&& y) ||| (~~~x &&& z)

/-- `G(X,Y,Z) = XZ v Y not(Z)`. -/
def G (x y z : UInt32) : UInt32 := (x &&& z) ||| (y &&& ~~~z)

/-- `H(X,Y,Z) = X xor Y xor Z`. -/
def H (x y z : UInt32) : UInt32 := x ^^^ y ^^^ z

/-- `I(X,Y,Z) = Y xor (X v not(Z))`. -/
def I (x y z : UInt32) : UInt32 := y ^^^ (x ||| ~~~z)

/-- `X <<< s`: `X` rotated left by `s` bits. -/
def rotl (x : UInt32) (s : ℕ) : UInt32 := UInt32.ofBitVec (x.toBitVec.rotateLeft s)

/-- `T[1]` to `T[64]`. -/
def T : List UInt32 := [
  0xd76aa478, 0xe8c7b756, 0x242070db, 0xc1bdceee, 0xf57c0faf, 0x4787c62a,
  0xa8304613, 0xfd469501, 0x698098d8, 0x8b44f7af, 0xffff5bb1, 0x895cd7be,
  0x6b901122, 0xfd987193, 0xa679438e, 0x49b40821, 0xf61e2562, 0xc040b340,
  0x265e5a51, 0xe9b6c7aa, 0xd62f105d, 0x02441453, 0xd8a1e681, 0xe7d3fbc8,
  0x21e1cde6, 0xc33707d6, 0xf4d50d87, 0x455a14ed, 0xa9e3e905, 0xfcefa3f8,
  0x676f02d9, 0x8d2a4c8a, 0xfffa3942, 0x8771f681, 0x6d9d6122, 0xfde5380c,
  0xa4beea44, 0x4bdecfa9, 0xf6bb4b60, 0xbebfbc70, 0x289b7ec6, 0xeaa127fa,
  0xd4ef3085, 0x04881d05, 0xd9d4d039, 0xe6db99e5, 0x1fa27cf8, 0xc4ac5665,
  0xf4292244, 0x432aff97, 0xab9423a7, 0xfc93a039, 0x655b59c3, 0x8f0ccc92,
  0xffeff47d, 0x85845dd1, 0x6fa87e4f, 0xfe2ce6e0, 0xa3014314, 0x4e0811a1,
  0xf7537e82, 0xbd3af235, 0x2ad7d2bb, 0xeb86d391]

/-- The function of round `r + 1`. -/
def round : ℕ → UInt32 → UInt32 → UInt32 → UInt32
  | 0 => F
  | 1 => G
  | 2 => H
  | _ => I

/-- The word `k` of operation `j` (numbered from `0`): round 1 takes the words in order,
round 2 from `1` by steps of `5`, round 3 from `5` by `3`, round 4 from `0` by `7`. -/
def index (j : ℕ) : ℕ :=
  match j / 16 with
  | 0 => j % 16
  | 1 => (1 + 5 * j) % 16
  | 2 => (5 + 3 * j) % 16
  | _ => 7 * j % 16

/-- The shift `s` of operation `j`: four shifts for each round, in turn. -/
def shift (j : ℕ) : ℕ :=
  (([[7, 12, 17, 22], [5, 9, 14, 20], [4, 11, 16, 23], [6, 10, 15, 21]] : List (List ℕ)).getD
    (j / 16) []).getD (j % 4) 0

/-- The registers `abcd` of operation `j`: `ABCD`, `DABC`, `CDAB` and `BCDA` in turn. -/
def regs (j : ℕ) : Reg × Reg × Reg × Reg :=
  match j % 4 with
  | 0 => (.a, .b, .c, .d)
  | 1 => (.d, .a, .b, .c)
  | 2 => (.c, .d, .a, .b)
  | _ => (.b, .c, .d, .a)

/-- Operation `j`, `[abcd k s i]` with `i = j + 1`: `a = b + ((a + F(b,c,d) + X[k] + T[i]) <<< s)`,
with the round's function for `F`. -/
def op (X : ℕ → UInt32) (r : Regs) (j : ℕ) : Regs :=
  let (ra, rb, rc, rd) := regs j
  r.set ra (r.get rb + rotl (r.get ra + round (j / 16) (r.get rb) (r.get rc) (r.get rd) +
    X (index j) + T.getD j 0) (shift j))

/-- A block of sixteen words `X`: the sixty-four operations, then `A = A + AA` and the same for
`B`, `C` and `D`. -/
def compress (r : Regs) (X : ℕ → UInt32) : Regs :=
  let r' := (List.range 64).foldl (op X) r
  ⟨r'.a + r.a, r'.b + r.b, r'.c + r.c, r'.d + r.d⟩

/-- Word `j` of a block: the group of four bytes from `4 * j` on, the low-order byte first. -/
def blockWord (blk : List UInt8) (j : ℕ) : UInt32 :=
  ((blk.getD (4 * j) 0).toNat + 2 ^ 8 * (blk.getD (4 * j + 1) 0).toNat +
    2 ^ 16 * (blk.getD (4 * j + 2) 0).toNat + 2 ^ 24 * (blk.getD (4 * j + 3) 0).toNat).toUInt32

/-- The `k` bytes of `n` modulo `2 ^ (8 * k)`, the low-order byte first. -/
def lowBytes (k n : ℕ) : List UInt8 := (List.range k).map fun i => (n / 2 ^ (8 * i)).toUInt8

/-- What steps 1 and 2 append to a message of `len` bytes: a one bit, zeros up to 56 bytes
modulo 64, and the 64 low-order bits of the length in bits. -/
def padding (len : ℕ) : List UInt8 :=
  0x80 :: List.replicate ((119 - len % 64) % 64) 0 ++ lowBytes 8 (8 * len)

/-- Step 3: the registers `A`, `B`, `C`, `D` before the first block. -/
def init : Regs := ⟨0x67452301, 0xefcdab89, 0x98badcfe, 0x10325476⟩

/-- Step 5: the digest, `A`, `B`, `C`, `D`, each low-order byte first. -/
def output (r : Regs) : List UInt8 :=
  lowBytes 4 r.a.toNat ++ lowBytes 4 r.b.toNat ++ lowBytes 4 r.c.toNat ++ lowBytes 4 r.d.toNat

/-- **The MD5 digest of a message.** -/
def md5 (m : List UInt8) : List UInt8 :=
  output ((blocks 64 (m ++ padding m.length)).foldl (fun r blk => compress r (blockWord blk)) init)

/-- The first two messages of the test suite of RFC 1321, `""` and `"abc"`. -/
example : md5 [] = [0xd4, 0x1d, 0x8c, 0xd9, 0x8f, 0x00, 0xb2, 0x04, 0xe9, 0x80, 0x09, 0x98, 0xec,
    0xf8, 0x42, 0x7e] := by
  decide +kernel

example : md5 [97, 98, 99] = [0x90, 0x01, 0x50, 0x98, 0x3c, 0xd2, 0x4f, 0xb0, 0xd6, 0x96, 0x3f,
    0x7d, 0x28, 0xe1, 0x7f, 0x72] := by
  decide +kernel

end Rfc1321

end OpenElp
