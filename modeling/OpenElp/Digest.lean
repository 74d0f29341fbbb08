import Mathlib.Data.List.GetD
import Mathlib.Data.UInt
import Mathlib.Tactic.IntervalCases

/-!
# Hexadecimal digits of nonces and digests (`digest.c`)

The proxy sends the client its nonce as eight lower-case hexadecimal digits
(`digest_to_hex32`), appends the same eight digits to the password before hashing it
(`get_password_response`), and the client reads them back with its own decoder
(`hex32_to_digest`, which goes through `hex4_to_digest` for each digit and `ntohl` for the byte
order).  Characters are bytes (`UInt8`); `char` is signed, which `hex4_to_digest`'s comparisons
see for bytes from `0x80` up.

* `hex32ToDigest_digestToHex32` : the client decodes every nonce the proxy encodes.
-/

namespace OpenElp

/-- A byte as the signed `char` the C comparisons see. -/
def charVal (b : UInt8) : ℤ := b.toInt8.toInt

/-- The table of `digest_to_hex8`. -/
def hexLower : List UInt8 := "0123456789abcdef".toList.map Char.toUInt8

/-- `digest_to_hex8`: the two lower-case digits of a byte, high half first. -/
def digestToHex8 (data : UInt8) : List UInt8 :=
  [hexLower.getD (data / 16).toNat 0, hexLower.getD (data % 16).toNat 0]

/-- The table of `digest_to_hex8_u`. -/
def hexUpper : List UInt8 := "0123456789ABCDEF".toList.map Char.toUInt8

/-- `digest_to_hex8_u`: the two upper-case digits of a byte, high half first. -/
def digestToHex8U (data : UInt8) : List UInt8 :=
  [hexUpper.getD (data / 16).toNat 0, hexUpper.getD (data % 16).toNat 0]

/-- `digest_to_str`: the upper-case digits of each byte of the digest, with no NUL after them. -/
def digestToStr (md5 : List UInt8) : List UInt8 := md5.flatMap digestToHex8U

/-- `digest_to_hex32`: the eight digits of a 32-bit value, most significant byte first. -/
def digestToHex32 (data : UInt32) : List UInt8 :=
  digestToHex8 (data >>> 0x18 &&& 0xff).toUInt8 ++ digestToHex8 (data >>> 0x10 &&& 0xff).toUInt8 ++
    digestToHex8 (data >>> 0x8 &&& 0xff).toUInt8 ++ digestToHex8 (data &&& 0xff).toUInt8

/-- `hex4_to_digest`: the value of one hexadecimal digit of either case, `0` for a character
below the digit range it falls in or above `'f'`. -/
def hex4ToDigest (data : UInt8) : UInt8 :=
  let d := charVal data
  -- `base` is `'0'`, `'A' - 10` or `'a' - 10`; `none` is the early `return 0`
  let base : Option ℤ :=
    if d > ('9'.toNat : ℤ) then
      if d > ('F'.toNat : ℤ) then
        if d > ('f'.toNat : ℤ) then none else some ('a'.toNat - 10)
      else some ('A'.toNat - 10)
    else some '0'.toNat
  match base with
  | none => 0
  | some base => if d < base then 0 else (d - base).toNat.toUInt8

/-- `hex8_to_digest`: two digits, high half first, truncated to a byte on return. -/
def hex8ToDigest (hi lo : UInt8) : UInt8 := hex4ToDigest hi * 16 + hex4ToDigest lo

/-- `hex32_to_digest`: the digit pairs give the bytes `parts[0..3]` of a union, which `ntohl`
reads in network order (most significant first) whatever the host's order. -/
def hex32ToDigest (data : List UInt8) : UInt32 :=
  let part (i : ℕ) : UInt32 := (hex8ToDigest (data.getD (2 * i) 0) (data.getD (2 * i + 1) 0)).toUInt32
  part 0 * 0x1000000 + part 1 * 0x10000 + part 2 * 0x100 + part 3

theorem digestToHex32_length (data : UInt32) : (digestToHex32 data).length = 8 := rfl

/-- `digest_to_str` writes two digits for each byte. -/
theorem digestToStr_length (md5 : List UInt8) : (digestToStr md5).length = 2 * md5.length := by
  induction md5 with
  | nil => rfl
  | cons b md5 ih =>
    rw [digestToStr, List.flatMap_cons, List.length_append, ← digestToStr, ih]
    simp only [digestToHex8U, List.length_cons, List.length_nil, List.length_cons]
    omega

/-- Each of the sixteen digits reads back as its own value. -/
theorem hex4ToDigest_hexLower {d : ℕ} (h : d < 16) :
    hex4ToDigest (hexLower.getD d 0) = d.toUInt8 := by
  interval_cases d <;> decide

theorem and255 (x : ℕ) : x &&& 255 = x % 256 := Nat.and_two_pow_sub_one_eq_mod x 8

/-- The two digits of a byte read back as the byte. -/
theorem hex8ToDigest_digestToHex8 (b : UInt8) :
    hex8ToDigest (hexLower.getD (b / 16).toNat 0) (hexLower.getD (b % 16).toNat 0) = b := by
  have hb := b.toNat_lt
  have hhi : (b / 16).toNat < 16 := by simp; omega
  have hlo : (b % 16).toNat < 16 := by simp; omega
  rw [hex8ToDigest, hex4ToDigest_hexLower hhi, hex4ToDigest_hexLower hlo]
  -- a byte is its high half times sixteen plus its low half
  apply UInt8.toNat_inj.1
  simp [UInt8.toNat_add, UInt8.toNat_mul]
  omega

/-- **The client decodes every nonce the proxy encodes**:
`hex32_to_digest(digest_to_hex32(n)) = n`. -/
theorem hex32ToDigest_digestToHex32 (n : UInt32) : hex32ToDigest (digestToHex32 n) = n := by
  -- the eight digits are four pairs, each reading back as its byte
  simp only [hex32ToDigest, digestToHex32, digestToHex8, List.cons_append, List.nil_append,
    List.getD_cons_zero, List.getD_cons_succ, Nat.mul_zero, Nat.zero_add, Nat.mul_one,
    hex8ToDigest_digestToHex8]
  -- the four bytes, in network order, are the value again
  apply UInt32.toNat_inj.1
  have := n.toNat_lt
  simp only [UInt32.toNat_add, UInt32.toNat_mul, UInt8.toNat_toUInt32, UInt32.toNat_toUInt8,
    UInt32.toNat_and, UInt32.toNat_shiftRight]
  simp [and255, Nat.shiftRight_eq_div_pow]
  omega

end OpenElp
