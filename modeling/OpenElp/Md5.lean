import OpenElp.Data.Blocks
import OpenElp.Data.Buf

/-!
# MD5 (`md5.c`, `digest_get`)

`digest_get` hashes the password response and the registration text with the MD5 of `md5.c`,
the implementation the proxy carries when it is built without OpenSSL: `MD5_Init`, one
`MD5_Update` over the data and `MD5_Final`.  `MD5_Update` keeps the bytes after the last whole
64-byte block in `ctx->buffer`, and counts the bytes modulo `2^29` in `lo`, carrying into `hi`;
`body` runs the sixty-four `STEP`s of the four rounds over each block; `MD5_Final` appends the
marker `0x80`, zeros and the length in bits, and writes out the registers.

The model is `md5.c` with a 32-bit `MD5_u32plus`.  `ctx->buffer` is a list of 64 bytes: each
`memcpy`, `memset` or store into it is a store of `Buf`, and each block `body` reads is a load,
so the functions return `none` where the code would leave an array.  The data of a call is the
list of its `size` bytes.  `ctx->block`, where `SET` keeps the words of a block on platforms
that do not read them in place, is left out: `GET` reads back what `SET` stored there, the word
of the block.

* `Md5.steps` : the sixty-four `STEP`s of `body`, one row for each line of the source;
* `Md5.bodyLoop_eq`, `body_eq` : `body` runs `Md5.transform` over the blocks of its data and
  returns the pointer after them;
* `md5UpdateTail_eq` : the end of `MD5_Update` takes the whole blocks of its data through
  `body` and copies the rest to the start of the buffer.
-/

namespace OpenElp

namespace Md5

/-! ### The rounds of `body` -/

/-- `F`, as `md5.c` computes it with no AND-NOT. -/
def F (x y z : UInt32) : UInt32 := z ^^^ (x &&& (y ^^^ z))

/-- `G`, as `md5.c` computes it with no AND-NOT. -/
def G (x y z : UInt32) : UInt32 := y ^^^ (z &&& (x ^^^ y))

/-- `H`. -/
def H (x y z : UInt32) : UInt32 := (x ^^^ y) ^^^ z

/-- `H2`, the same function with the other association, used in every second step of round 3. -/
def H2 (x y z : UInt32) : UInt32 := x ^^^ (y ^^^ z)

/-- `I`. -/
def I (x y z : UInt32) : UInt32 := y ^^^ (x ||| ~~~z)

/-- `STEP(f, a, b, c, d, x, t, s)`: the new value of `a`.  The mask `& 0xffffffff` is for an
`MD5_u32plus` wider than 32 bits. -/
def step (f : UInt32 → UInt32 → UInt32 → UInt32) (a b c d x t s : UInt32) : UInt32 :=
  let a := a + f b c d + x + t
  let a := (a <<< s) ||| ((a &&& 0xffffffff) >>> (32 - s))
  a + b

/-- The function a `STEP` names. -/
inductive Fn
  | F | G | H | H2 | I
  deriving DecidableEq, Repr

/-- The function of `md5.c` a name stands for. -/
def Fn.eval : Fn → UInt32 → UInt32 → UInt32 → UInt32
  | .F => Md5.F
  | .G => Md5.G
  | .H => Md5.H
  | .H2 => Md5.H2
  | .I => Md5.I

/-- The four registers `a`, `b`, `c`, `d` of `body`. -/
inductive Reg
  | a | b | c | d
  deriving DecidableEq, Repr

/-- The values of the four registers. -/
structure Regs where
  a : UInt32
  b : UInt32
  c : UInt32
  d : UInt32
  deriving DecidableEq, Repr

/-- The value of a register. -/
def Regs.get (r : Regs) : Reg → UInt32
  | .a => r.a
  | .b => r.b
  | .c => r.c
  | .d => r.d

/-- The registers with `v` stored in one of them. -/
def Regs.set (r : Regs) : Reg → UInt32 → Regs
  | .a, v => { r with a := v }
  | .b, v => { r with b := v }
  | .c, v => { r with c := v }
  | .d, v => { r with d := v }

/-- One line `STEP(f, a, b, c, d, x, t, s)` of `body`: the function, the registers in the order
the macro takes them, the index `n` of the word `SET(n)` or `GET(n)`, the constant and the
shift. -/
structure Line where
  f : Fn
  a : Reg
  b : Reg
  c : Reg
  d : Reg
  x : ℕ
  t : UInt32
  s : UInt32
  deriving DecidableEq, Repr

/-- What a line does to the registers, `X n` being the word `n` of the block. -/
def Line.run (X : ℕ → UInt32) (r : Regs) (l : Line) : Regs :=
  r.set l.a (step l.f.eval (r.get l.a) (r.get l.b) (r.get l.c) (r.get l.d) (X l.x) l.t l.s)

/-- The sixty-four `STEP`s of `body`, in the order of the source; round 1 reads its words with
`SET`, the others with `GET`. -/
def steps : List Line := [
  -- Round 1
  ⟨.F, .a, .b, .c, .d, 0, 0xd76aa478, 7⟩, ⟨.F, .d, .a, .b, .c, 1, 0xe8c7b756, 12⟩,
  ⟨.F, .c, .d, .a, .b, 2, 0x242070db, 17⟩, ⟨.F, .b, .c, .d, .a, 3, 0xc1bdceee, 22⟩,
  ⟨.F, .a, .b, .c, .d, 4, 0xf57c0faf, 7⟩, ⟨.F, .d, .a, .b, .c, 5, 0x4787c62a, 12⟩,
  ⟨.F, .c, .d, .a, .b, 6, 0xa8304613, 17⟩, ⟨.F, .b, .c, .d, .a, 7, 0xfd469501, 22⟩,
  ⟨.F, .a, .b, .c, .d, 8, 0x698098d8, 7⟩, ⟨.F, .d, .a, .b, .c, 9, 0x8b44f7af, 12⟩,
  ⟨.F, .c, .d, .a, .b, 10, 0xffff5bb1, 17⟩, ⟨.F, .b, .c, .d, .a, 11, 0x895cd7be, 22⟩,
  ⟨.F, .a, .b, .c, .d, 12, 0x6b901122, 7⟩, ⟨.F, .d, .a, .b, .c, 13, 0xfd987193, 12⟩,
  ⟨.F, .c, .d, .a, .b, 14, 0xa679438e, 17⟩, ⟨.F, .b, .c, .d, .a, 15, 0x49b40821, 22⟩,
  -- Round 2
  ⟨.G, .a, .b, .c, .d, 1, 0xf61e2562, 5⟩, ⟨.G, .d, .a, .b, .c, 6, 0xc040b340, 9⟩,
  ⟨.G, .c, .d, .a, .b, 11, 0x265e5a51, 14⟩, ⟨.G, .b, .c, .d, .a, 0, 0xe9b6c7aa, 20⟩,
  ⟨.G, .a, .b, .c, .d, 5, 0xd62f105d, 5⟩, ⟨.G, .d, .a, .b, .c, 10, 0x02441453, 9⟩,
  ⟨.G, .c, .d, .a, .b, 15, 0xd8a1e681, 14⟩, ⟨.G, .b, .c, .d, .a, 4, 0xe7d3fbc8, 20⟩,
  ⟨.G, .a, .b, .c, .d, 9, 0x21e1cde6, 5⟩, ⟨.G, .d, .a, .b, .c, 14, 0xc33707d6, 9⟩,
  ⟨.G, .c, .d, .a, .b, 3, 0xf4d50d87, 14⟩, ⟨.G, .b, .c, .d, .a, 8, 0x455a14ed, 20⟩,
  ⟨.G, .a, .b, .c, .d, 13, 0xa9e3e905, 5⟩, ⟨.G, .d, .a, .b, .c, 2, 0xfcefa3f8, 9⟩,
  ⟨.G, .c, .d, .a, .b, 7, 0x676f02d9, 14⟩, ⟨.G, .b, .c, .d, .a, 12, 0x8d2a4c8a, 20⟩,
  -- Round 3
  ⟨.H, .a, .b, .c, .d, 5, 0xfffa3942, 4⟩, ⟨.H2, .d, .a, .b, .c, 8, 0x8771f681, 11⟩,
  ⟨.H, .c, .d, .a, .b, 11, 0x6d9d6122, 16⟩, ⟨.H2, .b, .c, .d, .a, 14, 0xfde5380c, 23⟩,
  ⟨.H, .a, .b, .c, .d, 1, 0xa4beea44, 4⟩, ⟨.H2, .d, .a, .b, .c, 4, 0x4bdecfa9, 11⟩,
  ⟨.H, .c, .d, .a, .b, 7, 0xf6bb4b60, 16⟩, ⟨.H2, .b, .c, .d, .a, 10, 0xbebfbc70, 23⟩,
  ⟨.H, .a, .b, .c, .d, 13, 0x289b7ec6, 4⟩, ⟨.H2, .d, .a, .b, .c, 0, 0xeaa127fa, 11⟩,
  ⟨.H, .c, .d, .a, .b, 3, 0xd4ef3085, 16⟩, ⟨.H2, .b, .c, .d, .a, 6, 0x04881d05, 23⟩,
  ⟨.H, .a, .b, .c, .d, 9, 0xd9d4d039, 4⟩, ⟨.H2, .d, .a, .b, .c, 12, 0xe6db99e5, 11⟩,
  ⟨.H, .c, .d, .a, .b, 15, 0x1fa27cf8, 16⟩, ⟨.H2, .b, .c, .d, .a, 2, 0xc4ac5665, 23⟩,
  -- Round 4
  ⟨.I, .a, .b, .c, .d, 0, 0xf4292244, 6⟩, ⟨.I, .d, .a, .b, .c, 7, 0x432aff97, 10⟩,
  ⟨.I, .c, .d, .a, .b, 14, 0xab9423a7, 15⟩, ⟨.I, .b, .c, .d, .a, 5, 0xfc93a039, 21⟩,
  ⟨.I, .a, .b, .c, .d, 12, 0x655b59c3, 6⟩, ⟨.I, .d, .a, .b, .c, 3, 0x8f0ccc92, 10⟩,
  ⟨.I, .c, .d, .a, .b, 10, 0xffeff47d, 15⟩, ⟨.I, .b, .c, .d, .a, 1, 0x85845dd1, 21⟩,
  ⟨.I, .a, .b, .c, .d, 8, 0x6fa87e4f, 6⟩, ⟨.I, .d, .a, .b, .c, 15, 0xfe2ce6e0, 10⟩,
  ⟨.I, .c, .d, .a, .b, 6, 0xa3014314, 15⟩, ⟨.I, .b, .c, .d, .a, 13, 0x4e0811a1, 21⟩,
  ⟨.I, .a, .b, .c, .d, 4, 0xf7537e82, 6⟩, ⟨.I, .d, .a, .b, .c, 11, 0xbd3af235, 10⟩,
  ⟨.I, .c, .d, .a, .b, 2, 0x2ad7d2bb, 15⟩, ⟨.I, .b, .c, .d, .a, 9, 0xeb86d391, 21⟩]

/-- `SET(n)` and `GET(n)`: the four bytes from `ptr[n * 4]` on as a word, the first byte the
least significant. -/
def word (ptr : List UInt8) (n : ℕ) : UInt32 :=
  (ptr.getD (n * 4) 0).toUInt32 ||| (ptr.getD (n * 4 + 1) 0).toUInt32 <<< 8 |||
    (ptr.getD (n * 4 + 2) 0).toUInt32 <<< 16 ||| (ptr.getD (n * 4 + 3) 0).toUInt32 <<< 24

/-- One turn of the loop of `body` on the block `blk`: the sixty-four steps, then
`a += saved_a` and the same for `b`, `c` and `d`. -/
def transform (r : Regs) (blk : List UInt8) : Regs :=
  let r' := steps.foldl (Line.run (word blk)) r
  ⟨r'.a + r.a, r'.b + r.b, r'.c + r.c, r'.d + r.d⟩

/-- The loop `do { ... } while (size -= 64)` of `body` from a `size` of `64 * (k + 1)`, which
is what every call passes: the registers after the `k + 1` blocks at `ptr`, and the data after
them, which `body` returns.  Each block is a load of 64 bytes. -/
def bodyLoop (r : Regs) (ptr : List UInt8) : ℕ → Option (Regs × List UInt8)
  | 0 => (Buf.load? ptr 0 64).map fun blk => (transform r blk, ptr.drop 64)
  | k + 1 => (Buf.load? ptr 0 64).bind fun blk => bodyLoop (transform r blk) (ptr.drop 64) k

/-- A load of a whole block at the start of a list. -/
theorem load?_block {ptr : List UInt8} (h : 64 ≤ ptr.length) :
    Buf.load? ptr 0 64 = some (ptr.take 64) := by
  rw [Buf.load?, if_pos (by omega), List.drop_zero]

/-- **The loop of `body` runs `transform` over the blocks at `ptr`**, as many as `size` says,
and returns the data after them. -/
theorem bodyLoop_eq (k : ℕ) :
    ∀ (r : Regs) (ptr : List UInt8), 64 * (k + 1) ≤ ptr.length →
      bodyLoop r ptr k = some (((blocks 64 ptr).take (k + 1)).foldl transform r,
        ptr.drop (64 * (k + 1))) := by
  induction k with
  | zero =>
    intro r ptr h
    rw [bodyLoop, load?_block (by omega), blocks_eq_cons (by decide) (by omega)]
    rfl
  | succ k ih =>
    intro r ptr h
    have hrest : 64 * (k + 1) ≤ (ptr.drop 64).length := by
      rw [List.length_drop]
      omega
    rw [bodyLoop, load?_block (by omega), Option.bind_some, ih _ _ hrest,
      blocks_eq_cons (l := ptr) (by decide) (by omega), List.take_succ_cons, List.foldl_cons,
      List.drop_drop, show 64 + 64 * (k + 1) = 64 * (k + 1 + 1) by omega]

end Md5

open Md5

/-! ### The context and the three calls -/

/-- `MD5_CTX`, with a 32-bit `MD5_u32plus` and without `block`. -/
structure Md5Ctx where
  lo : UInt32
  hi : UInt32
  a : UInt32
  b : UInt32
  c : UInt32
  d : UInt32
  buffer : List UInt8
  deriving DecidableEq, Repr

namespace Md5Ctx

/-- The registers `ctx->a` to `ctx->d`. -/
def regs (ctx : Md5Ctx) : Regs := ⟨ctx.a, ctx.b, ctx.c, ctx.d⟩

/-- The context with new registers, as `body` stores them on its way out. -/
def setRegs (ctx : Md5Ctx) (r : Regs) : Md5Ctx := { ctx with a := r.a, b := r.b, c := r.c, d := r.d }

@[simp] theorem regs_setRegs (ctx : Md5Ctx) (r : Regs) : (ctx.setRegs r).regs = r := rfl

@[simp] theorem setRegs_buffer (ctx : Md5Ctx) (r : Regs) : (ctx.setRegs r).buffer = ctx.buffer :=
  rfl

@[simp] theorem setRegs_lo (ctx : Md5Ctx) (r : Regs) : (ctx.setRegs r).lo = ctx.lo := rfl

@[simp] theorem setRegs_hi (ctx : Md5Ctx) (r : Regs) : (ctx.setRegs r).hi = ctx.hi := rfl

end Md5Ctx

/-- `body(ctx, data, size)`: the context with the registers after the blocks, and the pointer
returned. -/
def body (ctx : Md5Ctx) (data : List UInt8) (size : ℕ) : Option (Md5Ctx × List UInt8) :=
  (bodyLoop ctx.regs data (size / 64 - 1)).map fun p => (ctx.setRegs p.1, p.2)

/-- **`body` over `64 * m` bytes runs `transform` over the first `m` blocks.** -/
theorem body_eq (ctx : Md5Ctx) {data : List UInt8} {m : ℕ} (hm : 0 < m)
    (h : 64 * m ≤ data.length) :
    body ctx data (64 * m) =
      some (ctx.setRegs (((blocks 64 data).take m).foldl transform ctx.regs), data.drop (64 * m)) := by
  have hk : 64 * m / 64 - 1 + 1 = m := by omega
  rw [body, bodyLoop_eq _ _ _ (by rw [hk]; exact h), hk]
  rfl

/-- The blocks of a single block. -/
theorem blocks_block {blk : List UInt8} (hb : blk.length = 64) : blocks 64 blk = [blk] := by
  simpa [blocks_of_lt] using blocks_block_append (by decide) hb ([] : List UInt8)

/-- `body` over one block of 64 bytes. -/
theorem body_block (ctx : Md5Ctx) {blk : List UInt8} (hb : blk.length = 64) :
    body ctx blk 64 = some (ctx.setRegs (transform ctx.regs blk), []) := by
  rw [show (64 : ℕ) = 64 * 1 from rfl, body_eq ctx (by decide) (by omega), blocks_block hb,
    List.drop_eq_nil_of_le (by omega)]
  rfl

/-- `MD5_Init`: the initial registers and a count of `0`; the buffer is left as it was. -/
def md5Init (ctx : Md5Ctx) : Md5Ctx :=
  { ctx with a := 0x67452301, b := 0xefcdab89, c := 0x98badcfe, d := 0x10325476, lo := 0, hi := 0 }

/-- The end of `MD5_Update`, from `if (size >= 64)` on: the whole blocks of `data` through
`body` (`size & ~(unsigned long)0x3f` is `size / 64 * 64`), and the bytes after them copied to
the start of `ctx->buffer`. -/
def md5UpdateTail (ctx : Md5Ctx) (data : List UInt8) : Option Md5Ctx :=
  let size := data.length
  let bulk := if size ≥ 64 then body ctx data (size / 64 * 64) else some (ctx, data)
  bulk.bind fun p =>
    (Buf.store? p.1.buffer 0 (p.2.take (size &&& 0x3f))).map fun buffer => { p.1 with buffer }

/-- **The end of `MD5_Update`** runs `transform` over the whole blocks of its data, and stores
the bytes after them at the start of the buffer. -/
theorem md5UpdateTail_eq {ctx : Md5Ctx} (hb : ctx.buffer.length = 64) (data : List UInt8) :
    md5UpdateTail ctx data = some { ctx.setRegs ((blocks 64 data).foldl transform ctx.regs) with
      buffer := rest 64 data ++ ctx.buffer.drop (data.length % 64) } := by
  have hmask : data.length &&& 0x3f = data.length % 64 := Nat.and_two_pow_sub_one_eq_mod _ 6
  have hrest : (rest 64 data).length = data.length % 64 := length_rest data
  have hstore : Buf.store? ctx.buffer 0 (rest 64 data) =
      some (rest 64 data ++ ctx.buffer.drop (data.length % 64)) := by
    rw [Buf.store?_zero (by omega), hrest]
  simp only [md5UpdateTail, ge_iff_le]
  by_cases hs : 64 ≤ data.length
  · -- whole blocks go through `body`, which returns the pointer to the rest
    have hm : 0 < data.length / 64 := Nat.div_pos hs (by decide)
    rw [if_pos hs, Nat.mul_comm, body_eq ctx hm (Nat.mul_div_le _ _),
      List.take_of_length_le (by rw [length_blocks]), Option.bind_some]
    change (Buf.store? ctx.buffer 0 ((rest 64 data).take (data.length &&& 0x3f))).map _ = _
    rw [hmask, List.take_of_length_le (by rw [hrest]), hstore]
    rfl
  · -- no whole block: the data is all pending
    have hlt : data.length < 64 := by omega
    rw [rest_of_lt hlt, Nat.mod_eq_of_lt hlt] at hstore
    rw [if_neg hs, Option.bind_some, hmask, Nat.mod_eq_of_lt hlt, List.take_length, hstore,
      blocks_of_lt hlt, rest_of_lt hlt]
    rfl

/-- The first statements of `MD5_Update`: the count moved on by `size` bytes, modulo `2^29`
in `lo` with the carry and the high bits of `size` added to `hi`.  The sum `saved_lo + size` is
an `unsigned long`, whose wrap-around is below the mask `0x1fffffff`'s notice. -/
def md5Count (ctx : Md5Ctx) (size : ℕ) : Md5Ctx :=
  let saved_lo := ctx.lo
  let lo := ((saved_lo.toNat + size) &&& 0x1fffffff).toUInt32
  let hi := if lo < saved_lo then ctx.hi + 1 else ctx.hi
  { ctx with lo, hi := hi + (size >>> 29).toUInt32 }

/-- `MD5_Update(ctx, data, size)`, with `size` the length of `data`; `used` is taken from
`saved_lo`, the count before the call. -/
def md5Update? (ctx : Md5Ctx) (data : List UInt8) : Option Md5Ctx :=
  let size := data.length
  let used := (ctx.lo &&& 0x3f).toNat
  let ctx := md5Count ctx size
  if used ≠ 0 then
    let available := 64 - used
    if size < available then
      (Buf.store? ctx.buffer used data).map fun buffer => { ctx with buffer }
    else
      -- fill the buffered block and run it, then go on with the rest of the data
      (Buf.store? ctx.buffer used (data.take available)).bind fun buffer =>
        (body { ctx with buffer } buffer 64).bind fun p => md5UpdateTail p.1 (data.drop available)
  else md5UpdateTail ctx data

/-- The four bytes of a word, the least significant first, as `MD5_Final` stores the count and
writes out the registers (`ctx->buffer[56] = ctx->lo; ctx->buffer[57] = ctx->lo >> 8; ...`). -/
def leBytes (x : UInt32) : List UInt8 :=
  [x.toUInt8, (x >>> 8).toUInt8, (x >>> 16).toUInt8, (x >>> 24).toUInt8]

/-- The context `memset(ctx, 0, sizeof(*ctx))` leaves. -/
def md5Zero : Md5Ctx := ⟨0, 0, 0, 0, 0, 0, List.replicate 64 0⟩

/-- The end of `MD5_Final`, from `memset(&ctx->buffer[used], 0, available - 8)` on: zeros up
to byte 56, the count in bits and `hi` after them, the last block through `body`, and the
registers written out. -/
def md5FinalTail (ctx : Md5Ctx) (used available : ℕ) : Option (List UInt8 × Md5Ctx) :=
  (Buf.store? ctx.buffer used (List.replicate (available - 8) 0)).bind fun buffer =>
  let lo := ctx.lo <<< 3
  (Buf.store? buffer 56 (leBytes lo ++ leBytes ctx.hi)).bind fun buffer =>
  (body { ctx with lo, buffer } buffer 64).map fun p =>
  (leBytes p.1.a ++ leBytes p.1.b ++ leBytes p.1.c ++ leBytes p.1.d, md5Zero)

/-- `MD5_Final(result, ctx)`: the sixteen bytes of `result`, and the context it clears. -/
def md5Final? (ctx : Md5Ctx) : Option (List UInt8 × Md5Ctx) :=
  let used := (ctx.lo &&& 0x3f).toNat
  (Buf.store? ctx.buffer used [0x80]).bind fun buffer =>
  let ctx := { ctx with buffer }
  let used := used + 1
  let available := 64 - used
  if available < 8 then
    -- no room left for the count: zeros to the end of this block, which `body` runs
    (Buf.store? ctx.buffer used (List.replicate available 0)).bind fun buffer =>
      (body { ctx with buffer } buffer 64).bind fun p => md5FinalTail p.1 0 64
  else md5FinalTail ctx used available

/-- `digest_get(data, len, result)`: `ctx` is the `MD5_CTX` on its stack, which `MD5_Init`
does not clear. -/
def digestGet? (ctx : Md5Ctx) (data : List UInt8) : Option (List UInt8) :=
  ((md5Update? (md5Init ctx) data).bind md5Final?).map Prod.fst

end OpenElp
