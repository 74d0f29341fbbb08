import OpenElp.Md5.Refine

/-!
# `MD5_Update` and `MD5_Final` refine RFC 1321

A context is seen as the whole-block absorber it implements (`Md5Ctx.absorber`): the registers
are the state after the whole blocks so far, and the first `lo % 64` bytes of the buffer are
the bytes after them.  `lo` and `hi` together count the bytes modulo `2^61` (`Md5Ctx.count`).
From every context whose buffer is the 64 bytes of `MD5_CTX` and whose `lo` is below `2^29`
(`Md5Ctx.Valid`), whatever else it holds:

* `md5Update?_spec` : `MD5_Update` stays inside the buffer, takes its data into the absorber
  and adds its size to the count;
* `md5Final?_spec` : `MD5_Final` stays inside the buffer and writes out the RFC's digest of what
  the absorber holds, padded after the count;
* `md5_stream` : **`MD5_Init`, `MD5_Update` over any chunks, one after the other, and
  `MD5_Final` give the MD5 of RFC 1321 of the chunks together**, whatever the context held
  before `MD5_Init`; so `digest_get` gives it too.
-/

namespace OpenElp

open Md5

namespace Md5Ctx

/-- The absorber a context implements: the registers, and the bytes of the buffer that the
count says are pending. -/
def absorber (ctx : Md5Ctx) : Absorber Regs UInt8 64 :=
  ⟨ctx.regs, ctx.buffer.take (ctx.lo.toNat % 64), by
    rw [List.length_take]
    exact lt_of_le_of_lt (Nat.min_le_left _ _) (Nat.mod_lt _ (by decide))⟩

/-- The bytes counted: `lo` holds the low 29 bits, `hi` the rest. -/
def count (ctx : Md5Ctx) : ℕ := ctx.lo.toNat + 2 ^ 29 * ctx.hi.toNat

/-- What every context the code makes keeps: the 64 bytes of `buffer`, and `lo` below `2^29`. -/
structure Valid (ctx : Md5Ctx) : Prop where
  buffer : ctx.buffer.length = 64
  lo : ctx.lo.toNat < 2 ^ 29

end Md5Ctx

/-! ### The count -/

theorem and_0x3f (x : ℕ) : x &&& 0x3f = x % 64 := Nat.and_two_pow_sub_one_eq_mod x 6

theorem and_0x1fffffff (x : ℕ) : x &&& 0x1fffffff = x % 2 ^ 29 :=
  Nat.and_two_pow_sub_one_eq_mod x 29

theorem md5Count_lo (ctx : Md5Ctx) (size : ℕ) :
    (md5Count ctx size).lo.toNat = (ctx.lo.toNat + size) % 2 ^ 29 := by
  simp only [md5Count, and_0x1fffffff, Nat.toUInt32_eq, UInt32.toNat_ofNat']
  omega

/-- **The count of `MD5_Update`**: `lo` takes the sum modulo `2^29`, and the test `lo < saved_lo`
is the carry out of it, which `hi` adds with the bits of `size` from 29 up; so the count moves
on by `size`, modulo `2^61`. -/
theorem md5Count_count {ctx : Md5Ctx} (hlo : ctx.lo.toNat < 2 ^ 29) (size : ℕ) :
    (md5Count ctx size).count = (ctx.count + size) % 2 ^ 61 := by
  have hlo' := md5Count_lo ctx size
  -- the carry out of the low 29 bits
  have hcarry : (md5Count ctx size).lo < ctx.lo ↔ 2 ^ 29 ≤ ctx.lo.toNat + size % 2 ^ 29 := by
    rw [UInt32.lt_iff_toNat_lt, hlo']
    omega
  have hhi : (md5Count ctx size).hi.toNat = (ctx.hi.toNat +
      (if 2 ^ 29 ≤ ctx.lo.toNat + size % 2 ^ 29 then 1 else 0) + size / 2 ^ 29) % 2 ^ 32 := by
    have hhi₀ : (md5Count ctx size).hi = (if (md5Count ctx size).lo < ctx.lo then ctx.hi + 1
        else ctx.hi) + (size >>> 29).toUInt32 := rfl
    rw [hhi₀]
    by_cases hc : 2 ^ 29 ≤ ctx.lo.toNat + size % 2 ^ 29
    · rw [if_pos (hcarry.2 hc), if_pos hc]
      simp only [UInt32.toNat_add, Nat.toUInt32_eq, UInt32.toNat_ofNat', UInt32.toNat_one,
        Nat.shiftRight_eq_div_pow]
      omega
    · rw [if_neg (mt hcarry.1 hc), if_neg hc]
      simp only [UInt32.toNat_add, Nat.toUInt32_eq, UInt32.toNat_ofNat', Nat.shiftRight_eq_div_pow]
      omega
  rw [Md5Ctx.count, Md5Ctx.count, hlo', hhi]
  split_ifs <;> omega

/-! ### `MD5_Update`, branch by branch -/

section Update

variable {ctx : Md5Ctx} {data : List UInt8}

theorem used_eq (ctx : Md5Ctx) : (ctx.lo &&& 0x3f).toNat = ctx.lo.toNat % 64 := by
  rw [UInt32.toNat_and]
  exact and_0x3f _

/-- Nothing buffered: straight to the end of `MD5_Update`. -/
theorem md5Update?_of_used_zero (hu : ctx.lo.toNat % 64 = 0) :
    md5Update? ctx data = md5UpdateTail (md5Count ctx data.length) data := by
  simp only [md5Update?, used_eq, hu, ne_eq, not_true_eq_false, if_false]

/-- Too little to fill the buffered block: the data joins the buffered bytes. -/
theorem md5Update?_of_lt (hb : ctx.buffer.length = 64) (hu : ctx.lo.toNat % 64 ≠ 0)
    (hs : data.length < 64 - ctx.lo.toNat % 64) :
    md5Update? ctx data = some { md5Count ctx data.length with
      buffer := ctx.buffer.take (ctx.lo.toNat % 64) ++ data ++
        ctx.buffer.drop (ctx.lo.toNat % 64 + data.length) } := by
  simp only [md5Update?, used_eq, ne_eq, hu, not_false_eq_true, if_true, if_pos hs]
  rw [Buf.store?_eq_some (by change _ ≤ ctx.buffer.length; omega)]
  rfl

/-- Enough to fill the buffered block: it goes through `body`, and the rest of the data to the
end of `MD5_Update`. -/
theorem md5Update?_of_ge (hb : ctx.buffer.length = 64) (hu : ctx.lo.toNat % 64 ≠ 0)
    (hs : 64 - ctx.lo.toNat % 64 ≤ data.length) :
    let blk := ctx.buffer.take (ctx.lo.toNat % 64) ++ data.take (64 - ctx.lo.toNat % 64)
    md5Update? ctx data = md5UpdateTail
      ({ md5Count ctx data.length with buffer := blk }.setRegs (transform ctx.regs blk))
      (data.drop (64 - ctx.lo.toNat % 64)) := by
  intro blk
  have hu64 : ctx.lo.toNat % 64 < 64 := Nat.mod_lt _ (by decide)
  have hblk : blk.length = 64 := by
    simp only [blk, List.length_append, List.length_take]
    omega
  have hstore : Buf.store? ctx.buffer (ctx.lo.toNat % 64) (data.take (64 - ctx.lo.toNat % 64)) =
      some blk := by
    rw [Buf.store?_eq_some (by rw [List.length_take]; omega),
      List.drop_eq_nil_of_le (by rw [List.length_take]; omega), List.append_nil]
  simp only [md5Update?, used_eq, ne_eq, hu, not_false_eq_true, if_true, if_neg (not_lt.2 hs)]
  change (Buf.store? ctx.buffer _ _).bind _ = _
  rw [hstore, Option.bind_some, body_block _ hblk, Option.bind_some]
  rfl

/-- A context implements the absorber `A` when its registers are `A`'s state and its pending
bytes are `A`'s. -/
theorem absorber_eq {A : Absorber Regs UInt8 64} (hs : ctx.regs = A.state)
    (hp : ctx.buffer.take (ctx.lo.toNat % 64) = A.pending) : ctx.absorber = A :=
  Absorber.ext hs hp

/-- **`MD5_Update` takes its data into the absorber and its size into the count**, from every
valid context, and stays inside the buffer. -/
theorem md5Update?_spec (hv : ctx.Valid) (data : List UInt8) :
    ∃ ctx', md5Update? ctx data = some ctx' ∧ ctx'.Valid ∧
      ctx'.absorber = ctx.absorber.absorb transform data ∧
      ctx'.count = (ctx.count + data.length) % 2 ^ 61 := by
  obtain ⟨hb, hlo⟩ := hv
  have hcount := md5Count_count hlo data.length
  have hclo := md5Count_lo ctx data.length
  have hlo' : (md5Count ctx data.length).lo.toNat < 2 ^ 29 := by
    rw [hclo]
    exact Nat.mod_lt _ (by decide)
  -- the bytes pending after the call
  have hpend : (md5Count ctx data.length).lo.toNat % 64 = (ctx.lo.toNat % 64 + data.length) % 64 := by
    rw [hclo]
    omega
  have hu64 : ctx.lo.toNat % 64 < 64 := Nat.mod_lt _ (by decide)
  have hp : (ctx.buffer.take (ctx.lo.toNat % 64)).length = ctx.lo.toNat % 64 := by
    rw [List.length_take]
    omega
  by_cases h0 : ctx.lo.toNat % 64 = 0
  · -- nothing buffered: the data's own blocks
    rw [md5Update?_of_used_zero h0, @md5UpdateTail_eq (md5Count ctx data.length) hb data]
    refine ⟨_, rfl, ⟨?_, hlo'⟩, absorber_eq ?_ ?_, hcount⟩
    · change (rest 64 data ++ ctx.buffer.drop _).length = 64
      rw [List.length_append, length_rest, List.length_drop]
      omega
    · simp only [Md5Ctx.absorber, Absorber.absorb_state, h0, List.take_zero, List.nil_append]
      rfl
    · change (rest 64 data ++ ctx.buffer.drop _).take ((md5Count ctx data.length).lo.toNat % 64) = _
      rw [hpend, h0, Nat.zero_add, List.take_left' (length_rest data)]
      simp [Md5Ctx.absorber, h0]
  by_cases hs : data.length < 64 - ctx.lo.toNat % 64
  · -- the data joins the buffered bytes, short of a block
    rw [md5Update?_of_lt hb h0 hs]
    have hshort : (ctx.buffer.take (ctx.lo.toNat % 64) ++ data).length < 64 := by
      rw [List.length_append, hp]
      omega
    refine ⟨_, rfl, ⟨?_, hlo'⟩, absorber_eq ?_ ?_, hcount⟩
    · change (ctx.buffer.take _ ++ data ++ ctx.buffer.drop _).length = 64
      simp only [List.length_append, List.length_take, List.length_drop]
      omega
    · simp [Md5Ctx.absorber, blocks_of_lt hshort]
      rfl
    · change (ctx.buffer.take _ ++ data ++ ctx.buffer.drop _).take
        ((md5Count ctx data.length).lo.toNat % 64) = _
      rw [hpend, Nat.mod_eq_of_lt (by omega), List.take_left' (by rw [List.length_append, hp])]
      simp [Md5Ctx.absorber, rest_of_lt hshort]
  · -- the buffered block is filled and runs, then the rest of the data
    rw [md5Update?_of_ge hb h0 (by omega)]
    set blk := ctx.buffer.take (ctx.lo.toNat % 64) ++ data.take (64 - ctx.lo.toNat % 64) with hblk
    have hblk64 : blk.length = 64 := by
      rw [hblk, List.length_append, hp, List.length_take]
      omega
    have hsplit : ctx.buffer.take (ctx.lo.toNat % 64) ++ data =
        blk ++ data.drop (64 - ctx.lo.toNat % 64) := by
      rw [hblk, List.append_assoc, List.take_append_drop]
    rw [md5UpdateTail_eq hblk64]
    refine ⟨_, rfl, ⟨?_, hlo'⟩, absorber_eq ?_ ?_, hcount⟩
    · change (rest 64 _ ++ blk.drop _).length = 64
      simp only [List.length_append, length_rest, List.length_drop, hblk64]
      omega
    · simp only [Md5Ctx.absorber, Absorber.absorb_state, hsplit, blocks_block_append (by decide)
        hblk64, List.foldl_cons, Md5Ctx.regs_setRegs]
      rfl
    · change (rest 64 _ ++ blk.drop _).take ((md5Count ctx data.length).lo.toNat % 64) = _
      have hlen : (ctx.lo.toNat % 64 + data.length) % 64 =
          (data.drop (64 - ctx.lo.toNat % 64)).length % 64 := by
        rw [List.length_drop]
        omega
      rw [hpend, hlen, List.take_left' (length_rest _)]
      simp only [Md5Ctx.absorber, Absorber.absorb_pending, hsplit,
        rest_block_append (by decide) hblk64]

end Update

/-! ### The bytes of the count and of the digest -/

/-- The four bytes `MD5_Final` stores of a word are its four low-order bytes. -/
@[simp] theorem length_leBytes (x : UInt32) : (leBytes x).length = 4 := rfl

theorem leBytes_eq (x : UInt32) : leBytes x = Rfc1321.lowBytes 4 x.toNat := by
  have hx := x.toNat_lt
  simp only [leBytes, Rfc1321.lowBytes, List.range_succ, List.range_zero, List.nil_append,
    List.map_cons, List.map_nil, List.cons_append, List.cons.injEq, and_true]
  refine ⟨?_, ?_, ?_, ?_⟩ <;> apply UInt8.toNat_inj.1 <;>
    simp [UInt32.toNat_toUInt8, UInt32.toNat_shiftRight, Nat.shiftRight_eq_div_pow]

/-- Eight low-order bytes are four, and four more of what is above `2^32`. -/
theorem lowBytes_eight (n : ℕ) :
    Rfc1321.lowBytes 8 n = Rfc1321.lowBytes 4 (n % 2 ^ 32) ++ Rfc1321.lowBytes 4 (n / 2 ^ 32) := by
  simp only [Rfc1321.lowBytes, List.range_succ, List.range_zero, List.nil_append,
    List.map_cons, List.map_nil, List.cons_append, List.cons.injEq, and_true]
  refine ⟨?_, ?_, ?_, ?_, ?_, ?_, ?_, ?_⟩ <;> apply UInt8.toNat_inj.1 <;> simp <;> omega

/-- **The length `MD5_Final` stores**, `lo << 3` and then `hi`, is the count in bits modulo
`2^64`, low-order byte first. -/
theorem leBytes_count {ctx : Md5Ctx} (hlo : ctx.lo.toNat < 2 ^ 29) :
    leBytes (ctx.lo <<< 3) ++ leBytes ctx.hi = Rfc1321.lowBytes 8 (8 * ctx.count) := by
  have hhi := ctx.hi.toNat_lt
  have hshift : (ctx.lo <<< 3).toNat = 8 * ctx.lo.toNat := by
    rw [UInt32.toNat_shiftLeft]
    simp only [UInt32.reduceToNat, Nat.reduceMod, Nat.shiftLeft_eq]
    omega
  rw [leBytes_eq, leBytes_eq, lowBytes_eight, hshift, Md5Ctx.count]
  congr 2 <;> omega

/-- A count modulo `2^61` pads as the count itself: the length in bits is taken modulo `2^64`. -/
theorem padding_mod (n : ℕ) : Rfc1321.padding (n % 2 ^ 61) = Rfc1321.padding n := by
  have hlow : Rfc1321.lowBytes 8 (8 * (n % 2 ^ 61)) = Rfc1321.lowBytes 8 (8 * n) := by
    simp only [Rfc1321.lowBytes, List.range_succ, List.range_zero, List.nil_append,
      List.map_cons, List.map_nil, List.cons_append, List.cons.injEq, and_true]
    refine ⟨?_, ?_, ?_, ?_, ?_, ?_, ?_, ?_⟩ <;> apply UInt8.toNat_inj.1 <;> simp <;> omega
  rw [Rfc1321.padding, Rfc1321.padding, hlow, Nat.mod_mod_of_dvd _ (by norm_num)]

/-- The registers as `MD5_Final` writes them out are the RFC's digest of them. -/
theorem output_eq (r : Regs) :
    leBytes r.a ++ leBytes r.b ++ leBytes r.c ++ leBytes r.d = Rfc1321.output r := by
  rw [Rfc1321.output, leBytes_eq, leBytes_eq, leBytes_eq, leBytes_eq]

/-! ### `MD5_Final`, branch by branch -/

section Final

variable {ctx : Md5Ctx}

/-- The end of `MD5_Final` runs the last block: the bytes before `used`, zeros to byte 56, and the
count. -/
theorem md5FinalTail_eq (hb : ctx.buffer.length = 64) {used available : ℕ}
    (h : used + available = 64) (h8 : 8 ≤ available) :
    md5FinalTail ctx used available = some (Rfc1321.output (transform ctx.regs
      (ctx.buffer.take used ++ List.replicate (available - 8) (0 : UInt8) ++
        leBytes (ctx.lo <<< 3) ++ leBytes ctx.hi)), md5Zero) := by
  set zeros := List.replicate (available - 8) (0 : UInt8)
  have hz : zeros.length = available - 8 := List.length_replicate
  have hhead : (ctx.buffer.take used ++ zeros).length = 56 := by
    rw [List.length_append, List.length_take, hz]
    omega
  have hstore₁ : Buf.store? ctx.buffer used zeros =
      some (ctx.buffer.take used ++ zeros ++ ctx.buffer.drop 56) := by
    rw [Buf.store?_eq_some (by omega), hz, show used + (available - 8) = 56 by omega]
  have hlen : (leBytes (ctx.lo <<< 3) ++ leBytes ctx.hi).length = 8 := rfl
  -- the count over bytes 56 to 63, the end of the buffer
  have hstore₂ : Buf.store? (ctx.buffer.take used ++ zeros ++ ctx.buffer.drop 56) 56
      (leBytes (ctx.lo <<< 3) ++ leBytes ctx.hi) =
      some (ctx.buffer.take used ++ zeros ++ (leBytes (ctx.lo <<< 3) ++ leBytes ctx.hi)) := by
    rw [Buf.store?_eq_some (by simp only [List.length_append, List.length_drop, hhead, hlen]; omega),
      List.append_assoc, List.take_left' hhead, List.drop_eq_nil_of_le (by
        simp only [List.length_append, List.length_drop, hhead, hlen]; omega), List.append_nil]
  have hblk : (ctx.buffer.take used ++ zeros ++ (leBytes (ctx.lo <<< 3) ++ leBytes ctx.hi)).length =
      64 := by
    rw [List.length_append, hhead, hlen]
  simp only [md5FinalTail]
  rw [hstore₁, Option.bind_some, hstore₂, Option.bind_some, body_block _ hblk, Option.map_some,
    ← output_eq, ← List.append_assoc]
  rfl

theorem take_succ_store {b : List UInt8} {u : ℕ} (hu : u < b.length) (v : UInt8) :
    (b.take u ++ [v] ++ b.drop (u + 1)).take (u + 1) = b.take u ++ [v] :=
  List.take_left' (by simp only [List.length_append, List.length_take, List.length_singleton]; omega)

/-- Room for the count after the marker: one last block. -/
theorem md5Final?_of_le (hb : ctx.buffer.length = 64) (hu : ctx.lo.toNat % 64 ≤ 55) :
    md5Final? ctx = some (Rfc1321.output (transform ctx.regs
      (ctx.buffer.take (ctx.lo.toNat % 64) ++ ([0x80] : List UInt8) ++
        List.replicate (55 - ctx.lo.toNat % 64) (0 : UInt8) ++ leBytes (ctx.lo <<< 3) ++
        leBytes ctx.hi)),
      md5Zero) := by
  have hstore : Buf.store? ctx.buffer (ctx.lo.toNat % 64) [0x80] =
      some (ctx.buffer.take (ctx.lo.toNat % 64) ++ [0x80] ++ ctx.buffer.drop (ctx.lo.toNat % 64 + 1)) :=
    Buf.store?_eq_some (by simp only [List.length_singleton]; omega)
  simp only [md5Final?, used_eq]
  rw [hstore, Option.bind_some, if_neg (by omega)]
  rw [md5FinalTail_eq (by simp only [List.length_append, List.length_take, List.length_drop,
    List.length_singleton]; omega) (by omega) (by omega)]
  change some (Rfc1321.output (transform ctx.regs (_ ++ _ ++ leBytes (ctx.lo <<< 3) ++
    leBytes ctx.hi)), md5Zero) = _
  rw [take_succ_store (by omega), show 64 - (ctx.lo.toNat % 64 + 1) - 8 = 55 - ctx.lo.toNat % 64 by
    omega]

/-- No room for the count after the marker: the block is padded with zeros and runs, and a block
of zeros and the count follows. -/
theorem md5Final?_of_ge (hb : ctx.buffer.length = 64) (hu : 56 ≤ ctx.lo.toNat % 64) :
    md5Final? ctx = some (Rfc1321.output (transform (transform ctx.regs
      (ctx.buffer.take (ctx.lo.toNat % 64) ++ ([0x80] : List UInt8) ++
        List.replicate (63 - ctx.lo.toNat % 64) (0 : UInt8)))
      (List.replicate 56 (0 : UInt8) ++ leBytes (ctx.lo <<< 3) ++ leBytes ctx.hi)), md5Zero) := by
  have hu64 : ctx.lo.toNat % 64 < 64 := Nat.mod_lt _ (by decide)
  set blk := ctx.buffer.take (ctx.lo.toNat % 64) ++ ([0x80] : List UInt8) ++
    List.replicate (63 - ctx.lo.toNat % 64) (0 : UInt8) with hblk
  have hblk64 : blk.length = 64 := by
    simp only [hblk, List.length_append, List.length_take, List.length_singleton,
      List.length_replicate]
    omega
  have hstore : Buf.store? ctx.buffer (ctx.lo.toNat % 64) [0x80] =
      some (ctx.buffer.take (ctx.lo.toNat % 64) ++ [0x80] ++ ctx.buffer.drop (ctx.lo.toNat % 64 + 1)) :=
    Buf.store?_eq_some (by simp only [List.length_singleton]; omega)
  -- zeros to the end of the block
  have hstore₀ : Buf.store? (ctx.buffer.take (ctx.lo.toNat % 64) ++ [0x80] ++
      ctx.buffer.drop (ctx.lo.toNat % 64 + 1)) (ctx.lo.toNat % 64 + 1)
      (List.replicate (64 - (ctx.lo.toNat % 64 + 1)) 0) = some blk := by
    rw [Buf.store?_eq_some (by simp only [List.length_append, List.length_take, List.length_drop,
      List.length_singleton, List.length_replicate]; omega), take_succ_store (by omega),
      List.drop_eq_nil_of_le (by simp only [List.length_append, List.length_take,
        List.length_drop, List.length_singleton, List.length_replicate]; omega), List.append_nil,
      show 64 - (ctx.lo.toNat % 64 + 1) = 63 - ctx.lo.toNat % 64 by omega]
  simp only [md5Final?, used_eq]
  rw [hstore, Option.bind_some, if_pos (by omega), hstore₀, Option.bind_some, body_block _ hblk64,
    Option.bind_some]
  -- the block of zeros and the count, after the block that has run
  have hregs : ({ ctx with buffer := blk } : Md5Ctx).regs = ctx.regs := rfl
  have htail := @md5FinalTail_eq ({ ctx with buffer := blk }.setRegs
    (transform { ctx with buffer := blk }.regs blk)) hblk64 0 64 rfl (by decide)
  dsimp only
  -- the sides have to agree term for term before `rfl`: a mismatch would unfold `transform`
  rw [htail, Md5Ctx.regs_setRegs, Md5Ctx.setRegs_buffer, Md5Ctx.setRegs_lo, Md5Ctx.setRegs_hi, hregs,
    List.take_zero, List.nil_append]

/-- **`MD5_Final` writes out the RFC's digest of what the absorber holds**, padded after the
count, from every valid context, and stays inside the buffer. -/
theorem md5Final?_spec (hv : ctx.Valid) :
    md5Final? ctx = some (Rfc1321.output ((blocks 64 (ctx.absorber.pending ++
      Rfc1321.padding ctx.count)).foldl transform ctx.absorber.state), md5Zero) := by
  obtain ⟨hb, hlo⟩ := hv
  have hu : ctx.count % 64 = ctx.lo.toNat % 64 := by
    rw [Md5Ctx.count]
    omega
  have hp : (ctx.buffer.take (ctx.lo.toNat % 64)).length = ctx.lo.toNat % 64 := by
    rw [List.length_take]
    omega
  have hpad : Rfc1321.padding ctx.count = (0x80 : UInt8) ::
      List.replicate ((119 - ctx.lo.toNat % 64) % 64) (0 : UInt8) ++
      (leBytes (ctx.lo <<< 3) ++ leBytes ctx.hi) := by
    rw [Rfc1321.padding, hu, leBytes_count hlo]
  change _ = some (Rfc1321.output ((blocks 64 (ctx.buffer.take (ctx.lo.toNat % 64) ++
    Rfc1321.padding ctx.count)).foldl transform ctx.regs), md5Zero)
  rw [hpad]
  by_cases hle : ctx.lo.toNat % 64 ≤ 55
  · -- one block holds the pending bytes, the marker, the zeros and the count
    set B := ctx.buffer.take (ctx.lo.toNat % 64) ++ ([0x80] : List UInt8) ++
      List.replicate (55 - ctx.lo.toNat % 64) (0 : UInt8) ++ leBytes (ctx.lo <<< 3) ++
      leBytes ctx.hi with hB
    have hlist : ctx.buffer.take (ctx.lo.toNat % 64) ++ ((0x80 : UInt8) :: List.replicate
        ((119 - ctx.lo.toNat % 64) % 64) (0 : UInt8) ++ (leBytes (ctx.lo <<< 3) ++ leBytes ctx.hi)) = B := by
      rw [show (119 - ctx.lo.toNat % 64) % 64 = 55 - ctx.lo.toNat % 64 by omega, hB]
      simp only [List.append_assoc, List.cons_append, List.nil_append]
    have hB64 : B.length = 64 := by
      simp only [hB, List.length_append, hp, List.length_singleton, List.length_replicate,
        length_leBytes]
      omega
    rw [md5Final?_of_le hb hle, hlist, blocks_block hB64, List.foldl_cons, List.foldl_nil]
  · -- the marker and zeros end one block, zeros and the count make the next
    set B₁ := ctx.buffer.take (ctx.lo.toNat % 64) ++ ([0x80] : List UInt8) ++
      List.replicate (63 - ctx.lo.toNat % 64) (0 : UInt8) with hB₁
    set B₂ := List.replicate 56 (0 : UInt8) ++ leBytes (ctx.lo <<< 3) ++ leBytes ctx.hi with hB₂
    have hlist : ctx.buffer.take (ctx.lo.toNat % 64) ++ ((0x80 : UInt8) :: List.replicate
        ((119 - ctx.lo.toNat % 64) % 64) (0 : UInt8) ++ (leBytes (ctx.lo <<< 3) ++ leBytes ctx.hi)) =
        B₁ ++ B₂ := by
      rw [show (119 - ctx.lo.toNat % 64) % 64 = 63 - ctx.lo.toNat % 64 + 56 by omega,
        List.replicate_add, hB₁, hB₂]
      simp only [List.append_assoc, List.cons_append, List.nil_append]
    have hB₁64 : B₁.length = 64 := by
      simp only [hB₁, List.length_append, hp, List.length_singleton, List.length_replicate]
      omega
    have hB₂64 : B₂.length = 64 := rfl
    rw [md5Final?_of_ge hb (by omega), hlist, blocks_block_append (by decide) hB₁64,
      blocks_block hB₂64, List.foldl_cons, List.foldl_cons, List.foldl_nil]

end Final

/-! ### A stream of calls -/

section Stream

theorem Md5Ctx.count_lt {ctx : Md5Ctx} (hlo : ctx.lo.toNat < 2 ^ 29) : ctx.count < 2 ^ 61 := by
  have hhi := ctx.hi.toNat_lt
  rw [Md5Ctx.count]
  omega

/-- `MD5_Init` leaves a valid context whatever the buffer holds, as long as it is the 64 bytes
of `MD5_CTX`. -/
theorem md5Init_valid {ctx : Md5Ctx} (hb : ctx.buffer.length = 64) : (md5Init ctx).Valid :=
  ⟨hb, show (0 : UInt32).toNat < 2 ^ 29 by decide⟩

/-- After `MD5_Init` nothing is pending: the bytes left in the buffer are never read. -/
theorem absorber_md5Init (ctx : Md5Ctx) : (md5Init ctx).absorber = Absorber.empty Rfc1321.init :=
  Absorber.ext rfl rfl

theorem count_md5Init (ctx : Md5Ctx) : (md5Init ctx).count = 0 := rfl

/-- **`MD5_Update` over chunks, one call after the other**, from every valid context: no call
leaves the buffer, and the context implements the absorber that has taken the chunks in
together, and counts their bytes. -/
theorem md5Update?_foldlM (chunks : List (List UInt8)) {ctx : Md5Ctx} (hv : ctx.Valid) :
    ∃ ctx', chunks.foldlM md5Update? ctx = some ctx' ∧ ctx'.Valid ∧
      ctx'.absorber = ctx.absorber.absorb transform chunks.flatten ∧
      ctx'.count = (ctx.count + chunks.flatten.length) % 2 ^ 61 := by
  -- on the chunks; `md5Update?_spec` is the step, `Absorber.absorb_append` joins the chunks
  induction chunks generalizing ctx with
  | nil =>
    refine ⟨ctx, rfl, hv, (Absorber.absorb_nil _).symm, ?_⟩
    rw [List.flatten_nil, List.length_nil, Nat.add_zero, Nat.mod_eq_of_lt (Md5Ctx.count_lt hv.lo)]
  | cons xs chunks ih =>
    obtain ⟨ctx₁, h₁, hv₁, ha₁, hc₁⟩ := md5Update?_spec hv xs
    obtain ⟨ctx', h', hv', ha', hc'⟩ := ih hv₁
    refine ⟨ctx', ?_, hv', ?_, ?_⟩
    · rw [List.foldlM_cons, h₁]
      exact h'
    · rw [ha', ha₁, Absorber.absorb_append, List.flatten_cons]
    · rw [hc', hc₁, Nat.mod_add_mod, List.flatten_cons, List.length_append, Nat.add_assoc]

/-- The blocks `MD5_Final` runs after those of the calls are the blocks of the message padded. -/
theorem md5Final?_of_absorb {ctx : Md5Ctx} (hv : ctx.Valid) {m : List UInt8}
    (ha : ctx.absorber = (Absorber.empty Rfc1321.init).absorb transform m)
    (hc : ctx.count = m.length % 2 ^ 61) :
    md5Final? ctx = some (Rfc1321.md5 m, md5Zero) := by
  have hcompress : transform = fun r blk => Rfc1321.compress r (Rfc1321.blockWord blk) :=
    funext fun r => funext (transform_eq_compress r)
  rw [md5Final?_spec hv, ha, hc, padding_mod]
  simp only [Absorber.absorb_pending, Absorber.absorb_state, Absorber.empty_pending,
    Absorber.empty_state, List.nil_append]
  rw [← List.foldl_append, ← blocks_append (by decide), Rfc1321.md5, hcompress]

/-- **`MD5_Init`, `MD5_Update` over any chunks one after the other, and `MD5_Final` give the MD5
of RFC 1321 of the chunks together**, whatever the context held before, and `MD5_Final` leaves
it cleared. -/
theorem md5_stream {ctx : Md5Ctx} (hb : ctx.buffer.length = 64) (chunks : List (List UInt8)) :
    (chunks.foldlM md5Update? (md5Init ctx)).bind md5Final? =
      some (Rfc1321.md5 chunks.flatten, md5Zero) := by
  obtain ⟨ctx', hrun, hv', ha, hc⟩ := md5Update?_foldlM chunks (md5Init_valid hb)
  rw [absorber_md5Init] at ha
  rw [count_md5Init, Nat.zero_add] at hc
  rw [hrun, Option.bind_some, md5Final?_of_absorb hv' ha hc]

theorem md5_stream_thequickbrownfox : md5Zero.buffer.length = 64 ∧
    (([[116, 104, 101], [113, 117, 105, 99, 107], [98, 114, 111, 119, 110, 102, 111, 120]] :
      List (List UInt8)).foldlM md5Update? (md5Init md5Zero)).bind md5Final? =
      some (Rfc1321.md5 [116, 104, 101, 113, 117, 105, 99, 107, 98, 114, 111, 119, 110, 102, 111,
        120], md5Zero) :=
  ⟨rfl, md5_stream rfl _⟩

/-- **`digest_get` computes the MD5 of RFC 1321** of every input, whatever its stack held. -/
theorem digestGet?_eq_md5 {ctx : Md5Ctx} (hb : ctx.buffer.length = 64) (data : List UInt8) :
    digestGet? ctx data = some (Rfc1321.md5 data) := by
  obtain ⟨ctx', h, hv', ha, hc⟩ := md5Update?_spec (md5Init_valid hb) data
  rw [absorber_md5Init] at ha
  rw [count_md5Init, Nat.zero_add] at hc
  rw [digestGet?, h, Option.bind_some, md5Final?_of_absorb hv' ha hc, Option.map_some]

/-- The challenge of `test_md5.c`, `"thequickbrownfox"`, and its digest. -/
example : digestGet? md5Zero [116, 104, 101, 113, 117, 105, 99, 107, 98, 114, 111, 119, 110, 102,
    111, 120] = some [0x30, 0x8f, 0xb7, 0x6d, 0xc4, 0xd7, 0x30, 0x36, 0x0e, 0xe3, 0x39, 0x32, 0xd2,
    0xfb, 0x10, 0x56] := by
  decide +kernel

theorem digestGet?_eq_md5_md5Zero : md5Zero.buffer.length = 64 ∧
    digestGet? md5Zero [97, 98, 99] = some (Rfc1321.md5 [97, 98, 99]) :=
  ⟨rfl, digestGet?_eq_md5 rfl _⟩

end Stream

end OpenElp
