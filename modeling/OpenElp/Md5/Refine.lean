import OpenElp.Data.Table
import OpenElp.Md5.Rfc

/-!
# `body` computes the rounds of RFC 1321

`md5.c` writes the four rounds out as sixty-four `STEP`s, with `F` and `G` rewritten so that
they need no AND-NOT, `H` in two associations, and the rotation as two shifts and an OR.  Each
`STEP` is the operation of RFC 1321 with the same number: its registers, word, constant and
shift are those the RFC's schedule gives (`steps_matches`, checked on the table), and each
function computes the RFC's (`Fn.eval_eq`), so one turn of the loop of `body` is the RFC's
processing of a block (`transform_eq_compress`).

* `F_eq`, `G_eq`, `H2_eq` : the functions of `md5.c` are those of RFC 1321;
* `step_eq` : `STEP` is the operation `a = b + ((a + f(b,c,d) + x + t) <<< s)`;
* `word_eq` : `SET` and `GET` read the RFC's little-endian words;
* `transform_eq_compress` : **the unrolled loop of `body` processes a block as RFC 1321 does**.
-/

namespace OpenElp

namespace Md5

/-! ### The functions and the rotation -/

/-- `F` with no AND-NOT is the RFC's `XY v not(X) Z`. -/
theorem F_eq (x y z : UInt32) : F x y z = Rfc1321.F x y z := by
  apply UInt32.toBitVec_inj.1
  ext i hi
  simp only [F, Rfc1321.F, UInt32.toBitVec_xor, UInt32.toBitVec_and, UInt32.toBitVec_or,
    UInt32.toBitVec_not, BitVec.getElem_xor, BitVec.getElem_and, BitVec.getElem_or,
    BitVec.getElem_not]
  -- one bit of each argument at a time
  cases x.toBitVec[i] <;> cases y.toBitVec[i] <;> cases z.toBitVec[i] <;> rfl

/-- `G` with no AND-NOT is the RFC's `XZ v Y not(Z)`. -/
theorem G_eq (x y z : UInt32) : G x y z = Rfc1321.G x y z := by
  apply UInt32.toBitVec_inj.1
  ext i hi
  simp only [G, Rfc1321.G, UInt32.toBitVec_xor, UInt32.toBitVec_and, UInt32.toBitVec_or,
    UInt32.toBitVec_not, BitVec.getElem_xor, BitVec.getElem_and, BitVec.getElem_or,
    BitVec.getElem_not]
  cases x.toBitVec[i] <;> cases y.toBitVec[i] <;> cases z.toBitVec[i] <;> rfl

/-- `H2` associates the other way. -/
theorem H2_eq (x y z : UInt32) : H2 x y z = Rfc1321.H x y z := by
  rw [H2, Rfc1321.H, UInt32.xor_assoc]

/-- The round whose function a name of `md5.c` computes. -/
def Fn.round : Fn → ℕ
  | .F => 0
  | .G => 1
  | .H => 2
  | .H2 => 2
  | .I => 3

theorem Fn.eval_eq (f : Fn) : f.eval = Rfc1321.round f.round := by
  funext x y z
  cases f with
  | F => exact F_eq x y z
  | G => exact G_eq x y z
  | H => rfl
  | H2 => exact H2_eq x y z
  | I => rfl

/-- **`STEP` is the operation of RFC 1321**: two shifts and an OR rotate, for a shift between
`1` and `31`. -/
theorem step_eq (f : UInt32 → UInt32 → UInt32 → UInt32) (a b c d x t s : UInt32)
    (hs : 0 < s.toNat ∧ s.toNat < 32) :
    step f a b c d x t s = b + Rfc1321.rotl (a + f b c d + x + t) s.toNat := by
  have hrot : ∀ v : UInt32, (v <<< s) ||| ((v &&& 0xffffffff) >>> (32 - s)) =
      Rfc1321.rotl v s.toNat := by
    intro v
    apply UInt32.toBitVec_inj.1
    have hmask : v &&& 0xffffffff = v := UInt32.toBitVec_inj.1 BitVec.and_allOnes
    have hl : (s.toBitVec % 32).toNat = s.toNat % 32 := by simp
    have hr : ((32 - s).toBitVec % 32).toNat = 32 - s.toNat % 32 := by
      rw [BitVec.toNat_umod, UInt32.toNat_toBitVec,
        UInt32.toNat_sub_of_le _ _ (by simp [UInt32.le_iff_toNat_le]; omega)]
      simp
      omega
    rw [hmask, Rfc1321.rotl]
    simp only [UInt32.toBitVec_or, UInt32.toBitVec_shiftLeft, UInt32.toBitVec_shiftRight,
      BitVec.rotateLeft_def, BitVec.shiftLeft_eq', BitVec.ushiftRight_eq', hl, hr]
  rw [step, hrot, UInt32.add_comm]

/-! ### The schedule -/

/-- A line of `body` is the RFC's operation `j`: the same registers, the round's function, the
word, constant and shift of the schedule, and a shift between `1` and `31`. -/
def Line.Matches (l : Line) (j : ℕ) : Prop :=
  (l.a, l.b, l.c, l.d) = Rfc1321.regs j ∧ l.f.round = j / 16 ∧ l.x = Rfc1321.index j ∧
    l.t = Rfc1321.T.getD j 0 ∧ l.s.toNat = Rfc1321.shift j ∧ 0 < l.s.toNat ∧ l.s.toNat < 32

instance (l : Line) (j : ℕ) : Decidable (l.Matches j) := by
  unfold Line.Matches
  infer_instance

/-- Each of the sixty-four `STEP`s is the RFC's operation of its number. -/
theorem steps_matches : ∀ j (hj : j < steps.length), steps[j].Matches j := by
  decide

theorem length_steps : steps.length = 64 := rfl

/-- A line that matches operation `j` does what it does. -/
theorem Line.run_eq_op {l : Line} {j : ℕ} (h : l.Matches j) (X : ℕ → UInt32) (r : Regs) :
    l.run X r = Rfc1321.op X r j := by
  obtain ⟨hr, hf, hx, ht, hs, hs₀, hs₃₂⟩ := h
  simp only [Line.run, Rfc1321.op, ← hr, ← hf, ← hx, ← ht, ← hs, Fn.eval_eq,
    step_eq _ _ _ _ _ _ _ _ ⟨hs₀, hs₃₂⟩]

/-! ### The words of a block -/

/-- Two values whose bits do not overlap: `a ||| b <<< k` is `a + 2 ^ k * b`. -/
theorem or_shiftLeft_eq_add {a k : ℕ} (h : a < 2 ^ k) (b : ℕ) : a ||| b <<< k = a + 2 ^ k * b := by
  rw [Nat.lor_comm, ← Nat.shiftLeft_add_eq_or_of_lt h, Nat.shiftLeft_eq, Nat.add_comm,
    Nat.mul_comm]

/-- A byte shifted by at most 24 bits stays inside its word. -/
theorem toNat_shiftLeft_toUInt32 (v : UInt8) {k : UInt32} (hk : k.toNat ≤ 24) :
    (v.toUInt32 <<< k).toNat = v.toNat <<< k.toNat := by
  have hv := v.toNat_lt
  have hpow : 2 ^ k.toNat ≤ 2 ^ 24 := Nat.pow_le_pow_right (by decide) hk
  rw [UInt32.toNat_shiftLeft, UInt8.toNat_toUInt32, Nat.mod_eq_of_lt (by omega : k.toNat < 32),
    Nat.mod_eq_of_lt]
  rw [Nat.shiftLeft_eq]
  calc v.toNat * 2 ^ k.toNat < 2 ^ 8 * 2 ^ 24 := Nat.mul_lt_mul_of_lt_of_le hv hpow (by positivity)
    _ = 2 ^ 32 := by norm_num

/-- **`SET(n)` and `GET(n)` read word `n` of the block**, as RFC 1321 reads words from bytes. -/
theorem word_eq (blk : List UInt8) (n : ℕ) : word blk n = Rfc1321.blockWord blk n := by
  rw [word, Rfc1321.blockWord, Nat.mul_comm n 4]
  generalize blk.getD (4 * n) 0 = a, blk.getD (4 * n + 1) 0 = b, blk.getD (4 * n + 2) 0 = c,
    blk.getD (4 * n + 3) 0 = d
  have h₀ := a.toNat_lt
  have h₁ := b.toNat_lt
  have h₂ := c.toNat_lt
  have h₃ := d.toNat_lt
  have e₈ : (b.toUInt32 <<< 8).toNat = b.toNat <<< 8 := toNat_shiftLeft_toUInt32 b (by decide)
  have e₁₆ : (c.toUInt32 <<< 16).toNat = c.toNat <<< 16 := toNat_shiftLeft_toUInt32 c (by decide)
  have e₂₄ : (d.toUInt32 <<< 24).toNat = d.toNat <<< 24 := toNat_shiftLeft_toUInt32 d (by decide)
  apply UInt32.toNat_inj.1
  -- each byte has bits of its own, so the ORs are sums, from the lowest byte up
  rw [UInt32.toNat_or, UInt32.toNat_or, UInt32.toNat_or, e₈, e₁₆, e₂₄, UInt8.toNat_toUInt32,
    or_shiftLeft_eq_add h₀, or_shiftLeft_eq_add (k := 16) (by omega),
    or_shiftLeft_eq_add (k := 24) (by omega), Nat.toUInt32_eq,
    UInt32.toNat_ofNat_of_lt' (by rw [UInt32.size]; omega)]

/-! ### A turn of the loop -/

/-- **One turn of the loop of `body` is RFC 1321's processing of a block.** -/
theorem transform_eq_compress (r : Regs) (blk : List UInt8) :
    transform r blk = Rfc1321.compress r (Rfc1321.blockWord blk) := by
  have hX : word blk = Rfc1321.blockWord blk := funext (word_eq blk)
  -- the table of `STEP`s against the operations by number
  have hsteps := foldl_eq_foldl_range (Line.run (word blk)) steps
    (fun j hj r => Line.run_eq_op (steps_matches j hj) (word blk) r) r
  rw [length_steps] at hsteps
  simp only [transform, Rfc1321.compress]
  rw [hsteps, hX]

end Md5

end OpenElp
