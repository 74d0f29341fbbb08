import Mathlib

/-!
# The whole blocks of a stream

A hash of the Merkle–Damgård kind takes its input a block at a time.  Whatever a caller hands it
in one call, the whole blocks go through the compression and the elements after the last whole
block wait for the next call.  `blocks n l` are the whole blocks of `n` elements that `l` starts
with, and `rest n l` the elements after them; `absorb f n` takes the elements of one call into a
state and its pending elements (`Absorber`).

* `flatten_blocks_append_rest` : a list is its whole blocks followed by its rest;
* `blocks_append`, `rest_append` : the blocks of `l₁ ++ l₂` are those of `l₁`, then those of the
  rest of `l₁` followed by `l₂`;
* `blocks_eq_cons` : a loop that reads one block after the other walks them in order;
* `absorb_append` : **taking a stream in, in two calls of any lengths, ends in the state of
  taking it in at once**.
-/

namespace OpenElp

variable {α σ : Type*}

/-- The whole blocks of `n` elements that `l` starts with, in order. -/
def blocks (n : ℕ) (l : List α) : List (List α) :=
  (List.range (l.length / n)).map fun i => (l.drop (n * i)).take n

/-- The elements of `l` after its whole blocks of `n`. -/
def rest (n : ℕ) (l : List α) : List α := l.drop (n * (l.length / n))

section Blocks

variable {n : ℕ}

theorem length_blocks (l : List α) : (blocks n l).length = l.length / n := by
  simp [blocks]

theorem length_rest (l : List α) : (rest n l).length = l.length % n := by
  rw [rest, List.length_drop]
  have := Nat.div_add_mod l.length n
  omega

theorem length_rest_lt (hn : 0 < n) (l : List α) : (rest n l).length < n := by
  rw [length_rest]
  exact Nat.mod_lt _ hn

theorem length_of_mem_blocks {l b : List α} (hb : b ∈ blocks n l) : b.length = n := by
  obtain ⟨i, hi, rfl⟩ := List.mem_map.1 hb
  have hi : i < l.length / n := List.mem_range.1 hi
  -- block `i` ends at `n * (i + 1) ≤ n * (l.length / n) ≤ l.length`
  have hend : n * (i + 1) ≤ l.length :=
    (Nat.mul_le_mul_left n hi).trans (Nat.mul_div_le l.length n)
  rw [List.length_take, List.length_drop, Nat.mul_succ] at *
  omega

theorem blocks_of_lt {l : List α} (h : l.length < n) : blocks n l = [] := by
  simp [blocks, Nat.div_eq_of_lt h]

theorem rest_of_lt {l : List α} (h : l.length < n) : rest n l = l := by
  simp [rest, Nat.div_eq_of_lt h]

/-- The first `k` blocks, one after the other, are the first `n * k` elements. -/
theorem flatten_map_range (l : List α) (k : ℕ) :
    ((List.range k).map fun i => (l.drop (n * i)).take n).flatten = l.take (n * k) := by
  induction k with
  | zero => simp
  | succ k ih =>
    rw [List.range_succ, List.map_append, List.flatten_append, ih, Nat.mul_succ, List.take_add]
    simp

theorem flatten_blocks_append_rest (l : List α) : (blocks n l).flatten ++ rest n l = l := by
  rw [blocks, flatten_map_range, rest, List.take_append_drop]

/-- A block in front of a list is its first block, and changes nothing after it. -/
theorem blocks_block_append (hn : 0 < n) {b : List α} (hb : b.length = n) (l : List α) :
    blocks n (b ++ l) = b :: blocks n l := by
  have hk : (b ++ l).length / n = l.length / n + 1 := by
    rw [List.length_append, hb, Nat.add_comm, Nat.add_div_right _ hn]
  rw [blocks, hk, List.range_succ_eq_map, List.map_cons, List.map_map, blocks]
  congr 1
  · simp [← hb]
  · refine List.map_congr_left fun i _ => ?_
    have hdrop : (b ++ l).drop (n * (i + 1)) = l.drop (n * i) := by
      rw [Nat.mul_succ, Nat.add_comm, ← hb, List.drop_append, List.drop_eq_nil_of_le (by omega)]
      simp
    simp only [Function.comp, Nat.succ_eq_add_one, hdrop]

theorem rest_block_append (hn : 0 < n) {b : List α} (hb : b.length = n) (l : List α) :
    rest n (b ++ l) = rest n l := by
  have hk : (b ++ l).length / n = l.length / n + 1 := by
    rw [List.length_append, hb, Nat.add_comm, Nat.add_div_right _ hn]
  rw [rest, hk, Nat.mul_succ, Nat.add_comm, ← hb, List.drop_append,
    List.drop_eq_nil_of_le (by omega), rest]
  simp

/-- Whole blocks in front of a list come first among its blocks. -/
theorem blocks_flatten_append (hn : 0 < n) (F : List (List α)) (hF : ∀ b ∈ F, b.length = n)
    (l : List α) : blocks n (F.flatten ++ l) = F ++ blocks n l ∧ rest n (F.flatten ++ l) = rest n l := by
  induction F with
  | nil => simp
  | cons b F ih =>
    have hb := hF b List.mem_cons_self
    obtain ⟨hbl, hrl⟩ := ih fun b' hb' => hF b' (List.mem_cons_of_mem _ hb')
    rw [List.flatten_cons, List.append_assoc, blocks_block_append hn hb,
      rest_block_append hn hb, hbl, hrl]
    simp

/-- **The blocks of a concatenation**: those of the first part, then those of what the first
part leaves over followed by the second. -/
theorem blocks_append (hn : 0 < n) (l₁ l₂ : List α) :
    blocks n (l₁ ++ l₂) = blocks n l₁ ++ blocks n (rest n l₁ ++ l₂) := by
  conv_lhs => rw [← flatten_blocks_append_rest (n := n) l₁, List.append_assoc]
  exact (blocks_flatten_append hn _ (fun _ hb => length_of_mem_blocks hb) _).1

theorem rest_append (hn : 0 < n) (l₁ l₂ : List α) :
    rest n (l₁ ++ l₂) = rest n (rest n l₁ ++ l₂) := by
  conv_lhs => rw [← flatten_blocks_append_rest (n := n) l₁, List.append_assoc]
  exact (blocks_flatten_append hn _ (fun _ hb => length_of_mem_blocks hb) _).2

/-- A list of at least one block starts with it. -/
theorem blocks_eq_cons (hn : 0 < n) {l : List α} (h : n ≤ l.length) :
    blocks n l = l.take n :: blocks n (l.drop n) := by
  conv_lhs => rw [← List.take_append_drop n l]
  exact blocks_block_append hn (List.length_take_of_le h) _

end Blocks

/-! ### The absorber -/

/-- A block-buffered absorber: the state after the whole blocks taken in so far, and the
elements after them, fewer than a block. -/
@[ext]
structure Absorber (σ α : Type*) (n : ℕ) where
  state : σ
  pending : List α
  length_pending : pending.length < n

namespace Absorber

variable {n : ℕ} [NeZero n] (f : σ → List α → σ)

/-- An absorber that has taken nothing in since its state `s`. -/
def empty (s : σ) : Absorber σ α n := ⟨s, [], NeZero.pos n⟩

/-- The absorber after it has taken in `xs`: each whole block of its pending elements followed
by `xs` has gone through `f`, and the elements after them are pending. -/
def absorb (p : Absorber σ α n) (xs : List α) : Absorber σ α n :=
  ⟨(blocks n (p.pending ++ xs)).foldl f p.state, rest n (p.pending ++ xs),
    length_rest_lt (NeZero.pos n) _⟩

variable {f}

@[simp] theorem absorb_state (p : Absorber σ α n) (xs : List α) :
    (p.absorb f xs).state = (blocks n (p.pending ++ xs)).foldl f p.state := rfl

@[simp] theorem absorb_pending (p : Absorber σ α n) (xs : List α) :
    (p.absorb f xs).pending = rest n (p.pending ++ xs) := rfl

@[simp] theorem empty_state (s : σ) : (empty s : Absorber σ α n).state = s := rfl

@[simp] theorem empty_pending (s : σ) : (empty s : Absorber σ α n).pending = [] := rfl

/-- **Two calls take in what one call of both parts takes in.** -/
theorem absorb_append (p : Absorber σ α n) (xs ys : List α) :
    (p.absorb f xs).absorb f ys = p.absorb f (xs ++ ys) := by
  have hn := NeZero.pos n
  refine Absorber.ext ?_ ?_
  · simp only [absorb_state, absorb_pending, ← List.append_assoc, blocks_append hn (p.pending ++ xs),
      List.foldl_append]
  · simp only [absorb_pending, ← List.append_assoc, ← rest_append hn]

/-- An empty call changes nothing. -/
theorem absorb_nil (p : Absorber σ α n) : p.absorb f [] = p := by
  refine Absorber.ext ?_ ?_
  · simp [blocks_of_lt p.length_pending]
  · simp [rest_of_lt p.length_pending]

end Absorber

end OpenElp
