import Mathlib

/-!
# Lookup tables and the folds through them

A hash of Pearson's kind folds a list through a step that looks a value up in a table.  Its
sensitivity rests on two facts about folds: a step injective in the accumulator keeps two
different accumulators apart to the end (`foldl_injective`), so two lists that differ in one
place fold to different values as soon as the step at that place separates them
(`foldl_append_cons_ne`).  Lists that differ in exactly one place are of that shape
(`exists_append_cons_of_diff_at`).  A fold over a table of steps is a fold over the indices of
the table (`foldl_eq_foldl_range`).

A table is a permutation when it holds every value: a bitmask of its entries
(`bitmask`, `mem_of_bitmask_eq`) checks that by evaluation, in one pass over the table.
-/

namespace OpenElp

/-! ### Folds -/

section Fold

variable {α β : Type*} (f : β → α → β)

/-- A fold whose step is injective in the accumulator is injective in its start. -/
theorem foldl_injective (hf : ∀ a, Function.Injective (f · a)) (l : List α) :
    Function.Injective (fun b => l.foldl f b) := by
  induction l with
  | nil => exact fun _ _ h => h
  | cons a l ih => exact fun b b' h => hf a (ih h)

/-- **Two lists that differ in one place fold apart**, once the step at that place separates
them: the prefix brings both to the same accumulator, and the suffix keeps them apart. -/
theorem foldl_append_cons_ne (hf : ∀ a, Function.Injective (f · a)) (b : β)
    (pre suf : List α) {x y : α} (hxy : f (pre.foldl f b) x ≠ f (pre.foldl f b) y) :
    (pre ++ x :: suf).foldl f b ≠ (pre ++ y :: suf).foldl f b := by
  rw [List.foldl_append, List.foldl_append, List.foldl_cons, List.foldl_cons]
  exact fun h => hxy (foldl_injective f hf suf h)

/-- A fold over a table is the fold over its indices of a step that agrees with the table's at
each index. -/
theorem foldl_eq_foldl_range {g : β → ℕ → β} (l : List α)
    (h : ∀ j (hj : j < l.length) b, f b l[j] = g b j) (b : β) :
    l.foldl f b = (List.range l.length).foldl g b := by
  induction l generalizing g b with
  | nil => rfl
  | cons x l ih =>
    have h0 : f b x = g b 0 := h 0 (by simp) b
    rw [List.length_cons, List.range_succ_eq_map, List.foldl_cons, List.foldl_cons, List.foldl_map,
      h0]
    exact ih (fun j hj b => h (j + 1) (by simp only [List.length_cons]; omega) b) _

end Fold

/-- **Lists of one length that differ at `i` and nowhere else** are `pre ++ x :: suf` and
`pre ++ y :: suf`, with `x ≠ y`. -/
theorem exists_append_cons_of_diff_at {α : Type*} {xs ys : List α} (hlen : xs.length = ys.length)
    {i : ℕ} (hi : i < xs.length) (hdiff : xs[i]? ≠ ys[i]?)
    (hsame : ∀ j, j ≠ i → xs[j]? = ys[j]?) :
    ∃ pre suf x y, xs = pre ++ x :: suf ∧ ys = pre ++ y :: suf ∧ x ≠ y := by
  have hi' : i < ys.length := hlen ▸ hi
  -- the parts before and after `i` agree
  have htake : xs.take i = ys.take i := List.ext_getElem? fun j => by
    rw [List.getElem?_take, List.getElem?_take]
    split_ifs with hj
    · exact hsame j (Nat.ne_of_lt hj)
    · rfl
  have hdrop : xs.drop (i + 1) = ys.drop (i + 1) := List.ext_getElem? fun j => by
    rw [List.getElem?_drop, List.getElem?_drop]
    exact hsame (i + 1 + j) (by omega)
  refine ⟨xs.take i, xs.drop (i + 1), xs[i], ys[i], ?_, ?_, ?_⟩
  · rw [← List.drop_eq_getElem_cons hi, List.take_append_drop]
  · rw [htake, hdrop, ← List.drop_eq_getElem_cons hi', List.take_append_drop]
  · intro h
    rw [List.getElem?_eq_getElem hi, List.getElem?_eq_getElem hi', h] at hdiff
    exact hdiff rfl

/-! ### Tables that hold every value -/

/-- The values a list holds, as the bits of a number. -/
def bitmask (l : List ℕ) : ℕ := l.foldr (fun v m => m ||| 1 <<< v) 0

@[simp] theorem bitmask_nil : bitmask [] = 0 := rfl

@[simp] theorem bitmask_cons (v : ℕ) (l : List ℕ) : bitmask (v :: l) = bitmask l ||| 1 <<< v :=
  rfl

/-- Bit `i` of the bitmask is set exactly when the list holds `i`. -/
theorem testBit_bitmask (l : List ℕ) (i : ℕ) : (bitmask l).testBit i = decide (i ∈ l) := by
  induction l with
  | nil => simp
  | cons v l ih =>
    rw [bitmask_cons, Nat.testBit_lor, ih, Nat.one_shiftLeft, Nat.testBit_two_pow]
    by_cases h : i = v <;> simp [h, eq_comm]

/-- **A list whose bitmask has the `n` low bits set holds every value below `n`.** -/
theorem mem_of_bitmask_eq {l : List ℕ} {n : ℕ} (h : bitmask l = 2 ^ n - 1) {i : ℕ}
    (hi : i < n) : i ∈ l := by
  have hbit := testBit_bitmask l i
  rw [h, Nat.testBit_two_pow_sub_one, decide_eq_true hi] at hbit
  exact of_decide_eq_true hbit.symm

end OpenElp
