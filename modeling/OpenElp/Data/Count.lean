import Mathlib.Algebra.BigOperators.Group.Finset.Piecewise

/-!
# Counting under a point update

Counts over a finite type (of threads, of workers) that change at one point when a function is
updated there.

* `sum_update_add` : changing one value of a function of naturals changes its sum by the
  difference;
* `card_filter_update_add` : the elements whose value satisfies a predicate, counted before and
  after an update at one point.
-/

namespace OpenElp

open Finset

variable {ι : Type*} [Fintype ι] [DecidableEq ι]

/-- Changing one value of a function of naturals changes its sum by the difference. -/
theorem sum_update_add (g : ι → ℕ) (i : ι) (b : ℕ) :
    (∑ j, Function.update g i b j) + g i = (∑ j, g j) + b := by
  rw [Finset.sum_update_of_mem (Finset.mem_univ i), Finset.sdiff_singleton_eq_erase,
    ← Finset.add_sum_erase _ g (Finset.mem_univ i)]
  omega

/-- Updating `f` at `i` to `a` changes the count of the points whose value satisfies `p` by what
`p` says of the old and the new value. -/
theorem card_filter_update_add {α : Type*} (f : ι → α) (p : α → Prop) [DecidablePred p] (i : ι)
    (a : α) :
    (univ.filter fun j => p (Function.update f i a j)).card + (if p (f i) then 1 else 0) =
      (univ.filter fun j => p (f j)).card + (if p a then 1 else 0) := by
  have hupd : (fun j => if p (Function.update f i a j) then 1 else 0) =
      Function.update (fun j => if p (f j) then 1 else 0) i (if p a then 1 else 0) := by
    funext j
    exact Function.apply_update (fun _ v => if p v then 1 else 0) f i a j
  rw [card_filter, card_filter, hupd]
  exact sum_update_add _ i _

end OpenElp
