import Mathlib.Data.List.Basic

/-!
# Fixed-size buffers

A C array as the list of its elements, the length of the list being the size of the array.  A
store or a load of a run of elements at an offset checks that the run lies inside the array: a
program all of whose accesses succeed makes no access out of bounds.

* `Buf.store?_isSome_iff` : a store succeeds iff it lies inside;
* `Buf.length_store?` : a store keeps the size;
* `Buf.load?_store?`, `Buf.getD_store?` : what a store leaves, read back;
* `Buf.store?_append` : a store of two runs is the store of one and then the other;
* `Buf.store?_store?` : a store over a run just stored replaces it;
* `Buf.storeAll?_isSome_iff` : stores made one after the other all succeed iff each run lies
  inside; `Buf.storeAll?_join` and `Buf.storeAll?_overwrite` merge runs stored one right after
  the other, or one over the other;
* `Buf.strcpy?_eq_store?` : `strcpy` stores the string and its terminator.
-/

namespace OpenElp

namespace Buf

variable {α : Type*}

/-- Store `xs` at offset `o` of `b`, if the run fits. -/
def store? (b : List α) (o : ℕ) (xs : List α) : Option (List α) :=
  if o + xs.length ≤ b.length then some (b.take o ++ xs ++ b.drop (o + xs.length)) else none

/-- Load the `k` elements at offset `o` of `b`, if they lie inside. -/
def load? (b : List α) (o k : ℕ) : Option (List α) :=
  if o + k ≤ b.length then some ((b.drop o).take k) else none

theorem store?_isSome_iff (b : List α) (o : ℕ) (xs : List α) :
    (store? b o xs).isSome ↔ o + xs.length ≤ b.length := by
  unfold store?
  split <;> simp_all

/-- A store keeps the size of the array. -/
theorem length_store? {b b' : List α} {o : ℕ} {xs : List α} (h : store? b o xs = some b') :
    b'.length = b.length := by
  unfold store? at h
  split at h
  · cases h
    simp only [List.length_append, List.length_take, List.length_drop]
    omega
  · cases h

/-- A load of the run just stored reads it back. -/
theorem load?_store? {b b' : List α} {o : ℕ} {xs : List α} (h : store? b o xs = some b') :
    load? b' o xs.length = some xs := by
  have hlen := length_store? h
  unfold store? at h
  split at h
  · rename_i hfit
    cases h
    have ho : (b.take o).length = o := List.length_take_of_le (by omega)
    rw [load?, if_pos (by omega), List.append_assoc, List.drop_left' ho, List.take_left' rfl]
  · cases h

/-- A store that fits, as the array it leaves. -/
theorem store?_eq_some {b : List α} {o : ℕ} {xs : List α} (h : o + xs.length ≤ b.length) :
    store? b o xs = some (b.take o ++ xs ++ b.drop (o + xs.length)) := if_pos h

/-- A store at offset `0` that fits. -/
theorem store?_zero {b xs : List α} (h : xs.length ≤ b.length) :
    store? b 0 xs = some (xs ++ b.drop xs.length) := by
  rw [store?, if_pos (by omega)]
  simp

/-- A store that fits. -/
theorem store?_of_le {b : List α} {o : ℕ} {xs : List α} (h : o + xs.length ≤ b.length) :
    ∃ b', store? b o xs = some b' ∧ b'.length = b.length := by
  obtain ⟨b', hb'⟩ := Option.isSome_iff_exists.1 ((store?_isSome_iff b o xs).2 h)
  exact ⟨b', hb', length_store? hb'⟩

/-- What a store leaves at each offset. -/
theorem getD_store? {b b' : List α} {o : ℕ} {xs : List α} (h : store? b o xs = some b') (d : α)
    (i : ℕ) : b'.getD i d = if o ≤ i ∧ i < o + xs.length then xs.getD (i - o) d else b.getD i d := by
  unfold store? at h
  split at h
  · rename_i hfit
    cases h
    have ho : (b.take o).length = o := List.length_take_of_le (by omega)
    simp only [List.getD_eq_getElem?_getD, List.append_assoc]
    split
    · rename_i hi
      rw [List.getElem?_append_right (by omega), ho, List.getElem?_append_left (by omega)]
    · by_cases hlt : i < o
      · rw [List.getElem?_append_left (by omega), List.getElem?_take_of_lt hlt]
      · rw [List.getElem?_append_right (by omega), ho, List.getElem?_append_right (by omega),
          List.getElem?_drop]
        congr 2
        omega
  · cases h

/-- A store of `xs ++ ys` is a store of `xs` and then of `ys` after it. -/
theorem store?_append (b : List α) (o : ℕ) (xs ys : List α) :
    (store? b o xs).bind (fun b => store? b (o + xs.length) ys) = store? b o (xs ++ ys) := by
  by_cases hxs : o + xs.length ≤ b.length
  · have hb : store? b o xs = some (b.take o ++ xs ++ b.drop (o + xs.length)) := if_pos hxs
    have hlen : (b.take o ++ xs ++ b.drop (o + xs.length)).length = b.length :=
      length_store? hb
    rw [hb, Option.bind_some]
    unfold store?
    rw [hlen, List.length_append, ← Nat.add_assoc]
    split
    · have ho : (b.take o ++ xs).length = o + xs.length := by
        simp only [List.length_append, List.length_take]
        omega
      have hdrop : (b.take o ++ xs ++ b.drop (o + xs.length)).drop (o + xs.length + ys.length) =
          b.drop (o + xs.length + ys.length) := by
        rw [List.drop_append, List.drop_eq_nil_of_le (by omega), List.nil_append, ho,
          List.drop_drop]
        congr 1
        omega
      rw [List.take_left' ho, hdrop]
      simp only [List.append_assoc]
    · rfl
  · have hb : store? b o xs = none := if_neg hxs
    rw [hb, Option.bind_none]
    unfold store?
    rw [if_neg (by simp only [List.length_append]; omega)]

/-- A store over the run just stored, of the same length, replaces it. -/
theorem store?_store? (b : List α) (o : ℕ) {xs ys : List α} (h : xs.length = ys.length) :
    (store? b o xs).bind (fun b => store? b o ys) = store? b o ys := by
  by_cases hfit : o + xs.length ≤ b.length
  · have hb : store? b o xs = some (b.take o ++ xs ++ b.drop (o + xs.length)) := if_pos hfit
    have ho : (b.take o).length = o := List.length_take_of_le (by omega)
    have hox : (b.take o ++ xs).length = o + xs.length := by rw [List.length_append, ho]
    rw [hb, Option.bind_some, store?_eq_some (by rw [length_store? hb, ← h]; exact hfit),
      store?_eq_some (by rw [← h]; exact hfit), ← h, List.drop_left' hox,
      List.take_append_of_le_length (by omega), List.take_left' ho, List.append_assoc]
  · rw [store?, if_neg hfit, Option.bind_none, store?, if_neg (by rw [← h]; exact hfit)]

/-- Store each run in turn, `(o, xs)` storing `xs` at offset `o`. -/
def storeAll? (b : List α) : List (ℕ × List α) → Option (List α)
  | [] => some b
  | (o, xs) :: ws => (store? b o xs).bind fun b => storeAll? b ws

theorem storeAll?_singleton (b : List α) (o : ℕ) (xs : List α) :
    storeAll? b [(o, xs)] = store? b o xs :=
  Option.bind_fun_some _

/-- The stores after the first may be replaced by any that act alike on every array. -/
theorem storeAll?_cons_congr (b : List α) (w : ℕ × List α) {ws ws' : List (ℕ × List α)}
    (h : ∀ b, storeAll? b ws = storeAll? b ws') : storeAll? b (w :: ws) = storeAll? b (w :: ws') := by
  simp only [storeAll?, h]

/-- Two runs stored one right after the other are one store. -/
theorem storeAll?_join (b : List α) {o o' : ℕ} {xs ys : List α} (h : o' = o + xs.length)
    (ws : List (ℕ × List α)) :
    storeAll? b ((o, xs) :: (o', ys) :: ws) = storeAll? b ((o, xs ++ ys) :: ws) := by
  subst h
  simp only [storeAll?]
  rw [← store?_append, Option.bind_assoc]

/-- A run stored over the run just stored, of the same length, replaces it. -/
theorem storeAll?_overwrite (b : List α) {o o' : ℕ} {xs ys : List α} (h : xs.length = ys.length)
    (ho : o' = o) (ws : List (ℕ × List α)) :
    storeAll? b ((o, xs) :: (o', ys) :: ws) = storeAll? b ((o, ys) :: ws) := by
  subst ho
  simp only [storeAll?]
  rw [← store?_store? b _ h, Option.bind_assoc]

/-- Stores made one after the other all succeed iff each run lies inside the array. -/
theorem storeAll?_isSome_iff (b : List α) (ws : List (ℕ × List α)) :
    (storeAll? b ws).isSome ↔ ∀ w ∈ ws, w.1 + w.2.length ≤ b.length := by
  induction ws generalizing b with
  | nil => simp [storeAll?]
  | cons w ws ih =>
    obtain ⟨o, xs⟩ := w
    rcases h : store? b o xs with _ | b'
    · -- the first store fails
      have hout := (store?_isSome_iff b o xs).not.1 (by rw [h]; simp)
      simp only [storeAll?, h, Option.bind_none, Option.isSome_none, Bool.false_eq_true,
        false_iff, List.forall_mem_cons, not_and]
      exact fun hin => absurd hin hout
    · -- the others see an array of the same size
      have hin := (store?_isSome_iff b o xs).1 (by rw [h]; rfl)
      simp only [storeAll?, h, Option.bind_some, ih, length_store? h, List.forall_mem_cons]
      exact ⟨fun hws => ⟨hin, hws⟩, fun hall => hall.2⟩

/-- `strcpy(dst, src)` from offset `i` on: each element of `src` is loaded and stored into `dst`
at the same offset, up to and including the first `0`; `none` when a load or a store leaves its
array. -/
def strcpy? [Zero α] [DecidableEq α] (dst src : List α) (i : ℕ) : Option (List α) :=
  match h : src[i]? with
  | none => none
  | some c => (store? dst i [c]).bind fun dst => if c = 0 then some dst else strcpy? dst src (i + 1)
termination_by src.length - i
decreasing_by
  have := (List.getElem?_eq_some_iff.1 h).1
  omega

/-- **`strcpy` stores the string and its terminator**, when the terminator lies inside `src`. -/
theorem strcpy?_eq_store? [Zero α] [DecidableEq α] (src : List α) :
    ∀ (k i : ℕ) (dst : List α), src.length - i = k →
      i + ((src.drop i).takeWhile (· ≠ 0)).length < src.length →
      strcpy? dst src i = store? dst i ((src.drop i).takeWhile (· ≠ 0) ++ [0]) := by
  intro k
  induction k with
  | zero =>
    intro i dst hk hlt
    omega
  | succ k ih =>
    intro i dst hk hlt
    have hi : i < src.length := by omega
    have hdrop : src.drop i = src[i] :: src.drop (i + 1) := List.drop_eq_getElem_cons hi
    rw [strcpy?]
    split
    · rename_i hnone
      rw [List.getElem?_eq_getElem hi] at hnone
      cases hnone
    · rename_i c hc
      rw [List.getElem?_eq_getElem hi, Option.some.injEq] at hc
      rw [hdrop, hc] at hlt ⊢
      by_cases h0 : c = 0
      · -- the terminator: one store, and the copy ends
        subst h0
        simp
      · -- a character: its store, then the copy from the next offset
        have htw : (c :: src.drop (i + 1)).takeWhile (· ≠ 0) =
            c :: (src.drop (i + 1)).takeWhile (· ≠ 0) := by
          simp [h0]
        rw [htw, List.length_cons] at hlt
        rw [htw]
        have hrest := fun dst => ih (i + 1) dst (by omega) (by omega)
        have happ := store?_append dst i [c] ((src.drop (i + 1)).takeWhile (· ≠ 0) ++ [0])
        rw [List.length_singleton, List.singleton_append] at happ
        simp only [hrest, if_neg h0]
        exact happ

end Buf

end OpenElp
