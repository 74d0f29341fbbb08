import Mathlib.Logic.Function.Basic
import Mathlib.Data.List.Nodup

/-!
# Intrusive singly linked lists

A list threaded through its elements by a `next` field: `Chain next a l` says that following
`next` from `a` visits the elements of `l` in order and then reaches the end.  The list a chain
follows is determined by `next` and `a`, and a chain never visits an element twice, so "the
walk from the head ends" already makes the list finite and free of duplicates.

* `Chain.unique`, `Chain.nodup` : the list is determined, and has no duplicates;
* `Chain.push`, `Chain.pop` : pushing at the head and popping it;
* `Chain.snoc` : appending after the last element;
* `Chain.frame` : changing `next` off the list keeps the chain;
* `Chain.reach` : a walk that agrees with a chain up to one of its elements reaches it;
* `not_chain_of_loop` : a walk that comes back to an element never ends;
* `Chain.walkLength_eq` : a loop that counts the elements of a chain counts its list.
-/

namespace OpenElp

/-- `Chain next a l`: following `next` from `a` visits `l` in order, then `none`. -/
inductive Chain {α : Type*} (next : α → Option α) : Option α → List α → Prop
  | nil : Chain next none []
  | cons {a : α} {l : List α} : Chain next (next a) l → Chain next (some a) (a :: l)

/-- The number of elements a walk from `a` visits before it reaches the end, when that takes
at most `fuel` steps. -/
def walkLength {α : Type*} (next : α → Option α) : ℕ → Option α → Option ℕ
  | _, none => some 0
  | 0, some _ => none
  | fuel + 1, some a => (walkLength next fuel (next a)).map (· + 1)

namespace Chain

variable {α : Type*} {next next' : α → Option α}

@[simp] theorem none_iff {l : List α} : Chain next none l ↔ l = [] := by
  constructor
  · rintro ⟨⟩
    rfl
  · rintro rfl
    exact .nil

theorem some_iff {a : α} {l : List α} :
    Chain next (some a) l ↔ ∃ l', l = a :: l' ∧ Chain next (next a) l' := by
  constructor
  · rintro ⟨⟩
    exact ⟨_, rfl, by assumption⟩
  · rintro ⟨l', rfl, h⟩
    exact .cons h

/-- The list a chain follows is determined by where it starts. -/
theorem unique {a : Option α} {l l' : List α} (h : Chain next a l) (h' : Chain next a l') :
    l = l' := by
  induction h generalizing l' with
  | nil => exact (none_iff.1 h').symm
  | cons _ ih =>
    obtain ⟨l'', rfl, h''⟩ := some_iff.1 h'
    rw [ih h'']

/-- The chain from an element of a chain is the rest of that chain. -/
theorem drop {a : Option α} {l : List α} (h : Chain next a l) :
    ∀ {x : α} {l₁ l₂ : List α}, l = l₁ ++ x :: l₂ → Chain next (some x) (x :: l₂) := by
  induction h with
  | nil => intro x l₁ l₂ he; simp at he
  | @cons b l hc ih =>
    intro x l₁ l₂ he
    cases l₁ with
    | nil =>
      obtain ⟨rfl, rfl⟩ := List.cons_eq_cons.1 he
      exact .cons hc
    | cons c l₁ =>
      obtain ⟨-, rfl⟩ := List.cons_eq_cons.1 he
      exact ih rfl

/-- **A chain visits no element twice**: the walk from a repeated element would be both the
rest of the chain after its first visit and, strictly shorter, after its second. -/
theorem nodup {a : Option α} {l : List α} (h : Chain next a l) : l.Nodup := by
  induction h with
  | nil => exact List.nodup_nil
  | @cons b l hc ih =>
    refine List.nodup_cons.2 ⟨fun hb => ?_, ih⟩
    obtain ⟨l₁, l₂, rfl⟩ := List.append_of_mem hb
    have h₁ : Chain next (some b) (b :: l₁ ++ b :: l₂) := .cons hc
    have h₂ : Chain next (some b) (b :: l₂) := hc.drop rfl
    have := congrArg List.length (h₁.unique h₂)
    simp at this
    omega

/-- Changing `next` off the list keeps the chain. -/
theorem frame {a : Option α} {l : List α} (h : Chain next a l)
    (hnext : ∀ x ∈ l, next' x = next x) : Chain next' a l := by
  induction h with
  | nil => exact .nil
  | @cons b l _ ih =>
    refine .cons ?_
    rw [hnext b List.mem_cons_self]
    exact ih fun x hx => hnext x (List.mem_cons_of_mem b hx)

/-- Pushing an element that is not on the list at the head. -/
theorem push [DecidableEq α] {a : Option α} {l : List α} (h : Chain next a l) {x : α}
    (hx : x ∉ l) : Chain (Function.update next x a) (some x) (x :: l) := by
  refine .cons ?_
  rw [Function.update_self]
  exact h.frame fun y hy => Function.update_of_ne (fun he : y = x => hx (he ▸ hy)) _ _

/-- Appending after the last element, which has no successor yet, an element that is not on
the list and has none either. -/
theorem snoc [DecidableEq α] {a : Option α} {l : List α} (h : Chain next a l) {x y : α}
    (hx : l.getLast? = some x) (hy : y ∉ l) (hny : next y = none) :
    Chain (Function.update next x (some y)) a (l ++ [y]) := by
  induction h with
  | nil => simp at hx
  | @cons b l hc ih =>
    cases l with
    | nil =>
      -- `b` is the last element
      obtain rfl : b = x := by simpa using hx
      have hyb : y ≠ b := fun e => hy (e ▸ List.mem_singleton_self y)
      refine .cons ?_
      rw [Function.update_self]
      refine .cons ?_
      rw [Function.update_of_ne hyb, hny]
      exact .nil
    | cons c l =>
      rw [List.getLast?_cons_cons] at hx
      have hbx : b ≠ x := fun e =>
        (List.nodup_cons.1 (Chain.cons hc).nodup).1 (e ▸ List.mem_of_getLast? hx)
      refine .cons ?_
      rw [Function.update_of_ne hbx]
      exact ih hx fun hm => hy (List.mem_cons_of_mem b hm)

/-- A walk that follows the chain `l ++ x :: r` on `l` reaches `x`. -/
theorem reach {a : Option α} {l r l' : List α} {x : α} (h : Chain next a (l ++ x :: r))
    (hagree : ∀ y ∈ l, next' y = next y) (h' : Chain next' a l') :
    ∃ r', Chain next' (some x) r' := by
  induction l generalizing a l' with
  | nil =>
    rw [List.nil_append] at h
    cases h
    exact ⟨l', h'⟩
  | cons b l ih =>
    cases h with
    | cons hc =>
      obtain ⟨l'', rfl, h''⟩ := some_iff.1 h'
      rw [hagree b List.mem_cons_self] at h''
      exact ih hc (fun y hy => hagree y (List.mem_cons_of_mem b hy)) h''

/-- A loop that walks the chain and counts its elements, given enough steps, counts the
list. -/
theorem walkLength_eq {a : Option α} {l : List α} (h : Chain next a l) {fuel : ℕ}
    (hfuel : l.length ≤ fuel) : walkLength next fuel a = some l.length := by
  induction h generalizing fuel with
  | nil => cases fuel <;> rfl
  | @cons b l _ ih =>
    cases fuel with
    | zero => simp at hfuel
    | succ fuel =>
      rw [walkLength, ih (by simpa using hfuel)]
      rfl

/-- Popping the head. -/
theorem pop {x : α} {l : List α} (h : Chain next (some x) l) :
    ∃ l', l = x :: l' ∧ Chain next (next x) l' :=
  some_iff.1 h

end Chain

/-- **A walk that comes back to an element never ends.** -/
theorem not_chain_of_loop {α : Type*} {next : α → Option α} {x : α} (hx : next x = some x)
    (l : List α) : ¬ Chain next (some x) l := by
  intro h
  have hn := h.nodup
  obtain ⟨l', rfl, h'⟩ := h.pop
  rw [hx] at h'
  obtain ⟨l'', rfl, -⟩ := h'.pop
  simp at hn

end OpenElp
