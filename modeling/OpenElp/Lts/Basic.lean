import Mathlib

/-!
# Transition systems and their runs

Every concurrent part of the proxy (a worker thread and the threads that signal it, a slot with
its forwarders, the pools of slots and of client workers) is modelled as a labelled transition
system whose labels are the atomic steps of the code: a region guarded by a mutex, or a
statement between two such regions.  This file holds what those models share.

* `Lts.ofFun` : a system given by an executable step function; all the non-determinism of the
  code (the scheduler, the network, a failing call) is in the label.
* `Lts.Run s ls s'` : the labels `ls`, in this order, lead from `s` to `s'`.
* `Lts.Run.invariant`, `Lts.Run.preserve`, `Lts.Run.preserve_sum` : the induction rules over
  runs: for a property kept by every step, by the steps with some labels, or kept while a
  counter adds up a weight of the labels (to count the events of some kind in a run).
* `Lts.Run.of_exec` : a run checked by evaluating the step function (used for the concrete
  runs that witness a violation).
* `Lts.Reachable.strong_invariant` : induction over the reachable states, where a step may use
  the reachability of the state it starts from.
* `Lts.Reachable.map` : what a system reaches, seen through a projection onto a component that
  is a system of its own.
-/

namespace OpenElp

/-- A labelled transition system: `step s l s'` when an event labelled `l` can take the system
from `s` to `s'`. -/
structure Lts (S L : Type*) where
  /-- The transition relation. -/
  step : S → L → S → Prop

namespace Lts

variable {S L : Type*}

/-- The system of a step function: the event `l` is possible in `s` when `next s l` is
defined. -/
def ofFun (next : S → L → Option S) : Lts S L where
  step s l s' := next s l = some s'

/-- Execute a list of events with a step function; `none` as soon as one is not possible. -/
def exec (next : S → L → Option S) (s : S) : List L → Option S
  | [] => some s
  | l :: ls => (next s l).bind fun s' => exec next s' ls

/-- `A.Run s ls s'`: performing the events `ls` one after the other leads from `s` to `s'`. -/
inductive Run (A : Lts S L) : S → List L → S → Prop
  | nil (s : S) : A.Run s [] s
  | cons {s₁ s₂ s₃ : S} {l : L} {ls : List L} :
      A.step s₁ l s₂ → A.Run s₂ ls s₃ → A.Run s₁ (l :: ls) s₃

/-- The states that some run from `s₀` ends in. -/
def Reachable (A : Lts S L) (s₀ s : S) : Prop := ∃ ls, A.Run s₀ ls s

variable {A : Lts S L}

namespace Run

theorem single {s s' : S} {l : L} (h : A.step s l s') : A.Run s [l] s' :=
  .cons h (.nil _)

theorem append {s₁ s₂ s₃ : S} {ls ls' : List L} (h : A.Run s₁ ls s₂) (h' : A.Run s₂ ls' s₃) :
    A.Run s₁ (ls ++ ls') s₃ := by
  induction h with
  | nil => exact h'
  | cons hst _ ih => exact .cons hst (ih h')

theorem snoc {s₁ s₂ s₃ : S} {ls : List L} {l : L} (h : A.Run s₁ ls s₂) (h' : A.step s₂ l s₃) :
    A.Run s₁ (ls ++ [l]) s₃ :=
  h.append (single h')

/-- A run through `ls ++ ls'` passes through a state between the two parts. -/
theorem split {s₁ s₃ : S} {ls ls' : List L} (h : A.Run s₁ (ls ++ ls') s₃) :
    ∃ s₂, A.Run s₁ ls s₂ ∧ A.Run s₂ ls' s₃ := by
  induction ls generalizing s₁ with
  | nil => exact ⟨s₁, .nil _, h⟩
  | cons l ls ih =>
    cases h with
    | cons hst hrest =>
      obtain ⟨s₂, h₁, h₂⟩ := ih hrest
      exact ⟨s₂, .cons hst h₁, h₂⟩

/-- **Induction over a run with a counter.**  `I n s` is kept by every step whose label
satisfies `P` when `n` grows by the weight `w l` of the label: along a run of such steps the
counter grows by the total weight of its labels. -/
theorem preserve_sum {P : L → Prop} {I : ℕ → S → Prop} (w : L → ℕ)
    (hstep : ∀ n s l s', P l → I n s → A.step s l s' → I (n + w l) s') {s s' : S}
    {ls : List L} (h : A.Run s ls s') (hP : ∀ l ∈ ls, P l) {n : ℕ} (hs : I n s) :
    I (n + (ls.map w).sum) s' := by
  induction h generalizing n with
  | nil => simpa using hs
  | @cons _ _ _ l ls hst _ ih =>
    have h₂ := hstep _ _ _ _ (hP l List.mem_cons_self) hs hst
    have h₃ := ih (fun l' hl' => hP l' (List.mem_cons_of_mem l hl')) h₂
    rwa [List.map_cons, List.sum_cons, ← Nat.add_assoc]

/-- `preserve_sum` counting the events labelled `a`. -/
theorem preserve_count [DecidableEq L] {P : L → Prop} {I : ℕ → S → Prop} (a : L)
    (hstep : ∀ n s l s', P l → I n s → A.step s l s' → I (n + if l = a then 1 else 0) s')
    {s s' : S} {ls : List L} (h : A.Run s ls s') (hP : ∀ l ∈ ls, P l) {n : ℕ} (hs : I n s) :
    I (n + ls.count a) s' := by
  have hsum : ∀ ls : List L, (ls.map fun l => if l = a then 1 else 0).sum = ls.count a := by
    intro ls
    induction ls with
    | nil => rfl
    | cons l ls ih =>
      rw [List.map_cons, List.sum_cons, ih, List.count_cons]
      by_cases hl : l = a <;> simp [hl, Nat.add_comm]
  rw [← hsum]
  exact h.preserve_sum _ hstep hP hs

/-- **Induction over a run**, for a property that only the steps whose label satisfies `P`
have to keep, along a run made of such steps. -/
theorem preserve {P : L → Prop} {I : S → Prop}
    (hstep : ∀ s l s', P l → I s → A.step s l s' → I s') {s s' : S} {ls : List L}
    (h : A.Run s ls s') (hP : ∀ l ∈ ls, P l) (hs : I s) : I s' := by
  have := h.preserve_sum (I := fun _ s => I s) (fun _ => 0)
    (fun _ s l s' hl hs hst => hstep s l s' hl hs hst) hP (n := 0) hs
  exact this

/-- **Induction over a run**: a property kept by every step holds at its end. -/
theorem invariant {I : S → Prop} (hstep : ∀ s l s', I s → A.step s l s' → I s') {s s' : S}
    {ls : List L} (h : A.Run s ls s') (hs : I s) : I s' :=
  h.preserve (P := fun _ => True) (fun s l s' _ => hstep s l s') (fun _ _ => trivial) hs

/-- Along a run of `P`-steps that keep `I`, every label satisfies `Q` when every `P`-step
from an `I`-state has a label satisfying `Q`. -/
theorem forall_label {P Q : L → Prop} {I : S → Prop}
    (hstep : ∀ s l s', P l → I s → A.step s l s' → I s')
    (hlabel : ∀ s l s', P l → I s → A.step s l s' → Q l) {s s' : S} {ls : List L}
    (h : A.Run s ls s') (hP : ∀ l ∈ ls, P l) (hs : I s) : ∀ l ∈ ls, Q l := by
  induction h with
  | nil => intro l hl; cases hl
  | @cons _ _ _ l ls hst _ ih =>
    have hl : P l := hP l List.mem_cons_self
    intro l' hl'
    rcases List.mem_cons.1 hl' with rfl | hmem
    · exact hlabel _ _ _ hl hs hst
    · exact ih (fun l'' h'' => hP l'' (List.mem_cons_of_mem l h'')) (hstep _ _ _ hl hs hst)
        l' hmem

theorem of_exec {next : S → L → Option S} {s s' : S} {ls : List L}
    (h : exec next s ls = some s') : (ofFun next).Run s ls s' := by
  induction ls generalizing s with
  | nil =>
    simp only [exec, Option.some.injEq] at h
    exact h ▸ .nil s
  | cons l ls ih =>
    simp only [exec, Option.bind_eq_some_iff] at h
    obtain ⟨s₁, h₁, h₂⟩ := h
    exact .cons h₁ (ih h₂)

end Run

namespace Reachable

theorem refl (s : S) : A.Reachable s s := ⟨[], .nil s⟩

theorem step {s₀ s s' : S} {l : L} (h : A.Reachable s₀ s) (h' : A.step s l s') :
    A.Reachable s₀ s' := by
  obtain ⟨ls, hr⟩ := h
  exact ⟨ls ++ [l], hr.snoc h'⟩

theorem trans {s₀ s s' : S} (h : A.Reachable s₀ s) (h' : A.Reachable s s') :
    A.Reachable s₀ s' := by
  obtain ⟨ls, hr⟩ := h
  obtain ⟨ls', hr'⟩ := h'
  exact ⟨ls ++ ls', hr.append hr'⟩

/-- Reachable states satisfy every property that holds initially and is kept by every step. -/
theorem invariant {I : S → Prop} (hstep : ∀ s l s', I s → A.step s l s' → I s') {s₀ s : S}
    (h : A.Reachable s₀ s) (h₀ : I s₀) : I s := by
  obtain ⟨ls, hr⟩ := h
  exact hr.invariant hstep h₀

/-- **Induction over the reachable states**: a step may use that the state it starts from is
reachable, for instance through a fact about a component proved by `map`. -/
theorem strong_invariant {I : S → Prop} {s₀ s : S}
    (hstep : ∀ s l s', A.Reachable s₀ s → I s → A.step s l s' → I s') (h : A.Reachable s₀ s)
    (h₀ : I s₀) : I s := by
  have key := h.invariant (I := fun s => A.Reachable s₀ s ∧ I s)
    (fun s l s' hs hst => ⟨hs.1.step hst, hstep s l s' hs.1 hs.2 hst⟩) ⟨refl s₀, h₀⟩
  exact key.2

/-- **Projection.**  When every step of `A`, seen through `π`, is a step of `B` or no step at
all, what `A` reaches is seen as a state that `B` reaches. -/
theorem map {T M : Type*} {B : Lts T M} (π : S → T)
    (hstep : ∀ s l s', A.step s l s' → π s' = π s ∨ ∃ m, B.step (π s) m (π s')) {s₀ s : S}
    (h : A.Reachable s₀ s) : B.Reachable (π s₀) (π s) := by
  refine h.invariant (I := fun s => B.Reachable (π s₀) (π s)) ?_ (refl _)
  intro s l s' hs hst
  rcases hstep s l s' hst with heq | ⟨m, hm⟩
  · rwa [heq]
  · exact hs.step hm

end Reachable

end Lts

end OpenElp
