import OpenElp.Errno
import OpenElp.Lts.Basic
import Mathlib.Data.List.Basic

/-!
# The worker state machine (`worker.c`)

A `worker_handle` runs `func_ptr` on a thread of its own each time it is signalled.  Its
private state is `priv->state`, one of seven ordered values (`enum worker_state`) that
`worker_start`, `worker_wake`, `worker_join`, `worker_wait_idle` and the thread's loop in
`worker_func` compare with `<` and `>`, always with `priv->mutex` held.

The model is a transition system over the pair (`priv->state`, thread phase).  One event is one
region guarded by the mutex:

* `workerStart`, `workerWake`, `workerJoin`, `workerWaitIdle` : the locked sections of the four
  API functions (`thread_start` succeeding; the `thread_join` after `worker_join`'s section is
  the caller waiting for the thread to reach `ThreadPhase.none`);
* `workerFunc` : one region of the thread, from taking the mutex (at the top of `worker_func`,
  after `func_ptr` returns, or when a condition wait returns) to releasing it (to call
  `func_ptr`, to wait, or to return).  A waiting thread may wake at any moment: woken,
  timed out (`periodic_wake`), or spuriously.

The main results:

* `workerConsistent_of_reachable` : every reachable state pairs the state with a thread phase
  it allows (`Worker.Consistent`); in particular the thread runs `func_ptr` only in `BUSY`,
  `SIGNALED`, `STOPPING` or `STOPPING_AFTER_WORK` (`worker_running_state`).
* `worker_wake_kept` : a successful `worker_wake` is never lost: until the thread begins a call
  of `func_ptr`, the state stays `SIGNALED` or `STOPPING_AFTER_WORK`, whatever `worker_join`
  does.
* `worker_join_calls`, `worker_join_finishes` : after `worker_join`'s section the thread
  begins at most one more call, exactly one iff a wake was pending, no wake succeeds, and the
  thread can always finish in at most two regions.
* `worker_state_machine` : the four together.
-/

namespace OpenElp

/-- `enum worker_state`, in the order of its values. -/
inductive WorkerState
  /-- `WORKER_STOPPED`: the worker is not running. -/
  | stopped
  /-- `WORKER_STOPPING`: the worker is busy, but will shut down. -/
  | stopping
  /-- `WORKER_STOPPING_AFTER_WORK`: the worker will process work and then shut down. -/
  | stoppingAfterWork
  /-- `WORKER_BUSY`: the worker is processing work. -/
  | busy
  /-- `WORKER_SIGNALED`: the worker will process work soon. -/
  | signaled
  /-- `WORKER_IDLE`: the worker is waiting for new work. -/
  | idle
  /-- `WORKER_STARTING`: the worker is starting up. -/
  | starting
  deriving DecidableEq, Repr

namespace WorkerState

/-- The value of the enumerator (`WORKER_STOPPED = 0x0`, the others in order). -/
def val : WorkerState → ℕ
  | stopped => 0
  | stopping => 1
  | stoppingAfterWork => 2
  | busy => 3
  | signaled => 4
  | idle => 5
  | starting => 6

/-- The code compares states as integers. -/
instance : LT WorkerState := ⟨fun a b => a.val < b.val⟩

instance : LE WorkerState := ⟨fun a b => a.val ≤ b.val⟩

instance (a b : WorkerState) : Decidable (a < b) := inferInstanceAs (Decidable (a.val < b.val))

instance (a b : WorkerState) : Decidable (a ≤ b) := inferInstanceAs (Decidable (a.val ≤ b.val))

/-- A wake is pending: `worker_wake` succeeded and the thread has not yet begun the call. -/
def Pending (s : WorkerState) : Prop := s = signaled ∨ s = stoppingAfterWork

instance (s : WorkerState) : Decidable s.Pending := inferInstanceAs (Decidable (_ ∨ _))

/-- The calls of `func_ptr` the worker owes: one for a pending wake. -/
def owed (s : WorkerState) : ℕ := if s.Pending then 1 else 0

end WorkerState

/-- Where the worker's thread is. -/
inductive ThreadPhase
  /-- No thread: never started, or `worker_func` has returned. -/
  | none
  /-- Created by `thread_start`; it has not yet taken the mutex. -/
  | entry
  /-- In `wh->func_ptr(wh)`, with the mutex released. -/
  | running
  /-- Blocked in `condvar_wait` or `condvar_wait_time` on `priv->condvar`. -/
  | waiting
  deriving DecidableEq, Repr

/-- The part of a worker that its functions read and write. -/
structure Worker where
  /-- `priv->state`. -/
  state : WorkerState
  /-- The phase of the thread `priv->thread`. -/
  thread : ThreadPhase
  deriving DecidableEq, Repr

namespace Worker

/-- A worker as `worker_init` leaves it: `priv` is `calloc`'d, so the state is
`WORKER_STOPPED`, and no thread runs. -/
def init : Worker := ⟨.stopped, .none⟩

end Worker

open WorkerState

/-! ### The thread: `worker_func` -/

/-- The inner `while` of `worker_func` and the statements after it, reached with the mutex
held: start a call of `func_ptr` for a pending wake, or leave the loop when stopping, or
announce `WORKER_IDLE` and wait. -/
def innerLoop (s : WorkerState) : Worker :=
  if s = signaled ∨ s = stoppingAfterWork then
    ⟨if s = stoppingAfterWork then stopping else busy, .running⟩
  else if s ≤ stopping then ⟨stopped, .none⟩
  else ⟨idle, .waiting⟩

/-- The test of the outer `while (priv->state > WORKER_STOPPING)`; leaving the loop sets
`WORKER_STOPPED` and returns. -/
def outerLoop (s : WorkerState) : Worker :=
  if s > stopping then innerLoop s else ⟨stopped, .none⟩

/-- The state the thread finds when its wait returns: with `periodic_wake > 0` the wait is
`condvar_wait_time`, after which an idle worker signals itself. -/
def afterWait (periodicWake : ℕ) (s : WorkerState) : WorkerState :=
  if periodicWake > 0 then (if s = idle then signaled else s) else s

/-- One region of the thread between taking and releasing the mutex, from where the thread
is; `none` when there is no thread. -/
def workerFunc (periodicWake : ℕ) (w : Worker) : Option Worker :=
  match w.thread with
  | .none => none
  | .entry => some (outerLoop w.state)
  | .running => some (innerLoop w.state)
  | .waiting => some (outerLoop (afterWait periodicWake w.state))

/-! ### The locked sections of the API -/

/-- `worker_start` with `thread_start` succeeding: a stopped worker gets a new thread. -/
def workerStart (w : Worker) : Worker :=
  if w.state ≤ stopped then ⟨starting, .entry⟩ else w

/-- `worker_wake`: `0` and `WORKER_SIGNALED` unless the worker is stopped or stopping. -/
def workerWake (w : Worker) : ℤ × Worker :=
  if w.state > stoppingAfterWork then (0, { w with state := signaled }) else (-EINVAL, w)

/-- The locked section of `worker_join`: a pending wake becomes `STOPPING_AFTER_WORK`, any
other running state `STOPPING`. -/
def workerJoin (w : Worker) : Worker :=
  if w.state > stoppingAfterWork then
    { w with state := if w.state = signaled then stoppingAfterWork else stopping }
  else w

/-- The test of `worker_wait_idle`'s loop: `some ret` when it returns, `none` while it waits
on `condvar_idle`. -/
def workerWaitIdle (w : Worker) : Option ℤ :=
  if w.state < idle then (if w.state < busy then some (-EINVAL) else none) else some 0

/-! ### The transition system -/

/-- The events of a worker. -/
inductive WorkerEvent
  /-- The locked section of `worker_start`. -/
  | start
  /-- `worker_wake`, returning `ret`. -/
  | wake (ret : ℤ)
  /-- The locked section of `worker_join`. -/
  | join
  /-- `worker_wait_idle` returning `ret`. -/
  | waitIdle (ret : ℤ)
  /-- A region of the thread that leaves it in phase `next`. -/
  | thread (next : ThreadPhase)
  deriving DecidableEq, Repr

/-- The event that begins a call of `func_ptr`. -/
abbrev WorkerEvent.call : WorkerEvent := .thread .running

/-- The step function of a worker whose `periodic_wake` is `periodicWake`. -/
def workerStep (periodicWake : ℕ) (w : Worker) : WorkerEvent → Option Worker
  | .start => some (workerStart w)
  | .wake ret => if (workerWake w).1 = ret then some (workerWake w).2 else none
  | .join => some (workerJoin w)
  | .waitIdle ret => if workerWaitIdle w = some ret then some w else none
  | .thread next => (workerFunc periodicWake w).filter fun w' => w'.thread = next

/-- The worker as a transition system. -/
def workerLts (periodicWake : ℕ) : Lts Worker WorkerEvent := Lts.ofFun (workerStep periodicWake)

variable {p : ℕ} {w w' : Worker} {e : WorkerEvent}

theorem workerStep_thread {next : ThreadPhase} :
    workerStep p w (.thread next) = some w' ↔ workerFunc p w = some w' ∧ w'.thread = next := by
  simp [workerStep, Option.filter_eq_some_iff]

theorem workerStep_wake {ret : ℤ} :
    workerStep p w (.wake ret) = some w' ↔ workerWake w = (ret, w') := by
  simp only [workerStep]
  constructor
  · intro h
    split at h
    · cases h; ext <;> simp_all
    · cases h
  · intro h
    simp [h]

theorem workerStep_waitIdle {ret : ℤ} :
    workerStep p w (.waitIdle ret) = some w' ↔ workerWaitIdle w = some ret ∧ w' = w := by
  simp only [workerStep]
  constructor
  · intro h
    split at h
    · cases h; exact ⟨by assumption, rfl⟩
    · cases h
  · rintro ⟨h, rfl⟩
    simp [h]

/-- `worker_wake` changes only the state: the thread goes on where it is. -/
@[simp] theorem workerWake_thread (w : Worker) : (workerWake w).2.thread = w.thread := by
  unfold workerWake
  split_ifs <;> rfl

/-- A wake that returns `0` leaves the worker `SIGNALED`. -/
theorem workerWake_signaled (h : (workerWake w).1 = 0) : (workerWake w).2.state = signaled := by
  by_cases hs : w.state > stoppingAfterWork
  · simp [workerWake, hs]
  · simp [workerWake, hs, EINVAL] at h

/-! ### Which thread phase goes with which state -/

/-- The invariant of the worker: the thread phase allows the state.  There is a thread iff the
worker is not stopped; a thread that has not taken the mutex yet finds `STARTING` or what a
wake or a join made of it; a thread in `func_ptr` finds `BUSY` or what a wake or a join made
of it; a waiting thread finds `IDLE` or what a wake or a join made of it. -/
def Worker.Consistent (w : Worker) : Prop :=
  match w.thread with
  | .none => w.state = stopped
  | .entry => w.state ∈ [starting, signaled, stopping, stoppingAfterWork]
  | .running => w.state ∈ [busy, signaled, stopping, stoppingAfterWork]
  | .waiting => w.state ∈ [idle, signaled, stopping, stoppingAfterWork]

instance (w : Worker) : Decidable w.Consistent := by
  unfold Worker.Consistent; split <;> infer_instance

theorem consistent_init : Worker.init.Consistent := by decide

/-- Each locked section keeps the invariant: an exhaustive check over the 28 pairs. -/
theorem consistent_workerStart (w : Worker) (hw : w.Consistent) :
    (workerStart w).Consistent := by
  obtain ⟨s, t⟩ := w
  revert hw
  cases s <;> cases t <;> decide

theorem consistent_workerWake (w : Worker) (hw : w.Consistent) :
    (workerWake w).2.Consistent := by
  obtain ⟨s, t⟩ := w
  revert hw
  cases s <;> cases t <;> decide

theorem consistent_workerJoin (w : Worker) (hw : w.Consistent) :
    (workerJoin w).Consistent := by
  obtain ⟨s, t⟩ := w
  revert hw
  cases s <;> cases t <;> decide

theorem consistent_innerLoop (s : WorkerState) : (innerLoop s).Consistent := by
  cases s <;> decide

theorem consistent_outerLoop (s : WorkerState) : (outerLoop s).Consistent := by
  cases s <;> decide

theorem consistent_workerFunc (h : workerFunc p w = some w') : w'.Consistent := by
  unfold workerFunc at h
  split at h
  · cases h
  all_goals
    cases h
    first
    | exact consistent_outerLoop _
    | exact consistent_innerLoop _

theorem consistent_step (hw : w.Consistent) (h : (workerLts p).step w e w') :
    w'.Consistent := by
  change workerStep p w e = some w' at h
  cases e with
  | start =>
    cases h
    exact consistent_workerStart w hw
  | wake ret =>
    rw [workerStep_wake] at h
    have := consistent_workerWake w hw
    rw [h] at this
    exact this
  | join =>
    cases h
    exact consistent_workerJoin w hw
  | waitIdle ret =>
    obtain ⟨-, rfl⟩ := workerStep_waitIdle.1 h
    exact hw
  | thread next =>
    exact consistent_workerFunc (workerStep_thread.1 h).1

theorem workerConsistent_of_reachable (h : (workerLts p).Reachable Worker.init w) :
    w.Consistent :=
  h.invariant (fun _ _ _ hw hst => consistent_step hw hst) consistent_init

/-- **(a)** The thread is in `func_ptr` only when the state is `BUSY`, `SIGNALED`, `STOPPING`
or `STOPPING_AFTER_WORK`. -/
theorem worker_running_state (h : (workerLts p).Reachable Worker.init w)
    (hr : w.thread = .running) :
    w.state = busy ∨ w.state = signaled ∨ w.state = stopping ∨ w.state = stoppingAfterWork := by
  have hc := workerConsistent_of_reachable h
  simp only [Worker.Consistent, hr, List.mem_cons, List.not_mem_nil, or_false] at hc
  exact hc

/-! ### A successful wake is never lost -/

theorem afterWait_of_ne {s : WorkerState} (h : s ≠ idle) : afterWait p s = s := by
  simp [afterWait, h]

/-- A region of the thread, for a state the periodic wake does not touch. -/
theorem workerFunc_of_ne {s : WorkerState} {t : ThreadPhase} (h : s ≠ idle) :
    workerFunc p ⟨s, t⟩ = match t with
      | .none => none
      | .entry => some (outerLoop s)
      | .running => some (innerLoop s)
      | .waiting => some (outerLoop s) := by
  cases t <;> simp [workerFunc, afterWait_of_ne h]

/-- The periodic wake matters only to an idle worker. -/
theorem workerStep_of_ne (h : w.state ≠ idle) : workerStep p w e = workerStep 0 w e := by
  cases e <;> simp [workerStep, workerFunc, afterWait_of_ne h]

/-- From a pending wake, every region of the thread begins the call. -/
theorem workerFunc_of_pending (hs : w.state.Pending) (h : workerFunc p w = some w') :
    w'.thread = .running := by
  obtain ⟨s, t⟩ := w
  have hne : s ≠ idle := by rcases hs with rfl | rfl <;> decide
  rw [workerFunc_of_ne hne] at h
  cases t <;> simp only [Option.some.injEq, reduceCtorEq] at h <;> subst h <;>
    rcases hs with rfl | rfl <;> decide

/-- Every step but the start of a call keeps a pending wake pending. -/
theorem pending_step (hs : w.state.Pending) (he : e ≠ .call) (h : (workerLts p).step w e w') :
    w'.state.Pending := by
  change workerStep p w e = some w' at h
  obtain ⟨s, t⟩ := w
  cases e with
  | start =>
    cases h
    have hle : ¬ s ≤ stopped := by rcases hs with rfl | rfl <;> decide
    simp only [workerStart, hle, if_false]
    exact hs
  | wake ret =>
    rw [workerStep_wake] at h
    unfold workerWake at h
    split at h
    · simp only [Prod.mk.injEq] at h
      obtain ⟨-, rfl⟩ := h
      exact Or.inl rfl
    · simp only [Prod.mk.injEq] at h
      obtain ⟨-, rfl⟩ := h
      exact hs
  | join =>
    cases h
    rcases hs with rfl | rfl
    · exact Or.inr rfl
    · exact Or.inr rfl
  | waitIdle ret =>
    obtain ⟨-, rfl⟩ := workerStep_waitIdle.1 h
    exact hs
  | thread next =>
    obtain ⟨hf, rfl⟩ := workerStep_thread.1 h
    exact absurd (congrArg WorkerEvent.thread (workerFunc_of_pending hs hf)) he

/-- **(b)** After `worker_wake` returns `0`, the state is `SIGNALED` or `STOPPING_AFTER_WORK`
until the thread begins a call of `func_ptr`, whatever happens in between (`worker_join`
included), as `worker.h` promises. -/
theorem worker_wake_kept {w₀ : Worker} {ls : List WorkerEvent}
    (h : (workerLts p).Run w₀ (.wake 0 :: ls) w') (hls : WorkerEvent.call ∉ ls) :
    w'.state = signaled ∨ w'.state = stoppingAfterWork := by
  cases h with
  | cons hst hrest =>
    change workerStep p w₀ (.wake 0) = some _ at hst
    rw [workerStep_wake] at hst
    unfold workerWake at hst
    split at hst
    · simp only [Prod.mk.injEq] at hst
      obtain ⟨-, rfl⟩ := hst
      exact hrest.preserve (P := (· ≠ .call))
        (fun _ _ _ he hs hst => pending_step hs he hst) (fun e he hc => hls (hc ▸ he))
        (Or.inl rfl)
    · simp only [Prod.mk.injEq] at hst
      exact absurd hst.1 (by decide)

/-! ### After `worker_join` -/

/-- What holds after `worker_join`'s section, for a run that has begun `n` calls since: no
state above `STOPPING_AFTER_WORK`, and the calls begun and owed add up to `r`. -/
def JoinedAfter (r n : ℕ) (w : Worker) : Prop :=
  w.Consistent ∧ w.state ≤ stoppingAfterWork ∧ n + w.state.owed = r

instance {r n : ℕ} {w : Worker} : Decidable (JoinedAfter r n w) :=
  inferInstanceAs (Decidable (_ ∧ _ ∧ _))

/-- One region of a joined thread: either it begins the one call it owed, or it finishes. -/
theorem joined_workerFunc (hc : w.Consistent) (hs : w.state ≤ stoppingAfterWork)
    (h : workerFunc p w = some w') :
    w'.Consistent ∧ w'.state ≤ stoppingAfterWork ∧
      w'.state.owed + (if w'.thread = .running then 1 else 0) = w.state.owed := by
  obtain ⟨s, t⟩ := w
  have hne : s ≠ idle := by
    rintro rfl
    exact absurd hs (by decide : ¬ idle ≤ stoppingAfterWork)
  rw [workerFunc_of_ne hne] at h
  cases t <;> simp only [Option.some.injEq, reduceCtorEq] at h <;> subst h <;>
    revert hc hs <;> cases s <;> decide

theorem joined_step {r n : ℕ} (hw : JoinedAfter r n w) (he : e ≠ .start)
    (h : (workerLts p).step w e w') :
    JoinedAfter r (n + if e = .call then 1 else 0) w' := by
  obtain ⟨hc, hs, hr⟩ := hw
  change workerStep p w e = some w' at h
  have hwake : ¬ w.state > stoppingAfterWork := fun h' => absurd hs (Nat.not_le.2 h')
  cases e with
  | start => exact absurd rfl he
  | wake ret =>
    rw [workerStep_wake] at h
    simp only [workerWake, hwake, if_false, Prod.mk.injEq] at h
    obtain ⟨-, rfl⟩ := h
    simpa [JoinedAfter] using And.intro hc (And.intro hs hr)
  | join =>
    cases h
    simpa [JoinedAfter, workerJoin, hwake] using And.intro hc (And.intro hs hr)
  | waitIdle ret =>
    obtain ⟨-, rfl⟩ := workerStep_waitIdle.1 h
    simpa [JoinedAfter] using And.intro hc (And.intro hs hr)
  | thread next =>
    obtain ⟨hf, rfl⟩ := workerStep_thread.1 h
    obtain ⟨hc', hs', hr'⟩ := joined_workerFunc hc hs hf
    refine ⟨hc', hs', ?_⟩
    by_cases hrun : w'.thread = .running
    · simp only [hrun, if_true] at hr' ⊢
      omega
    · have : WorkerEvent.thread w'.thread ≠ .call := fun h' => hrun (WorkerEvent.thread.inj h')
      simp only [hrun, this, if_false] at hr' ⊢
      omega

/-- The section of `worker_join` leaves a reachable worker joined, owing what it owed. -/
theorem joinedAfter_workerJoin (hc : w.Consistent) :
    JoinedAfter w.state.owed 0 (workerJoin w) := by
  obtain ⟨s, t⟩ := w
  revert hc
  cases s <;> cases t <;> decide

/-- **(c), counting.**  After `worker_join`'s section, along any run without a new
`worker_start`: every `worker_wake` fails with `-EINVAL`, the calls begun and the calls still
owed add up to what was owed at the join (one for a pending wake), and a thread that has
returned left the worker `STOPPED`. -/
theorem worker_join_calls {w₀ : Worker} {ls : List WorkerEvent}
    (h₀ : (workerLts p).Reachable Worker.init w₀)
    (h : (workerLts p).Run w₀ (.join :: ls) w') (hls : WorkerEvent.start ∉ ls) :
    (∀ ret, WorkerEvent.wake ret ∈ ls → ret = -EINVAL) ∧
      ls.count .call + w'.state.owed = w₀.state.owed ∧
      (w'.thread = .none → w'.state = stopped) := by
  cases h with
  | cons hst hrest =>
    change workerStep p w₀ .join = some _ at hst
    cases hst
    have hj := joinedAfter_workerJoin (workerConsistent_of_reachable h₀)
    have hP : ∀ e ∈ ls, e ≠ .start := fun e he hs => hls (hs ▸ he)
    have hfin := hrest.preserve_count (I := JoinedAfter w₀.state.owed) WorkerEvent.call
      (fun _ _ _ _ he hw hst => joined_step hw he hst) hP hj
    obtain ⟨hc', -, hcount⟩ := hfin
    refine ⟨?_, by simpa using hcount, ?_⟩
    · -- every wake of the run is taken from a joined state, where it fails
      intro ret hmem
      have hall := hrest.forall_label (P := (· ≠ .start))
        (I := fun w => ∃ n, JoinedAfter w₀.state.owed n w)
        (Q := fun e => ∀ ret, e = .wake ret → ret = -EINVAL)
        (fun _ _ _ he ⟨n, hw⟩ hst => ⟨_, joined_step hw he hst⟩) ?_ hP ⟨0, hj⟩
      · exact hall _ hmem ret rfl
      · rintro w₁ e w₂ _ ⟨n, -, hs, -⟩ hst ret he
        subst he
        change workerStep p w₁ (.wake ret) = some w₂ at hst
        rw [workerStep_wake] at hst
        have hwake : ¬ w₁.state > stoppingAfterWork := fun h' => absurd hs (Nat.not_le.2 h')
        simp only [workerWake, hwake, if_false, Prod.mk.injEq] at hst
        exact hst.1.symm
    · intro hnone
      simpa [Worker.Consistent, hnone] using hc'

/-- A joined thread can always finish: at most two regions, the first beginning the call owed
for a pending wake, take it to `STOPPED`. -/
theorem joined_finishes {r n : ℕ} (hw : JoinedAfter r n w) :
    ∃ ls w', (workerLts p).Run w ls w' ∧ (∀ e ∈ ls, ∃ ph, e = .thread ph) ∧
      w'.state = stopped ∧ w'.thread = .none ∧ n + ls.count .call = r := by
  obtain ⟨hc, hs, hr⟩ := hw
  obtain ⟨s, t⟩ := w
  -- from `STOPPING`, one region leaves the loop
  have leave : ∀ t : ThreadPhase, t ≠ .none →
      (workerLts p).step ⟨stopping, t⟩ (.thread .none) ⟨stopped, .none⟩ := by
    intro t ht
    change workerStep p _ _ = _
    rw [workerStep_of_ne (by simp)]
    cases t <;> first | exact absurd rfl ht | decide
  -- from `STOPPING_AFTER_WORK`, the region begins the call
  have call : ∀ t : ThreadPhase, t ≠ .none →
      (workerLts p).step ⟨stoppingAfterWork, t⟩ .call ⟨stopping, .running⟩ := by
    intro t ht
    change workerStep p _ _ = _
    rw [workerStep_of_ne (by simp)]
    cases t <;> first | exact absurd rfl ht | decide
  have hthread : s ≠ stopped → t ≠ .none := by
    rintro hs' rfl
    exact hs' hc
  cases s
  case stopped =>
    have ht : t = .none := by cases t <;> simp_all [Worker.Consistent]
    subst ht
    exact ⟨[], _, .nil _, by simp, rfl, rfl, by simpa [WorkerState.owed, WorkerState.Pending] using hr⟩
  case stopping =>
    refine ⟨[.thread .none], _, .single (leave t (hthread (by decide))), by simp, rfl, rfl, ?_⟩
    simpa [WorkerState.owed, WorkerState.Pending] using hr
  case stoppingAfterWork =>
    refine ⟨[.call, .thread .none], _,
      .cons (call t (hthread (by decide))) (.single (leave _ (by decide))), by simp, rfl, rfl,
      ?_⟩
    simp only [WorkerState.owed] at hr
    simpa [WorkerState.Pending] using hr
  all_goals
    dsimp only at hs
    exact absurd hs (by decide)

/-- `worker_wait_idle` returns `0` only for an idle or starting worker: its thread is not in
`func_ptr` and owes no call. -/
theorem worker_waitIdle_zero (h : (workerLts p).Reachable Worker.init w)
    (hz : workerWaitIdle w = some 0) : w.thread ≠ .running ∧ ¬ w.state.Pending := by
  have hc := workerConsistent_of_reachable h
  obtain ⟨s, t⟩ := w
  revert hc hz
  cases s <;> cases t <;> decide

/-! ### Workers that are started and never joined -/

/-- The thread is not in `func_ptr` and owes no call. -/
def Worker.Quiet (w : Worker) : Prop := w.thread ≠ .running ∧ ¬ w.state.Pending

instance (w : Worker) : Decidable w.Quiet := inferInstanceAs (Decidable (_ ∧ _))

/-- The worker has been started and is not being stopped: its state is `BUSY` or above. -/
def Worker.Serving (w : Worker) : Prop := busy ≤ w.state

instance (w : Worker) : Decidable w.Serving := inferInstanceAs (Decidable (busy ≤ w.state))

/-- Without `periodic_wake`, the thread's regions keep a consistent quiet worker quiet: it only
goes on waiting. -/
theorem quiet_workerFunc (hc : w.Consistent) (hq : w.Quiet) (h : workerFunc 0 w = some w') :
    w'.Quiet := by
  have key : ∀ w : Worker, w.Consistent → w.Quiet →
      (workerFunc 0 w).all (fun w' => decide w'.Quiet) = true := by
    intro w
    obtain ⟨s, t⟩ := w
    cases s <;> cases t <;> decide
  simpa [h] using key w hc hq

/-- **Only a wake ends a quiet spell**: without `periodic_wake`, every event but a successful
`worker_wake` keeps a consistent quiet worker quiet. -/
theorem quiet_step (hc : w.Consistent) (hq : w.Quiet) (he : ∀ ret, e ≠ .wake ret)
    (h : (workerLts 0).step w e w') : w'.Quiet := by
  change workerStep 0 w e = some w' at h
  cases e with
  | start =>
    cases h
    obtain ⟨s, t⟩ := w
    revert hc hq
    cases s <;> cases t <;> decide
  | wake ret => exact absurd rfl (he ret)
  | join =>
    cases h
    obtain ⟨s, t⟩ := w
    revert hc hq
    cases s <;> cases t <;> decide
  | waitIdle ret =>
    obtain ⟨-, rfl⟩ := workerStep_waitIdle.1 h
    exact hq
  | thread next => exact quiet_workerFunc hc hq (workerStep_thread.1 h).1

/-- Without `periodic_wake`, the thread's regions keep a serving worker serving. -/
theorem serving_workerFunc (hs : w.Serving) (h : workerFunc 0 w = some w') : w'.Serving := by
  have key : ∀ w : Worker, w.Serving →
      (workerFunc 0 w).all (fun w' => decide w'.Serving) = true := by
    intro w
    obtain ⟨s, t⟩ := w
    cases s <;> cases t <;> decide
  simpa [h] using key w hs

/-- A wake keeps a serving worker serving. -/
theorem serving_workerWake (hs : w.Serving) : (workerWake w).2.Serving := by
  obtain ⟨s, t⟩ := w
  revert hs
  cases s <;> cases t <;> decide

/-- `worker_wake` of a serving worker succeeds and leaves it `SIGNALED`. -/
theorem workerWake_of_serving (hw : w.Serving) :
    workerWake w = (0, { w with state := signaled }) := by
  have : stoppingAfterWork < w.state :=
    Nat.lt_of_lt_of_le (show stoppingAfterWork.val < busy.val by decide) hw
  simp [workerWake, this]

/-- Without `periodic_wake`, a serving worker that owes no call only goes on to wait, from
wherever its thread is. -/
theorem workerFunc_of_not_pending (hs : w.Serving) (hp : ¬ w.state.Pending)
    (h : workerFunc 0 w = some w') : w' = ⟨idle, .waiting⟩ := by
  have key : ∀ w : Worker, w.Serving → ¬ w.state.Pending →
      (workerFunc 0 w).all (fun w' => w' == ⟨idle, .waiting⟩) = true := by
    intro w
    obtain ⟨s, t⟩ := w
    cases s <;> cases t <;> decide
  simpa [h] using key w hs hp

/-- A `SIGNALED` worker's next region, wherever its thread is, begins a call in `BUSY`. -/
theorem workerFunc_of_signaled (hs : w.state = signaled) (h : workerFunc p w = some w') :
    w' = ⟨busy, .running⟩ := by
  obtain ⟨s, t⟩ := w
  dsimp only at hs
  subst hs
  have hgt : signaled > stopping := by decide
  cases t <;> simp [workerFunc, outerLoop, innerLoop, afterWait, hgt] at h <;> exact h.symm

/-- `worker_wait_idle` on a serving worker returns only `0`: it waits out `BUSY` and
`SIGNALED`. -/
theorem serving_waitIdle {r : ℤ} (hs : w.Serving) (h : workerWaitIdle w = some r) : r = 0 := by
  have hb : ¬ w.state < busy := Nat.not_lt.2 hs
  unfold workerWaitIdle at h
  -- `hb` rules out the `-EINVAL` branch and a waiting test gives nothing
  split_ifs at h
  exact (Option.some.inj h).symm

/-- **The worker state machine** (`worker.c`): for every `periodic_wake`,
(a) the thread runs `func_ptr` only in `BUSY`, `SIGNALED`, `STOPPING` or
`STOPPING_AFTER_WORK`;
(b) after a `worker_wake` that returned `0`, the state is `SIGNALED` or `STOPPING_AFTER_WORK`
until the thread begins a call, so no successful wake is lost, even across `worker_join`;
(c) after `worker_join`'s section, without a new `worker_start`, no `worker_wake` succeeds,
the thread begins at most the one call owed for a pending wake, and it can always go on to
`STOPPED` by its own regions, having then begun exactly that call iff one was owed;
(d) `worker_wait_idle` returns `0` only when the thread is not in `func_ptr` and owes no
call. -/
theorem worker_state_machine (p : ℕ) :
    (∀ w, (workerLts p).Reachable Worker.init w → w.thread = .running →
      w.state = busy ∨ w.state = signaled ∨ w.state = stopping ∨
        w.state = stoppingAfterWork) ∧
    (∀ w₀ w' ls, (workerLts p).Run w₀ (.wake 0 :: ls) w' → WorkerEvent.call ∉ ls →
      w'.state = signaled ∨ w'.state = stoppingAfterWork) ∧
    (∀ w₀ w' ls, (workerLts p).Reachable Worker.init w₀ →
      (workerLts p).Run w₀ (.join :: ls) w' → WorkerEvent.start ∉ ls →
      (∀ ret, WorkerEvent.wake ret ∈ ls → ret = -EINVAL) ∧
      ls.count .call ≤ w₀.state.owed ∧
      (w'.thread = .none → w'.state = stopped ∧ ls.count .call = w₀.state.owed) ∧
      ∃ ls' w'', (workerLts p).Run w' ls' w'' ∧ (∀ e ∈ ls', ∃ ph, e = .thread ph) ∧
        w''.state = stopped ∧ w''.thread = .none ∧
        (ls ++ ls').count .call = w₀.state.owed) ∧
    (∀ w, (workerLts p).Reachable Worker.init w → workerWaitIdle w = some 0 →
      w.thread ≠ .running ∧ ¬ w.state.Pending) := by
  refine ⟨fun w h hr => worker_running_state h hr, fun w₀ w' ls h hls => worker_wake_kept h hls,
    ?_, fun w h hz => worker_waitIdle_zero h hz⟩
  intro w₀ w' ls h₀ h hls
  obtain ⟨hwake, hcount, hstop⟩ := worker_join_calls h₀ h hls
  refine ⟨hwake, by omega, fun hn => ⟨hstop hn, ?_⟩, ?_⟩
  · have := hstop hn
    simpa [this, WorkerState.owed, WorkerState.Pending] using hcount
  · -- the joined invariant holds at the end of the run, so the thread can finish from there
    cases h with
    | cons hst hrest =>
      change workerStep p w₀ .join = some _ at hst
      cases hst
      have hw' := hrest.preserve_count (I := JoinedAfter w₀.state.owed) WorkerEvent.call
        (fun _ _ _ _ he hw hst => joined_step hw he hst) (fun e he hs => hls (hs ▸ he))
        (joinedAfter_workerJoin (workerConsistent_of_reachable h₀))
      obtain ⟨ls', w'', hr, hth, hs, ht, hn⟩ := joined_finishes (p := p) hw'
      refine ⟨ls', w'', hr, hth, hs, ht, ?_⟩
      rw [List.count_append]
      omega

end OpenElp
