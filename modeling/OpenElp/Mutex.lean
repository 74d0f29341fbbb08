import Mathlib.Data.Fintype.Basic
import OpenElp.Data.Count
import OpenElp.Lts.Basic

/-!
# The shared/exclusive mutex (`mutex_posix.c`)

`mutex_handle` is built from a pthread mutex `priv->lock`, a count `priv->readers` and a
condition variable `priv->cond`.  `mutex_lock` takes `priv->lock` and keeps it, waiting on
`priv->cond` (which releases it) while `readers` is positive.  `mutex_lock_shared` takes the
lock, counts itself in `readers` and releases it; `mutex_unlock_shared` uncounts itself the same
way and wakes the waiters when no reader is left.  `condvar_wait` and `condvar_wait_time` wait on
another condition variable with `priv->lock`: the pthread call releases the lock while it waits
and takes it back before it returns.

The model is a transition system over the holder of `priv->lock`, `readers`, and where each
thread is in these functions.  An event is a step of one thread between two blocking points;
blocking on `priv->lock` is the event not being enabled.  A condition wait may return at any
time (a broadcast, a timeout, or spuriously), so the wake-ups need no model.

* `MutexInv` : `priv->lock` is held by exactly the thread that holds the mutex exclusively, and
  `readers` counts the threads that hold it shared;
* `mutexInv_reachable` : **every reachable state** satisfies `MutexInv`; so at most one thread
  holds the mutex exclusively (`exclusive_unique`);
* `condvar_wait_admits_reader` : **a shared locker slips in during a condition wait**: from
  every reachable state where a thread holds the mutex exclusively and another is outside the
  mutex functions, `condvar_wait` can return to a caller that holds the mutex exclusively while
  the other holds it shared and `readers` is `1`.
-/

namespace OpenElp

/-- Where a thread is in the functions of `mutex_posix.c`. -/
inductive MutexPhase
  /-- Outside them, holding nothing. -/
  | out
  /-- In the loop of `mutex_lock`, blocked in `pthread_cond_wait` on `priv->cond`. -/
  | waitReaders
  /-- Holding the mutex exclusively: `mutex_lock` returned, `priv->lock` held. -/
  | exclusive
  /-- Holding the mutex shared: `mutex_lock_shared` returned. -/
  | shared
  /-- In `condvar_wait` or `condvar_wait_time`, blocked with `priv->lock` released. -/
  | condWait
  deriving DecidableEq, Repr

/-- A mutex and the threads that use it. -/
structure MutexState (T : Type*) where
  /-- The thread that holds `priv->lock`. -/
  lock : Option T
  /-- `priv->readers`. -/
  readers : ℕ
  /-- Where each thread is. -/
  phase : T → MutexPhase

/-- One step of one thread. -/
inductive MutexEvent (T : Type*)
  /-- `mutex_lock` takes `priv->lock` and tests `readers`: it keeps the lock, or waits. -/
  | lock (t : T)
  /-- The wait in `mutex_lock` returns with `priv->lock` taken back, and the loop tests
  `readers` again. -/
  | lockRetry (t : T)
  /-- `mutex_unlock`. -/
  | unlock (t : T)
  /-- `mutex_lock_shared`: `readers++` under `priv->lock`. -/
  | lockShared (t : T)
  /-- `mutex_unlock_shared`: `--readers` under `priv->lock`, and the broadcast. -/
  | unlockShared (t : T)
  /-- `condvar_wait` or `condvar_wait_time` releases `priv->lock` and blocks. -/
  | condvarWait (t : T)
  /-- The condition wait returns with `priv->lock` taken back. -/
  | condvarReturn (t : T)
  deriving DecidableEq, Repr

namespace MutexState

variable {T : Type*} [DecidableEq T]

/-- The mutex before any thread uses it: `mutex_init` leaves `readers` at `0`. -/
def init : MutexState T := ⟨none, 0, fun _ => .out⟩

/-- Thread `t` moves to phase `p`. -/
def move (s : MutexState T) (t : T) (p : MutexPhase) : MutexState T :=
  { s with phase := Function.update s.phase t p }

/-- Thread `t` holds `priv->lock` and runs the test of `mutex_lock`'s loop: with no reader it
returns holding the lock, else `pthread_cond_wait` releases the lock. -/
def takeForLock (s : MutexState T) (t : T) : MutexState T :=
  if s.readers > 0 then s.move t .waitReaders
  else { s.move t .exclusive with lock := some t }

end MutexState

open MutexState

variable {T : Type*} [DecidableEq T]

/-- One event, if it can happen: a thread takes `priv->lock` only while no thread holds it. -/
def mutexStep (s : MutexState T) : MutexEvent T → Option (MutexState T)
  | .lock t => if s.phase t = .out ∧ s.lock = none then some (s.takeForLock t) else none
  | .lockRetry t =>
    if s.phase t = .waitReaders ∧ s.lock = none then some (s.takeForLock t) else none
  | .unlock t => if s.phase t = .exclusive then some { s.move t .out with lock := none } else none
  | .lockShared t =>
    if s.phase t = .out ∧ s.lock = none then some { s.move t .shared with readers := s.readers + 1 }
    else none
  | .unlockShared t =>
    -- the broadcast only wakes waiters, whose wake-ups are always possible
    if s.phase t = .shared ∧ s.lock = none then
      some { s.move t .out with readers := s.readers - 1 }
    else none
  | .condvarWait t =>
    if s.phase t = .exclusive then some { s.move t .condWait with lock := none } else none
  | .condvarReturn t =>
    if s.phase t = .condWait ∧ s.lock = none then some { s.move t .exclusive with lock := some t }
    else none

/-- The mutex as a transition system. -/
def mutexSystem : Lts (MutexState T) (MutexEvent T) := Lts.ofFun mutexStep

namespace MutexState

@[simp] theorem move_lock (s : MutexState T) (t : T) (p : MutexPhase) : (s.move t p).lock = s.lock :=
  rfl

@[simp] theorem move_readers (s : MutexState T) (t : T) (p : MutexPhase) :
    (s.move t p).readers = s.readers :=
  rfl

@[simp] theorem move_phase_self (s : MutexState T) (t : T) (p : MutexPhase) :
    (s.move t p).phase t = p :=
  Function.update_self ..

@[simp] theorem move_phase_ne (s : MutexState T) {t u : T} (p : MutexPhase) (h : u ≠ t) :
    (s.move t p).phase u = s.phase u :=
  Function.update_of_ne h ..

variable [Fintype T]

/-- The threads that hold the mutex shared. -/
def sharers (s : MutexState T) : ℕ := (Finset.univ.filter fun t => s.phase t = .shared).card

/-- Moving a thread changes the count of sharers by what it leaves and what it enters. -/
theorem sharers_move (s : MutexState T) (t : T) (p : MutexPhase) :
    (s.move t p).sharers + (if s.phase t = .shared then 1 else 0) =
      s.sharers + (if p = .shared then 1 else 0) :=
  card_filter_update_add s.phase (· = .shared) t p

end MutexState

/-! ### What every reachable state satisfies -/

section Inv

variable [Fintype T]

/-- What holds in every reachable state: `priv->lock` is held by exactly the thread that holds
the mutex exclusively, and `readers` counts the threads that hold it shared. -/
structure MutexInv (s : MutexState T) : Prop where
  lock_iff : ∀ t, s.lock = some t ↔ s.phase t = .exclusive
  readers_eq : s.readers = s.sharers

omit [DecidableEq T] in
theorem mutexInv_init : MutexInv (init : MutexState T) where
  lock_iff t := by simp [init]
  readers_eq := by simp [init, sharers]

namespace MutexInv

variable {s : MutexState T} (hs : MutexInv s)
include hs

omit [DecidableEq T] in
/-- At most one thread holds the mutex exclusively. -/
theorem exclusive_unique {a b : T} (ha : s.phase a = .exclusive) (hb : s.phase b = .exclusive) :
    a = b :=
  Option.some.inj (((hs.lock_iff a).2 ha).symm.trans ((hs.lock_iff b).2 hb))

omit [DecidableEq T] in
/-- With `priv->lock` free, no thread holds the mutex exclusively. -/
theorem not_exclusive_of_free (hfree : s.lock = none) (u : T) : s.phase u ≠ .exclusive :=
  fun hu => by
    have := (hs.lock_iff u).2 hu
    rw [hfree] at this
    cases this

/-- A thread that neither holds nor takes the mutex moves, `priv->lock` staying free. -/
theorem move_free {t : T} {p : MutexPhase} (hfree : s.lock = none) (hp : p ≠ .exclusive)
    (hsh : s.phase t ≠ .shared) (hp' : p ≠ .shared) : MutexInv (s.move t p) := by
  refine ⟨fun u => ?_, ?_⟩
  · rw [move_lock, hfree]
    by_cases hu : u = t
    · subst hu
      simp [hp]
    · simp [move_phase_ne _ _ hu, hs.not_exclusive_of_free hfree u]
  · have := sharers_move s t p
    rw [if_neg hsh, if_neg hp'] at this
    rw [move_readers, hs.readers_eq]
    omega

/-- A thread takes `priv->lock` and returns holding the mutex exclusively. -/
theorem acquire {t : T} (hfree : s.lock = none) (hsh : s.phase t ≠ .shared) :
    MutexInv { s.move t .exclusive with lock := some t } := by
  refine ⟨fun u => ?_, ?_⟩
  · by_cases hu : u = t
    · subst hu
      simp
    · simp [move_phase_ne _ _ hu, hs.not_exclusive_of_free hfree u, Ne.symm hu]
  · have := sharers_move s t .exclusive
    rw [if_neg hsh, if_neg (by decide)] at this
    show s.readers = (s.move t .exclusive).sharers
    rw [hs.readers_eq]
    omega

/-- The exclusive holder releases `priv->lock` and leaves for a phase other than the two
holding ones. -/
theorem release {t : T} {p : MutexPhase} (ht : s.phase t = .exclusive) (hp : p ≠ .exclusive)
    (hp' : p ≠ .shared) : MutexInv { s.move t p with lock := none } := by
  have hlock : s.lock = some t := (hs.lock_iff t).2 ht
  refine ⟨fun u => ?_, ?_⟩
  · by_cases hu : u = t
    · subst hu
      simp [hp]
    · have : s.phase u ≠ .exclusive := fun h => hu (hs.exclusive_unique h ht)
      simp [move_phase_ne _ _ hu, this]
  · have := sharers_move s t p
    rw [ht, if_neg (by decide), if_neg hp'] at this
    show s.readers = (s.move t p).sharers
    rw [hs.readers_eq]
    omega

/-- `mutex_lock` or its retry: `priv->lock` is free, and the thread keeps it or waits. -/
theorem takeForLock {t : T} (hfree : s.lock = none) (hsh : s.phase t ≠ .shared) :
    MutexInv (s.takeForLock t) := by
  unfold MutexState.takeForLock
  split
  · exact hs.move_free hfree (by decide) hsh (by decide)
  · exact hs.acquire hfree hsh

/-- **Every event keeps the invariant.** -/
theorem step {e : MutexEvent T} {s' : MutexState T} (h : mutexStep s e = some s') :
    MutexInv s' := by
  cases e with
  | lock t | lockRetry t =>
    simp only [mutexStep] at h
    split at h
    · rename_i hc
      cases h
      exact hs.takeForLock hc.2 (by rw [hc.1]; decide)
    · cases h
  | unlock t | condvarWait t =>
    simp only [mutexStep] at h
    split at h
    · rename_i hc
      cases h
      exact hs.release hc (by decide) (by decide)
    · cases h
  | lockShared t =>
    simp only [mutexStep] at h
    split at h
    · rename_i hc
      cases h
      refine ⟨fun u => ?_, ?_⟩
      · -- the lock stays free, and the thread becomes a sharer
        have := (hs.move_free (t := t) (p := .out) hc.2 (by decide) (by rw [hc.1]; decide)
          (by decide)).lock_iff u
        by_cases hu : u = t
        · subst hu
          simp [hc.2]
        · simpa [move_phase_ne _ _ hu] using this
      · have := sharers_move s t .shared
        rw [hc.1, if_neg (by decide), if_pos rfl] at this
        show s.readers + 1 = (s.move t .shared).sharers
        rw [hs.readers_eq]
        omega
    · cases h
  | unlockShared t =>
    simp only [mutexStep] at h
    split at h
    · rename_i hc
      cases h
      refine ⟨fun u => ?_, ?_⟩
      · by_cases hu : u = t
        · subst hu
          simp [hc.2]
        · simp [move_phase_ne _ _ hu, hc.2, hs.not_exclusive_of_free hc.2 u]
      · have := sharers_move s t .out
        rw [hc.1, if_pos rfl, if_neg (by decide)] at this
        show s.readers - 1 = (s.move t .out).sharers
        rw [hs.readers_eq]
        omega
    · cases h
  | condvarReturn t =>
    simp only [mutexStep] at h
    split at h
    · rename_i hc
      cases h
      exact hs.acquire hc.2 (by rw [hc.1]; decide)
    · cases h

end MutexInv

/-- **Every reachable state satisfies `MutexInv`.** -/
theorem mutexInv_reachable {s : MutexState T} (h : mutexSystem.Reachable init s) : MutexInv s :=
  h.invariant (fun _ _ _ hs hstep => hs.step hstep) mutexInv_init

/-! ### A reader during a condition wait -/

/-- **A shared locker slips in during a condition wait.**  From every reachable state where a
thread `a` holds the mutex exclusively and another thread `b` is outside the mutex functions:
`a` calls `condvar_wait`, `b` calls `mutex_lock_shared`, and the wait returns.  `a` then holds
the mutex exclusively again while `b` holds it shared, with `readers` positive: the wait takes
`priv->lock` back without the test of `mutex_lock`. -/
theorem condvar_wait_admits_reader {s : MutexState T} (hs : mutexSystem.Reachable init s)
    {a b : T} (hab : a ≠ b) (ha : s.phase a = .exclusive) (hb : s.phase b = .out) :
    ∃ s', mutexSystem.Run s [.condvarWait a, .lockShared b, .condvarReturn a] s' ∧
      mutexSystem.Reachable init s' ∧ s'.phase a = .exclusive ∧ s'.phase b = .shared ∧
      s'.readers = s.readers + 1 := by
  have hlock : s.lock = some a := ((mutexInv_reachable hs).lock_iff a).2 ha
  -- the three states of the run
  let s₁ : MutexState T := { s.move a .condWait with lock := none }
  let s₂ : MutexState T := { s₁.move b .shared with readers := s₁.readers + 1 }
  let s₃ : MutexState T := { s₂.move a .exclusive with lock := some a }
  have h₁ : mutexStep s (.condvarWait a) = some s₁ := by simp [mutexStep, ha, s₁]
  have h₂ : mutexStep s₁ (.lockShared b) = some s₂ := by
    simp [mutexStep, s₁, s₂, move_phase_ne _ _ (Ne.symm hab), hb]
  have h₃ : mutexStep s₂ (.condvarReturn a) = some s₃ := by
    simp [mutexStep, s₁, s₂, s₃, move_phase_ne _ _ hab]
  have hrun : mutexSystem.Run s [.condvarWait a, .lockShared b, .condvarReturn a] s₃ :=
    .cons h₁ (.cons h₂ (.single h₃))
  refine ⟨s₃, hrun, hs.trans ⟨_, hrun⟩, by simp [s₃], ?_, rfl⟩
  simp [s₁, s₂, s₃, move_phase_ne _ _ (Ne.symm hab)]

end Inv

/-- Three threads, `0` having locked the mutex: `2` slips in during `0`'s condition wait. -/
theorem condvar_wait_admits_reader_three :
    let s : MutexState (Fin 3) := { (init : MutexState (Fin 3)).move 0 .exclusive with lock := some 0 }
    mutexSystem.Reachable init s ∧ (0 : Fin 3) ≠ 2 ∧ s.phase 0 = .exclusive ∧ s.phase 2 = .out ∧
      ∃ s', mutexSystem.Run s [.condvarWait 0, .lockShared 2, .condvarReturn 0] s' ∧
        mutexSystem.Reachable init s' ∧ s'.phase 0 = .exclusive ∧ s'.phase 2 = .shared ∧
        s'.readers = s.readers + 1 :=
  have hs : mutexSystem.Reachable init
      ({ (init : MutexState (Fin 3)).move 0 .exclusive with lock := some 0 } : MutexState (Fin 3)) :=
    ⟨[.lock 0], Lts.Run.of_exec rfl⟩
  ⟨hs, by decide, rfl, rfl, condvar_wait_admits_reader hs (by decide) rfl rfl⟩

/-- Two threads: `0` locks, waits on a condition, `1` locks shared, and the wait returns: `0`
holds the mutex exclusively and `1` holds it shared. -/
theorem condvar_wait_reader_two_threads :
    ∃ s : MutexState (Fin 2),
      mutexSystem.Reachable init s ∧ s.phase 0 = .exclusive ∧ s.phase 1 = .shared ∧
        s.readers = 1 := by
  refine ⟨_, ⟨[.lock 0, .condvarWait 0, .lockShared 1, .condvarReturn 0],
    Lts.Run.of_exec rfl⟩, rfl, rfl, rfl⟩

end OpenElp
