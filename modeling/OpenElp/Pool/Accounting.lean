import OpenElp.Data.Count
import OpenElp.Pool.Workers

/-!
# Accounting of the worker pool

Every worker plays one of five roles (`WorkerPool.Role`): idle on the list; popped by
`proxy_process` for a connection `c`; handed `c` by `proxy_worker_accept` and `SIGNALED`; in
`proxy_worker_func` serving `c`; or done with `c` and about to push itself back.  A worker
pushes itself back while its thread is still in `func_ptr`, in `WORKER_BUSY`, so it can be
popped and handed a new connection before that call returns: the wake then turns `BUSY` into
`SIGNALED` and the thread's next region begins the call that serves the new connection.
`WorkerPool.Inv` ties the roles to the idle list, to the `proxy_process` thread and to the
ghost record of accepted and freed connections; every event keeps it (`WorkerPool.Inv.step`).

* `WorkerPool.workerPool_inv` : the invariant holds in every reachable state;
* `worker_pool_accounting` : **the accounting of the worker pool**: the idle list is finite and
  duplicate-free and holds exactly the workers no connection owns; `proxy_worker_accept` and
  the test at the top of `proxy_worker_func` never fail; every accepted connection is held
  once or freed once; a connection that finds no worker is freed at once; and
  `proxy_update_registration` reports the number of owned workers, between 0 and
  `num_clients`.
-/

namespace OpenElp

namespace WorkerPool

variable {n : ℕ} {s s' : WorkerPool n}

/-! ## The events, one at a time

Each lemma inverts one event: what it asks of the state, and the state it leaves. -/

theorem step_accept (h : s.workerPoolStep .accept = some s') :
    s.main = .waiting ∧
      s' = { s with main := .accepted s.accepted, accepted := s.accepted + 1 } := by
  simp only [workerPoolStep, Option.ite_none_right_eq_some, Option.some.injEq] at h
  exact ⟨h.1, h.2.symm⟩

theorem step_pop (h : s.workerPoolStep .pop = some s') :
    ∃ c, s.main = .accepted c ∧
      ((∃ w, 0 < s.usable ∧ s.head = some w ∧
        s' = { s with
          head := s.next w, owner := Function.update s.owner w (some c), main := .popped c w }) ∨
       ((s.usable = 0 ∨ s.head = none) ∧
        s' = { s with freed := s.freed ++ [c], main := .waiting })) := by
  simp only [workerPoolStep] at h
  split at h
  · rename_i c hm
    refine ⟨c, hm, ?_⟩
    split at h
    · rename_i w hw
      split_ifs at hw with hu
      exact .inl ⟨w, hu, hw, (Option.some.inj h).symm⟩
    · rename_i hw
      refine .inr ⟨?_, (Option.some.inj h).symm⟩
      split_ifs at hw with hu
      · exact .inr hw
      · exact .inl (by omega)
  · cases h

theorem step_workerAccept (h : s.workerPoolStep .workerAccept = some s') :
    ∃ c w, s.main = .popped c w ∧ s' = s.workerAcceptStep c w := by
  simp only [workerPoolStep] at h
  split at h
  · exact ⟨_, _, by assumption, (Option.some.inj h).symm⟩
  · cases h

theorem step_thread {w : Fin n} {next : ThreadPhase}
    (h : s.workerPoolStep (.thread w next) = some s') :
    ¬ ((s.worker w).thread = .running ∧ s.func w ≠ .done) ∧
      ∃ wk, workerStep 0 (s.worker w) (.thread next) = some wk ∧
        s' = { s with
          worker := Function.update s.worker w wk,
          func := Function.update s.func w (if next = .running then .check else s.func w) } := by
  simp only [workerPoolStep] at h
  by_cases hr : (s.worker w).thread = .running ∧ s.func w ≠ .done
  · rw [if_pos hr] at h
    cases h
  · rw [if_neg hr] at h
    split at h
    · exact ⟨hr, _, by assumption, (Option.some.inj h).symm⟩
    · cases h

theorem step_check {w : Fin n} (h : s.workerPoolStep (.check w) = some s') :
    s.func w = .check ∧ s' = { s with
      func := Function.update s.func w (if s.connClient w = none then .done else .serve) } := by
  simp only [workerPoolStep, Option.ite_none_right_eq_some, Option.some.injEq] at h
  exact ⟨h.1, h.2.symm⟩

theorem step_serve {w : Fin n} (h : s.workerPoolStep (.serve w) = some s') :
    s.func w = .serve ∧ s' = { s with func := Function.update s.func w .release } := by
  simp only [workerPoolStep, Option.ite_none_right_eq_some, Option.some.injEq] at h
  exact ⟨h.1, h.2.symm⟩

theorem step_release {w : Fin n} (h : s.workerPoolStep (.release w) = some s') :
    s.func w = .release ∧ s' = { s with
        freed := s.freed ++ (s.connClient w).toList,
        connClient := Function.update s.connClient w none,
        func := Function.update s.func w .push } := by
  simp only [workerPoolStep, Option.ite_none_right_eq_some, Option.some.injEq] at h
  exact ⟨h.1, h.2.symm⟩

theorem step_push {w : Fin n} (h : s.workerPoolStep (.push w) = some s') :
    s.func w = .push ∧ s' = { s with
        next := Function.update s.next w s.head, head := some w,
        owner := Function.update s.owner w none, func := Function.update s.func w .done } := by
  simp only [workerPoolStep, Option.ite_none_right_eq_some, Option.some.injEq] at h
  exact ⟨h.1, h.2.symm⟩

/-- `proxy_worker_accept` on a worker without a connection whose thread runs: the wake
succeeds, so the connection is the worker's and the worker is `SIGNALED`. -/
theorem workerAcceptStep_of_serving {c : ℕ} {w : Fin n} (hc : s.connClient w = none)
    (hw : (s.worker w).Serving) :
    s.workerAcceptStep c w = { s with
      worker := Function.update s.worker w { s.worker w with state := .signaled },
      connClient := Function.update s.connClient w (some c), main := .waiting } := by
  simp [workerAcceptStep, hc, workerWake_of_serving hw]

/-! ## Counting the holders of a connection -/

/-- The connection of the `proxy_process` thread has a holder. -/
theorem holders_pos_of_main {c : ℕ} (h : s.main.conn = some c) : 0 < s.holders c := by
  unfold holders
  rw [if_pos h]
  omega

/-- Giving worker `w` the connection `v` in place of its own. -/
theorem holdersSum_update (f : Fin n → Option ℕ) (w : Fin n) (v : Option ℕ) (c : ℕ) :
    (∑ w', if Function.update f w v w' = some c then 1 else 0) +
        (if f w = some c then 1 else 0) =
      (∑ w', if f w' = some c then 1 else 0) + (if v = some c then 1 else 0) := by
  have h : (fun w' => if Function.update f w v w' = some c then 1 else 0) =
      Function.update (fun w' => if f w' = some c then 1 else 0) w
        (if v = some c then 1 else 0) := by
    funext w'
    exact Function.apply_update (fun _ x => if x = some c then 1 else 0) f w v w'
  rw [h]
  exact sum_update_add _ w _

/-! ## The roles of a worker -/

/-- The thread owes no call of `proxy_worker_func`, and has none in progress. -/
def Resting (wk : Worker) (f : FuncPhase) : Prop := ¬ wk.state.Pending ∧ f = .done

/-- What a worker is doing for the pool; `c` is the connection it was popped for. -/
inductive Role
  /-- On the idle list. -/
  | idle
  /-- Popped by `proxy_process`, before `proxy_worker_accept`. -/
  | popped (c : ℕ)
  /-- Given `c` and woken; its thread has not yet begun the call. -/
  | handed (c : ℕ)
  /-- In the call, from the test of `conn_client` to the release of the connection. -/
  | serving (c : ℕ)
  /-- The connection is freed; the push is next. -/
  | released (c : ℕ)

/-- Worker `w` plays role `r`. -/
def Plays (s : WorkerPool n) (w : Fin n) : Role → Prop
  | .idle => s.owner w = none ∧ s.connClient w = none ∧ Resting (s.worker w) (s.func w)
  | .popped c => s.owner w = some c ∧ s.main = .popped c w ∧ s.connClient w = none ∧
      Resting (s.worker w) (s.func w)
  | .handed c => s.owner w = some c ∧ s.connClient w = some c ∧
      (s.worker w).state = .signaled ∧ s.func w = .done
  | .serving c => s.owner w = some c ∧ s.connClient w = some c ∧
      s.worker w = ⟨.busy, .running⟩ ∧ (s.func w = .check ∨ s.func w = .serve ∨ s.func w = .release)
  | .released c => s.owner w = some c ∧ s.connClient w = none ∧
      s.worker w = ⟨.busy, .running⟩ ∧ s.func w = .push

/-- The role after a region of the worker's own thread: a handed connection is taken up. -/
def Role.afterThread : Role → Role
  | .handed c => .serving c
  | r => r

variable {w : Fin n} {r : Role}

/-- A role depends only on the worker's own fields, and on the `proxy_process` thread for a
popped worker. -/
theorem Plays.frame (h : s.Plays w r) (ho : s'.owner w = s.owner w)
    (hc : s'.connClient w = s.connClient w) (hw : s'.worker w = s.worker w)
    (hf : s'.func w = s.func w) (hm : ∀ c, r = .popped c → s'.main = s.main) :
    s'.Plays w r := by
  cases r
  case popped c =>
    simp only [Plays, ho, hc, hw, hf, hm c rfl] at h ⊢
    exact h
  all_goals
    simp only [Plays, ho, hc, hw, hf] at h ⊢
    exact h

theorem Plays.main_eq {c : ℕ} (h : s.Plays w (.popped c)) : s.main = .popped c w := h.2.1

/-- A worker that `proxy_process` does not hold is not popped. -/
theorem Plays.ne_popped (h : s.Plays w r) (hm : ∀ c, s.main ≠ .popped c w) (c : ℕ) :
    r ≠ .popped c := by
  rintro rfl
  exact hm c h.main_eq

/-- A worker that no connection owns is idle. -/
theorem Plays.eq_idle (h : s.Plays w r) (ho : s.owner w = none) : r = .idle := by
  cases r <;> simp_all [Plays]

/-- A worker in `proxy_worker_func` short of the push serves its connection. -/
theorem Plays.serving_of_func (h : s.Plays w r)
    (hf : s.func w = .check ∨ s.func w = .serve ∨ s.func w = .release) :
    ∃ c, r = .serving c := by
  cases r <;> simp_all [Plays, Resting]

/-- A worker at the push has released its connection. -/
theorem Plays.released_of_push (h : s.Plays w r) (hf : s.func w = .push) :
    ∃ c, r = .released c := by
  cases r <;> simp_all [Plays, Resting]

/-! ## The invariant -/

/-- The invariant of the worker pool. -/
structure Inv (s : WorkerPool n) : Prop where
  /-- The idle list is a chain of exactly the workers that no connection owns. -/
  chain : ∃ l, Chain s.next s.head l ∧ ∀ w, w ∈ l ↔ s.owner w = none
  /-- Every worker's thread runs and is never stopped. -/
  serving : ∀ w, (s.worker w).Serving
  /-- Every worker plays a role. -/
  role : ∀ w, ∃ r, s.Plays w r
  /-- The worker `proxy_process` holds waits for `proxy_worker_accept`. -/
  popped : ∀ c w, s.main = .popped c w → s.Plays w (.popped c)
  /-- Every accepted connection has one holder or has been freed once, and no other
  connection has either. -/
  conns : ∀ c, s.freed.count c + s.holders c = if c < s.accepted then 1 else 0
  /-- A worker is owned only by an accepted connection. -/
  owned : ∀ w c, s.owner w = some c → c < s.accepted

/-- A connection with a holder has been accepted. -/
theorem Inv.lt_accepted {c : ℕ} (hs : s.Inv) (h : 0 < s.holders c) : c < s.accepted := by
  have := hs.conns c
  split_ifs at this with hc
  · exact hc
  · omega

theorem inv_init : (init n).Inv where
  chain := ⟨_, init_chain, fun w => by simp [init]⟩
  serving _ := show WorkerState.busy ≤ .starting by decide
  role _ := ⟨.idle, rfl, rfl, show ¬ WorkerState.starting.Pending by decide, rfl⟩
  popped _ _ h := by cases h
  conns _ := by simp [holders, init, MainPhase.conn]
  owned _ _ h := by cases h

theorem Inv.accept (hs : s.Inv) (h : s.workerPoolStep .accept = some s') : s'.Inv := by
  obtain ⟨hm, rfl⟩ := step_accept h
  have hnp : ∀ c w, s.main ≠ .popped c w := by simp [hm]
  refine ⟨hs.chain, hs.serving, fun w => ?_, (fun c w h => by cases h), fun c => ?_,
    fun w c hc => Nat.lt_succ_of_lt (hs.owned w c hc)⟩
  · obtain ⟨r, hr⟩ := hs.role w
    exact ⟨r, hr.frame rfl rfl rfl rfl fun c hc => absurd hc (hr.ne_popped (hnp · w) c)⟩
  · -- connection `s.accepted` is new, held by the `proxy_process` thread
    have := hs.conns c
    simp only [holders, MainPhase.conn, hm, Option.some.injEq, reduceCtorEq, if_false] at this ⊢
    split_ifs at this ⊢ <;> omega

theorem Inv.pop (hs : s.Inv) (h : s.workerPoolStep .pop = some s') : s'.Inv := by
  obtain ⟨c, hm, ⟨w, -, hw, rfl⟩ | ⟨-, rfl⟩⟩ := step_pop h
  · -- the head `w` leaves the idle list, owned by `c`
    obtain ⟨l, hl, hmem⟩ := hs.chain
    rw [hw] at hl
    have hnd := hl.nodup
    obtain ⟨l', rfl, hl'⟩ := hl.pop
    have hwl' : w ∉ l' := (List.nodup_cons.1 hnd).1
    have hidle : s.Plays w .idle := by
      obtain ⟨r, hr⟩ := hs.role w
      rwa [← hr.eq_idle ((hmem w).1 List.mem_cons_self)]
    have hnp : ∀ c' w', s.main ≠ .popped c' w' := by simp [hm]
    have hnew : ∀ c' w', (MainPhase.popped c w : MainPhase n) = .popped c' w' →
        Plays { s with
          head := s.next w, owner := Function.update s.owner w (some c), main := .popped c w }
          w' (.popped c') := by
      rintro c' w' ⟨⟩
      obtain ⟨-, hc, hres⟩ := hidle
      exact ⟨by simp, rfl, hc, hres⟩
    refine ⟨⟨l', hl', fun w' => ?_⟩, hs.serving, fun w' => ?_, hnew, fun c' => ?_,
      fun w' c' hc' => ?_⟩
    · by_cases hw' : w' = w
      · subst hw'
        simp [hwl']
      · simp [← hmem w', hw']
    · by_cases hw' : w' = w
      · subst hw'
        exact ⟨_, hnew c w' rfl⟩
      · obtain ⟨r, hr⟩ := hs.role w'
        exact ⟨r, hr.frame (by simp [Function.update_of_ne hw']) rfl rfl rfl
          fun c'' hc'' => absurd hc'' (hr.ne_popped (hnp · w') c'')⟩
    · -- `c` stays with the `proxy_process` thread
      have := hs.conns c'
      simp only [holders, MainPhase.conn, hm] at this ⊢
      exact this
    · by_cases hw' : w' = w
      · subst hw'
        obtain rfl : c = c' := by simpa using hc'
        exact hs.lt_accepted (holders_pos_of_main (by rw [hm]; rfl))
      · exact hs.owned w' c' (by simpa [Function.update_of_ne hw'] using hc')
  · -- no worker: `proxy_process` frees the connection
    have hnp : ∀ c' w', s.main ≠ .popped c' w' := by simp [hm]
    refine ⟨hs.chain, hs.serving, fun w' => ?_, (fun c' w' h => by cases h), fun c' => ?_,
      hs.owned⟩
    · obtain ⟨r, hr⟩ := hs.role w'
      exact ⟨r, hr.frame rfl rfl rfl rfl fun c'' hc'' => absurd hc'' (hr.ne_popped (hnp · w') c'')⟩
    · have := hs.conns c'
      simp only [holders, MainPhase.conn, hm, List.count_append, List.count_singleton,
        Option.some.injEq, reduceCtorEq, if_false, beq_iff_eq] at this ⊢
      split_ifs at this ⊢ <;> omega

theorem Inv.workerAccept (hs : s.Inv) (h : s.workerPoolStep .workerAccept = some s') :
    s'.Inv := by
  obtain ⟨c, w, hm, rfl⟩ := step_workerAccept h
  obtain ⟨ho, -, hc, hres⟩ := hs.popped c w hm
  rw [workerAcceptStep_of_serving hc (hs.serving w)]
  refine ⟨hs.chain, fun w' => ?_, fun w' => ?_, (fun c' w' h => by cases h), fun c' => ?_,
    hs.owned⟩
  · by_cases hw' : w' = w
    · subst hw'
      simpa [Worker.Serving] using show WorkerState.busy ≤ .signaled by decide
    · simpa [Function.update_of_ne hw'] using hs.serving w'
  · by_cases hw' : w' = w
    · -- the worker now holds `c` and is `SIGNALED`
      subst hw'
      exact ⟨.handed c, ho, by simp, by simp, by simpa using hres.2⟩
    · obtain ⟨r, hr⟩ := hs.role w'
      have hnp : ∀ c', s.main ≠ .popped c' w' := by
        simp [hm, Ne.symm hw']
      exact ⟨r, hr.frame rfl (by simp [Function.update_of_ne hw'])
        (by simp [Function.update_of_ne hw']) rfl
        fun c'' hc'' => absurd hc'' (hr.ne_popped hnp c'')⟩
  · -- `c` passes from the `proxy_process` thread to the worker
    have := hs.conns c'
    have hsum := holdersSum_update s.connClient w (some c) c'
    simp only [holders, MainPhase.conn, hm, hc, reduceCtorEq, if_false, add_zero,
      Option.some.injEq] at this hsum ⊢
    omega

theorem Inv.shutdown (hs : s.Inv) (h : s.workerPoolStep .shutdown = some s') : s'.Inv := by
  simp only [workerPoolStep, Option.some.injEq] at h
  subst h
  exact ⟨hs.chain, hs.serving, hs.role, hs.popped, hs.conns, hs.owned⟩

/-- A region of the worker's own thread: a resting worker goes on waiting, a handed one begins
the call that serves its connection, and a worker in the call cannot take one. -/
theorem Plays.thread {next : ThreadPhase} {wk : Worker} (h : s.Plays w r)
    (hw : (s.worker w).Serving) (hr : ¬ ((s.worker w).thread = .running ∧ s.func w ≠ .done))
    (hwk : workerStep 0 (s.worker w) (.thread next) = some wk) :
    Plays { s with
      worker := Function.update s.worker w wk,
      func := Function.update s.func w (if next = .running then .check else s.func w) }
      w r.afterThread := by
  obtain ⟨hf, rfl⟩ := workerStep_thread.1 hwk
  cases r with
  | idle =>
    obtain ⟨ho, hc, hp, hd⟩ := h
    obtain rfl := workerFunc_of_not_pending hw hp hf
    exact ⟨ho, hc, by simp [Resting, hd]; decide⟩
  | popped c =>
    obtain ⟨ho, hm, hc, hp, hd⟩ := h
    obtain rfl := workerFunc_of_not_pending hw hp hf
    exact ⟨ho, hm, hc, by simp [Resting, hd]; decide⟩
  | handed c =>
    obtain ⟨ho, hc, hsig, -⟩ := h
    obtain rfl := workerFunc_of_signaled hsig hf
    exact ⟨ho, hc, by simp, by simp⟩
  | serving c =>
    obtain ⟨-, -, hb, hd⟩ := h
    exact absurd ⟨by rw [hb], by rcases hd with hd | hd | hd <;> rw [hd] <;> decide⟩ hr
  | released c =>
    obtain ⟨-, -, hb, hd⟩ := h
    exact absurd ⟨by rw [hb], by rw [hd]; decide⟩ hr

theorem Inv.thread {next : ThreadPhase} (hs : s.Inv)
    (h : s.workerPoolStep (.thread w next) = some s') : s'.Inv := by
  obtain ⟨hr, wk, hwk, rfl⟩ := step_thread h
  have hwk' := (workerStep_thread.1 hwk).1
  refine ⟨hs.chain, fun w' => ?_, fun w' => ?_, fun c w' hm => ?_, hs.conns, hs.owned⟩
  · by_cases hw' : w' = w
    · subst hw'
      simpa using serving_workerFunc (hs.serving w') hwk'
    · simpa [Function.update_of_ne hw'] using hs.serving w'
  · by_cases hw' : w' = w
    · subst hw'
      obtain ⟨r, hrole⟩ := hs.role w'
      exact ⟨_, hrole.thread (hs.serving w') hr hwk⟩
    · obtain ⟨r, hrole⟩ := hs.role w'
      exact ⟨r, hrole.frame rfl rfl (by simp [Function.update_of_ne hw'])
        (by simp [Function.update_of_ne hw']) fun _ _ => rfl⟩
  · by_cases hw' : w' = w
    · subst hw'
      exact (hs.popped c w' hm).thread (hs.serving w') hr hwk
    · exact (hs.popped c w' hm).frame rfl rfl (by simp [Function.update_of_ne hw'])
        (by simp [Function.update_of_ne hw']) fun _ _ => rfl

/-- A popped worker is not in `proxy_worker_func`. -/
theorem Plays.func_of_popped {c : ℕ} (h : s.Plays w (.popped c)) : s.func w = .done :=
  h.2.2.2.2

/-- A worker in `proxy_worker_func` short of the push serves a connection. -/
theorem Inv.serving_of_func (hs : s.Inv)
    (hf : s.func w = .check ∨ s.func w = .serve ∨ s.func w = .release) :
    ∃ c, s.Plays w (.serving c) := by
  obtain ⟨r, hr⟩ := hs.role w
  obtain ⟨c, rfl⟩ := hr.serving_of_func hf
  exact ⟨c, hr⟩

/-- The worker `proxy_process` holds is not in `proxy_worker_func`. -/
theorem Inv.ne_of_popped {c : ℕ} {w' : Fin n} (hs : s.Inv) (hm : s.main = .popped c w')
    (hf : s.func w ≠ .done) : w' ≠ w := by
  rintro rfl
  exact hf (hs.popped c w' hm).func_of_popped

/-- A step of one worker's `proxy_worker_func` that changes nothing but where it is keeps the
invariant when the worker's new role is right. -/
theorem Inv.setFunc {f : FuncPhase} (hs : s.Inv) (hf : s.func w ≠ .done)
    (hr : Plays { s with func := Function.update s.func w f } w r) :
    Inv { s with func := Function.update s.func w f } := by
  refine ⟨hs.chain, hs.serving, fun w' => ?_, fun c' w' hm => ?_, hs.conns, hs.owned⟩
  · by_cases hw' : w' = w
    · subst hw'
      exact ⟨r, hr⟩
    · obtain ⟨r', hr'⟩ := hs.role w'
      exact ⟨r', hr'.frame rfl rfl rfl (by simp [Function.update_of_ne hw']) fun _ _ => rfl⟩
  · have hw' := hs.ne_of_popped hm hf
    exact (hs.popped c' w' hm).frame rfl rfl rfl (by simp [Function.update_of_ne hw'])
      fun _ _ => rfl

theorem Inv.check (hs : s.Inv) (h : s.workerPoolStep (.check w) = some s') : s'.Inv := by
  obtain ⟨hf, rfl⟩ := step_check h
  obtain ⟨c, ho, hc, hb, -⟩ := hs.serving_of_func (.inl hf)
  -- the test finds the connection: the call goes on to serve it
  exact hs.setFunc (by rw [hf]; decide) (r := .serving c) ⟨ho, hc, hb, by simp [hc]⟩

theorem Inv.serve (hs : s.Inv) (h : s.workerPoolStep (.serve w) = some s') : s'.Inv := by
  obtain ⟨hf, rfl⟩ := step_serve h
  obtain ⟨c, ho, hc, hb, -⟩ := hs.serving_of_func (.inr (.inl hf))
  exact hs.setFunc (by rw [hf]; decide) (r := .serving c) ⟨ho, hc, hb, by simp⟩

theorem Inv.release (hs : s.Inv) (h : s.workerPoolStep (.release w) = some s') : s'.Inv := by
  obtain ⟨hf, rfl⟩ := step_release h
  obtain ⟨c, ho, hc, hb, -⟩ := hs.serving_of_func (.inr (.inr hf))
  refine ⟨hs.chain, hs.serving, fun w' => ?_, fun c' w' hm => ?_, fun c' => ?_, hs.owned⟩
  · by_cases hw' : w' = w
    · -- the connection is freed; the push is next
      subst hw'
      exact ⟨.released c, ho, by simp, hb, by simp⟩
    · obtain ⟨r, hr⟩ := hs.role w'
      exact ⟨r, hr.frame rfl (by simp [Function.update_of_ne hw']) rfl
        (by simp [Function.update_of_ne hw']) fun _ _ => rfl⟩
  · have hw' := hs.ne_of_popped hm (by rw [hf]; decide)
    exact (hs.popped c' w' hm).frame rfl (by simp [Function.update_of_ne hw']) rfl
      (by simp [Function.update_of_ne hw']) fun _ _ => rfl
  · -- `c` passes from the worker to the freed connections
    have := hs.conns c'
    have hsum := holdersSum_update s.connClient w none c'
    simp only [holders, hc, Option.toList_some, List.count_append, List.count_singleton,
      reduceCtorEq, if_false, add_zero, Option.some.injEq, beq_iff_eq] at this hsum ⊢
    split_ifs at this hsum ⊢ <;> omega

theorem Inv.push (hs : s.Inv) (h : s.workerPoolStep (.push w) = some s') : s'.Inv := by
  obtain ⟨hf, rfl⟩ := step_push h
  obtain ⟨r, hr⟩ := hs.role w
  obtain ⟨c, rfl⟩ := hr.released_of_push hf
  obtain ⟨ho, hc, hb, -⟩ := hr
  obtain ⟨l, hl, hmem⟩ := hs.chain
  have hwl : w ∉ l := by simp [hmem, ho]
  refine ⟨⟨w :: l, hl.push hwl, fun w' => ?_⟩, hs.serving, fun w' => ?_, fun c' w' hm => ?_,
    hs.conns, fun w' c' hc' => ?_⟩
  · by_cases hw' : w' = w
    · subst hw'
      simp
    · simp [hw', hmem]
  · by_cases hw' : w' = w
    · -- back on the idle list, at the return of `proxy_worker_func`
      subst hw'
      refine ⟨.idle, by simp, hc, ?_, by simp⟩
      rw [hb]
      decide
    · obtain ⟨r, hr⟩ := hs.role w'
      exact ⟨r, hr.frame (by simp [Function.update_of_ne hw']) rfl rfl
        (by simp [Function.update_of_ne hw']) fun _ _ => rfl⟩
  · have hw' := hs.ne_of_popped hm (by rw [hf]; decide)
    exact (hs.popped c' w' hm).frame (by simp [Function.update_of_ne hw']) rfl rfl
      (by simp [Function.update_of_ne hw']) fun _ _ => rfl
  · by_cases hw' : w' = w
    · subst hw'
      simp at hc'
    · exact hs.owned w' c' (by simpa [Function.update_of_ne hw'] using hc')

theorem Inv.step {e : WorkerPoolEvent n} (hs : s.Inv) (h : s.workerPoolStep e = some s') :
    s'.Inv := by
  cases e with
  | accept => exact hs.accept h
  | pop => exact hs.pop h
  | workerAccept => exact hs.workerAccept h
  | shutdown => exact hs.shutdown h
  | thread w next => exact hs.thread h
  | check w => exact hs.check h
  | serve w => exact hs.serve h
  | release w => exact hs.release h
  | push w => exact hs.push h

/-- **The invariant holds in every state the pool reaches.** -/
theorem workerPool_inv (h : (workerPoolLts n).Reachable (init n) s) : s.Inv :=
  h.invariant (fun _ _ _ hs hst => hs.step hst) inv_init

/-! ## What the invariant says -/

/-- An owned worker holds its connection, or nothing. -/
theorem Plays.connClient_of_owner {c : ℕ} (h : s.Plays w r) (ho : s.owner w = some c) :
    s.connClient w = none ∨ s.connClient w = some c := by
  cases r <;> simp_all [Plays]

/-- The idle list and the owned workers share out the pool. -/
theorem length_add_card_owned {l : List (Fin n)} (hnd : l.Nodup)
    (hmem : ∀ w, w ∈ l ↔ s.owner w = none) :
    l.length + (Finset.univ.filter fun w => s.owner w ≠ none).card = n := by
  have hset : l.toFinset = Finset.univ.filter fun w => s.owner w = none := by
    ext w
    simp [hmem]
  have h := Finset.card_filter_add_card_filter_not (s := Finset.univ) fun w => s.owner w = none
  rwa [← hset, List.toFinset_card_of_nodup hnd, Finset.card_univ, Fintype.card_fin] at h

end WorkerPool

open WorkerPool

/-- **The accounting of the worker pool**, in every state reached after `proxy_start`:
(a) the idle list is finite and duplicate-free, and each worker is on it, with no connection,
or off it and owned by an accepted connection, which it holds until it frees it;
(b) `proxy_worker_accept` finds no connection in the worker it is given, and its wake succeeds;
(c) the test of `conn_client` at the top of `proxy_worker_func` always finds one;
(d) every accepted connection is held by exactly one of the `proxy_process` thread and the
workers, or has been freed exactly once, and nothing else is freed;
(e) a connection that finds `usable_clients` at 0 or no idle worker is freed at once, and no
worker changes;
(f) `proxy_update_registration` reports the number of owned workers, between 0 and
`num_clients`. -/
theorem worker_pool_accounting {n : ℕ} {s : WorkerPool n}
    (h : (workerPoolLts n).Reachable (init n) s) :
    (∃ l, Chain s.next s.head l ∧ l.Nodup ∧
      ∀ w, (w ∈ l ∧ s.owner w = none ∧ s.connClient w = none) ∨
        (w ∉ l ∧ ∃ c, c < s.accepted ∧ s.owner w = some c ∧
          (s.connClient w = none ∨ s.connClient w = some c))) ∧
    (∀ c w, s.main = .popped c w → s.connClient w = none ∧ (workerWake (s.worker w)).1 = 0) ∧
    (∀ w, s.func w = .check → s.connClient w ≠ none) ∧
    (∀ c, s.freed.count c + s.holders c = if c < s.accepted then 1 else 0) ∧
    (∀ c s', s.main = .accepted c → (s.usable = 0 ∨ s.head = none) →
      s.workerPoolStep .pop = some s' →
      s'.freed = s.freed ++ [c] ∧ s'.owner = s.owner ∧ s'.connClient = s.connClient) ∧
    ∃ used, s.proxyUpdateRegistration = some (used, (s.usable : ℤ)) ∧
      used = ((Finset.univ.filter fun w => s.owner w ≠ none).card : ℤ) ∧ 0 ≤ used ∧ used ≤ n := by
  have hs := workerPool_inv h
  obtain ⟨l, hl, hmem⟩ := hs.chain
  have hnd := hl.nodup
  have hcard := length_add_card_owned hnd hmem
  refine ⟨⟨l, hl, hnd, fun w => ?_⟩, fun c w hm => ?_, fun w hf => ?_, hs.conns,
    fun c s' hm hno hst => ?_, ?_⟩
  · -- each worker is idle, or owned by an accepted connection that it holds until it frees it
    obtain ⟨r, hr⟩ := hs.role w
    cases ho : s.owner w with
    | none =>
      obtain rfl := hr.eq_idle ho
      exact .inl ⟨(hmem w).2 ho, rfl, hr.2.1⟩
    | some c =>
      refine .inr ⟨by simp [hmem, ho], c, hs.owned w c ho, rfl, hr.connClient_of_owner ho⟩
  · -- `proxy_worker_accept` finds no connection and wakes a running worker
    obtain ⟨-, -, hc, -⟩ := hs.popped c w hm
    exact ⟨hc, by rw [workerWake_of_serving (hs.serving w)]⟩
  · -- the test at the top of `proxy_worker_func` always finds the connection
    obtain ⟨c, -, hc, -⟩ := hs.serving_of_func (.inl hf)
    simp [hc]
  · obtain ⟨c', hm', ⟨w, hu, hw, -⟩ | ⟨-, rfl⟩⟩ := step_pop hst
    · rw [hm] at hm'
      cases hm'
      rcases hno with hno | hno <;> simp_all
    · rw [hm] at hm'
      cases hm'
      exact ⟨rfl, rfl, rfl⟩
  · -- the walk of `proxy_update_registration` counts the idle list
    have hlen : l.length ≤ n + 1 := by
      have := hnd.length_le_card
      rw [Fintype.card_fin] at this
      omega
    refine ⟨_, by rw [proxyUpdateRegistration, hl.walkLength_eq hlen]; rfl, ?_, ?_, ?_⟩ <;> omega

/-- One worker serves connection 0 and pushes itself back; before its `proxy_worker_func`
returns, `proxy_process` pops it again for connection 1 and wakes it while it is `BUSY`; the
thread's next region begins a new call, which finds connection 1. -/
def handOver : List (WorkerPoolEvent 1) :=
  [.thread 0 .waiting, .accept, .pop, .workerAccept, .thread 0 .running, .check 0, .serve 0,
    .release 0, .push 0, .accept, .pop, .workerAccept, .thread 0 .running, .check 0]

/-- The pool after `handOver`. -/
def afterHandOver : WorkerPool 1 :=
  (Lts.exec workerPoolStep (init 1) handOver).getD (init 1)

/-- After `handOver` the worker serves connection 1 and connection 0 has been freed once. -/
theorem worker_pool_handover :
    afterHandOver.worker 0 = ⟨.busy, .running⟩ ∧ afterHandOver.func 0 = .serve ∧
      afterHandOver.connClient 0 = some 1 ∧ afterHandOver.freed = [0] ∧
      ∀ c, afterHandOver.freed.count c + afterHandOver.holders c = if c < 2 then 1 else 0 :=
  ⟨by decide, by decide, by decide, by decide,
    (worker_pool_accounting ⟨handOver, Lts.Run.of_exec rfl⟩).2.2.2.1⟩

end OpenElp
