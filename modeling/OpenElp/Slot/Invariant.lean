import OpenElp.Slot.Model

/-!
# The invariants of a slot

Every slot that the model reaches from `Slot.init` keeps three facts (`Slot.Wf`): the
forwarders' workers, started once, are never stopped, so every `worker_wake` of the processing
thread succeeds; a forwarder's body moves only while its thread is in `func_ptr`; and the slot
has a client exactly when its processing thread is not free.  On top of them, `proxy_conn_finish`
leaves each forwarder idle: it closes the sockets and then waits for each worker in turn, and
nothing wakes a worker again before the next `proxy_conn_accept`.

* `slot_wf` : every reachable slot satisfies `Slot.Wf`.
* `slot_quietInv` : a forwarder that the processing thread has waited for, or has not woken
  since, is quiet (not in `func_ptr`, no pending wake).
* `forwarders_quiet_after_finish` : **quiescence after a client leaves**: from a free slot and
  until the next `proxy_conn_accept`, every forwarder stays quiet and none takes a step of
  `func_ptr`, so none touches the client connection.
-/

namespace OpenElp

/-! ### What the processing thread's steps do to the slot -/

section Steps

variable {s s' : Slot}

/-- The processing thread never moves a forwarder's body. -/
theorem procStep_body {e : ProcEvent} (h : procStep s e = some s') : s'.body = s.body := by
  cases e with
  | openStatus o =>
    obtain ⟨ret, -, rfl⟩ := procStep_openStatus h
    simp
  | finish =>
    simp only [procStep] at h
    unfold finishStep waitStep at h
    split at h <;> (try split_ifs at h) <;> cases h <;> rfl
  | dataClose o =>
    simp only [procStep] at h
    split_ifs at h
    cases h
    exact s.sendClient_body o .tcpClose
  | accept | tcpClose | tcpDataFail | processEnd | wakeControl | wakeData | openWake =>
    simp only [procStep] at h
    split_ifs at h
    cases h
    rfl
  | listenControl o | listenData o | tcpOpen o =>
    simp only [procStep] at h
    split_ifs at h
    cases h
    cases o <;> rfl

/-- The processing thread leaves the forwarders' threads where they are. -/
theorem procStep_thread {e : ProcEvent} (h : procStep s e = some s') (f : Fwd) :
    (s'.worker f).thread = (s.worker f).thread := by
  rw [procStep_worker h f]
  split_ifs <;> simp

/-- The slot has a client exactly when the processing thread is not free, across each step of
the processing thread: only `proxy_conn_accept` takes the client and only the last statement
of `proxy_conn_finish` gives it up. -/
theorem procStep_client {e : ProcEvent} (hc : s.client = none ↔ s.proc = .free)
    (h : procStep s e = some s') : s'.client = none ↔ s'.proc = .free := by
  cases e with
  | accept =>
    simp only [procStep] at h
    split_ifs at h
    cases h
    simp
  | openStatus o =>
    obtain ⟨ret, hp, rfl⟩ := procStep_openStatus h
    simp only [hp, reduceCtorEq, iff_false] at hc
    split_ifs <;> simp [hc]
  | finish =>
    simp only [procStep] at h
    unfold finishStep waitStep at h
    split at h <;> (try split_ifs at h) <;> cases h <;>
      simp_all [Slot.dropClient]
  | dataClose o =>
    simp only [procStep] at h
    split_ifs at h with hp
    cases h
    simp only [hp, reduceCtorEq, iff_false] at hc
    simp [hc]
  | wakeControl | wakeData | openWake | tcpClose | tcpDataFail | processEnd =>
    -- each of these steps needs a phase other than `free` and leaves one
    simp only [procStep, wakeStep_eq] at h
    split_ifs at h with hp
    all_goals
      cases h
      simp only [hp, reduceCtorEq, iff_false] at hc
      simp [hc, hp]
  | listenControl o | listenData o | tcpOpen o =>
    simp only [procStep] at h
    split_ifs at h with hp
    cases h
    simp only [hp, reduceCtorEq, iff_false] at hc
    cases o <;> simp [hc]

/-- From a free slot, only `proxy_conn_accept` moves the processing thread. -/
theorem procStep_free {e : ProcEvent} (h : procStep s e = some s') (hf : s.proc = .free)
    (he : e ≠ .accept) : s'.proc = .free := by
  cases e <;> simp [procStep, finishStep, hf] at h he

end Steps

/-! ### The invariant of every reachable slot -/

/-- What holds of every slot that the model reaches. -/
structure Slot.Wf (s : Slot) : Prop where
  /-- Each forwarder's worker has been started and is not being stopped. -/
  serving : ∀ f, (s.worker f).Serving
  /-- A forwarder's body is at its end unless its thread is in `func_ptr`. -/
  body_done : ∀ f, (s.worker f).thread ≠ .running → s.body f = .done
  /-- `conn_client` is set exactly while the processing thread serves a client. -/
  client_none : s.client = none ↔ s.proc = .free

namespace Slot.Wf

variable {s s' : Slot}

theorem init : Slot.init.Wf where
  serving f := by cases f <;> decide
  body_done _ _ := rfl
  client_none := ⟨fun _ => rfl, fun _ => rfl⟩

theorem procStep (hs : s.Wf) {e : ProcEvent} (h : OpenElp.procStep s e = some s') : s'.Wf where
  serving f := by
    rw [procStep_worker h f]
    split_ifs
    · exact serving_workerWake (hs.serving f)
    · exact hs.serving f
  body_done f hf := by
    rw [procStep_body h]
    exact hs.body_done f (by rwa [procStep_thread h f] at hf)
  client_none := procStep_client hs.client_none h

theorem fwdStep (hs : s.Wf) {f : Fwd} {e : FwdEvent} (h : OpenElp.fwdStep s f e = some s') :
    s'.Wf := by
  obtain ⟨t, w, b, rfl, hw, hb, hp, hc⟩ := fwdStep_setFwd h
  constructor
  · intro g
    by_cases hg : g = f
    · subst hg
      rcases fwdStep_worker h with hw' | ⟨next, w', rfl, hstep, hw'⟩
      · rw [hw']
        exact hs.serving g
      · rw [hw', Function.update_self]
        exact serving_workerFunc (hs.serving g) (workerStep_thread.1 hstep).1
    · simpa [Function.update_of_ne hg, hw] using hs.serving g
  · intro g hg'
    by_cases hg : g = f
    · subst hg
      -- a step inside `func_ptr` keeps the thread there; a region of the thread that does not
      -- begin a call leaves the body where it was, at its end
      by_cases he : ∃ next, e = .thread next
      · obtain ⟨next, rfl⟩ := he
        obtain ⟨hrun, hstep, hbody⟩ := fwdStep_thread h
        have hnext := (workerStep_thread.1 hstep).2
        rw [hbody, if_neg (by rw [← hnext]; exact hg')]
        by_cases hr : (s.worker g).thread = .running
        · exact hrun hr
        · exact hs.body_done g hr
      · have he' : ∀ next, e ≠ .thread next := fun next hn => he ⟨next, hn⟩
        obtain ⟨hne, hwg⟩ := fwdStep_body_ne_done h he'
        exact absurd (hs.body_done g (by rwa [hwg] at hg')) hne
    · simp only [Slot.setFwd_body, Function.update_of_ne hg, hb]
      exact hs.body_done g (by simpa [Function.update_of_ne hg, hw] using hg')
  · rw [Slot.setFwd_client, Slot.setFwd_proc, hp, ← hs.client_none]
    rcases hc with hc | hc <;> rw [hc]
    simp [Slot.dropClient]

end Slot.Wf

/-- **Every reachable slot satisfies `Slot.Wf`.** -/
theorem slot_wf {s : Slot} (h : slotLts.Reachable Slot.init s) : s.Wf := by
  refine h.invariant (fun s e s' hs hst => ?_) Slot.Wf.init
  change slotStep s e = some s' at hst
  cases e with
  | proc e => exact hs.procStep hst
  | fwd f e => exact hs.fwdStep hst

/-! ### Quiet forwarders -/

/-- The forwarders that the processing thread, where it is, has waited for or not woken since:
none is woken before `worker_wake(&priv->worker_control)`, the wakes of `proxy_conn_accept` go
one at a time, and `proxy_conn_finish` waits for `worker_tcp`, then `worker_data`, then
`worker_control`. -/
def ProcPhase.Quiets : ProcPhase → Fwd → Bool
  | .free, _ | .listenControl, _ | .listenData, _ | .wakeControl, _ | .clear, _ => true
  | .wakeData, f | .waitControl, f => f != .control
  | .waitData, f => f == .tcp
  | _, _ => false

/-- Each forwarder that the processing thread's phase counts as quiet is quiet. -/
def Slot.QuietInv (s : Slot) : Prop := ∀ f, s.proc.Quiets f = true → (s.worker f).Quiet

section Quiet

variable {s s' : Slot}

/-- A step of the processing thread after which a forwarder counts as quiet does not wake it,
and either it counted as quiet before or the step was a return of `worker_wait_idle` on it. -/
theorem procStep_quiets {e : ProcEvent} {f : Fwd} (h : procStep s e = some s')
    (hq : s'.proc.Quiets f = true) :
    e.wakes ≠ some f ∧ (s.proc.Quiets f = true ∨ (workerWaitIdle (s.worker f)).isSome) := by
  cases e with
  | openStatus o =>
    obtain ⟨ret, -, rfl⟩ := procStep_openStatus h
    split_ifs at hq <;> simp [ProcPhase.Quiets] at hq
  | finish =>
    simp only [procStep] at h
    unfold finishStep waitStep at h
    -- the waits of `proxy_conn_finish` are the steps that make a forwarder count as quiet
    split at h <;> (try split_ifs at h) <;> cases h <;> rename_i hp <;>
      cases f <;> simp_all [ProcPhase.Quiets, ProcEvent.wakes]
  | dataClose o =>
    simp only [procStep] at h
    split_ifs at h with hp
    cases h
    simp [ProcPhase.Quiets] at hq
  | accept | wakeControl | wakeData | openWake | tcpClose | tcpDataFail | processEnd =>
    simp only [procStep, wakeStep_eq] at h
    split_ifs at h with hp
    all_goals
      cases h
      cases f <;> simp_all [ProcPhase.Quiets, ProcEvent.wakes]
  | listenControl o | listenData o | tcpOpen o =>
    simp only [procStep] at h
    split_ifs at h with hp
    cases h
    cases o <;> cases f <;> simp_all [ProcPhase.Quiets, ProcEvent.wakes]

theorem quietInv_init : Slot.init.QuietInv := fun f _ => by cases f <;> decide

/-- The steps keep `Slot.QuietInv` from a reachable slot: a forwarder's own thread does not end
a quiet spell, the processing thread wakes no forwarder that it counts as quiet, and a return
of `worker_wait_idle` on a serving worker means that it is quiet. -/
theorem quietInv_step (hr : slotLts.Reachable Slot.init s) (hq : s.QuietInv) {l : SlotEvent}
    (hst : slotLts.step s l s') : s'.QuietInv := by
  change slotStep s l = some s' at hst
  intro f hf
  cases l with
  | proc e =>
    obtain ⟨hwk, hold | hwait⟩ := procStep_quiets hst hf
    · rw [procStep_worker hst f, if_neg hwk]
      exact hq f hold
    · rw [procStep_worker hst f, if_neg hwk]
      obtain ⟨r, hr'⟩ := Option.isSome_iff_exists.1 hwait
      have h0 : r = 0 := serving_waitIdle ((slot_wf hr).serving f) hr'
      subst h0
      exact worker_waitIdle_zero (slot_worker_reachable hr f) hr'
  | fwd g e =>
    obtain ⟨t, w, b, rfl, -, -, hp, -⟩ := fwdStep_setFwd hst
    rw [Slot.setFwd_proc, hp] at hf
    rcases fwdStep_worker hst with hw | ⟨next, w', rfl, hstep, hw⟩
    · rw [hw]
      exact hq f hf
    · rw [hw]
      by_cases hg : f = g
      · subst hg
        rw [Function.update_self]
        have hc := workerConsistent_of_reachable (slot_worker_reachable hr f)
        exact quiet_step hc (hq f hf) (fun _ he => by cases he) hstep
      · rw [Function.update_of_ne hg]
        exact hq f hf

/-- **Every reachable slot satisfies `Slot.QuietInv`.** -/
theorem slot_quietInv (h : slotLts.Reachable Slot.init s) : s.QuietInv :=
  h.strong_invariant (fun _ _ _ hr hq hst => quietInv_step hr hq hst) quietInv_init

end Quiet

/-- Every step but `proxy_conn_accept` keeps a slot free. -/
theorem free_step {t t' : Slot} {l : SlotEvent} (hl : l ≠ .proc .accept) (hf : t.proc = .free)
    (hst : slotLts.step t l t') : t'.proc = .free := by
  change slotStep t l = some t' at hst
  cases l with
  | proc e => exact procStep_free hst hf (fun he => hl (by rw [he]))
  | fwd g e =>
    obtain ⟨u, w, b, rfl, -, -, hp, -⟩ := fwdStep_setFwd hst
    rw [Slot.setFwd_proc, hp, hf]

/-- **Quiescence after a client leaves.**  Take a reachable slot whose processing thread is
free, as `proxy_conn_finish` leaves it, and any run from it without `proxy_conn_accept`.  Along
the run the slot stays free with `conn_client` unset, no forwarder is in `func_ptr` or has a
pending wake, and every step of a forwarder is a region of its worker's own loop: none receives,
sends on or drops the client connection. -/
theorem forwarders_quiet_after_finish {s s' : Slot} {ls : List SlotEvent}
    (h : slotLts.Reachable Slot.init s) (hfree : s.proc = .free) (hrun : slotLts.Run s ls s')
    (hacc : SlotEvent.proc .accept ∉ ls) :
    s'.proc = .free ∧ s'.client = none ∧
      (∀ f, (s'.worker f).thread ≠ .running ∧ ¬ (s'.worker f).state.Pending) ∧
      ∀ f e, SlotEvent.fwd f e ∈ ls → ∃ next, e = .thread next := by
  -- the run stays among reachable free slots
  have hstep : ∀ t l t', l ≠ .proc .accept →
      slotLts.Reachable Slot.init t ∧ t.proc = .free → slotLts.step t l t' →
      slotLts.Reachable Slot.init t' ∧ t'.proc = .free :=
    fun _ _ _ hl ⟨hr, hf⟩ hst => ⟨hr.step hst, free_step hl hf hst⟩
  have hP : ∀ l ∈ ls, l ≠ .proc .accept := fun l hl he => hacc (he ▸ hl)
  obtain ⟨hr', hf'⟩ := hrun.preserve hstep hP ⟨h, hfree⟩
  refine ⟨hf', (slot_wf hr').client_none.2 hf', fun f => slot_quietInv hr' f (by rw [hf']; rfl),
    fun f e hmem => ?_⟩
  -- a forwarder of a free slot is quiet, so its body is at its end and only its thread moves
  have hlabel := hrun.forall_label
    (Q := fun l => ∀ f e, l = .fwd f e → ∃ next, e = .thread next) hstep ?_ hP ⟨h, hfree⟩
  · exact hlabel _ hmem f e rfl
  · rintro t l t' - ⟨hr, hf⟩ hst g e rfl
    by_contra hne
    have hq := slot_quietInv hr g (by rw [hf]; rfl)
    exact (fwdStep_body_ne_done hst fun next hn => hne ⟨next, hn⟩).1
      ((slot_wf hr).body_done g hq.1)

/-- A whole session: `proxy_conn_accept` wakes the UDP forwarders, the client leaves at once and
`proxy_conn_finish` runs to its end, each UDP forwarder finding its socket closed and going back
to wait before `worker_wait_idle` returns on it. -/
def finishedSession : List SlotEvent :=
  [.proc .accept, .proc (.listenControl .ok), .proc (.listenData .ok), .proc .wakeControl,
    .proc .wakeData, .proc .processEnd, .proc .finish, .proc .finish, .proc .finish,
    .proc .finish, .proc .finish,
    .fwd .data (.thread .running), .fwd .data (.recv (.bytes 0 [])), .fwd .data .drop,
    .fwd .data .close, .fwd .data (.thread .waiting), .proc .finish,
    .fwd .control (.thread .running), .fwd .control (.recv (.bytes 0 [])), .fwd .control .drop,
    .fwd .control .close, .fwd .control (.thread .waiting), .proc .finish, .proc .finish]

/-- The slot after `finishedSession`. -/
def afterSession : Slot := (Lts.exec slotStep Slot.init finishedSession).getD Slot.init

/-- Then `worker_tcp`'s thread, started but never woken, goes to wait. -/
def afterTcpWait : Slot :=
  (Lts.exec slotStep afterSession [.fwd .tcp (.thread .waiting)]).getD afterSession

theorem forwarders_quiet_after_session :
    slotLts.Reachable Slot.init afterSession ∧ afterSession.proc = .free ∧
      slotLts.Run afterSession [.fwd .tcp (.thread .waiting)] afterTcpWait ∧
      afterTcpWait.proc = .free ∧ afterTcpWait.client = none ∧
      (∀ f, (afterTcpWait.worker f).thread ≠ .running ∧
        ¬ (afterTcpWait.worker f).state.Pending) ∧
      ∀ f e, SlotEvent.fwd f e ∈ [SlotEvent.fwd .tcp (.thread .waiting)] →
        ∃ next, e = .thread next :=
  ⟨⟨finishedSession, Lts.Run.of_exec rfl⟩, by decide, Lts.Run.of_exec rfl,
    forwarders_quiet_after_finish ⟨finishedSession, Lts.Run.of_exec rfl⟩ (by decide)
      (Lts.Run.of_exec rfl) (by simp)⟩

end OpenElp
