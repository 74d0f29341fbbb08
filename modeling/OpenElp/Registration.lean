import OpenElp.Lts.Basic

/-!
# The registration service (`registration.c`)

The registration service reports the proxy's status and slot counts to the registrar.
`registration_service_update` stores a status and the counts under `priv->mutex`, unless the
status is `OFF`, and wakes the service's worker; the worker (`registration_func`) reads them
under the mutex and sends a report unless the status is `UNKNOWN`.  `proxy_start` calls
`proxy_update_registration` and then `registration_service_start`, which turns an `OFF` status
into `UNKNOWN`; `proxy_close` calls `registration_service_stop`, which sets `OFF`, wakes the worker
and joins it.

The model keeps the members under the mutex, whether the worker runs, and the reports sent.  A
call of `registration_func` is one event: it reads and reports under one lock.  After the wake of
`registration_service_stop`, `worker_join` lets the worker make the call the wake owes
(`worker_join_calls`), so stopping ends with that call.

* `registrationServiceStop_last` : the last report of `registration_service_stop` is `Off`,
  with the counts of the last update;
* `registration_restart_unknown` : **after `proxy_close`, the next `proxy_start` leaves the status
  `UNKNOWN`**, whatever updates come between: its update comes before `registration_service_start`
  turns `OFF` into `UNKNOWN`, so it is lost, and the worker sends no report until the next
  update.
-/

namespace OpenElp

/-- `enum REGISTRATION_STATUS`, in the order of its values. -/
inductive RegistrationStatus
  | unknown
  | ready
  | busy
  | off
  deriving DecidableEq, Repr

namespace RegistrationStatus

/-- The value of the enumerator (`REGISTRATION_STATUS_UNKNOWN = 0`, the others in order). -/
def val : RegistrationStatus → ℕ
  | unknown => 0
  | ready => 1
  | busy => 2
  | off => 3

end RegistrationStatus

/-- `status_phrase`: the text reported for each status; `NULL` for `UNKNOWN`. -/
def statusPhrase : RegistrationStatus → Option (List UInt8)
  | .unknown => none
  | .ready => some ("Ready".toList.map Char.toUInt8)
  | .busy => some ("Busy".toList.map Char.toUInt8)
  | .off => some ("Off".toList.map Char.toUInt8)

/-- What a report carries: the status and the slot counts. -/
structure Report where
  status : RegistrationStatus
  slotsUsed : ℕ
  slotsTotal : ℕ
  deriving DecidableEq, Repr

/-- The registration service: the members under `priv->mutex`, whether its worker runs, and the
reports sent so far. -/
structure RegService where
  status : RegistrationStatus
  slotsUsed : ℕ
  slotsTotal : ℕ
  /-- The worker has been started and not joined. -/
  running : Bool
  /-- The reports `send_report` sent, in order. -/
  reports : List Report
  deriving DecidableEq, Repr

/-- The service after `registration_service_init` in a zeroed `proxy_handle`. -/
def RegService.init : RegService := ⟨.unknown, 0, 0, false, []⟩

/-- `registration_service_update`. -/
def registrationServiceUpdate (slotsUsed slotsTotal : ℕ) (r : RegService) : RegService :=
  if r.status.val < RegistrationStatus.off.val then
    { r with
      status := if slotsUsed ≥ slotsTotal then .busy else .ready
      slotsUsed
      slotsTotal }
  else r

/-- `registration_func`: one call of the worker. -/
def registrationFunc (r : RegService) : RegService :=
  if r.status.val ≤ RegistrationStatus.unknown.val then r
  else { r with reports := r.reports ++ [⟨r.status, r.slotsUsed, r.slotsTotal⟩] }

/-- `registration_service_start`, `RegistrationName` being set and the worker starting. -/
def registrationServiceStart (r : RegService) : RegService :=
  { r with
    running := true
    status := if r.status = .off then .unknown else r.status }

/-- `registration_service_stop`: `OFF` and a wake under the mutex, then `worker_join`, during
which the worker makes the call the wake owes. -/
def registrationServiceStop (r : RegService) : RegService :=
  { registrationFunc { r with status := .off } with running := false }

/-- What `proxy_start` does to the service once the slots and workers run:
`proxy_update_registration`, then `registration_service_start`. -/
def proxyStartRegistration (slotsUsed slotsTotal : ℕ) (r : RegService) : RegService :=
  registrationServiceStart (registrationServiceUpdate slotsUsed slotsTotal r)

/-- The events on the service. -/
inductive RegEvent
  /-- `proxy_update_registration`, from any thread. -/
  | update (slotsUsed slotsTotal : ℕ)
  /-- A call of `registration_func` by the running worker. -/
  | func
  /-- `proxy_start`, with the counts `proxy_update_registration` reads. -/
  | start (slotsUsed slotsTotal : ℕ)
  /-- `proxy_close`. -/
  | stop
  deriving DecidableEq, Repr

/-- One event, if it can happen. -/
def regStep (r : RegService) : RegEvent → Option RegService
  | .update used total => some (registrationServiceUpdate used total r)
  | .func => if r.running then some (registrationFunc r) else none
  | .start used total => if r.running then none else some (proxyStartRegistration used total r)
  | .stop => if r.running then some (registrationServiceStop r) else none

/-- The registration service as a transition system. -/
def regSystem : Lts RegService RegEvent := Lts.ofFun regStep

/-! ### What the calls do -/

/-- The last report of `registration_service_stop` is `Off`, with the counts of the last
update. -/
theorem registrationServiceStop_last (r : RegService) :
    (registrationServiceStop r).reports.getLast? = some ⟨.off, r.slotsUsed, r.slotsTotal⟩ ∧
      (registrationServiceStop r).status = .off := by
  simp [registrationServiceStop, registrationFunc, RegistrationStatus.val]

/-- After `registration_service_stop`, an update stores nothing. -/
theorem registrationServiceUpdate_off (used total : ℕ) {r : RegService} (h : r.status = .off) :
    registrationServiceUpdate used total r = r := by
  simp [registrationServiceUpdate, h, RegistrationStatus.val]

/-- `registration_service_stop` and then `proxy_start` leave the status `UNKNOWN`. -/
theorem proxyStartRegistration_after_stop (r : RegService) (used total : ℕ) :
    (proxyStartRegistration used total (registrationServiceStop r)).status = .unknown := by
  have hoff := (registrationServiceStop_last r).2
  simp only [proxyStartRegistration, registrationServiceUpdate_off used total hoff,
    registrationServiceStart, hoff, if_true]

/-- The updates of a stopped service change nothing. -/
theorem run_updates_off {r r' : RegService} (us : List (ℕ × ℕ)) (hoff : r.status = .off)
    (h : regSystem.Run r (us.map fun u => .update u.1 u.2) r') : r' = r := by
  induction us generalizing r with
  | nil =>
    cases h
    rfl
  | cons u us ih =>
    cases h with
    | cons hstep hrest =>
      -- the update finds `OFF` and stores nothing
      have hr : registrationServiceUpdate u.1 u.2 r = r := registrationServiceUpdate_off _ _ hoff
      simp only [regSystem, Lts.ofFun, regStep, hr, Option.some.injEq] at hstep
      subst hstep
      exact ih hoff hrest

/-- **After `proxy_close`, the next `proxy_start` leaves the status `UNKNOWN`.**  From every state
of the service, a run of `proxy_close`, any updates, and `proxy_start` with any counts ends with
the status `UNKNOWN`: the update of `proxy_start` finds `OFF` and is ignored, and only then does
`registration_service_start` turn `OFF` into `UNKNOWN`.  The worker then sends no report until
the next update. -/
theorem registration_restart_unknown {r r' : RegService} (us : List (ℕ × ℕ)) (used total : ℕ)
    (h : regSystem.Run r (.stop :: us.map (fun u => .update u.1 u.2) ++ [.start used total]) r') :
    r'.status = .unknown ∧ registrationFunc r' = r' := by
  obtain ⟨r₁, h₁, h₂⟩ := Lts.Run.split h
  cases h₁ with
  | cons hstop hupd =>
    simp only [regSystem, Lts.ofFun, regStep] at hstop
    split at hstop
    · cases hstop
      have hoff := (registrationServiceStop_last r).2
      rw [run_updates_off us hoff hupd] at h₂
      cases h₂ with
      | cons hstart hnil =>
        cases hnil
        have hrun : (registrationServiceStop r).running = false := rfl
        simp only [regSystem, Lts.ofFun, regStep, hrun, Bool.false_eq_true, if_false,
          Option.some.injEq] at hstart
        subst hstart
        have hstatus := proxyStartRegistration_after_stop r used total
        refine ⟨hstatus, ?_⟩
        simp [registrationFunc, hstatus, RegistrationStatus.val]
    · cases hstop

/-- A running service: `proxy_close`, one update, `proxy_start`. -/
theorem registration_restart_unknown_update :
    regSystem.Run (proxyStartRegistration 0 1 RegService.init)
        (.stop :: [(1, 1)].map (fun u => .update u.1 u.2) ++ [.start 0 1])
        (proxyStartRegistration 0 1
          (registrationServiceStop (proxyStartRegistration 0 1 RegService.init))) ∧
      ((proxyStartRegistration 0 1
          (registrationServiceStop (proxyStartRegistration 0 1 RegService.init))).status =
            .unknown ∧
        registrationFunc (proxyStartRegistration 0 1
          (registrationServiceStop (proxyStartRegistration 0 1 RegService.init))) =
          proxyStartRegistration 0 1
            (registrationServiceStop (proxyStartRegistration 0 1 RegService.init))) := by
  have hrun : regSystem.Run (proxyStartRegistration 0 1 RegService.init)
      (.stop :: [(1, 1)].map (fun u => .update u.1 u.2) ++ [.start 0 1])
      (proxyStartRegistration 0 1
        (registrationServiceStop (proxyStartRegistration 0 1 RegService.init))) :=
    Lts.Run.of_exec rfl
  exact ⟨hrun, registration_restart_unknown [(1, 1)] 0 1 hrun⟩

/-- Two cycles of one free slot: the first `proxy_start` reports `Ready`, the second leaves
`UNKNOWN`, although its update saw the same free slot as the first. -/
theorem registration_second_start_unknown :
    (registrationFunc (proxyStartRegistration 0 1 RegService.init)).reports =
        [⟨.ready, 0, 1⟩] ∧
      (proxyStartRegistration 0 1 (registrationServiceStop
        (proxyStartRegistration 0 1 RegService.init))).status = .unknown := by
  decide

end OpenElp
