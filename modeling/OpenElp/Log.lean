import Mathlib.Data.Finset.Insert
import OpenElp.Lts.Basic
import OpenElp.Errno

/-!
# The log media (`log.c`)

`log_select_medium` switches the log between five media.  In a switch on the new medium it
opens that medium (a file with `fopen`, the syslog connection with `openlog`, an event source
with `RegisterEventSource`), records it in `log->medium`, and in a switch on the old medium
releases what that one held.  `log_close` selects `LOG_MEDIUM_NONE`; `log_free` calls
`log_close` and frees `priv`.

The model keeps, besides `log->medium` and `struct log_priv`, what is open in the C library:
the files opened and not closed, the syslog connection, and the event sources registered and not
deregistered, each file and source numbered in the order it was opened.  What the library calls
return is a parameter of each call.

* `LogInv` : a file medium has the newest file open in `fp`, the syslog medium has the
  connection open, the event log medium has a registered source in `handle`;
* `logInv_reachable` : **every log a sequence of calls reaches** satisfies `LogInv`;
* `logSelectMedium_none`, `logSelectMedium_stdout` : selecting `NONE` or `STDOUT` only sets
  `log->medium`: both cases set it before the switch on the old medium, which then sees the new
  one and releases nothing;
* `log_close_leaves_open` : **`log_close` releases nothing**: after any run, the file, syslog
  connection or event source of the medium in use is still open after `log_close`, and `fp` or
  `handle` still holds it.
-/

namespace OpenElp

/-- `enum LOG_MEDIUM`. -/
inductive LogMedium
  | none
  | stdout
  | file
  | syslog
  | eventlog
  deriving DecidableEq, Repr

/-- What the C library does in one call of `log_select_medium`. -/
structure LogEnv where
  /-- `fopen(target, "a")` fails with this `errno`, or opens the file. -/
  fopenErrno : Option ℕ := none
  /-- `openlog` opens the connection; built without syslog it is the stub `return -ENOTSUP`. -/
  openlogOk : Bool := true
  /-- `RegisterEventSource` returns a handle, or `NULL`. -/
  registerOk : Bool := true
  /-- `EVENTLOG_ERRNO`, returned when `RegisterEventSource` fails. -/
  eventlogErrno : ℤ := -ENOTSUP
  deriving DecidableEq, Repr

/-- A log: `log->medium`, `medium_file.fp` and `medium_eventlog.handle` (a file or a source by its
number, `none` for `NULL`), and what is open in the C library. -/
structure LogState where
  medium : LogMedium
  fp : Option ℕ
  handle : Option ℕ
  /-- The files `fopen` opened that `fclose` has not closed. -/
  files : Finset ℕ
  /-- The files opened so far: the next one gets this number. -/
  opened : ℕ
  /-- `openlog` was called after the last `closelog`. -/
  syslogOpen : Bool
  /-- The event sources registered and not deregistered. -/
  sources : Finset ℕ
  /-- The sources registered so far. -/
  registered : ℕ
  deriving DecidableEq

/-- The log after `log_init` in a fresh handle: medium `NONE`, nothing open. -/
def logInit : LogState where
  medium := .none
  fp := none
  handle := none
  files := ∅
  opened := 0
  syslogOpen := false
  sources := ∅
  registered := 0

namespace LogState

/-- `fopen` succeeds: a new file is open. -/
def fopen (s : LogState) : LogState :=
  { s with files := insert s.opened s.files, opened := s.opened + 1 }

/-- `fclose(f)`. -/
def fclose (s : LogState) (f : ℕ) : LogState := { s with files := s.files.erase f }

/-- `openlog`. -/
def openlog (s : LogState) : LogState := { s with syslogOpen := true }

/-- `closelog`. -/
def closelog (s : LogState) : LogState := { s with syslogOpen := false }

/-- `priv->medium_eventlog.handle = RegisterEventSource(NULL, "OpenELP")` when it succeeds: a new
source, stored in `handle`. -/
def register (s : LogState) : LogState :=
  { s with
    handle := some s.registered
    sources := insert s.registered s.sources
    registered := s.registered + 1 }

/-- `if (priv->medium_file.fp != NULL) { fclose(priv->medium_file.fp); priv->medium_file.fp = NULL; }` -/
def releaseFile (s : LogState) : LogState :=
  match s.fp with
  | some f => { s.fclose f with fp := none }
  | none => s

/-- `if (priv->medium_eventlog.handle != NULL) { DeregisterEventSource(..); handle = NULL; }` -/
def releaseEventlog (s : LogState) : LogState :=
  match s.handle with
  | some h => { s with sources := s.sources.erase h, handle := none }
  | none => s

/-- The switch on `log->medium` in the cases `LOG_MEDIUM_NONE` and `LOG_MEDIUM_STDOUT`: release
what that medium holds. -/
def releaseMedium (s : LogState) : LogState :=
  match s.medium with
  | .file => s.releaseFile
  | .syslog => s.closelog
  | .eventlog => s.releaseEventlog
  | _ => s

theorem releaseFile_eq (s : LogState) :
    s.releaseFile = { s with files := s.fp.elim s.files s.files.erase, fp := none } := by
  rcases s with ⟨m, _ | f, h, fs, o, sl, src, r⟩ <;> rfl

theorem releaseEventlog_eq (s : LogState) :
    s.releaseEventlog =
      { s with sources := s.handle.elim s.sources s.sources.erase, handle := none } := by
  rcases s with ⟨m, f, _ | h, fs, o, sl, src, r⟩ <;> rfl

end LogState

open LogState in
/-- `log_select_medium(log, medium, target)`, the C library doing `env`. -/
def logSelectMedium (env : LogEnv) (medium : LogMedium) (s : LogState) : ℤ × LogState :=
  match medium with
  | .none =>
    -- `log->medium` is written before the switch on it
    (0, releaseMedium { s with medium := .none })
  | .stdout => (0, releaseMedium { s with medium := .stdout })
  | .file =>
    match env.fopenErrno with
    | some e => (-e, s)
    | none =>
      let fp := s.opened
      match s.medium with
      | .file =>
        match s.fp with
        | some old => (0, fclose { s.fopen with fp := some fp } old)
        | none => (0, { s.fopen with fp := some fp })
      | .syslog => (0, closelog { s.fopen with fp := some fp, medium := .file })
      | .eventlog => (0, releaseEventlog { s.fopen with fp := some fp, medium := .file })
      | _ => (0, { s.fopen with fp := some fp, medium := .file })
  | .syslog =>
    match s.medium with
    | .file =>
      if env.openlogOk then (0, releaseFile { s.openlog with medium := .syslog })
      else (-ENOTSUP, s)
    | .syslog => (0, s)
    | .eventlog =>
      if env.openlogOk then (0, releaseEventlog { s.openlog with medium := .syslog })
      else (-ENOTSUP, s)
    | _ => if env.openlogOk then (0, { s.openlog with medium := .syslog }) else (-ENOTSUP, s)
  | .eventlog =>
    match s.medium with
    | .file =>
      if env.registerOk then (0, releaseFile { s.register with medium := .eventlog })
      else (env.eventlogErrno, { s with handle := none })
    | .syslog =>
      if env.registerOk then (0, closelog { s.register with medium := .eventlog })
      else (env.eventlogErrno, { s with handle := none })
    | .eventlog => (0, s)
    | _ =>
      if env.registerOk then (0, { s.register with medium := .eventlog })
      else (env.eventlogErrno, { s with handle := none })

/-- `log_close`: `log_select_medium(log, LOG_MEDIUM_NONE, NULL)`, which calls nothing of the C
library. -/
def logClose (s : LogState) : LogState := (logSelectMedium {} .none s).2

/-- The calls on a log after `log_init`. -/
inductive LogCall
  /-- `log_select_medium(log, medium, target)`, the C library doing `env`. -/
  | selectMedium (medium : LogMedium) (env : LogEnv)
  /-- `log_close`. -/
  | close
  deriving DecidableEq, Repr

/-- One call. -/
def logCall : LogCall → LogState → LogState
  | .selectMedium m env, s => (logSelectMedium env m s).2
  | .close, s => logClose s

/-- The log as a transition system. -/
def logSystem : Lts LogState LogCall := Lts.ofFun fun s c => some (logCall c s)

open LogState

/-! ### What every reached log satisfies -/

/-- What holds of every log the functions reach: files are numbered below the count, and the
medium in use holds its resource open: a file medium the newest file in `fp`, the syslog medium
the connection, the event log medium a registered source in `handle`. -/
structure LogInv (s : LogState) : Prop where
  files_lt : ∀ f ∈ s.files, f < s.opened
  file : s.medium = .file → ∃ f, s.fp = some f ∧ f ∈ s.files ∧ s.opened = f + 1
  syslog : s.medium = .syslog → s.syslogOpen = true
  eventlog : s.medium = .eventlog → ∃ h, s.handle = some h ∧ h ∈ s.sources

theorem logInv_init : LogInv logInit := ⟨nofun, nofun, nofun, nofun⟩

namespace LogInv

variable {s : LogState} (hs : LogInv s)
include hs

/-- Selecting `NONE` or `STDOUT` without releasing anything. -/
theorem setMedium {m : LogMedium} (hm : m = .none ∨ m = .stdout) :
    LogInv { s with medium := m } := by
  refine ⟨hs.files_lt, ?_, ?_, ?_⟩ <;> rcases hm with rfl | rfl <;> exact nofun

/-- `RegisterEventSource` failing stores `NULL` in `handle`, outside the event log medium. -/
theorem clearHandle {m : LogMedium} (hm : s.medium = m) (h : m ≠ .eventlog) :
    LogInv { s with medium := m, handle := none } := by
  subst hm
  exact ⟨hs.files_lt, hs.file, hs.syslog, fun h' => absurd h' h⟩

/-- `fclose` of a file that `fp` does not hold. -/
theorem fclose {g : ℕ} (hg : s.fp ≠ some g) : LogInv (s.fclose g) := by
  refine ⟨fun f hf => hs.files_lt f (Finset.mem_of_mem_erase hf), fun hm => ?_, hs.syslog,
    hs.eventlog⟩
  obtain ⟨f, hfp, hf, hopened⟩ := hs.file hm
  -- `fp` keeps its file, which is not the one closed
  have hne : f ≠ g := fun e => hg (e ▸ hfp)
  exact ⟨f, hfp, Finset.mem_erase.2 ⟨hne, hf⟩, hopened⟩

/-- `closelog` outside the syslog medium. -/
theorem closelog (h : s.medium ≠ .syslog) : LogInv s.closelog :=
  ⟨hs.files_lt, hs.file, fun h' => absurd h' h, hs.eventlog⟩

/-- Releasing the event source outside the event log medium. -/
theorem releaseEventlog (h : s.medium ≠ .eventlog) : LogInv s.releaseEventlog := by
  rw [releaseEventlog_eq]
  exact ⟨hs.files_lt, hs.file, hs.syslog, fun h' => absurd h' h⟩

/-- Releasing the file outside the file medium. -/
theorem releaseFile (h : s.medium ≠ .file) : LogInv s.releaseFile := by
  rw [releaseFile_eq]
  refine ⟨fun f hf => hs.files_lt f ?_, fun h' => absurd h' h, hs.syslog, hs.eventlog⟩
  cases hfp : s.fp with
  | none => simpa [hfp] using hf
  | some g =>
    rw [hfp] at hf
    exact Finset.mem_of_mem_erase hf

/-- A new file in `fp`, the medium being `FILE`. -/
theorem openFile : LogInv { s.fopen with fp := some s.opened, medium := .file } := by
  refine ⟨fun f hf => ?_, fun _ => ⟨s.opened, rfl, Finset.mem_insert_self _ _, rfl⟩, nofun,
    nofun⟩
  rcases Finset.mem_insert.1 hf with rfl | hf
  · exact Nat.lt_succ_self _
  · exact Nat.lt_succ_of_lt (hs.files_lt f hf)

/-- `openlog`, the medium being `SYSLOG`. -/
theorem openSyslog : LogInv { s.openlog with medium := .syslog } :=
  ⟨hs.files_lt, nofun, fun _ => rfl, nofun⟩

/-- A new event source in `handle`, the medium being `EVENTLOG`. -/
theorem register : LogInv { s.register with medium := .eventlog } :=
  ⟨hs.files_lt, nofun, nofun, fun _ => ⟨s.registered, rfl, Finset.mem_insert_self _ _⟩⟩

/-- **`log_select_medium` keeps the invariant**, whatever the C library does. -/
theorem logSelectMedium (env : LogEnv) (m : LogMedium) : LogInv (logSelectMedium env m s).2 := by
  cases m with
  | none => exact hs.setMedium (.inl rfl)
  | stdout => exact hs.setMedium (.inr rfl)
  | file =>
    rcases he : env.fopenErrno with _ | e
    · have hopen := hs.openFile
      cases hm : s.medium with
      | file =>
        -- the old file is closed after the new one is stored; it is not the new one
        obtain ⟨old, hfp, hold, hopened⟩ := hs.file hm
        have hne : some s.opened ≠ some old := fun e => by
          have := hs.files_lt old hold
          have := Option.some.inj e
          omega
        have hsame : { s.fopen with fp := some s.opened } =
            { s.fopen with fp := some s.opened, medium := .file } := by
          rw [← hm]
          rfl
        simp only [OpenElp.logSelectMedium, he, hm, hfp]
        rw [hsame]
        exact hopen.fclose hne
      | syslog =>
        simp only [OpenElp.logSelectMedium, he, hm]
        exact hopen.closelog nofun
      | eventlog =>
        simp only [OpenElp.logSelectMedium, he, hm]
        exact hopen.releaseEventlog nofun
      | none | stdout =>
        simp only [OpenElp.logSelectMedium, he, hm]
        exact hopen
    · simp only [OpenElp.logSelectMedium, he]
      exact hs
  | syslog =>
    cases hm : s.medium <;> cases hok : env.openlogOk <;>
      simp only [OpenElp.logSelectMedium, hm, hok, Bool.false_eq_true, if_true, if_false]
    all_goals first
      | exact hs
      | exact hs.openSyslog
      | exact hs.openSyslog.releaseFile nofun
      | exact hs.openSyslog.releaseEventlog nofun
  | eventlog =>
    cases hm : s.medium <;> cases hok : env.registerOk <;>
      simp only [OpenElp.logSelectMedium, hm, hok, Bool.false_eq_true, if_true, if_false]
    all_goals first
      | exact hs
      | exact hs.clearHandle hm nofun
      | exact hs.register
      | exact hs.register.releaseFile nofun
      | exact hs.register.closelog nofun

end LogInv

/-- **Every log a sequence of calls reaches** satisfies `LogInv`. -/
theorem logInv_reachable {s : LogState} (h : logSystem.Reachable logInit s) : LogInv s := by
  refine h.invariant (fun s c s' hs hstep => ?_) logInv_init
  cases hstep
  cases c with
  | selectMedium m env => exact hs.logSelectMedium env m
  | close => exact hs.logSelectMedium {} .none

/-! ### What `NONE` and `STDOUT` release -/

/-- Selecting `NONE` only sets `log->medium`: the switch on the old medium sees `NONE`. -/
theorem logSelectMedium_none (env : LogEnv) (s : LogState) :
    logSelectMedium env .none s = (0, { s with medium := .none }) := rfl

/-- Selecting `STDOUT` only sets `log->medium`: the switch on the old medium sees `STDOUT`. -/
theorem logSelectMedium_stdout (env : LogEnv) (s : LogState) :
    logSelectMedium env .stdout s = (0, { s with medium := .stdout }) := rfl

/-- **`log_close` releases nothing.**  After any run, `log_close` only sets the medium to
`NONE`: the file of a file medium is still open and in `fp`, the syslog connection of the syslog
medium is still open, and the event source of the event log medium is still registered and in
`handle`. -/
theorem log_close_leaves_open {s : LogState} (h : logSystem.Reachable logInit s) :
    logClose s = { s with medium := .none } ∧
      (s.medium = .file → ∃ f, (logClose s).fp = some f ∧ f ∈ (logClose s).files) ∧
      (s.medium = .syslog → (logClose s).syslogOpen = true) ∧
      (s.medium = .eventlog → ∃ h, (logClose s).handle = some h ∧ h ∈ (logClose s).sources) := by
  have hs := logInv_reachable h
  -- `log_close` selects `NONE`, which only sets the medium
  have hclose : logClose s = { s with medium := .none } :=
    congrArg Prod.snd (logSelectMedium_none {} s)
  refine ⟨hclose, fun hm => ?_, hs.syslog, hs.eventlog⟩
  obtain ⟨f, hfp, hf, -⟩ := hs.file hm
  exact ⟨f, hfp, hf⟩

/-- A log file, then `log_close`: the medium is `NONE` and the file is still open in `fp`. -/
theorem log_close_after_file :
    (logClose (logCall (.selectMedium .file {}) logInit)).medium = .none ∧
      (logClose (logCall (.selectMedium .file {}) logInit)).fp = some 0 ∧
      0 ∈ (logClose (logCall (.selectMedium .file {}) logInit)).files := by
  decide

/-- Syslog, then `log_close`: the connection stays open. -/
theorem log_close_after_syslog :
    let s := logCall (.selectMedium .syslog {}) logInit
    logSystem.Reachable logInit s ∧
      (logClose s = { s with medium := .none } ∧
        (s.medium = .file → ∃ f, (logClose s).fp = some f ∧ f ∈ (logClose s).files) ∧
        (s.medium = .syslog → (logClose s).syslogOpen = true) ∧
        (s.medium = .eventlog → ∃ h, (logClose s).handle = some h ∧ h ∈ (logClose s).sources)) :=
  ⟨⟨[.selectMedium .syslog {}], .single rfl⟩,
    log_close_leaves_open ⟨[.selectMedium .syslog {}], .single rfl⟩⟩

end OpenElp
