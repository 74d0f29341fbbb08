import Mathlib
import OpenElp.Log

/-!
# Printing to the log (`log_printf`, `log_vprintf`)

`log_vprintf` drops a message whose level is above `log->level` and otherwise writes it to the
medium in use: the console, after the timestamp on the log file, through `vsyslog` with the
priority `SYSLOG_LEVEL[lvl]`, or as an event of type `EVENTLOG_LEVEL[lvl]` whose text is what
fits in a buffer of 256 bytes.  `log_printf` makes the same test first; `log_ident` prints the
version line at `LOG_LEVEL_INFO`, and `proxy_log_select_medium` prints it after selecting a
medium.

The model writes a message as the text `vprintf` makes of `fmt` and the arguments; what is
written, and where, is a `LogOutput`.

On the console only `FATAL` messages go to standard output (`logVprintf_console_eq`): the test
`lvl >= LOG_LEVEL_ERROR` holds of every other level, `LOG_LEVEL_FATAL` being 0, so errors,
warnings, information and debug messages all go to standard error, and what reaches standard
output does not depend on `log->level` (`toStdout_logVprintf`).

* `logVprintf_reachable_open` : **after any run of the log's calls**, whatever `log_vprintf`
  writes goes to a file, syslog connection or event source that is open;
* `logSelectMedium_medium` : a selection that returns 0 leaves the log in the medium selected;
* `proxyLogSelectMedium_ident` : the version line that `proxy_log_select_medium` prints goes to
  the medium just selected, and only when the selection succeeded.
-/

namespace OpenElp

/-- `enum LOG_LEVEL`, from the most severe. -/
inductive LogLevel
  | fatal
  | error
  | warn
  | info
  | debug
  deriving DecidableEq, Repr

/-- The value of each enumerator, as `(unsigned int)lvl` reads it: `LOG_LEVEL_FATAL = 0`. -/
def LogLevel.toNat : LogLevel → ℕ
  | .fatal => 0
  | .error => 1
  | .warn => 2
  | .info => 3
  | .debug => 4

/-- The priorities of `<syslog.h>` that `SYSLOG_LEVEL` names. -/
inductive SyslogPriority
  | crit
  | err
  | warning
  | info
  | debug
  deriving DecidableEq, Repr

/-- `SYSLOG_LEVEL[lvl]`. -/
def syslogLevel : LogLevel → SyslogPriority
  | .fatal => .crit
  | .error => .err
  | .warn => .warning
  | .info => .info
  | .debug => .debug

/-- The event types of `<windows.h>` that `EVENTLOG_LEVEL` names. -/
inductive EventlogType
  | error
  | warning
  | information
  deriving DecidableEq, Repr

/-- `EVENTLOG_LEVEL[lvl]`. -/
def eventlogLevel : LogLevel → EventlogType
  | .fatal => .error
  | .error => .error
  | .warn => .warning
  | .info => .information
  | .debug => .information

/-- What one call of `log_vprintf` writes, and where. -/
inductive LogOutput
  /-- `vprintf(fmt, args)`. -/
  | stdout (text : List UInt8)
  /-- `vfprintf(stderr, fmt, args)`. -/
  | stderr (text : List UInt8)
  /-- `fprintf(priv->medium_file.fp, "%s : ", tstamp)` and `vfprintf(priv->medium_file.fp, ..)`,
  to the file in `fp` (`none` for `NULL`). -/
  | file (fp : Option ℕ) (text : List UInt8)
  /-- `vsyslog(SYSLOG_LEVEL[lvl], fmt, args)`. -/
  | syslog (priority : SyslogPriority) (text : List UInt8)
  /-- `ReportEvent(priv->medium_eventlog.handle, EVENTLOG_LEVEL[lvl], 0, EVENTLOG_IDENT[lvl], ..)`
  with the one string in `buff`; `ident` is the level whose `LOG_IDENT_` identifier is reported. -/
  | eventlog (handle : Option ℕ) (type : EventlogType) (ident : LogLevel) (text : List UInt8)
  deriving DecidableEq, Repr

/-- The `" : "` of `fprintf(priv->medium_file.fp, "%s : ", tstamp)`. -/
def logSeparator : List UInt8 := " : ".toList.map Char.toUInt8

/-- `char buff[256]`, which `vsnprintf(buff, 256, fmt, args)` fills. -/
def eventlogBuffer : ℕ := 256

/-- `log_vprintf(log, lvl, fmt, args)`, `vprintf` making `msg` of `fmt` and `args`, with
`log->level = level` and `strftime` leaving `tstamp` in `tstamp`.  `priv` is the one `log_init`
allocated, so its tests for `NULL` hold. -/
def logVprintf (level : ℕ) (tstamp : List UInt8) (s : LogState) (lvl : LogLevel)
    (msg : List UInt8) : Option LogOutput :=
  if lvl.toNat > level then none
  else
    match s.medium with
    | .stdout =>
      if lvl.toNat ≥ LogLevel.error.toNat then some (.stderr msg) else some (.stdout msg)
    | .file => some (.file s.fp (tstamp ++ logSeparator ++ msg))
    | .syslog => some (.syslog (syslogLevel lvl) msg)
    | .eventlog =>
      -- `vsnprintf` keeps what fits before the terminating NUL
      some (.eventlog s.handle (eventlogLevel lvl) lvl (msg.take (eventlogBuffer - 1)))
    | .none => none

/-- `log_printf(log, lvl, fmt, ...)`: the test of `log_vprintf`, then `log_vprintf`. -/
def logPrintf (level : ℕ) (tstamp : List UInt8) (s : LogState) (lvl : LogLevel)
    (msg : List UInt8) : Option LogOutput :=
  if lvl.toNat > level then none else logVprintf level tstamp s lvl msg

/-- The line `log_ident` prints, `"OpenELP " OCH_STR2(OPENELP_VERSION) "\n"`, for the version
string `version`. -/
def identLine (version : List UInt8) : List UInt8 :=
  "OpenELP ".toList.map Char.toUInt8 ++ version ++ [10]

/-- `log_ident(log)`. -/
def logIdent (level : ℕ) (tstamp version : List UInt8) (s : LogState) : Option LogOutput :=
  logPrintf level tstamp s .info (identLine version)

/-- `proxy_log_select_medium(ph, medium, target)` on `priv->log`: `log_select_medium`, then
`log_ident` when the medium is not `NONE` and the selection returned 0. -/
def proxyLogSelectMedium (env : LogEnv) (level : ℕ) (tstamp version : List UInt8)
    (medium : LogMedium) (s : LogState) : ℤ × LogState × Option LogOutput :=
  let r := logSelectMedium env medium s
  if medium ≠ .none ∧ r.1 = 0 then (r.1, r.2, logIdent level tstamp version r.2)
  else (r.1, r.2, none)

/-- `log_open(log)`: the console, unless a medium is in use. -/
def logOpen (s : LogState) : ℤ × LogState :=
  if s.medium ≠ .none then (0, s) else logSelectMedium {} .stdout s

namespace LogOutput

/-- The medium an output belongs to. -/
def medium : LogOutput → LogMedium
  | .stdout _ | .stderr _ => .stdout
  | .file _ _ => .file
  | .syslog _ _ => .syslog
  | .eventlog _ _ _ _ => .eventlog

/-- The text of an output to standard output. -/
def toStdout : LogOutput → Option (List UInt8)
  | .stdout t => some t
  | _ => none

theorem medium_of_toStdout {o : LogOutput} {t : List UInt8} (h : o.toStdout = some t) :
    o.medium = .stdout := by
  cases o <;> first | rfl | cases h

/-- What an output is written to is open in `s`: the file in `fp` is an open file, the syslog
connection is open, the event source in `handle` is registered. -/
def Open (s : LogState) : LogOutput → Prop
  | .stdout _ | .stderr _ => True
  | .file fp _ => ∃ f, fp = some f ∧ f ∈ s.files
  | .syslog _ _ => s.syslogOpen = true
  | .eventlog h _ _ _ => ∃ x, h = some x ∧ x ∈ s.sources

end LogOutput

/-! ### What one message does -/

section Vprintf

variable {level : ℕ} {tstamp : List UInt8} {s : LogState} {lvl : LogLevel} {msg : List UInt8}

/-- The stream of the console branch: `lvl >= LOG_LEVEL_ERROR` is `lvl ≠ LOG_LEVEL_FATAL`. -/
theorem console_stream (lvl : LogLevel) (msg : List UInt8) :
    (if lvl.toNat ≥ LogLevel.error.toNat then some (LogOutput.stderr msg)
      else some (LogOutput.stdout msg)) =
      some (if lvl = .fatal then .stdout msg else .stderr msg) := by
  cases lvl <;> rfl

/-- Everything `log_vprintf` can write, with the test it passed: one case per medium. -/
theorem logVprintf_cases {o : LogOutput} (h : logVprintf level tstamp s lvl msg = some o) :
    lvl.toNat ≤ level ∧
      ((s.medium = .stdout ∧ o = if lvl = .fatal then .stdout msg else .stderr msg) ∨
        (s.medium = .file ∧ o = .file s.fp (tstamp ++ logSeparator ++ msg)) ∨
        (s.medium = .syslog ∧ o = .syslog (syslogLevel lvl) msg) ∨
        (s.medium = .eventlog ∧
          o = .eventlog s.handle (eventlogLevel lvl) lvl (msg.take (eventlogBuffer - 1)))) := by
  unfold logVprintf at h
  by_cases hlvl : lvl.toNat > level
  · rw [if_pos hlvl] at h
    cases h
  rw [if_neg hlvl] at h
  refine ⟨Nat.le_of_not_gt hlvl, ?_⟩
  cases hm : s.medium <;> simp only [hm] at h
  case none => cases h
  case stdout =>
    rw [console_stream] at h
    exact .inl ⟨rfl, (Option.some.inj h).symm⟩
  case file => exact .inr (.inl ⟨rfl, (Option.some.inj h).symm⟩)
  case syslog => exact .inr (.inr (.inl ⟨rfl, (Option.some.inj h).symm⟩))
  case eventlog => exact .inr (.inr (.inr ⟨rfl, (Option.some.inj h).symm⟩))

/-- A message is written iff its level passes `log->level` and the medium is not `NONE`. -/
theorem logVprintf_isSome_iff :
    (logVprintf level tstamp s lvl msg).isSome ↔ lvl.toNat ≤ level ∧ s.medium ≠ .none := by
  unfold logVprintf
  by_cases hlvl : lvl.toNat > level
  · rw [if_pos hlvl]
    simp only [Option.isSome_none, Bool.false_eq_true, false_iff, not_and]
    omega
  · rw [if_neg hlvl]
    have hle : lvl.toNat ≤ level := Nat.le_of_not_gt hlvl
    cases hm : s.medium <;> simp [console_stream, hle]

/-- `log_printf` tests the level `log_vprintf` tests again: it is `log_vprintf`. -/
theorem logPrintf_eq : logPrintf level tstamp s lvl msg = logVprintf level tstamp s lvl msg := by
  unfold logPrintf
  split_ifs with hlvl
  · simp [logVprintf, hlvl]
  · rfl

/-- The console writes a message that passes `log->level` to one of the two streams. -/
theorem logVprintf_console_eq (hm : s.medium = .stdout) (hlvl : lvl.toNat ≤ level) :
    logVprintf level tstamp s lvl msg =
      some (if lvl = .fatal then .stdout msg else .stderr msg) := by
  have hle : ¬lvl.toNat > level := Nat.not_lt.2 hlvl
  simp only [logVprintf, hle, if_false, hm]
  exact console_stream lvl msg

/-- On the console after `log_open`, an informational message goes to standard error. -/
example : logVprintf 3 [] (logOpen logInit).2 .info [104, 105] = some (.stderr [104, 105]) := by
  decide

/-- What is written belongs to the medium in use. -/
theorem logVprintf_medium {o : LogOutput} (h : logVprintf level tstamp s lvl msg = some o) :
    o.medium = s.medium := by
  obtain ⟨-, ⟨hm, rfl⟩ | ⟨hm, rfl⟩ | ⟨hm, rfl⟩ | ⟨hm, rfl⟩⟩ := logVprintf_cases h
  · rw [hm]
    split <;> rfl
  all_goals exact hm.symm

/-- **What reaches standard output does not depend on `log->level`**: it is a `FATAL` message on
the console, and those pass every level. -/
theorem toStdout_logVprintf :
    (logVprintf level tstamp s lvl msg).bind LogOutput.toStdout =
      if s.medium = .stdout ∧ lvl = .fatal then some msg else none := by
  by_cases hlvl : lvl.toNat ≤ level
  · by_cases hm : s.medium = .stdout
    · rw [logVprintf_console_eq hm hlvl]
      by_cases hf : lvl = .fatal <;> simp [hf, hm, LogOutput.toStdout]
    · rw [if_neg (fun h => hm h.1)]
      cases ho : logVprintf level tstamp s lvl msg with
      | none => rfl
      | some o =>
        cases ht : o.toStdout with
        | none => simp [ht]
        | some t =>
          -- an output to standard output belongs to the console, which is not in use
          exact absurd ((logVprintf_medium ho).symm.trans (LogOutput.medium_of_toStdout ht)) hm
  · have hf : lvl ≠ .fatal := by
      rintro rfl
      exact hlvl (Nat.zero_le _)
    rw [logVprintf, if_pos (Nat.lt_of_not_le hlvl), if_neg (fun h => hf h.2)]
    rfl

/-- Under `LogInv`, what is written goes to an open file, connection or source. -/
theorem LogInv.logVprintf_open (hs : LogInv s) {o : LogOutput}
    (h : logVprintf level tstamp s lvl msg = some o) : o.Open s := by
  obtain ⟨-, ⟨-, rfl⟩ | ⟨hm, rfl⟩ | ⟨hm, rfl⟩ | ⟨hm, rfl⟩⟩ := logVprintf_cases h
  · split <;> trivial
  · obtain ⟨f, hfp, hf, -⟩ := hs.file hm
    exact ⟨f, hfp, hf⟩
  · exact hs.syslog hm
  · exact hs.eventlog hm

end Vprintf

/-- **After any run of the log's calls**, whatever `log_vprintf` writes goes to something open:
a file medium writes to an open file, never to `NULL` or a closed one; the syslog medium to an
open connection; the event log to a registered source. -/
theorem logVprintf_reachable_open {s : LogState} (hr : logSystem.Reachable logInit s)
    (level : ℕ) (tstamp : List UInt8) (lvl : LogLevel) (msg : List UInt8) {o : LogOutput}
    (h : logVprintf level tstamp s lvl msg = some o) : o.Open s :=
  (logInv_reachable hr).logVprintf_open h

/-- A log file after `log_init`, and a warning: it is written to file 0, which is open. -/
theorem logVprintf_reachable_open_file :
    logVprintf 3 [] (logCall (.selectMedium .file {}) logInit) .warn [] =
        some (.file (some 0) logSeparator) ∧
      LogOutput.Open (logCall (.selectMedium .file {}) logInit) (.file (some 0) logSeparator) :=
  have hr : logSystem.Reachable logInit (logCall (.selectMedium .file {}) logInit) :=
    ⟨[.selectMedium .file {}], .single rfl⟩
  have h : logVprintf 3 [] (logCall (.selectMedium .file {}) logInit) .warn [] =
      some (.file (some 0) logSeparator) := by decide
  ⟨h, logVprintf_reachable_open hr 3 [] .warn [] h⟩

/-! ### Selecting a medium, then identifying -/

/-- A failed call of the C library reports an error that is not 0: `errno` after `fopen`,
`GetLastError()` after `RegisterEventSource`. -/
structure LogEnv.ErrorsNonzero (env : LogEnv) : Prop where
  fopen : env.fopenErrno ≠ some 0
  eventlog : env.eventlogErrno ≠ 0

namespace LogState

@[simp] theorem medium_releaseFile (s : LogState) : s.releaseFile.medium = s.medium := by
  rw [releaseFile_eq]

@[simp] theorem medium_releaseEventlog (s : LogState) : s.releaseEventlog.medium = s.medium := by
  rw [releaseEventlog_eq]

@[simp] theorem medium_closelog (s : LogState) : s.closelog.medium = s.medium := rfl

@[simp] theorem medium_fclose (s : LogState) (f : ℕ) : (s.fclose f).medium = s.medium := rfl

end LogState

/-- What a selection that returns 0 leaves in `log->medium`: the medium selected.  One case
per medium, each old medium, each outcome of the C library. -/
theorem LogEnv.ErrorsNonzero.medium_logSelectMedium {env : LogEnv} {m : LogMedium}
    {s : LogState} (he : env.ErrorsNonzero) (h : (logSelectMedium env m s).1 = 0) :
    (logSelectMedium env m s).2.medium = m := by
  cases m with
  | none | stdout => rfl
  | file =>
    rcases hf : env.fopenErrno with _ | e
    · cases hm : s.medium <;> simp only [logSelectMedium, hf, hm]
      case file => cases s.fp <;> exact hm
      all_goals simp
    · -- `fopen` failed, and `-errno` is not 0
      have he0 : e ≠ 0 := fun h0 => he.fopen (h0 ▸ hf)
      simp [logSelectMedium, hf, he0] at h
  | syslog =>
    cases hm : s.medium <;> cases hok : env.openlogOk <;>
      simp [logSelectMedium, hm, hok, ENOTSUP] at h ⊢
  | eventlog =>
    cases hm : s.medium <;> cases hok : env.registerOk <;>
      simp [logSelectMedium, hm, hok, he.eventlog] at h ⊢

/-- **A selection that returns 0 leaves the log in the medium selected**, when the C library
reports its failures with errors that are not 0. -/
theorem logSelectMedium_medium {env : LogEnv} {m : LogMedium} {s : LogState}
    (he : env.ErrorsNonzero) (h : (logSelectMedium env m s).1 = 0) :
    (logSelectMedium env m s).2.medium = m :=
  he.medium_logSelectMedium h

/-- Opening a log file on a fresh log returns 0 and switches to the file. -/
theorem logSelectMedium_medium_file :
    LogEnv.ErrorsNonzero {} ∧ (logSelectMedium {} .file logInit).1 = 0 ∧
      (logSelectMedium {} .file logInit).2.medium = .file :=
  have he : LogEnv.ErrorsNonzero {} := ⟨by decide, by decide⟩
  have h : (logSelectMedium {} .file logInit).1 = 0 := by decide
  ⟨he, h, logSelectMedium_medium he h⟩

/-- What `proxy_log_select_medium` returns is what `log_select_medium` returned. -/
theorem proxyLogSelectMedium_ret (env : LogEnv) (level : ℕ) (tstamp version : List UInt8)
    (m : LogMedium) (s : LogState) :
    (proxyLogSelectMedium env level tstamp version m s).1 = (logSelectMedium env m s).1 := by
  unfold proxyLogSelectMedium
  dsimp only
  split <;> rfl

/-- The log after `proxy_log_select_medium` is the log after `log_select_medium`. -/
theorem proxyLogSelectMedium_state (env : LogEnv) (level : ℕ) (tstamp version : List UInt8)
    (m : LogMedium) (s : LogState) :
    (proxyLogSelectMedium env level tstamp version m s).2.1 = (logSelectMedium env m s).2 := by
  unfold proxyLogSelectMedium
  dsimp only
  split <;> rfl

/-- What `proxy_log_select_medium` prints: the version line, after a selection of a medium other
than `NONE` that returned 0. -/
theorem proxyLogSelectMedium_output (env : LogEnv) (level : ℕ) (tstamp version : List UInt8)
    (m : LogMedium) (s : LogState) :
    (proxyLogSelectMedium env level tstamp version m s).2.2 =
      if m ≠ .none ∧ (logSelectMedium env m s).1 = 0 then
        logIdent level tstamp version (logSelectMedium env m s).2 else none := by
  unfold proxyLogSelectMedium
  dsimp only
  split <;> rfl

/-- The version line is printed at `INFO`: never to standard output. -/
theorem toStdout_proxyLogSelectMedium (env : LogEnv) (level : ℕ) (tstamp version : List UInt8)
    (m : LogMedium) (s : LogState) :
    (proxyLogSelectMedium env level tstamp version m s).2.2.bind LogOutput.toStdout = none := by
  rw [proxyLogSelectMedium_output]
  split_ifs
  · rw [logIdent, logPrintf_eq, toStdout_logVprintf, if_neg (fun h => nomatch h.2)]
  · rfl

/-- **The version line `proxy_log_select_medium` prints.**  From any log a run reaches, it is
printed iff the selection returned 0, the medium is not `NONE` and `log->level` lets `INFO`
through; it then goes to the medium just selected, to a file, connection or source that is
open. -/
theorem proxyLogSelectMedium_ident {env : LogEnv} (he : env.ErrorsNonzero) {s : LogState}
    (hr : logSystem.Reachable logInit s) (level : ℕ) (tstamp version : List UInt8)
    (m : LogMedium) :
    ((proxyLogSelectMedium env level tstamp version m s).2.2.isSome ↔
        (proxyLogSelectMedium env level tstamp version m s).1 = 0 ∧ m ≠ .none ∧
          LogLevel.info.toNat ≤ level) ∧
      ∀ o, (proxyLogSelectMedium env level tstamp version m s).2.2 = some o →
        o.medium = m ∧ o.Open (proxyLogSelectMedium env level tstamp version m s).2.1 := by
  rw [proxyLogSelectMedium_output, proxyLogSelectMedium_ret, proxyLogSelectMedium_state]
  -- the selection is one more call of the run
  have hr' : logSystem.Reachable logInit (logSelectMedium env m s).2 :=
    hr.step (l := .selectMedium m env) rfl
  constructor
  · by_cases hc : m ≠ .none ∧ (logSelectMedium env m s).1 = 0
    · rw [if_pos hc, logIdent, logPrintf_eq, logVprintf_isSome_iff,
        he.medium_logSelectMedium hc.2]
      exact ⟨fun h => ⟨hc.2, hc.1, h.1⟩, fun h => ⟨h.2.2, hc.1⟩⟩
    · rw [if_neg hc]
      simp only [Option.isSome_none, Bool.false_eq_true, false_iff]
      exact fun h => hc ⟨h.2.1, h.1⟩
  · intro o ho
    split_ifs at ho with hc
    rw [logIdent, logPrintf_eq] at ho
    exact ⟨(logVprintf_medium ho).trans (he.medium_logSelectMedium hc.2),
      (logInv_reachable hr').logVprintf_open ho⟩

/-- Selecting syslog on a fresh log at the default level prints the version line to the
open connection. -/
theorem proxyLogSelectMedium_ident_syslog :
    LogEnv.ErrorsNonzero {} ∧ logSystem.Reachable logInit logInit ∧
      (((proxyLogSelectMedium {} 3 [] [] .syslog logInit).2.2.isSome ↔
          (proxyLogSelectMedium {} 3 [] [] .syslog logInit).1 = 0 ∧ LogMedium.syslog ≠ .none ∧
            LogLevel.info.toNat ≤ 3) ∧
        ∀ o, (proxyLogSelectMedium {} 3 [] [] .syslog logInit).2.2 = some o →
          o.medium = .syslog ∧ o.Open (proxyLogSelectMedium {} 3 [] [] .syslog logInit).2.1) :=
  have he : LogEnv.ErrorsNonzero {} := ⟨by decide, by decide⟩
  ⟨he, .refl _, proxyLogSelectMedium_ident he (.refl _) 3 [] [] .syslog⟩

end OpenElp
