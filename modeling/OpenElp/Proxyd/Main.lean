import Mathlib
import OpenElp.Proxyd
import OpenElp.Log.Print

/-!
# The log of `main` (`proxyd.c`)

From `proxy_init` to `"Ready."`, `main` sets the level from `-q` and `-d`, opens the log on the
console, loads the configuration and opens the proxy, and then, in the child of the `fork` or in
the foreground, switches the log to the medium the options name; the child sets the level again.
Every step that fails logs a message and leaves `main` (`proxydMain`).  The dispatch loop then
calls `proxy_process` until it fails or a signal sets `sentinel`, and `proxy_free` closes the
proxy and its log before `main` returns (`proxydRun`).

The model follows the log through these calls: its level, the `LogState` of `priv->log`, and
every `LogOutput` written, oldest first.  What each call of the C library or of the proxy returns
and what the proxy's own functions log meanwhile are parameters (`MainEnv`); the text `printf`
makes of each message's format and arguments is the parameter `render`.

* `proxydMain_medium` : **the medium `main` leaves the log in is `proxydMedium`**, when the
  switch succeeds;
* `proxydMain_level` : the level is the one `-q` and `-d` chose, except in the child that
  daemonizes with a log file or syslog, where it is `INFO`, or `DEBUG` with `-d`, **whatever `-q`
  says**;
* `proxydMain_quiet_stdout` : **`-q` changes nothing on standard output**, up to the dispatch
  loop and to the `return` of `main`, although the usage text says it suppresses messages to
  stdout: the console writes only `FATAL` messages there (`logVprintf_console_eq`), and those
  pass every level.
-/

namespace OpenElp

/-- The messages `main` prints between `proxy_init` and the dispatch loop. -/
inductive MainMsg
  /-- `"Failed to initialize proxy (%d): %s\n"`. -/
  | init (ret : ℤ)
  /-- `"Failed to switch log to STDOUT (%d): %s\n"`. -/
  | console (ret : ℤ)
  /-- `"Failed to load config from '%s' (%d): %s\n"`. -/
  | loadConf (path : List UInt8) (ret : ℤ)
  /-- `"Failed to open proxy (%d): %s\n"`. -/
  | proxyOpen (ret : ℤ)
  /-- `"Error forking daemon process\n"`. -/
  | fork
  /-- `"Failed to open log file (%d): %s\n"`. -/
  | logFile (ret : ℤ)
  /-- `"Failed to activate syslog (%d): %s\n"`. -/
  | syslog (ret : ℤ)
  /-- `"Failed to activate eventlog (%d): %s\n"`. -/
  | eventlog (ret : ℤ)
  /-- `"Process error (%d): %s\n"`, after `setsid`. -/
  | setsid (errno : ℤ)
  /-- `"Failed to change dir (%d): %s\n"`. -/
  | chdir (errno : ℤ)
  /-- `"Switching log to file \"%s\"\n"`. -/
  | switchingFile (path : List UInt8)
  /-- `"Switching log to syslog\n"`. -/
  | switchingSyslog
  /-- `"Switching log to eventlog\n"`. -/
  | switchingEventlog
  /-- `"Failed to start proxy (%d): %s\n"`. -/
  | start (ret : ℤ)
  /-- `"Ready.\n"`. -/
  | ready
  /-- `"Starting a processing run...\n"`. -/
  | processing
  /-- `"Message processing failure (%d): %s\n"`. -/
  | processFailure (ret : ℤ)
  /-- `"Shutting down...\n"`. -/
  | shuttingDown
  deriving DecidableEq, Repr

/-- What one call of `proxy_process` in the dispatch loop does: the messages logged meanwhile,
by it and by the threads of the proxy, in the order they were logged, and what it returns. -/
structure ProcessRun where
  log : List (LogLevel × List UInt8) := []
  ret : ℤ := 0
  deriving DecidableEq, Repr

/-- What the calls of `main` return, and what the proxy's own functions log through `priv->log`
while they run (`proxy_log`, and `log_printf` in `conf_parse_file`), each message with its level
and its text. -/
structure MainEnv where
  /-- `proxy_init(&ph)`. -/
  init : ℤ := 0
  /-- The C library in `proxy_log_select_medium(&ph, LOG_MEDIUM_STDOUT, NULL)`. -/
  console : LogEnv := {}
  /-- What `proxy_load_conf` logs: the parse's messages and its warnings. -/
  loadConfLog : List (LogLevel × List UInt8) := []
  /-- `proxy_load_conf(&ph, opts.config_path)`. -/
  loadConf : ℤ := 0
  /-- What `proxy_open` logs. -/
  proxyOpenLog : List (LogLevel × List UInt8) := []
  /-- `proxy_open(&ph)`. -/
  proxyOpen : ℤ := 0
  /-- `fork()`: negative on failure, the child's pid in the parent, 0 in the child. -/
  fork : ℤ := 0
  /-- The C library in the switch to the medium of the options. -/
  medium : LogEnv := {}
  /-- `setsid()` fails with this `errno`, or succeeds. -/
  setsid : Option ℤ := none
  /-- `chdir("/")` fails with this `errno`, or succeeds. -/
  chdir : Option ℤ := none
  /-- What `proxy_start` and the threads it starts log until it returns. -/
  startLog : List (LogLevel × List UInt8) := []
  /-- `proxy_start(&ph)`. -/
  start : ℤ := 0
  /-- The calls of `proxy_process` before the signal that sets `sentinel`. -/
  runs : List ProcessRun := []
  /-- What `proxy_close` logs in `proxy_free`, before it closes the log. -/
  closeLog : List (LogLevel × List UInt8) := []

/-- How `main` leaves the code modelled: `goto proxyd_exit` with `ret`, `exit(0)` in the parent
of the `fork`, or the dispatch loop. -/
inductive MainEnd
  | exit (ret : ℤ)
  | parent
  | ready
  deriving DecidableEq, Repr

/-- `config_path_default`. -/
def configPathDefault : List UInt8 := "ELProxy.conf".toList.map Char.toUInt8

/-- The proxy's log, `priv->log` with its `level`, and what it has written so far. -/
structure ProxyLog where
  level : ℕ
  log : LogState
  written : List LogOutput
  deriving DecidableEq

namespace ProxyLog

/-- The log `log_init` makes in `proxy_init`: `LOG_LEVEL_INFO`, medium `NONE`. -/
def init : ProxyLog := ⟨LogLevel.info.toNat, logInit, []⟩

/-- Write `o`, if anything. -/
def emit (p : ProxyLog) (o : Option LogOutput) : ProxyLog :=
  { p with written := p.written ++ o.toList }

/-- `fprintf(stderr, ..)`, past the log. -/
def stderr (p : ProxyLog) (text : List UInt8) : ProxyLog := p.emit (some (.stderr text))

/-- `proxy_log(&ph, lvl, ..)`: the test of `log_vprintf` on `priv->log.level`, then
`log_vprintf`, `priv` being the one `proxy_init` allocated. -/
def proxyLog (tstamp : List UInt8) (p : ProxyLog) (lvl : LogLevel) (msg : List UInt8) :
    ProxyLog :=
  p.emit (logPrintf p.level tstamp p.log lvl msg)

/-- One `proxy_log` after the other. -/
def proxyLogAll (tstamp : List UInt8) (p : ProxyLog) (msgs : List (LogLevel × List UInt8)) :
    ProxyLog :=
  msgs.foldl (fun p m => p.proxyLog tstamp m.1 m.2) p

/-- `proxy_log_level(&ph, lvl)`. -/
def proxyLogLevel (p : ProxyLog) (lvl : LogLevel) : ProxyLog := { p with level := lvl.toNat }

/-- `proxy_log_select_medium(&ph, medium, ..)`. -/
def selectMedium (env : LogEnv) (tstamp version : List UInt8) (m : LogMedium) (p : ProxyLog) :
    ℤ × ProxyLog :=
  let r := proxyLogSelectMedium env p.level tstamp version m p.log
  (r.1, { p.emit r.2.2 with log := r.2.1 })

end ProxyLog

section Main

variable (env : MainEnv) (render : MainMsg → List UInt8) (tstamp version : List UInt8)

open ProxyLog

/-- `ret = proxy_log_select_medium(&ph, m, ..); if (ret != 0) proxy_log(&ph, LOG_LEVEL_ERROR,
..)`, the switch of both branches. -/
def switchTo (m : LogMedium) (fail : ℤ → MainMsg) (p : ProxyLog) : ProxyLog :=
  let r := p.selectMedium env.medium tstamp version m
  if r.1 ≠ 0 then r.2.proxyLog tstamp .error (render (fail r.1)) else r.2

/-- The level the child sets after its switch: `opts.debug ? LOG_LEVEL_DEBUG : LOG_LEVEL_INFO`. -/
def daemonLevel (opts : ProxyOpts) : LogLevel := if opts.debug then .debug else .info

/-- The switch in the child that daemonizes: a log file or syslog, then the level again. -/
def daemonSwitch (opts : ProxyOpts) (p : ProxyLog) : ProxyLog :=
  match opts.logPath with
  | some _ => (switchTo env render tstamp version .file .logFile p).proxyLogLevel (daemonLevel opts)
  | none =>
    if opts.syslog then
      (switchTo env render tstamp version .syslog .syslog p).proxyLogLevel (daemonLevel opts)
    else p

/-- The switch in the foreground: a log file, syslog or the event log, each announced first. -/
def foregroundSwitch (opts : ProxyOpts) (p : ProxyLog) : ProxyLog :=
  match opts.logPath with
  | some path =>
    switchTo env render tstamp version .file .logFile
      (p.proxyLog tstamp .info (render (.switchingFile path)))
  | none =>
    if opts.syslog then
      switchTo env render tstamp version .syslog .syslog
        (p.proxyLog tstamp .info (render .switchingSyslog))
    else if opts.eventlog then
      switchTo env render tstamp version .eventlog .eventlog
        (p.proxyLog tstamp .info (render .switchingEventlog))
    else p

/-- `proxy_start`, then `"Ready."`. -/
def proxydStart (p : ProxyLog) : MainEnd × ProxyLog :=
  let p := p.proxyLogAll tstamp env.startLog
  if env.start < 0 then (.exit env.start, p.proxyLog tstamp .fatal (render (.start env.start)))
  else (.ready, p.proxyLog tstamp .info (render .ready))

/-- The `fork` and what the child does up to `proxy_start`: the switch, `setsid`, `chdir`. -/
def proxydDaemon (opts : ProxyOpts) (p : ProxyLog) : MainEnd × ProxyLog :=
  if env.fork < 0 then (.exit env.fork, p.proxyLog tstamp .fatal (render .fork))
  else if env.fork > 0 then (.parent, p)
  else
    let p := daemonSwitch env render tstamp version opts p
    match env.setsid, env.chdir with
    | some e, _ => (.exit e, p.proxyLog tstamp .fatal (render (.setsid e)))
    | none, some e => (.exit e, p.proxyLog tstamp .fatal (render (.chdir e)))
    | none, none => proxydStart env render tstamp p

/-- The initial level: `opts.quiet ? LOG_LEVEL_WARN : opts.debug ? LOG_LEVEL_DEBUG :
LOG_LEVEL_INFO`. -/
def startLevel (opts : ProxyOpts) : LogLevel :=
  if opts.quiet then .warn else if opts.debug then .debug else .info

/-- `proxy_log_level` with the initial level, then the switch to the console. -/
def proxydConsole (opts : ProxyOpts) : ℤ × ProxyLog :=
  (init.proxyLogLevel (startLevel opts)).selectMedium env.console tstamp version .stdout

/-- `main` after `parse_args`, up to the dispatch loop, on a build with `feat`. -/
def proxydMain (feat : Features) (opts : ProxyOpts) : MainEnd × ProxyLog :=
  let path := opts.configPath.getD configPathDefault
  if env.init < 0 then (.exit env.init, init.stderr (render (.init env.init)))
  else
    let r := proxydConsole env tstamp version opts
    if r.1 < 0 then (.exit r.1, r.2.stderr (render (.console r.1)))
    else
      let p := r.2.proxyLogAll tstamp env.loadConfLog
      if env.loadConf < 0 then
        (.exit env.loadConf, p.proxyLog tstamp .fatal (render (.loadConf path env.loadConf)))
      else
        let p := p.proxyLogAll tstamp env.proxyOpenLog
        if env.proxyOpen < 0 then
          (.exit env.proxyOpen, p.proxyLog tstamp .fatal (render (.proxyOpen env.proxyOpen)))
        else if feat.daemonize ∧ opts.foreground = false then
          proxydDaemon env render tstamp version opts p
        else proxydStart env render tstamp (foregroundSwitch env render tstamp version opts p)

/-- The dispatch loop, `while (ret == 0 && sentinel == 0)`, over the runs of `proxy_process`
before the signal: a run that returns 0 goes on, `-EINTR` waits for the signal and ends the loop
with 0, any other error is logged as `FATAL` and ends it. -/
def proxydLoop : List ProcessRun → ProxyLog → ℤ × ProxyLog
  | [], p => (0, p)
  | run :: runs, p =>
    let p := (p.proxyLog tstamp .debug (render .processing)).proxyLogAll tstamp run.log
    if run.ret = 0 then proxydLoop runs p
    else if run.ret = -EINTR then (0, p)
    else if run.ret < 0 then (run.ret, p.proxyLog tstamp .fatal (render (.processFailure run.ret)))
    else (run.ret, p)

/-- `proxy_free` at `proxyd_exit`: `proxy_close` logs and closes the log, and `log_free` closes
it once more. -/
def proxydFree (p : ProxyLog) : ProxyLog :=
  let p := p.proxyLogAll tstamp env.closeLog
  { p with log := logClose (logClose p.log) }

/-- `main` after `parse_args`, to its `return ret`: the parent of the `fork` leaves by
`exit(0)`; a failed `proxy_init` has freed the proxy itself, so `proxy_free` does nothing. -/
def proxydRun (feat : Features) (opts : ProxyOpts) : ℤ × ProxyLog :=
  let r := proxydMain env render tstamp version feat opts
  match r.1 with
  | .parent => (0, r.2)
  | .exit ret => (ret, if env.init < 0 then r.2 else proxydFree env tstamp r.2)
  | .ready =>
    let l := proxydLoop render tstamp env.runs r.2
    (l.1, proxydFree env tstamp (l.2.proxyLog tstamp .info (render .shuttingDown)))

end Main

namespace ProxyLog

variable (p : ProxyLog)

@[simp] theorem log_emit (o : Option LogOutput) : (p.emit o).log = p.log := rfl
@[simp] theorem level_emit (o : Option LogOutput) : (p.emit o).level = p.level := rfl
@[simp] theorem log_stderr (t : List UInt8) : (p.stderr t).log = p.log := rfl
@[simp] theorem level_stderr (t : List UInt8) : (p.stderr t).level = p.level := rfl

@[simp] theorem log_proxyLog (tstamp : List UInt8) (lvl : LogLevel) (msg : List UInt8) :
    (p.proxyLog tstamp lvl msg).log = p.log := rfl

@[simp] theorem level_proxyLog (tstamp : List UInt8) (lvl : LogLevel) (msg : List UInt8) :
    (p.proxyLog tstamp lvl msg).level = p.level := rfl

/-- A run of `proxy_log`s only writes: `priv->log` and the level stay as they were. -/
theorem proxyLogAll_keeps (tstamp : List UInt8) (msgs : List (LogLevel × List UInt8)) :
    (p.proxyLogAll tstamp msgs).log = p.log ∧ (p.proxyLogAll tstamp msgs).level = p.level := by
  induction msgs generalizing p with
  | nil => exact ⟨rfl, rfl⟩
  | cons m msgs ih => exact ih _

@[simp] theorem log_proxyLogAll (tstamp : List UInt8) (msgs : List (LogLevel × List UInt8)) :
    (p.proxyLogAll tstamp msgs).log = p.log :=
  (p.proxyLogAll_keeps tstamp msgs).1

@[simp] theorem level_proxyLogAll (tstamp : List UInt8) (msgs : List (LogLevel × List UInt8)) :
    (p.proxyLogAll tstamp msgs).level = p.level :=
  (p.proxyLogAll_keeps tstamp msgs).2

@[simp] theorem log_proxyLogLevel (lvl : LogLevel) : (p.proxyLogLevel lvl).log = p.log := rfl

@[simp] theorem level_proxyLogLevel (lvl : LogLevel) :
    (p.proxyLogLevel lvl).level = lvl.toNat := rfl

section Select

variable (env : LogEnv) (tstamp version : List UInt8) (m : LogMedium)

@[simp] theorem selectMedium_fst :
    (p.selectMedium env tstamp version m).1 = (logSelectMedium env m p.log).1 :=
  proxyLogSelectMedium_ret env p.level tstamp version m p.log

@[simp] theorem log_selectMedium :
    (p.selectMedium env tstamp version m).2.log = (logSelectMedium env m p.log).2 :=
  proxyLogSelectMedium_state env p.level tstamp version m p.log

@[simp] theorem level_selectMedium : (p.selectMedium env tstamp version m).2.level = p.level :=
  rfl

end Select

end ProxyLog

/-! ### The medium and the level `main` leaves -/

/-- The C library opens every medium: `fopen`, `openlog` and `RegisterEventSource` succeed. -/
structure LogEnv.Opens (env : LogEnv) : Prop where
  fopen : env.fopenErrno = none
  openlog : env.openlogOk = true
  register : env.registerOk = true

/-- When the C library opens every medium, `log_select_medium` returns 0 and switches. -/
theorem logSelectMedium_opens {env : LogEnv} (h : env.Opens) (m : LogMedium) (s : LogState) :
    (logSelectMedium env m s).1 = 0 ∧ (logSelectMedium env m s).2.medium = m := by
  cases m with
  | none | stdout => exact ⟨rfl, rfl⟩
  | file =>
    cases hm : s.medium <;> simp [logSelectMedium, hm, h.fopen]
    -- a file replacing a file: the old one is closed after the switch
    case file => cases s.fp <;> exact ⟨rfl, hm⟩
  | syslog | eventlog =>
    cases hm : s.medium <;> simp [logSelectMedium, hm, h.openlog, h.register]


section Main

variable (env : MainEnv) (render : MainMsg → List UInt8) (tstamp version : List UInt8)

open ProxyLog

@[simp] theorem log_switchTo (m : LogMedium) (fail : ℤ → MainMsg) (p : ProxyLog) :
    (switchTo env render tstamp version m fail p).log = (logSelectMedium env.medium m p.log).2 := by
  unfold switchTo
  dsimp only
  split <;> simp

@[simp] theorem level_switchTo (m : LogMedium) (fail : ℤ → MainMsg) (p : ProxyLog) :
    (switchTo env render tstamp version m fail p).level = p.level := by
  unfold switchTo
  dsimp only
  split <;> simp

/-- The medium after the child's switch, when the C library opens it. -/
theorem medium_daemonSwitch (h : env.medium.Opens) (opts : ProxyOpts) (p : ProxyLog) :
    (daemonSwitch env render tstamp version opts p).log.medium =
      if opts.logPath.isSome then .file else if opts.syslog then .syslog else p.log.medium := by
  unfold daemonSwitch
  cases opts.logPath with
  | some path => simp [(logSelectMedium_opens h _ _).2]
  | none =>
    simp only [Option.isSome_none, Bool.false_eq_true, if_false]
    split_ifs <;> simp [(logSelectMedium_opens h _ _).2]

/-- The level after the child's switch: set again from `-d` alone once it switched. -/
theorem level_daemonSwitch (opts : ProxyOpts) (p : ProxyLog) :
    (daemonSwitch env render tstamp version opts p).level =
      if opts.logPath.isSome ∨ opts.syslog then (daemonLevel opts).toNat else p.level := by
  unfold daemonSwitch
  cases opts.logPath with
  | some path => simp
  | none => split_ifs <;> simp_all

/-- The medium after the switch in the foreground, when the C library opens it. -/
theorem medium_foregroundSwitch (h : env.medium.Opens) (opts : ProxyOpts) (p : ProxyLog) :
    (foregroundSwitch env render tstamp version opts p).log.medium =
      if opts.logPath.isSome then .file else if opts.syslog then .syslog
      else if opts.eventlog then .eventlog else p.log.medium := by
  unfold foregroundSwitch
  cases opts.logPath with
  | some path => simp [(logSelectMedium_opens h _ _).2]
  | none =>
    simp only [Option.isSome_none, Bool.false_eq_true, if_false]
    split_ifs <;> simp [(logSelectMedium_opens h _ _).2]

/-- `"Ready."` leaves the log as it was. -/
theorem proxydStart_ready {p q : ProxyLog} (h : proxydStart env render tstamp p = (.ready, q)) :
    q.log = p.log ∧ q.level = p.level := by
  unfold proxydStart at h
  dsimp only at h
  split_ifs at h
  · cases h
  · cases h
    simp

/-- A child that reaches the dispatch loop has the log of its switch. -/
theorem proxydDaemon_ready {opts : ProxyOpts} {p q : ProxyLog}
    (h : proxydDaemon env render tstamp version opts p = (.ready, q)) :
    q.log = (daemonSwitch env render tstamp version opts p).log ∧
      q.level = (daemonSwitch env render tstamp version opts p).level := by
  unfold proxydDaemon at h
  split_ifs at h
  · cases h
  · cases h
  -- the child: `setsid` and `chdir` exit on failure
  split at h
  · cases h
  · cases h
  · exact proxydStart_ready env render tstamp h

/-- The switch in the foreground keeps the level. -/
theorem level_foregroundSwitch (opts : ProxyOpts) (p : ProxyLog) :
    (foregroundSwitch env render tstamp version opts p).level = p.level := by
  unfold foregroundSwitch
  cases opts.logPath with
  | some path => simp
  | none => split_ifs <;> simp

@[simp] theorem medium_proxydConsole (opts : ProxyOpts) :
    (proxydConsole env tstamp version opts).2.log.medium = .stdout := by
  rw [proxydConsole, ProxyLog.log_selectMedium, logSelectMedium_stdout]

@[simp] theorem level_proxydConsole (opts : ProxyOpts) :
    (proxydConsole env tstamp version opts).2.level = (startLevel opts).toNat := rfl

/-- The log once `proxy_load_conf` and `proxy_open` have logged what they log. -/
def proxydOpened (opts : ProxyOpts) : ProxyLog :=
  ((proxydConsole env tstamp version opts).2.proxyLogAll tstamp env.loadConfLog).proxyLogAll
    tstamp env.proxyOpenLog

@[simp] theorem medium_proxydOpened (opts : ProxyOpts) :
    (proxydOpened env tstamp version opts).log.medium = .stdout := by
  simp [proxydOpened]

@[simp] theorem level_proxydOpened (opts : ProxyOpts) :
    (proxydOpened env tstamp version opts).level = (startLevel opts).toNat := by
  simp [proxydOpened]

/-- A `main` that reaches the dispatch loop has the log of the child's switch or of the
foreground's. -/
theorem proxydMain_ready {feat : Features} {opts : ProxyOpts} {q : ProxyLog}
    (h : proxydMain env render tstamp version feat opts = (.ready, q)) :
    (feat.daemonize ∧ opts.foreground = false ∧
        q.log = (daemonSwitch env render tstamp version opts
          (proxydOpened env tstamp version opts)).log ∧
        q.level = (daemonSwitch env render tstamp version opts
          (proxydOpened env tstamp version opts)).level) ∨
      (¬(feat.daemonize ∧ opts.foreground = false) ∧
        q.log = (foregroundSwitch env render tstamp version opts
          (proxydOpened env tstamp version opts)).log ∧
        q.level = (foregroundSwitch env render tstamp version opts
          (proxydOpened env tstamp version opts)).level) := by
  unfold proxydMain at h
  dsimp only at h
  split_ifs at h with hinit hcon hload hopen hd
  all_goals try cases h
  · exact .inl ⟨hd.1, hd.2, proxydDaemon_ready env render tstamp version h⟩
  · exact .inr ⟨hd, proxydStart_ready env render tstamp h⟩

/-- **The medium `main` leaves the log in is `proxydMedium`**, when the C library opens the
medium of the options: the chains of `else if`s of the child and of the foreground are those of
`proxydMedium`. -/
theorem proxydMain_medium (h : env.medium.Opens) {feat : Features} {opts : ProxyOpts}
    {q : ProxyLog} (hr : proxydMain env render tstamp version feat opts = (.ready, q)) :
    q.log.medium = proxydMedium feat opts := by
  rcases proxydMain_ready env render tstamp version hr with ⟨hd, hf, hq, -⟩ | ⟨hd, hq, -⟩
  · rw [hq, medium_daemonSwitch env render tstamp version h, medium_proxydOpened]
    simp [proxydMedium, hd, hf]
  · have hfg : ¬(feat.daemonize = true ∧ ¬opts.foreground = true) := by simpa using hd
    rw [hq, medium_foregroundSwitch env render tstamp version h, medium_proxydOpened,
      proxydMedium, if_neg hfg]

/-- A daemon with `-L` reaches the dispatch loop with its log on the file. -/
theorem proxydMain_medium_daemon :
    LogEnv.Opens ({} : MainEnv).medium ∧
      proxydMain {} (fun _ => []) [] [] ⟨false, false, true⟩ { logPath := some [] } =
        (.ready, (proxydMain {} (fun _ => []) [] [] ⟨false, false, true⟩
          { logPath := some [] }).2) ∧
      (proxydMain {} (fun _ => []) [] [] ⟨false, false, true⟩ { logPath := some [] }).2.log.medium =
        proxydMedium ⟨false, false, true⟩ { logPath := some [] } :=
  have h : LogEnv.Opens ({} : MainEnv).medium := ⟨rfl, rfl, rfl⟩
  have hr : proxydMain {} (fun _ => []) [] [] ⟨false, false, true⟩ { logPath := some [] } =
      (.ready, (proxydMain {} (fun _ => []) [] [] ⟨false, false, true⟩
        { logPath := some [] }).2) := Prod.ext (by decide) rfl
  ⟨h, hr, proxydMain_medium {} (fun _ => []) [] [] h hr⟩

/-- **The level at the dispatch loop.**  It is the one `-q` and `-d` chose, except in the child
that daemonizes and switches to a log file or syslog, which sets it from `-d` alone: there `-q`
has no effect, and `INFO` messages are logged. -/
theorem proxydMain_level {feat : Features} {opts : ProxyOpts} {q : ProxyLog}
    (hr : proxydMain env render tstamp version feat opts = (.ready, q)) :
    q.level = (if feat.daemonize ∧ opts.foreground = false ∧ (opts.logPath.isSome ∨ opts.syslog)
      then daemonLevel opts else startLevel opts).toNat := by
  rcases proxydMain_ready env render tstamp version hr with ⟨hd, hf, -, hq⟩ | ⟨hd, -, hq⟩
  · rw [hq, level_daemonSwitch, level_proxydOpened]
    by_cases hm : opts.logPath.isSome ∨ opts.syslog
    · rw [if_pos hm, if_pos ⟨hd, hf, hm⟩]
    · rw [if_neg hm, if_neg (fun h => hm h.2.2)]
  · rw [hq, level_foregroundSwitch, level_proxydOpened, if_neg (fun h => hd ⟨h.1, h.2.1⟩)]

/-- A daemon with `-q -L` logs at `INFO`. -/
theorem proxydMain_level_quiet :
    proxydMain {} (fun _ => []) [] [] ⟨false, false, true⟩ { quiet := true, logPath := some [] } =
        (.ready, (proxydMain {} (fun _ => []) [] [] ⟨false, false, true⟩
          { quiet := true, logPath := some [] }).2) ∧
      (proxydMain {} (fun _ => []) [] [] ⟨false, false, true⟩
          { quiet := true, logPath := some [] }).2.level =
        (if (⟨false, false, true⟩ : Features).daemonize ∧
            ({ quiet := true, logPath := some [] } : ProxyOpts).foreground = false ∧
            (({ quiet := true, logPath := some [] } : ProxyOpts).logPath.isSome ∨
              ({ quiet := true, logPath := some [] } : ProxyOpts).syslog)
          then daemonLevel { quiet := true, logPath := some [] }
          else startLevel { quiet := true, logPath := some [] }).toNat :=
  have hr : proxydMain {} (fun _ => []) [] [] ⟨false, false, true⟩
      { quiet := true, logPath := some [] } =
      (.ready, (proxydMain {} (fun _ => []) [] [] ⟨false, false, true⟩
        { quiet := true, logPath := some [] }).2) := Prod.ext (by decide) rfl
  ⟨hr, proxydMain_level {} (fun _ => []) [] [] hr⟩

end Main

/-! ### What reaches standard output -/

namespace ProxyLog

/-- What the log has written to standard output, in order. -/
def stdoutText (p : ProxyLog) : List (List UInt8) := p.written.filterMap LogOutput.toStdout

theorem stdoutText_emit (p : ProxyLog) (o : Option LogOutput) :
    (p.emit o).stdoutText = p.stdoutText ++ (o.bind LogOutput.toStdout).toList := by
  cases o with
  | none => simp [emit, stdoutText]
  | some o => cases ht : o.toStdout <;> simp [emit, stdoutText, ht]

/-- Two logs that agree on `priv->log` and on what they wrote to standard output; their levels
and what they wrote elsewhere may differ. -/
structure SameStdout (p q : ProxyLog) : Prop where
  log : p.log = q.log
  stdout : p.stdoutText = q.stdoutText

namespace SameStdout

variable {p q : ProxyLog} (h : SameStdout p q)
include h

theorem proxyLog (tstamp : List UInt8) (lvl : LogLevel) (msg : List UInt8) :
    SameStdout (p.proxyLog tstamp lvl msg) (q.proxyLog tstamp lvl msg) := by
  refine ⟨by simp [h.log], ?_⟩
  -- only a `FATAL` message on the console reaches standard output, whatever the level
  simp only [ProxyLog.proxyLog, stdoutText_emit, logPrintf_eq, toStdout_logVprintf, h.log,
    h.stdout]

theorem proxyLogAll (tstamp : List UInt8) (msgs : List (LogLevel × List UInt8)) :
    SameStdout (p.proxyLogAll tstamp msgs) (q.proxyLogAll tstamp msgs) := by
  induction msgs generalizing p q with
  | nil => exact h
  | cons m msgs ih => exact ih (h.proxyLog tstamp m.1 m.2)

theorem stderr (t : List UInt8) : SameStdout (p.stderr t) (q.stderr t) := by
  refine ⟨h.log, ?_⟩
  simp only [ProxyLog.stderr, stdoutText_emit, h.stdout]

theorem proxyLogLevel (l₁ l₂ : LogLevel) : SameStdout (p.proxyLogLevel l₁) (q.proxyLogLevel l₂) :=
  ⟨h.log, h.stdout⟩

theorem selectMedium (env : LogEnv) (tstamp version : List UInt8) (m : LogMedium) :
    (p.selectMedium env tstamp version m).1 = (q.selectMedium env tstamp version m).1 ∧
      SameStdout (p.selectMedium env tstamp version m).2 (q.selectMedium env tstamp version m).2 := by
  refine ⟨by simp [h.log], by simp [h.log], ?_⟩
  -- the version line is printed at `INFO`
  have hw (r : ProxyLog) : (r.selectMedium env tstamp version m).2.stdoutText = r.stdoutText := by
    simp only [ProxyLog.selectMedium, stdoutText]
    rw [← stdoutText, ← stdoutText, stdoutText_emit, toStdout_proxyLogSelectMedium,
      Option.toList_none, List.append_nil]
  rw [hw, hw, h.stdout]

end SameStdout

end ProxyLog

/-- Two option records that differ at most in `-q` and `-d`, the options that only set the
level. -/
structure ProxyOpts.SameBut (o₁ o₂ : ProxyOpts) : Prop where
  configPath : o₁.configPath = o₂.configPath
  logPath : o₁.logPath = o₂.logPath
  eventlog : o₁.eventlog = o₂.eventlog
  foreground : o₁.foreground = o₂.foreground
  syslog : o₁.syslog = o₂.syslog

section Main

variable (env : MainEnv) (render : MainMsg → List UInt8) (tstamp version : List UInt8)

open ProxyLog

variable {env render tstamp version} {p q : ProxyLog} {o₁ o₂ : ProxyOpts}

theorem ProxyLog.SameStdout.switchTo (h : SameStdout p q) (m : LogMedium) (fail : ℤ → MainMsg) :
    SameStdout (switchTo env render tstamp version m fail p)
      (switchTo env render tstamp version m fail q) := by
  obtain ⟨hret, hs⟩ := h.selectMedium env.medium tstamp version m
  unfold OpenElp.switchTo
  dsimp only
  rw [hret]
  split_ifs
  · exact hs.proxyLog tstamp .error _
  · exact hs

theorem ProxyLog.SameStdout.daemonSwitch (h : SameStdout p q) (ho : o₁.SameBut o₂) :
    SameStdout (daemonSwitch env render tstamp version o₁ p)
      (daemonSwitch env render tstamp version o₂ q) := by
  unfold OpenElp.daemonSwitch
  rw [ho.logPath, ho.syslog]
  cases o₂.logPath with
  | some path => exact (h.switchTo .file .logFile).proxyLogLevel _ _
  | none =>
    split_ifs
    · exact (h.switchTo .syslog .syslog).proxyLogLevel _ _
    · exact h

theorem ProxyLog.SameStdout.foregroundSwitch (h : SameStdout p q) (ho : o₁.SameBut o₂) :
    SameStdout (foregroundSwitch env render tstamp version o₁ p)
      (foregroundSwitch env render tstamp version o₂ q) := by
  unfold OpenElp.foregroundSwitch
  rw [ho.logPath, ho.syslog, ho.eventlog]
  cases o₂.logPath with
  | some path => exact (h.proxyLog tstamp .info _).switchTo .file .logFile
  | none =>
    split_ifs
    · exact (h.proxyLog tstamp .info _).switchTo .syslog .syslog
    · exact (h.proxyLog tstamp .info _).switchTo .eventlog .eventlog
    · exact h

theorem ProxyLog.SameStdout.proxydStart (h : SameStdout p q) :
    (proxydStart env render tstamp p).1 = (proxydStart env render tstamp q).1 ∧
      SameStdout (proxydStart env render tstamp p).2 (proxydStart env render tstamp q).2 := by
  have hs := h.proxyLogAll tstamp env.startLog
  unfold OpenElp.proxydStart
  dsimp only
  split_ifs
  · exact ⟨rfl, hs.proxyLog tstamp .fatal _⟩
  · exact ⟨rfl, hs.proxyLog tstamp .info _⟩

theorem ProxyLog.SameStdout.proxydDaemon (h : SameStdout p q) (ho : o₁.SameBut o₂) :
    (proxydDaemon env render tstamp version o₁ p).1 =
        (proxydDaemon env render tstamp version o₂ q).1 ∧
      SameStdout (proxydDaemon env render tstamp version o₁ p).2
        (proxydDaemon env render tstamp version o₂ q).2 := by
  have hs : SameStdout (OpenElp.daemonSwitch env render tstamp version o₁ p)
      (OpenElp.daemonSwitch env render tstamp version o₂ q) := h.daemonSwitch ho
  unfold OpenElp.proxydDaemon
  split_ifs
  · exact ⟨rfl, h.proxyLog tstamp .fatal _⟩
  · exact ⟨rfl, h⟩
  · dsimp only
    split
    · exact ⟨rfl, hs.proxyLog tstamp .fatal _⟩
    · exact ⟨rfl, hs.proxyLog tstamp .fatal _⟩
    · exact hs.proxydStart

/-- Two runs of `main` on options that differ at most in `-q` and `-d` end alike and write the
same to standard output. -/
theorem proxydMain_sameStdout (feat : Features) (ho : o₁.SameBut o₂) :
    (proxydMain env render tstamp version feat o₁).1 =
        (proxydMain env render tstamp version feat o₂).1 ∧
      SameStdout (proxydMain env render tstamp version feat o₁).2
        (proxydMain env render tstamp version feat o₂).2 := by
  -- the console is opened alike, the two levels apart
  have hinit : SameStdout ProxyLog.init ProxyLog.init := ⟨rfl, rfl⟩
  obtain ⟨hret, hc⟩ : (proxydConsole env tstamp version o₁).1 =
      (proxydConsole env tstamp version o₂).1 ∧
      SameStdout (proxydConsole env tstamp version o₁).2 (proxydConsole env tstamp version o₂).2 :=
    (hinit.proxyLogLevel (startLevel o₁) (startLevel o₂)).selectMedium env.console tstamp
      version .stdout
  -- and `proxy_load_conf` and `proxy_open` log alike
  have hl := hc.proxyLogAll tstamp env.loadConfLog
  have hop := hl.proxyLogAll tstamp env.proxyOpenLog
  unfold proxydMain
  dsimp only
  rw [hret, ho.configPath, ho.foreground]
  split_ifs
  · exact ⟨rfl, ⟨rfl, rfl⟩⟩
  · exact ⟨rfl, hc.stderr _⟩
  · exact ⟨rfl, hl.proxyLog tstamp .fatal _⟩
  · exact ⟨rfl, hop.proxyLog tstamp .fatal _⟩
  · exact hop.proxydDaemon ho
  · exact (hop.foregroundSwitch ho).proxydStart

theorem ProxyLog.SameStdout.proxydLoop (h : SameStdout p q) (runs : List ProcessRun) :
    (OpenElp.proxydLoop render tstamp runs p).1 = (OpenElp.proxydLoop render tstamp runs q).1 ∧
      SameStdout (OpenElp.proxydLoop render tstamp runs p).2
        (OpenElp.proxydLoop render tstamp runs q).2 := by
  induction runs generalizing p q with
  | nil => exact ⟨rfl, h⟩
  | cons run runs ih =>
    -- the two logs take in the run's messages alike, whatever their levels
    have hs := (h.proxyLog tstamp .debug (render .processing)).proxyLogAll tstamp run.log
    rw [OpenElp.proxydLoop, OpenElp.proxydLoop]
    split_ifs
    · exact ih hs
    · exact ⟨rfl, hs⟩
    · exact ⟨rfl, hs.proxyLog tstamp .fatal _⟩
    · exact ⟨rfl, hs⟩

theorem ProxyLog.SameStdout.proxydFree (h : SameStdout p q) :
    SameStdout (OpenElp.proxydFree env tstamp p) (OpenElp.proxydFree env tstamp q) := by
  have hs := h.proxyLogAll tstamp env.closeLog
  exact ⟨by simp only [OpenElp.proxydFree, hs.log], hs.stdout⟩

/-- Two runs of `main` to its `return`, on options that differ at most in `-q` and `-d`, return
alike and write the same to standard output. -/
theorem proxydRun_sameStdout (feat : Features) (ho : o₁.SameBut o₂) :
    (proxydRun env render tstamp version feat o₁).1 =
        (proxydRun env render tstamp version feat o₂).1 ∧
      SameStdout (proxydRun env render tstamp version feat o₁).2
        (proxydRun env render tstamp version feat o₂).2 := by
  obtain ⟨hend, hm⟩ := @proxydMain_sameStdout env render tstamp version o₁ o₂ feat ho
  unfold proxydRun
  dsimp only
  rw [hend]
  split
  · exact ⟨rfl, hm⟩
  · refine ⟨rfl, ?_⟩
    split_ifs
    · exact hm
    · exact hm.proxydFree
  · obtain ⟨hret, hl⟩ := hm.proxydLoop env.runs
    exact ⟨hret, (hl.proxyLog tstamp .info _).proxydFree⟩

/-- **`-q` changes nothing on standard output.**  The usage text says `-q` suppresses messages to
stdout, but the console writes only `FATAL` messages there, and those pass every level: with
`-q` or without, and with `-d` or without, `main` reaches the dispatch loop or leaves the same
way and has written the same to standard output by then, and so again at its `return`, after
the dispatch loop and `proxy_free`, whatever the proxy's functions logged on the way.  What `-q`
suppresses goes to standard error. -/
theorem proxydMain_quiet_stdout (feat : Features) (opts : ProxyOpts) (quiet debug : Bool) :
    (proxydMain env render tstamp version feat { opts with quiet := quiet, debug := debug }).1 =
        (proxydMain env render tstamp version feat opts).1 ∧
      (proxydMain env render tstamp version feat
          { opts with quiet := quiet, debug := debug }).2.stdoutText =
        (proxydMain env render tstamp version feat opts).2.stdoutText ∧
      (proxydRun env render tstamp version feat { opts with quiet := quiet, debug := debug }).1 =
        (proxydRun env render tstamp version feat opts).1 ∧
      (proxydRun env render tstamp version feat
          { opts with quiet := quiet, debug := debug }).2.stdoutText =
        (proxydRun env render tstamp version feat opts).2.stdoutText := by
  have ho : ProxyOpts.SameBut { opts with quiet := quiet, debug := debug } opts :=
    ⟨rfl, rfl, rfl, rfl, rfl⟩
  exact ⟨(proxydMain_sameStdout feat ho).1, (proxydMain_sameStdout feat ho).2.stdout,
    (proxydRun_sameStdout feat ho).1, (proxydRun_sameStdout feat ho).2.stdout⟩

end Main

end OpenElp
