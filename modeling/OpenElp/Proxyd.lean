import Mathlib
import OpenElp.Errno
import OpenElp.Log

/-!
# The command line of `openelpd` (`proxyd.c`)

`parse_args` walks `argv[1..]`.  An argument `--name` is one of four long options; any other
argument of two characters or more that starts with `-` is a cluster of one-letter flags, read
one after the other; any other non-empty argument names the configuration file, once.  `-L`
takes the path of the log file from the rest of its argument, or at the end of it from the next
argument.  For `--help`, `--version`, their one-letter forms and every error the program exits
instead of returning, with the message and the status of the source (`ArgsExit`).  The flags
`-E` and `-S` exist only in builds with the event log (`HAVE_EVENTLOG`) or syslog
(`HAVE_SYSLOG`) (`Features`).

Once the proxy is open, `main` switches the log to the medium the options name, by a chain of
`else if`s on the log file, syslog and the event log (`proxydMedium`).

What `parse_args` can do to the options is stated once, as a system of writes each under the
test the code makes before it (`optsSystem`); every run of `parse_args` that returns is a run of
it (`parseArgsFrom_reachable`), and the invariants follow from one lemma on the writes.

* `parseArgs_logging` : **the options name at most one logging mechanism, and only one the
  build has** (`ProxyOpts.Logging`), for every command line `parse_args` accepts;
* `parseArgs_medium` : **the log goes to the mechanism the command line asks for**, because
  `parse_args` lets through at most one;
* `parseArgsFrom_cluster` : a cluster of flags means its flags one by one, and `-Lpath` means
  `-L path`.
-/

namespace OpenElp

/-- The parts of a build that change the command line: `HAVE_EVENTLOG`, `HAVE_SYSLOG`, and
whether `main` daemonizes without `-F` (every build but `_WIN32`). -/
structure Features where
  eventlog : Bool
  syslog : Bool
  daemonize : Bool
  deriving DecidableEq, Repr

/-- `struct proxy_opts`, the defaults being what `memset(&opts, 0x0, sizeof(opts))` leaves. -/
structure ProxyOpts where
  configPath : Option (List UInt8) := none
  logPath : Option (List UInt8) := none
  debug : Bool := false
  eventlog : Bool := false
  foreground : Bool := false
  syslog : Bool := false
  quiet : Bool := false
  deriving DecidableEq, Repr

/-- The errors `parse_args` writes to `stderr` before `exit(-EINVAL)`. -/
inductive ArgsError
  /-- `-E`, `-L` or `-S` after another of them. -/
  | oneLogging
  /-- `-L` at the end of the last argument. -/
  | logPath
  /-- A letter of a cluster that is no flag of the build. -/
  | flag (c : UInt8)
  /-- A second configuration file. -/
  | configPath
  /-- The empty argument, `--`, or an unknown long option. -/
  | option (arg : List UInt8)
  deriving DecidableEq, Repr

/-- The text `fprintf(stderr, ...)` writes for each error. -/
def ArgsError.message : ArgsError → List UInt8
  | .oneLogging => "ERROR: Only one logging mechanism is allowed\n".toList.map Char.toUInt8
  | .logPath => "ERROR: Invalid log file path\n".toList.map Char.toUInt8
  | .flag c => "ERROR: Invalid flag \x27".toList.map Char.toUInt8 ++ c :: "\x27\n".toList.map Char.toUInt8
  | .configPath => "ERROR: Config path already specified\n".toList.map Char.toUInt8
  | .option arg =>
    "ERROR: Invalid option \x27".toList.map Char.toUInt8 ++ arg ++ "\x27\n".toList.map Char.toUInt8

/-- Where `parse_args` ends the program instead of returning. -/
inductive ArgsExit
  /-- `print_usage(); exit(0);` -/
  | usage
  /-- `printf(OPENELP_VERSION "\n"); exit(0);` -/
  | version
  /-- `fprintf(stderr, ...); exit(-EINVAL);` -/
  | error (e : ArgsError)
  deriving DecidableEq, Repr

/-- The status `parse_args` passes to `exit`. -/
def ArgsExit.status : ArgsExit → ℤ
  | .usage => 0
  | .version => 0
  | .error _ => -EINVAL

/-! ### `parse_args` -/

/-- The loop `for (j = 1; j < arg_len; j++) switch (argv[i][j])` over the letters of a cluster.
Besides the options it returns whether `-L` ended the cluster with no path after it, so that the
next argument is the path (`i++`, which `parseArgsFrom` does). -/
def shortFlags (feat : Features) (opts : ProxyOpts) : List UInt8 → Except ArgsExit (ProxyOpts × Bool)
  | [] => .ok (opts, false)
  | c :: cs =>
    if c = 'd'.toUInt8 then shortFlags feat { opts with debug := true } cs
    else if feat.eventlog ∧ c = 'E'.toUInt8 then
      if opts.logPath.isSome || opts.syslog then .error (.error .oneLogging)
      else shortFlags feat { opts with eventlog := true } cs
    else if c = 'F'.toUInt8 then shortFlags feat { opts with foreground := true } cs
    else if c = 'h'.toUInt8 then .error .usage
    else if c = 'L'.toUInt8 then
      if opts.eventlog || opts.syslog then .error (.error .oneLogging)
      -- `arg_len > j + 1`: the rest of the argument is the path, and `j = arg_len` ends the loop
      else if cs ≠ [] then .ok ({ opts with logPath := some cs }, false)
      else .ok (opts, true)
    else if c = 'q'.toUInt8 then shortFlags feat { opts with quiet := true } cs
    else if feat.syslog ∧ c = 'S'.toUInt8 then
      if opts.eventlog || opts.logPath.isSome then .error (.error .oneLogging)
      else shortFlags feat { opts with syslog := true } cs
    else if c = 'V'.toUInt8 then .error .version
    else .error (.error (.flag c))

/-- `strcmp(&argv[i][2], ...)` against the four long options; any other argument that starts
with `--` falls through to `Invalid option`. -/
def longOption (opts : ProxyOpts) (arg : List UInt8) : Except ArgsExit (ProxyOpts × Bool) :=
  let name := arg.drop 2
  if name = "debug".toList.map Char.toUInt8 then .ok ({ opts with debug := true }, false)
  else if name = "help".toList.map Char.toUInt8 then .error .usage
  else if name = "quiet".toList.map Char.toUInt8 then .ok ({ opts with quiet := true }, false)
  else if name = "version".toList.map Char.toUInt8 then .error .version
  else .error (.error (.option arg))

/-- One turn of the loop over `argv`, up to `-L`'s use of the next argument. -/
def argStep (feat : Features) (opts : ProxyOpts) (arg : List UInt8) :
    Except ArgsExit (ProxyOpts × Bool) :=
  if arg.length > 1 ∧ arg.getD 0 0 = '-'.toUInt8 then
    if arg.getD 1 0 = '-'.toUInt8 then longOption opts arg
    else shortFlags feat opts (arg.drop 1)
  else if arg.length > 0 then
    if opts.configPath = none then .ok ({ opts with configPath := some arg }, false)
    else .error (.error .configPath)
  else .error (.error (.option arg))

/-- The loop `for (i = 1; i < argc; i++)`, from the options so far over the arguments left. -/
def parseArgsFrom (feat : Features) (opts : ProxyOpts) :
    List (List UInt8) → Except ArgsExit ProxyOpts
  | [] => .ok opts
  | arg :: args =>
    match argStep feat opts arg with
    | .error e => .error e
    | .ok (opts, false) => parseArgsFrom feat opts args
    | .ok (opts, true) =>
      -- `-L` ended its argument: `i + 1 < argc`, then `i++` and the next argument is the path
      match args with
      | [] => .error (.error .logPath)
      | path :: args => parseArgsFrom feat { opts with logPath := some path } args

/-- `parse_args(argc, argv, &opts)` on `argv[1..]`, from the `opts` that `main` clears. -/
def parseArgs (feat : Features) (args : List (List UInt8)) : Except ArgsExit ProxyOpts :=
  parseArgsFrom feat {} args

/-- The medium `main` switches the log to after `proxy_open`, `LOG_MEDIUM_STDOUT` staying if
the options name none: in the child that daemonizes, the log file or syslog; in the foreground
the log file, syslog or the event log. -/
def proxydMedium (feat : Features) (opts : ProxyOpts) : LogMedium :=
  if feat.daemonize ∧ ¬opts.foreground then
    if opts.logPath.isSome then .file
    else if opts.syslog then .syslog
    else .stdout
  else
    if opts.logPath.isSome then .file
    else if opts.syslog then .syslog
    else if opts.eventlog then .eventlog
    else .stdout

/-- What the loop over `argv` does after a turn that ended in `r`. -/
def argsAfter (feat : Features) (r : Except ArgsExit (ProxyOpts × Bool))
    (args : List (List UInt8)) : Except ArgsExit ProxyOpts :=
  match r with
  | .error e => .error e
  | .ok (opts, false) => parseArgsFrom feat opts args
  | .ok (opts, true) =>
    match args with
    | [] => .error (.error .logPath)
    | path :: args => parseArgsFrom feat { opts with logPath := some path } args

theorem parseArgsFrom_cons (feat : Features) (opts : ProxyOpts) (arg : List UInt8)
    (args : List (List UInt8)) :
    parseArgsFrom feat opts (arg :: args) = argsAfter feat (argStep feat opts arg) args := by
  rw [parseArgsFrom]
  rfl

/-! ### What `parse_args` writes

Each assignment `opts->... = ...` of `parse_args`, under the test the code makes before it:
a second configuration file is refused, and a logging mechanism is taken only when neither
other one is set and the build has it.  A successful run of `parse_args` is a run of these
writes (`parseArgsFrom_reachable`), so what every write keeps, `parse_args` keeps.
-/

/-- The assignments of `parse_args`. -/
inductive OptsWrite
  | configPath (p : List UInt8)
  | logPath (p : List UInt8)
  | debug
  | eventlog
  | foreground
  | syslog
  | quiet
  deriving DecidableEq, Repr

/-- An assignment, `none` where the code exits instead. -/
def optsWrite (feat : Features) (opts : ProxyOpts) : OptsWrite → Option ProxyOpts
  | .configPath p => if opts.configPath = none then some { opts with configPath := some p } else none
  | .logPath p =>
    if opts.eventlog = false ∧ opts.syslog = false then some { opts with logPath := some p } else none
  | .debug => some { opts with debug := true }
  | .eventlog =>
    if feat.eventlog ∧ opts.logPath = none ∧ opts.syslog = false then
      some { opts with eventlog := true }
    else none
  | .foreground => some { opts with foreground := true }
  | .syslog =>
    if feat.syslog ∧ opts.eventlog = false ∧ opts.logPath = none then
      some { opts with syslog := true }
    else none
  | .quiet => some { opts with quiet := true }

/-- The options as a system whose events are the writes. -/
def optsSystem (feat : Features) : Lts ProxyOpts OptsWrite := Lts.ofFun (optsWrite feat)

section Writes

variable {feat : Features} {opts opts' : ProxyOpts}

theorem reachable_write {w : OptsWrite} {opts₁ : ProxyOpts} (hw : optsWrite feat opts w = some opts₁)
    (h : (optsSystem feat).Reachable opts₁ opts') : (optsSystem feat).Reachable opts opts' := by
  obtain ⟨ws, hr⟩ := h
  exact ⟨w :: ws, .cons hw hr⟩

theorem reachable_write_one {w : OptsWrite} (hw : optsWrite feat opts w = some opts') :
    (optsSystem feat).Reachable opts opts' :=
  reachable_write hw (.refl _)

/-- **A cluster is a run of writes**; when `-L` ends it with no path, neither other mechanism is
set, so that the next argument may be written as the path. -/
theorem shortFlags_reachable {cs : List UInt8} {r : ProxyOpts × Bool}
    (h : shortFlags feat opts cs = .ok r) :
    (optsSystem feat).Reachable opts r.1 ∧ (r.2 = true → r.1.eventlog = false ∧ r.1.syslog = false) := by
  revert h
  -- one case for each branch of the `switch`
  fun_induction shortFlags feat opts cs with
  | case1 opts =>
    rintro ⟨⟩
    exact ⟨.refl _, nofun⟩
  | case2 opts cs ih =>
    intro h
    exact ⟨reachable_write (w := .debug) rfl (ih h).1, (ih h).2⟩
  | case3 | case6 | case7 | case11 | case13 | case14 => nofun
  | case4 opts c cs _ hE hg ih =>
    intro h
    have hw : optsWrite feat opts .eventlog = some { opts with eventlog := true } := by
      simp_all [optsWrite]
    exact ⟨reachable_write hw (ih h).1, (ih h).2⟩
  | case5 opts cs _ _ ih =>
    intro h
    exact ⟨reachable_write (w := .foreground) rfl (ih h).1, (ih h).2⟩
  | case8 opts cs hg hcs =>
    rintro ⟨⟩
    have hw : optsWrite feat opts (.logPath cs) = some { opts with logPath := some cs } := by
      simp_all [optsWrite]
    exact ⟨reachable_write_one hw, nofun⟩
  | case9 opts cs hg hcs =>
    rintro ⟨⟩
    simp only [Bool.or_eq_true, not_or, Bool.not_eq_true] at hg
    exact ⟨.refl _, fun _ => hg⟩
  | case10 opts cs _ _ _ _ _ ih =>
    intro h
    exact ⟨reachable_write (w := .quiet) rfl (ih h).1, (ih h).2⟩
  | case12 opts c cs _ _ _ _ _ _ hS hg ih =>
    intro h
    have hw : optsWrite feat opts .syslog = some { opts with syslog := true } := by
      simp_all [optsWrite]
    exact ⟨reachable_write hw (ih h).1, (ih h).2⟩

theorem longOption_reachable {arg : List UInt8} {r : ProxyOpts × Bool}
    (h : longOption opts arg = .ok r) :
    (optsSystem feat).Reachable opts r.1 ∧ r.2 = false := by
  revert h
  fun_cases longOption opts arg with
  | case1 => rintro ⟨⟩; exact ⟨reachable_write_one (w := .debug) rfl, rfl⟩
  | case3 => rintro ⟨⟩; exact ⟨reachable_write_one (w := .quiet) rfl, rfl⟩
  | case2 | case4 | case5 => nofun

/-- **A turn of the loop over `argv` is a run of writes**, up to the path of a `-L` that ends
its argument. -/
theorem argStep_reachable {arg : List UInt8} {r : ProxyOpts × Bool}
    (h : argStep feat opts arg = .ok r) :
    (optsSystem feat).Reachable opts r.1 ∧ (r.2 = true → r.1.eventlog = false ∧ r.1.syslog = false) := by
  revert h
  fun_cases argStep feat opts arg with
  | case1 =>
    intro h
    obtain ⟨hr, hb⟩ := longOption_reachable h
    exact ⟨hr, fun h => nomatch hb ▸ h⟩
  | case2 => exact shortFlags_reachable
  | case3 _ _ hc =>
    rintro ⟨⟩
    have hw : optsWrite feat opts (.configPath arg) = some { opts with configPath := some arg } := by
      simp [optsWrite, hc]
    exact ⟨reachable_write_one hw, nofun⟩
  | case4 | case5 => nofun

/-- **A run of `parse_args` that returns is a run of writes.** -/
theorem parseArgsFrom_reachable {args : List (List UInt8)} (h : parseArgsFrom feat opts args = .ok opts') :
    (optsSystem feat).Reachable opts opts' := by
  revert h
  -- on the turns of the loop, the path after `-L` being one more write
  fun_induction parseArgsFrom feat opts args with
  | case1 => rintro ⟨⟩; exact .refl _
  | case2 | case4 => nofun
  | case3 opts arg args opts₁ hs ih => exact fun h => (argStep_reachable hs).1.trans (ih h)
  | case5 opts arg opts₁ hs path args ih =>
    intro h
    obtain ⟨hr, hp⟩ := argStep_reachable hs
    obtain ⟨he, hsys⟩ : opts₁.eventlog = false ∧ opts₁.syslog = false := hp rfl
    have hw : optsWrite feat opts₁ (.logPath path) = some { opts₁ with logPath := some path } := by
      simp [optsWrite, he, hsys]
    exact hr.trans (reachable_write hw (ih h))

end Writes

/-! ### One logging mechanism -/

/-- At most one logging mechanism, and only those of the build. -/
structure ProxyOpts.Logging (feat : Features) (opts : ProxyOpts) : Prop where
  atMostOne : [opts.logPath.isSome, opts.syslog, opts.eventlog].count true ≤ 1
  eventlog : opts.eventlog = true → feat.eventlog = true
  syslog : opts.syslog = true → feat.syslog = true

section Logging

variable {feat : Features} {opts opts' : ProxyOpts}

/-- Nothing is set when `main` calls `parse_args`. -/
theorem logging_zero (feat : Features) : ({} : ProxyOpts).Logging feat :=
  ⟨by decide, nofun, nofun⟩

/-- **Every write keeps one logging mechanism**: a mechanism is only written when neither
other one is set. -/
theorem optsWrite_logging {w : OptsWrite} (hw : optsWrite feat opts w = some opts')
    (h : opts.Logging feat) : opts'.Logging feat := by
  cases w with
  | configPath p =>
    simp only [optsWrite, Option.ite_none_right_eq_some, Option.some.injEq] at hw
    obtain ⟨-, rfl⟩ := hw
    exact ⟨h.atMostOne, h.eventlog, h.syslog⟩
  | logPath p =>
    simp only [optsWrite, Option.ite_none_right_eq_some, Option.some.injEq] at hw
    obtain ⟨⟨he, hs⟩, rfl⟩ := hw
    refine ⟨?_, fun h' => absurd h' (by simp [he]), fun h' => absurd h' (by simp [hs])⟩
    simp [he, hs]
  | debug => cases hw; exact ⟨h.atMostOne, h.eventlog, h.syslog⟩
  | eventlog =>
    simp only [optsWrite, Option.ite_none_right_eq_some, Option.some.injEq] at hw
    obtain ⟨⟨hf, hl, hs⟩, rfl⟩ := hw
    refine ⟨?_, fun _ => hf, fun h' => absurd h' (by simp [hs])⟩
    simp [hl, hs]
  | foreground => cases hw; exact ⟨h.atMostOne, h.eventlog, h.syslog⟩
  | syslog =>
    simp only [optsWrite, Option.ite_none_right_eq_some, Option.some.injEq] at hw
    obtain ⟨⟨hf, he, hl⟩, rfl⟩ := hw
    refine ⟨?_, fun h' => absurd h' (by simp [he]), fun _ => hf⟩
    simp [he, hl]
  | quiet => cases hw; exact ⟨h.atMostOne, h.eventlog, h.syslog⟩

/-- **Every run of `parse_args` that returns keeps one logging mechanism.** -/
theorem parseArgsFrom_logging {args : List (List UInt8)}
    (h : parseArgsFrom feat opts args = .ok opts') (hl : opts.Logging feat) : opts'.Logging feat :=
  (parseArgsFrom_reachable h).invariant (I := fun o => o.Logging feat)
    (fun _ _ _ hs hw => optsWrite_logging hw hs) hl

/-- **`parse_args` names at most one logging mechanism, and only one the build has**, for every
command line it accepts. -/
theorem parseArgs_logging {args : List (List UInt8)} (h : parseArgs feat args = .ok opts) :
    opts.Logging feat :=
  parseArgsFrom_logging h (logging_zero feat)

theorem parseArgs_logging_syslog :
    parseArgs ⟨false, true, true⟩ [[45, 83, 100]] = .ok { syslog := true, debug := true } ∧
      ProxyOpts.Logging ⟨false, true, true⟩ { syslog := true, debug := true } :=
  by
    have h : parseArgs ⟨false, true, true⟩ [[45, 83, 100]] = .ok { syslog := true, debug := true } := by
      decide +kernel
    exact ⟨h, parseArgs_logging h⟩

end Logging

/-! ### The log medium of `main` -/

/-- The four cases `Logging` leaves: the log file, syslog, the event log, or none. -/
theorem ProxyOpts.Logging.cases {feat : Features} {opts : ProxyOpts} (h : opts.Logging feat) :
    (opts.logPath ≠ none ∧ opts.syslog = false ∧ opts.eventlog = false) ∨
    (opts.logPath = none ∧ opts.syslog = true ∧ opts.eventlog = false) ∨
    (opts.logPath = none ∧ opts.syslog = false ∧ opts.eventlog = true) ∨
    (opts.logPath = none ∧ opts.syslog = false ∧ opts.eventlog = false) := by
  have hc := h.atMostOne
  obtain ⟨_, _ | p, _, _ | _, _, _ | _, _⟩ := opts <;> simp at hc ⊢

/-- **The log goes to the mechanism the command line asks for**: the order of the `else if`s of
`main` never matters, since `parse_args` lets through at most one, and only a child that
daemonizes does not switch to the event log. -/
theorem parseArgs_medium {feat : Features} {args : List (List UInt8)} {opts : ProxyOpts}
    (h : parseArgs feat args = .ok opts) :
    (proxydMedium feat opts = .file ↔ opts.logPath ≠ none) ∧
    (proxydMedium feat opts = .syslog ↔ opts.syslog = true) ∧
    (proxydMedium feat opts = .eventlog ↔
      opts.eventlog = true ∧ ¬(feat.daemonize = true ∧ opts.foreground = false)) := by
  rcases (parseArgsFrom_logging h (logging_zero feat)).cases with ⟨hl, hs, he⟩ | ⟨hl, hs, he⟩ | ⟨hl, hs, he⟩ | ⟨hl, hs, he⟩
  all_goals
    by_cases hd : feat.daemonize = true ∧ opts.foreground = false
    all_goals simp [proxydMedium, hl, hs, he, hd, Option.isSome_iff_ne_none]

theorem parseArgs_medium_syslog :
    parseArgs ⟨false, true, true⟩ [[45, 83]] = .ok { syslog := true } ∧
      (proxydMedium ⟨false, true, true⟩ { syslog := true } = .file ↔
        ({ syslog := true } : ProxyOpts).logPath ≠ none) ∧
      (proxydMedium ⟨false, true, true⟩ { syslog := true } = .syslog ↔
        ({ syslog := true } : ProxyOpts).syslog = true) ∧
      (proxydMedium ⟨false, true, true⟩ { syslog := true } = .eventlog ↔
        ({ syslog := true } : ProxyOpts).eventlog = true ∧
          ¬((⟨false, true, true⟩ : Features).daemonize = true ∧
            ({ syslog := true } : ProxyOpts).foreground = false)) :=
  by
    have h : parseArgs ⟨false, true, true⟩ [[45, 83]] = .ok { syslog := true } := by
      decide +kernel
    exact ⟨h, parseArgs_medium h⟩

/-! ### Clusters -/

section Clusters

variable {feat : Features} {opts : ProxyOpts}

/-- A letter other than `L` does its part and leaves the rest of the cluster to the loop. -/
theorem shortFlags_cons {c : UInt8} (hc : c ≠ 'L'.toUInt8) (cs : List UInt8) :
    shortFlags feat opts (c :: cs) =
      (shortFlags feat opts [c]).bind fun r => shortFlags feat r.1 cs := by
  simp only [shortFlags]
  split_ifs <;> rfl

/-- A letter other than `L` never leaves the next argument to the loop. -/
theorem shortFlags_single {c : UInt8} (hc : c ≠ 'L'.toUInt8) {r : ProxyOpts × Bool}
    (h : shortFlags feat opts [c] = .ok r) : r.2 = false := by
  simp only [shortFlags] at h
  split_ifs at h <;> (try cases h) <;> rfl

/-- `-L` with no rest and neither other mechanism leaves its path to the next argument. -/
theorem shortFlags_L (cs : List UInt8) :
    shortFlags feat opts ('L'.toUInt8 :: cs) =
      if opts.eventlog || opts.syslog then .error (.error .oneLogging)
      else if cs ≠ [] then .ok ({ opts with logPath := some cs }, false)
      else .ok (opts, true) := by
  rw [shortFlags, if_neg (by decide), if_neg (fun h => absurd h.2 (by decide)), if_neg (by decide),
    if_neg (by decide), if_pos rfl]

/-- An argument `-c...` with `c` no `-` is a cluster. -/
theorem argStep_cluster {c : UInt8} (hc : c ≠ '-'.toUInt8) (cs : List UInt8) :
    argStep feat opts ('-'.toUInt8 :: c :: cs) = shortFlags feat opts (c :: cs) := by
  simp [argStep, hc]

/-- After the one-letter argument `-c`, the arguments that follow are read as from its
options. -/
theorem parseArgsFrom_flag_congr {c : UInt8} (hc : c ≠ '-'.toUInt8 ∧ c ≠ 'L'.toUInt8)
    {X Y : List (List UInt8)} (hXY : ∀ o, parseArgsFrom feat o X = parseArgsFrom feat o Y) :
    parseArgsFrom feat opts (['-'.toUInt8, c] :: X) = parseArgsFrom feat opts (['-'.toUInt8, c] :: Y) := by
  rw [parseArgsFrom_cons, parseArgsFrom_cons, argStep_cluster hc.1]
  cases hr : shortFlags feat opts [c] with
  | error e => rfl
  | ok r =>
    obtain ⟨o, b⟩ := r
    obtain rfl : b = false := shortFlags_single hc.2 hr
    exact hXY o

theorem parseArgsFrom_flags_congr (letters : List UInt8)
    (hl : ∀ c ∈ letters, c ≠ '-'.toUInt8 ∧ c ≠ 'L'.toUInt8) {X Y : List (List UInt8)}
    (hXY : ∀ o, parseArgsFrom feat o X = parseArgsFrom feat o Y) (opts : ProxyOpts) :
    parseArgsFrom feat opts ((letters.map fun c => ['-'.toUInt8, c]) ++ X) =
      parseArgsFrom feat opts ((letters.map fun c => ['-'.toUInt8, c]) ++ Y) := by
  induction letters generalizing opts with
  | nil => exact hXY opts
  | cons c letters ih =>
    exact parseArgsFrom_flag_congr (hl c List.mem_cons_self)
      fun o => ih (fun c' hc' => hl c' (List.mem_cons_of_mem c hc')) o

/-- **One letter off the front of a cluster**: `-cdxy` is `-c -dxy`, for a letter `c` other than
`L` and a rest that is no long option. -/
theorem parseArgsFrom_split {c d : UInt8} (hc : c ≠ '-'.toUInt8 ∧ c ≠ 'L'.toUInt8)
    (hd : d ≠ '-'.toUInt8) (cs : List UInt8) (args : List (List UInt8)) :
    parseArgsFrom feat opts (('-'.toUInt8 :: c :: d :: cs) :: args) =
      parseArgsFrom feat opts (['-'.toUInt8, c] :: ('-'.toUInt8 :: d :: cs) :: args) := by
  rw [parseArgsFrom_cons, parseArgsFrom_cons, argStep_cluster hc.1, argStep_cluster hc.1,
    shortFlags_cons hc.2]
  cases hr : shortFlags feat opts [c] with
  | error e => rfl
  | ok r =>
    obtain ⟨o, b⟩ := r
    obtain rfl : b = false := shortFlags_single hc.2 hr
    rw [Except.bind, argsAfter, parseArgsFrom_cons, argStep_cluster hd]

/-- The letters of a cluster one by one, up to a rest that is no long option. -/
theorem parseArgsFrom_letters (letters : List UInt8)
    (hl : ∀ c ∈ letters, c ≠ '-'.toUInt8 ∧ c ≠ 'L'.toUInt8) {d : UInt8} (hd : d ≠ '-'.toUInt8)
    (cs : List UInt8) (args : List (List UInt8)) (opts : ProxyOpts) :
    parseArgsFrom feat opts (('-'.toUInt8 :: (letters ++ d :: cs)) :: args) =
      parseArgsFrom feat opts ((letters.map fun c => ['-'.toUInt8, c]) ++
        ('-'.toUInt8 :: d :: cs) :: args) := by
  induction letters generalizing opts with
  | nil => rfl
  | cons c letters ih =>
    have hc := hl c List.mem_cons_self
    have hl' : ∀ c' ∈ letters, c' ≠ '-'.toUInt8 ∧ c' ≠ 'L'.toUInt8 :=
      fun c' hc' => hl c' (List.mem_cons_of_mem c hc')
    -- the rest after `c` starts with a letter of the cluster, or with `d`
    obtain ⟨d', cs', hrest, hd'⟩ : ∃ d' cs', letters ++ d :: cs = d' :: cs' ∧ d' ≠ '-'.toUInt8 := by
      cases letters with
      | nil => exact ⟨d, cs, rfl, hd⟩
      | cons e letters => exact ⟨e, letters ++ d :: cs, rfl, (hl' e List.mem_cons_self).1⟩
    rw [List.cons_append, hrest, parseArgsFrom_split hc hd', List.map_cons, List.cons_append]
    refine parseArgsFrom_flag_congr hc fun o => ?_
    rw [← hrest]
    exact ih hl' o

/-- `-Lpath` is `-L path`. -/
theorem parseArgsFrom_logPath {path : List UInt8} (hp : path ≠ []) (args : List (List UInt8))
    (opts : ProxyOpts) :
    parseArgsFrom feat opts (('-'.toUInt8 :: 'L'.toUInt8 :: path) :: args) =
      parseArgsFrom feat opts (['-'.toUInt8, 'L'.toUInt8] :: path :: args) := by
  rw [parseArgsFrom_cons, parseArgsFrom_cons, argStep_cluster (by decide),
    argStep_cluster (by decide), shortFlags_L, shortFlags_L]
  by_cases hg : (opts.eventlog || opts.syslog) = true
  · rw [if_pos hg, if_pos hg]
    rfl
  · rw [if_neg hg, if_neg hg, if_pos hp, if_neg (by simp)]
    rfl

/-- **A cluster of flags means its flags one by one**: `-xyz` is `-x -y -z`, and `-xyLpath`
is `-x -y -L path`, for letters other than `-` and `L` before the last. -/
theorem parseArgsFrom_cluster (letters : List UInt8)
    (hl : ∀ c ∈ letters, c ≠ '-'.toUInt8 ∧ c ≠ 'L'.toUInt8) (args : List (List UInt8)) :
    (∀ c, c ≠ '-'.toUInt8 → parseArgsFrom feat opts (('-'.toUInt8 :: (letters ++ [c])) :: args) =
      parseArgsFrom feat opts (((letters ++ [c]).map fun c => ['-'.toUInt8, c]) ++ args)) ∧
    (∀ path, path ≠ [] →
      parseArgsFrom feat opts (('-'.toUInt8 :: (letters ++ 'L'.toUInt8 :: path)) :: args) =
        parseArgsFrom feat opts ((letters.map fun c => ['-'.toUInt8, c]) ++
          ['-'.toUInt8, 'L'.toUInt8] :: path :: args)) := by
  refine ⟨fun c hc => ?_, fun path hp => ?_⟩
  · rw [parseArgsFrom_letters letters hl hc [] args opts, List.map_append, List.map_singleton,
      List.append_assoc, List.singleton_append]
  · rw [parseArgsFrom_letters letters hl (by decide) path args opts]
    exact parseArgsFrom_flags_congr letters hl (parseArgsFrom_logPath hp args) opts

theorem parseArgsFrom_cluster_dqF :
    (∀ c ∈ ([100, 113] : List UInt8), c ≠ '-'.toUInt8 ∧ c ≠ 'L'.toUInt8) ∧
      parseArgsFrom ⟨false, true, true⟩ {} [[45, 100, 113, 70]] =
        parseArgsFrom ⟨false, true, true⟩ {} [[45, 100], [45, 113], [45, 70]] :=
  ⟨by decide +kernel, (parseArgsFrom_cluster [100, 113] (by decide +kernel) []).1 70 (by decide +kernel)⟩

end Clusters

example : parseArgs ⟨false, true, true⟩ [[45, 100, 70], [45, 76], [47, 116]] =
    .ok { debug := true, foreground := true, logPath := some [47, 116] } := by
  decide +kernel

end OpenElp
