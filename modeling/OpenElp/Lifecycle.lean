import OpenElp.Worker

/-!
# Starting the proxy, and what a failure leaves (`worker_start`, `proxy_start`)

`proxy_start` starts each slot's `proxy_conn` (`proxy_conn_start`: the workers `worker_control`,
`worker_data` and `worker_tcp`, in turn), then each slot's client worker, sets
`usable_clients` to the number of slots, and starts the registration service.  On a failure it
joins the client workers it started and stops the `proxy_conn`s it started, and returns the
error.  Every worker is started by `worker_start`, which sets `WORKER_STARTING` and then calls
`thread_start`.

The model extends the worker state machine of `Worker` with what `thread_start` returns, and
keeps of the proxy the workers and `usable_clients`; `proxy_update_registration`, which
`proxy_start` calls before the registration service, only reports the counts.

* `workerStartWith_zero` : with `thread_start` succeeding, `worker_start` is `workerStart`;
* `workerStartWith_fails` : **a failed `thread_start` leaves the worker `STARTING` with no
  thread**, outside `Worker.Consistent`; every later `worker_start` returns `0` and starts
  nothing, and `worker_wake` accepts work for it;
* `proxyStart_conn_fails` : **`proxy_start` does not undo the slot that failed**: when a slot's
  `worker_data` fails to start, the slots before it are stopped, but its own `worker_control` is
  left started, with its thread.
-/

namespace OpenElp

open WorkerState

/-! ### `worker_start` -/

/-- `worker_start`, `thread_start` failing with `err` (`0`: it creates the thread).  The state is
`WORKER_STARTING` before `thread_start` is called, and stays so when it fails. -/
def workerStartWith (err : ℕ) (w : Worker) : ℤ × Worker :=
  if w.state ≤ stopped then (-err, ⟨starting, if err = 0 then .entry else w.thread⟩)
  else (0, w)

/-- With `thread_start` succeeding, `worker_start` is the event `workerStart` of the worker state
machine. -/
theorem workerStartWith_zero (w : Worker) :
    workerStartWith 0 w = (0, workerStart w) := by
  unfold workerStartWith workerStart
  split
  · rfl
  · rfl

/-- **A failed `thread_start` leaves the worker `STARTING` with no thread.**  From a stopped worker
(as `worker_init` leaves it, or joined after its thread returned) with `thread_start` failing:
`worker_start` fails, and the worker is `STARTING` with no thread, which no state of the state
machine allows; every later `worker_start` returns `0` and starts nothing, and `worker_wake`
returns `0` for work that no thread will do. -/
theorem workerStartWith_fails {w : Worker} (hw : w.state = stopped) (hc : w.Consistent)
    {err : ℕ} (herr : err ≠ 0) :
    let w' := (workerStartWith err w).2
    (workerStartWith err w).1 < 0 ∧ w' = ⟨starting, .none⟩ ∧ ¬w'.Consistent ∧
      (∀ err', workerStartWith err' w' = (0, w')) ∧ workerWake w' = (0, ⟨signaled, .none⟩) := by
  intro w'
  -- a consistent stopped worker has no thread
  have hthread : w.thread = .none := by
    obtain ⟨s, t⟩ := w
    cases t <;> simp_all [Worker.Consistent]
  have hle : w.state ≤ stopped := by
    rw [hw]
    decide
  have hw' : w' = ⟨starting, .none⟩ := by
    simp only [w', workerStartWith, if_pos hle, if_neg herr, hthread]
  refine ⟨?_, hw', ?_, fun err' => ?_, ?_⟩
  · simp only [workerStartWith, if_pos hle]
    omega
  · rw [hw']
    decide
  · rw [hw']
    rfl
  · rw [hw']
    rfl

/-- `pthread_create` failing with `EAGAIN` on a fresh worker: the retry returns `0` and starts
no thread. -/
theorem workerStart_eagain_then_retry :
    workerStartWith 11 Worker.init = (-11, ⟨starting, .none⟩) ∧
      workerStartWith 0 ⟨starting, .none⟩ = (0, ⟨starting, .none⟩) := by
  decide

/-- A fresh worker whose `thread_start` fails with `ENOMEM`. -/
theorem workerStartWith_fails_enomem :
    Worker.init.state = stopped ∧ Worker.init.Consistent ∧ (12 : ℕ) ≠ 0 ∧
      ((workerStartWith 12 Worker.init).1 < 0 ∧
        (workerStartWith 12 Worker.init).2 = ⟨starting, .none⟩ ∧
        ¬(workerStartWith 12 Worker.init).2.Consistent ∧
        (∀ err', workerStartWith err' (workerStartWith 12 Worker.init).2 =
          (0, (workerStartWith 12 Worker.init).2)) ∧
        workerWake (workerStartWith 12 Worker.init).2 = (0, ⟨signaled, .none⟩)) :=
  ⟨rfl, by decide, by decide, workerStartWith_fails rfl (by decide) (by decide)⟩

/-! ### `proxy_conn_start` and `proxy_conn_stop` -/

/-- The workers of a `proxy_conn`. -/
structure ConnWorkers where
  control : Worker
  data : Worker
  tcp : Worker
  deriving DecidableEq, Repr

/-- `proxy_conn_start`: `worker_start` of `worker_control`, `worker_data` and `worker_tcp`, the
first failure returned at once; `errs` are what their `thread_start` calls return. -/
def proxyConnStart (errs : ℕ × ℕ × ℕ) (c : ConnWorkers) : ℤ × ConnWorkers :=
  match workerStartWith errs.1 c.control with
  | (r, control) =>
    if r < 0 then (r, { c with control }) else
    match workerStartWith errs.2.1 c.data with
    | (r, data) =>
      if r < 0 then (r, { c with control, data }) else
      match workerStartWith errs.2.2 c.tcp with
      | (r, tcp) => (r, ⟨control, data, tcp⟩)

/-- `proxy_conn_stop`, as far as the workers go: `worker_join` of the three. -/
def proxyConnStop (c : ConnWorkers) : ConnWorkers :=
  ⟨workerJoin c.control, workerJoin c.data, workerJoin c.tcp⟩

/-! ### `proxy_start` -/

/-- What `proxy_start` works on: each slot's `proxy_conn` workers and client worker, and
`usable_clients`. -/
structure ProxyStart where
  conns : List ConnWorkers
  clients : List Worker
  usableClients : ℕ
  deriving DecidableEq, Repr

/-- What the calls of `proxy_start` return: the `thread_start` results of each slot's three
workers and of each client worker, and `registration_service_start`. -/
structure ProxyStartEnv where
  connErrs : ℕ → ℕ × ℕ × ℕ
  clientErr : ℕ → ℕ
  regStart : ℤ

/-- The first loop of `proxy_start`, from slot `i` on: the slot that failed and its error, if one
did, and the slots. -/
def startConns (env : ProxyStartEnv) : ℕ → List ConnWorkers → Option (ℕ × ℤ) × List ConnWorkers
  | _, [] => (none, [])
  | i, c :: cs =>
    match proxyConnStart (env.connErrs i) c with
    | (r, c) =>
      if r < 0 then (some (i, r), c :: cs)
      else
        match startConns env (i + 1) cs with
        | (f, cs) => (f, c :: cs)

/-- The second loop of `proxy_start`, from client worker `i` on. -/
def startClients (env : ProxyStartEnv) : ℕ → List Worker → Option (ℕ × ℤ) × List Worker
  | _, [] => (none, [])
  | i, w :: ws =>
    match workerStartWith (env.clientErr i) w with
    | (r, w) =>
      if r < 0 then (some (i, r), w :: ws)
      else
        match startClients env (i + 1) ws with
        | (f, ws) => (f, w :: ws)

/-- `proxy_start`.  On a failure the loops at its end undo the slots and workers before the one
that failed (`for (i--; i >= 0; i--)`), all of them after the registration service fails. -/
def proxyStart (env : ProxyStartEnv) (p : ProxyStart) : ℤ × ProxyStart :=
  match startConns env 0 p.conns with
  | (some (i, ret), conns) =>
    (ret, { p with conns := (conns.take i).map proxyConnStop ++ conns.drop i })
  | (none, conns) =>
    match startClients env 0 p.clients with
    | (some (i, ret), clients) =>
      (ret, { p with
        conns := conns.map proxyConnStop
        clients := (clients.take i).map workerJoin ++ clients.drop i })
    | (none, clients) =>
      -- `priv->usable_clients = priv->num_clients`, then the registration service
      if env.regStart < 0 then
        (env.regStart,
          { conns := conns.map proxyConnStop
            clients := clients.map workerJoin
            usableClients := p.clients.length })
      else (0, { conns, clients, usableClients := p.clients.length })

/-! ### What a failure of `proxy_start` leaves -/

/-- With every `thread_start` succeeding, `proxy_conn_start` starts the three workers. -/
theorem proxyConnStart_zero (c : ConnWorkers) :
    proxyConnStart (0, 0, 0) c =
      (0, ⟨workerStart c.control, workerStart c.data, workerStart c.tcp⟩) := by
  simp [proxyConnStart, workerStartWith_zero]

/-- `worker_data` failing after `worker_control` started: `proxy_conn_start` returns the error
with `worker_control` started and `worker_data` `STARTING` without a thread. -/
theorem proxyConnStart_data_fails (c : ConnWorkers) (hc : c.control.state ≤ stopped)
    (hd : c.data.state ≤ stopped) {e t : ℕ} (he : e ≠ 0) :
    proxyConnStart (0, e, t) c =
      (-(e : ℤ), { c with control := ⟨starting, .entry⟩, data := ⟨starting, c.data.thread⟩ }) := by
  simp [proxyConnStart, workerStartWith, hc, hd, he]

/-- The first loop of `proxy_start` from slot `k`, when the slots from `k` on start until slot
`i`, which fails: it stops at `i`, with the slots before it started and slot `i` as
`proxy_conn_start` left it. -/
theorem startConns_fails {env : ProxyStartEnv} {i : ℕ} {c c' : ConnWorkers} {r : ℤ}
    (hf : proxyConnStart (env.connErrs i) c = (r, c')) (hr : r < 0) :
    ∀ (k : ℕ) (cs : List ConnWorkers), k ≤ i → cs[i - k]? = some c →
      (∀ j, k ≤ j → j < i → env.connErrs j = (0, 0, 0)) →
      startConns env k cs =
        (some (i, r), (cs.take (i - k)).map (fun c => (proxyConnStart (0, 0, 0) c).2) ++
          c' :: cs.drop (i - k + 1))
  | _, [], _, hget, _ => by simp at hget
  | k, d :: cs, hk, hget, hok => by
    rcases Nat.eq_or_lt_of_le hk with rfl | hlt
    · -- slot `i` itself fails
      simp only [Nat.sub_self, List.getElem?_cons_zero, Option.some.injEq] at hget
      subst hget
      simp [startConns, hf, hr]
    · -- slot `k` starts, and the loop goes on from `k + 1`
      obtain ⟨n, hn⟩ : ∃ n, i - k = n + 1 := ⟨i - (k + 1), by omega⟩
      have hn' : i - (k + 1) = n := by omega
      rw [hn, List.getElem?_cons_succ, ← hn'] at hget
      have ih := startConns_fails hf hr (k + 1) cs hlt hget fun j hj hji => hok j (by omega) hji
      rw [hn'] at ih
      simp only [startConns, hok k le_rfl hlt, proxyConnStart_zero, lt_irrefl, if_false, ih, hn,
        List.take_succ_cons, List.map_cons, List.drop_succ_cons, List.cons_append]

/-- **`proxy_start` does not undo the slot that failed.**  When the slots before `i` start and
slot `i`'s `worker_data` fails after its `worker_control` started, `proxy_start` returns the
error and stops the slots before `i` (`for (i--; i >= 0; i--)`), but not slot `i`: its
`worker_control` is left `STARTING`, with its thread. -/
theorem proxyStart_conn_fails (env : ProxyStartEnv) (p : ProxyStart) {i : ℕ} {c : ConnWorkers}
    (hget : p.conns[i]? = some c) (hok : ∀ j < i, env.connErrs j = (0, 0, 0)) {e t : ℕ}
    (herr : env.connErrs i = (0, e, t)) (he : e ≠ 0) (hc : c.control.state ≤ stopped)
    (hd : c.data.state ≤ stopped) :
    (proxyStart env p).1 = -(e : ℤ) ∧
      (proxyStart env p).2.conns.take i =
        (p.conns.take i).map (fun c => proxyConnStop (proxyConnStart (0, 0, 0) c).2) ∧
      ((proxyStart env p).2.conns[i]?).map ConnWorkers.control = some ⟨starting, .entry⟩ := by
  have hf : proxyConnStart (env.connErrs i) c =
      (-(e : ℤ), { c with control := ⟨starting, .entry⟩, data := ⟨starting, c.data.thread⟩ }) := by
    rw [herr]
    exact proxyConnStart_data_fails c hc hd he
  have hloop := startConns_fails hf (by omega) 0 p.conns (Nat.zero_le i) (by simpa using hget)
    fun j _ hj => hok j hj
  -- the slots before `i`, started, make the first `i` of the list the loop returns
  have hlen : ((p.conns.take i).map fun c => (proxyConnStart (0, 0, 0) c).2).length = i := by
    have := (List.getElem?_eq_some_iff.1 hget).1
    simp only [List.length_map, List.length_take]
    omega
  simp only [Nat.sub_zero] at hloop
  unfold proxyStart
  rw [hloop]
  dsimp only
  rw [List.take_left' hlen, List.drop_left' hlen]
  refine ⟨rfl, ?_, ?_⟩
  · -- the second loop stops exactly those `i` slots
    rw [List.take_left' (by rw [List.length_map, hlen]), List.map_map]
    rfl
  · rw [List.getElem?_append_right (by rw [List.length_map, hlen]), List.length_map, hlen,
      Nat.sub_self]
    rfl

/-- Two fresh slots. -/
def twoFreshSlots : ProxyStart :=
  ⟨List.replicate 2 ⟨Worker.init, Worker.init, Worker.init⟩, [], 0⟩

/-- What the calls of `proxy_start` return when the second slot's `worker_data` gets `ENOMEM`. -/
def dataEnomemAt1 : ProxyStartEnv :=
  ⟨fun j => if j = 1 then (0, 12, 0) else (0, 0, 0), fun _ => 0, 0⟩

/-- The second of two fresh slots failing: `proxy_start` returns `-ENOMEM`, stops the first slot
and leaves the second's `worker_control` `STARTING`. -/
theorem proxyStart_conn_fails_second :
    (∀ j < 1, dataEnomemAt1.connErrs j = (0, 0, 0)) ∧ dataEnomemAt1.connErrs 1 = (0, 12, 0) ∧
      ((proxyStart dataEnomemAt1 twoFreshSlots).1 = -12 ∧
        (proxyStart dataEnomemAt1 twoFreshSlots).2.conns.take 1 =
          (twoFreshSlots.conns.take 1).map
            (fun c => proxyConnStop (proxyConnStart (0, 0, 0) c).2) ∧
        ((proxyStart dataEnomemAt1 twoFreshSlots).2.conns[1]?).map ConnWorkers.control =
          some ⟨starting, .entry⟩) :=
  ⟨by decide, rfl,
    proxyStart_conn_fails dataEnomemAt1 twoFreshSlots rfl (by decide) rfl (by decide) (by decide)
      (by decide)⟩

end OpenElp
