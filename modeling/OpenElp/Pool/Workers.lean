import Mathlib.Algebra.BigOperators.Group.Finset.Piecewise
import Mathlib.Data.Fintype.Fin
import OpenElp.Data.Chain
import OpenElp.Worker

/-!
# The worker pool (`proxy.c`)

`proxy_open` gives every client worker (`struct proxy_worker`) a `worker_handle` whose function
is `proxy_worker_func` and pushes it onto the idle list `idle_workers_head`, linked through
`pw->next`; `proxy_start` starts the workers and sets `usable_clients`.  Each call of
`proxy_process` accepts a connection, pops a worker under `idle_workers_mutex` (none while
`usable_clients` is 0, and then the connection is closed) and hands it the connection in
`proxy_worker_accept`, which stores it in `pw->conn_client` and wakes the worker.  The worker's
`proxy_worker_func` checks `conn_client`, authorizes and serves the client, frees the
connection, clears `conn_client` and pushes the worker back, all while its thread is still in
`func_ptr` in `WORKER_BUSY`.  `proxy_shutdown` sets `usable_clients` to 0.

The state is the pool of `n` workers with each worker's `worker_handle` as in `Worker`, the
phase of each `proxy_worker_func`, the phase of the thread that calls `proxy_process`, and
ghost fields: the connections accepted so far (numbered from 0), the list of `conn_free` calls
on them, and for each worker the connection `proxy_process` popped it for, until it is pushed
back.  Each region under a mutex is one event.  `proxy_update_registration` changes nothing:
`proxyUpdateRegistration` computes what it reports from a state.

* `workerPoolStep` : the events of `proxy_process`, `proxy_shutdown`, and every worker's
  thread and `proxy_worker_func`;
* `WorkerPool.init_chain` : `proxy_open` links every worker on the idle list.
-/

namespace OpenElp

/-- Where a worker's `proxy_worker_func` is, while its thread runs it. -/
inductive FuncPhase
  /-- At the locked test of `pw->conn_client`. -/
  | check
  /-- Authorizing the client and, if that succeeds, serving it on a slot: nothing of the
  worker pool changes until it leaves. -/
  | serve
  /-- At the locked `conn_free(pw->conn_client)` and `pw->conn_client = NULL`, on every path
  out of the authorization or the session. -/
  | release
  /-- At the locked push onto `idle_workers_head`. -/
  | push
  /-- About to return. -/
  | done
  deriving DecidableEq, Repr

/-- Where the thread that calls `proxy_process` is. -/
inductive MainPhase (n : ℕ)
  /-- In `conn_accept`, or between two calls. -/
  | waiting
  /-- `conn_accept` has returned connection `c`. -/
  | accepted (c : ℕ)
  /-- The locked pop has taken worker `w` for connection `c`; `proxy_worker_accept` is
  next. -/
  | popped (c : ℕ) (w : Fin n)
  deriving DecidableEq, Repr

/-- The connection the `proxy_process` thread holds. -/
def MainPhase.conn {n : ℕ} : MainPhase n → Option ℕ
  | waiting => none
  | accepted c => some c
  | popped c _ => some c

/-- The client workers of `struct proxy_priv`, and the thread that calls `proxy_process`. -/
structure WorkerPool (n : ℕ) where
  /-- `idle_workers_head`. -/
  head : Option (Fin n)
  /-- Each worker's `next`. -/
  next : Fin n → Option (Fin n)
  /-- `usable_clients`. -/
  usable : ℕ
  /-- Each worker's `worker_handle`. -/
  worker : Fin n → Worker
  /-- Each worker's `conn_client`, by the number of the connection. -/
  connClient : Fin n → Option ℕ
  /-- Where each worker's `proxy_worker_func` is, while its thread runs it. -/
  func : Fin n → FuncPhase
  /-- Where the `proxy_process` thread is. -/
  main : MainPhase n
  /-- Ghost: how many connections `conn_accept` has returned; they are numbered from 0. -/
  accepted : ℕ
  /-- Ghost: the connection of every `conn_free` of an accepted connection, in order. -/
  freed : List ℕ
  /-- Ghost: the connection each worker was popped for, until it pushes itself back. -/
  owner : Fin n → Option ℕ

namespace WorkerPool

variable {n : ℕ}

/-- The pool after `proxy_open` and `proxy_start`: `proxy_open` pushed workers `0, …, n - 1`
in turn, so the list runs from `n - 1` down to `0`; every worker's thread has just been
started, no connection has been accepted, and `usable_clients` is `num_clients`. -/
def init (n : ℕ) : WorkerPool n where
  head := if h : 0 < n then some ⟨n - 1, by omega⟩ else none
  next i := if h : i.val = 0 then none else some ⟨i.val - 1, by omega⟩
  usable := n
  worker _ := ⟨.starting, .entry⟩
  connClient _ := none
  func _ := .done
  main := .waiting
  accepted := 0
  freed := []
  owner _ := none

/-- What `proxy_update_registration` reports, `(slots_used, slots_total)`: `num_clients` less
the length of the idle list, and `usable_clients`.  Its walk of the list never ends on a loop;
a walk longer than `n + 1` has none. -/
def proxyUpdateRegistration (s : WorkerPool n) : Option (ℤ × ℤ) :=
  (walkLength s.next (n + 1) s.head).map fun idle => ((n : ℤ) - idle, (s.usable : ℤ))

/-- How many holders connection `c` has: the `proxy_process` thread, and the workers whose
`conn_client` it is. -/
def holders (s : WorkerPool n) (c : ℕ) : ℕ :=
  (if s.main.conn = some c then 1 else 0) + ∑ w, if s.connClient w = some c then 1 else 0

end WorkerPool

/-- The events of the worker pool. -/
inductive WorkerPoolEvent (n : ℕ)
  /-- `conn_accept` in `proxy_process` returns a connection. -/
  | accept
  /-- The locked pop of `proxy_process`, or, without a worker, the connection closed. -/
  | pop
  /-- `proxy_worker_accept`, under the worker's mutex. -/
  | workerAccept
  /-- The locked `usable_clients = 0` of `proxy_shutdown`. -/
  | shutdown
  /-- A region of worker `w`'s own loop (`worker_func`); `.thread w .running` begins a call of
  `proxy_worker_func`. -/
  | thread (w : Fin n) (next : ThreadPhase)
  /-- The locked test of `pw->conn_client` in worker `w`'s `proxy_worker_func`. -/
  | check (w : Fin n)
  /-- Worker `w` leaves the authorization, or the session after it. -/
  | serve (w : Fin n)
  /-- Worker `w` frees its connection and clears `conn_client`. -/
  | release (w : Fin n)
  /-- Worker `w` pushes itself onto the idle list. -/
  | push (w : Fin n)
  deriving DecidableEq, Repr

namespace WorkerPool

variable {n : ℕ}

/-- `proxy_worker_accept(w, c)` for the `proxy_process` thread: `-EBUSY` while `conn_client`
is set, and otherwise `conn_client = c` and `worker_wake`, undone if the wake fails.  On a
failure `proxy_process` frees the connection, and the worker stays off the idle list. -/
def workerAcceptStep (s : WorkerPool n) (c : ℕ) (w : Fin n) : WorkerPool n :=
  if s.connClient w ≠ none then { s with freed := s.freed ++ [c], main := .waiting }
  else
    match workerWake (s.worker w) with
    | (ret, wk) =>
      if ret < 0 then
        { s with
          worker := Function.update s.worker w wk, freed := s.freed ++ [c], main := .waiting }
      else
        { s with
          worker := Function.update s.worker w wk,
          connClient := Function.update s.connClient w (some c), main := .waiting }

/-- A step of the worker pool. -/
def workerPoolStep (s : WorkerPool n) : WorkerPoolEvent n → Option (WorkerPool n)
  | .accept =>
    if s.main = .waiting then
      some { s with main := .accepted s.accepted, accepted := s.accepted + 1 }
    else none
  | .pop =>
    match s.main with
    | .accepted c =>
      match if s.usable > 0 then s.head else none with
      | some w =>
        some { s with
          head := s.next w, owner := Function.update s.owner w (some c), main := .popped c w }
      | none =>
        -- "Dropping client because there are no available slots."
        some { s with freed := s.freed ++ [c], main := .waiting }
    | _ => none
  | .workerAccept =>
    match s.main with
    | .popped c w => some (s.workerAcceptStep c w)
    | _ => none
  | .shutdown => some { s with usable := 0 }
  | .thread w next =>
    -- a call of `proxy_worker_func` returns only from its end
    if (s.worker w).thread = .running ∧ s.func w ≠ .done then none
    else
      match workerStep 0 (s.worker w) (.thread next) with
      | some wk =>
        some { s with
          worker := Function.update s.worker w wk,
          func := Function.update s.func w (if next = .running then .check else s.func w) }
      | none => none
  | .check w =>
    if s.func w = .check then
      -- "New connection was signaled, but no connection was given": return at once
      some { s with
        func := Function.update s.func w (if s.connClient w = none then .done else .serve) }
    else none
  | .serve w =>
    if s.func w = .serve then some { s with func := Function.update s.func w .release }
    else none
  | .release w =>
    if s.func w = .release then
      some { s with
        freed := s.freed ++ (s.connClient w).toList,
        connClient := Function.update s.connClient w none,
        func := Function.update s.func w .push }
    else none
  | .push w =>
    if s.func w = .push then
      some { s with
        next := Function.update s.next w s.head, head := some w,
        owner := Function.update s.owner w none, func := Function.update s.func w .done }
    else none

end WorkerPool

/-- The worker pool as a transition system. -/
def workerPoolLts (n : ℕ) : Lts (WorkerPool n) (WorkerPoolEvent n) :=
  Lts.ofFun WorkerPool.workerPoolStep

namespace WorkerPool

variable {n : ℕ}

/-- From worker `i` down, the idle list of `proxy_open` visits `i, …, 0`. -/
theorem init_chain_from (i : ℕ) (hi : i < n) :
    Chain (init n).next (some ⟨i, hi⟩) ((List.finRange n).take (i + 1)).reverse := by
  induction i with
  | zero =>
    have hnext : (init n).next ⟨0, hi⟩ = none := by simp [init]
    rw [List.take_one, List.head?_eq_getElem?, List.getElem?_eq_getElem (by simpa using hi),
      List.getElem_finRange]
    exact .cons (hnext ▸ .nil)
  | succ i ih =>
    have hnext : (init n).next ⟨i + 1, hi⟩ = some ⟨i, by omega⟩ := by simp [init]
    rw [List.take_add_one, List.getElem?_eq_getElem (by simpa using hi), List.getElem_finRange,
      Option.toList_some, List.reverse_append]
    exact .cons (hnext ▸ ih (by omega))

/-- `proxy_open` links every worker on the idle list. -/
theorem init_chain : Chain (init n).next (init n).head ((List.finRange n).reverse) := by
  cases n with
  | zero => exact .nil
  | succ n =>
    have h := init_chain_from (n := n + 1) n (by omega)
    rwa [List.take_of_length_le (by simp)] at h

end WorkerPool

end OpenElp
