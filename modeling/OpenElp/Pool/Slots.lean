import OpenElp.Data.Chain
import OpenElp.Slot.Model

/-!
# The slot pool (`proxy.c`)

`proxy_open` threads the slots on the idle list `idle_clients_head`, linked through each slot's
`next`; a slot's `prev_ptr` points at the link that points to it and `idle_clients_tail_ptr` at
the last link.  A run of `proxy_worker_func` with an authorized client takes
`idle_clients_mutex` and looks for a slot: first along the bucket `clients_by_call[hash]` of its
callsign (a second list, linked through `next_by_call` and `prev_by_call_ptr`), asking
`proxy_conn_accept` for a reconnect, then at the head of the idle list.  It unlinks the slot
from the idle list through `prev_ptr`, moves it to the front of its bucket and serves the
client.  After `proxy_conn_finish`, whose last statement clears the slot's `conn_client`, it
sets `pc->next = NULL` and appends the slot at `idle_clients_tail_ptr`, under the mutex again.

The links are memory cells: `SlotPool.link` holds `idle_clients_head` and every `next`,
`SlotPool.callLink` every entry of `clients_by_call` and every `next_by_call`, and a pointer to
a link is an `IdleLink` or a `CallLink`.  Each region under `idle_clients_mutex` is one step,
and so is each statement between two of them; what `proxy_conn_accept` returns after its
locked test is a label.  The callsign hash `pearson_get` is a parameter `hash`: all that matters
here is that equal callsigns share a bucket.

* `init_chain` : `proxy_open` threads every slot on the idle list, in order;
* `reconnect_race_corrupts_idle_list` : for every pool of at least two slots and every hash, two
  runs for one callsign, the second reconnecting between the first's `proxy_conn_finish` and
  its re-insertion, leave a slot linked in the idle list while it serves a client, and then a
  loop in the idle list.
-/

namespace OpenElp

/-- What a `prev_ptr` or `idle_clients_tail_ptr` points at: `idle_clients_head`, or a slot's
`next`. -/
inductive IdleLink (n : ℕ)
  | head
  | next (i : Fin n)
  deriving DecidableEq, Repr

/-- What a `prev_by_call_ptr` points at: an entry of `clients_by_call`, or a slot's
`next_by_call`. -/
inductive CallLink (n : ℕ)
  | bucket (h : Fin 256)
  | nextByCall (i : Fin n)
  deriving DecidableEq, Repr

/-- Where a run of `proxy_worker_func` is, from its authorized client on. -/
inductive PoolPhase (n : ℕ)
  /-- About to take `idle_clients_mutex` for a slot. -/
  | acquire
  /-- Serving its client on slot `p`. -/
  | holding (p : Fin n)
  /-- `proxy_conn_finish(pc)` has returned. -/
  | finished (p : Fin n)
  /-- `pc->next = NULL` is done. -/
  | cleared (p : Fin n)
  /-- At `proxy_worker_func_exit`, with or without a slot. -/
  | exited
  deriving DecidableEq, Repr

/-- A run of `proxy_worker_func`: the callsign of its client and where it is. -/
structure PoolRun (n : ℕ) where
  callsign : List Char
  phase : PoolPhase n
  deriving DecidableEq, Repr

/-- The slot pool of `struct proxy_priv`, with `n` slots, and `m` runs of
`proxy_worker_func`. -/
structure SlotPool (n m : ℕ) where
  /-- What each link of the idle list holds: `idle_clients_head`, and every slot's `next`. -/
  link : IdleLink n → Option (Fin n)
  /-- `idle_clients_tail_ptr`. -/
  tail : IdleLink n
  /-- Each slot's `prev_ptr`. -/
  prev : Fin n → IdleLink n
  /-- What each link of the buckets holds: `clients_by_call`, and every slot's
  `next_by_call`. -/
  callLink : CallLink n → Option (Fin n)
  /-- Each slot's `prev_by_call_ptr`. -/
  prevByCall : Fin n → Option (CallLink n)
  /-- Each slot's `conn_client`, as the run whose client it is. -/
  client : Fin n → Option (Fin m)
  /-- Each slot's `callsign`. -/
  callsign : Fin n → List Char
  /-- The runs of `proxy_worker_func`. -/
  run : Fin m → PoolRun n

namespace SlotPool

variable {n m : ℕ}

/-- `idle_clients_head`. -/
def head (s : SlotPool n m) : Option (Fin n) := s.link .head

/-- A slot's `next`. -/
def next (s : SlotPool n m) (i : Fin n) : Option (Fin n) := s.link (.next i)

/-- The pool that `proxy_open` builds from `n + 1` slots, with runs for clients of the given
callsigns, none of which has looked for a slot yet. -/
def init (n m : ℕ) (callsigns : Fin m → List Char) : SlotPool (n + 1) m where
  link
    | .head => some 0
    | .next i => if h : i.val + 1 < n + 1 then some ⟨i.val + 1, h⟩ else none
  tail := .next (Fin.last n)
  prev i := if h : i.val = 0 then .head else .next ⟨i.val - 1, by omega⟩
  callLink _ := none
  prevByCall _ := none
  client _ := none
  callsign _ := []
  run k := ⟨callsigns k, .acquire⟩

/-- Store through a pointer to a link of the idle list. -/
def writeIdle (s : SlotPool n m) (l : IdleLink n) (v : Option (Fin n)) : SlotPool n m :=
  { s with link := Function.update s.link l v }

/-- Store through a pointer to a link of a bucket. -/
def writeCall (s : SlotPool n m) (l : CallLink n) (v : Option (Fin n)) : SlotPool n m :=
  { s with callLink := Function.update s.callLink l v }

/-- Move a run on. -/
def setPhase (s : SlotPool n m) (k : Fin m) (ph : PoolPhase n) : SlotPool n m :=
  { s with run := Function.update s.run k { s.run k with phase := ph } }

/-- The locked test of `proxy_conn_accept`: `-EBUSY` while the slot has a client, or, for a
reconnect, a client of another callsign. -/
def acceptBusy (s : SlotPool n m) (p : Fin n) (callsign : List Char) (reconnectOnly : Bool) :
    Bool :=
  s.client p ≠ none || (reconnectOnly && s.callsign p != callsign)

/-- The bucket search of `proxy_worker_func` from `p` along `next_by_call`: `some (some q)` for
the first slot that `proxy_conn_accept` with `reconnect_only` does not answer with `-EBUSY`,
`some none` at the end of the bucket.  A walk that has not ended within `fuel` slots goes round
a loop while holding the mutex, and has no result. -/
def bucketSearch (s : SlotPool n m) (callsign : List Char) :
    ℕ → Option (Fin n) → Option (Option (Fin n))
  | _, none => some none
  | 0, some _ => none
  | fuel + 1, some p =>
    if s.acceptBusy p callsign true then
      s.bucketSearch callsign fuel (s.callLink (.nextByCall p))
    else some (some p)

/-- The locked part of a successful `proxy_conn_accept`: the slot takes the client and its
callsign (a `strncpy` of at most 11 characters). -/
def claim (s : SlotPool n m) (p : Fin n) (k : Fin m) : SlotPool n m :=
  { s with
    client := Function.update s.client p (some k)
    callsign := Function.update s.callsign p ((s.run k).callsign.take 11) }

/-- `proxy_conn_accept` failing after its locked part: its `proxy_conn_finish` clears
`conn_client` again, but the callsign stays. -/
def claimFailed (s : SlotPool n m) (p : Fin n) (k : Fin m) : SlotPool n m :=
  { s with callsign := Function.update s.callsign p ((s.run k).callsign.take 11) }

/-- "Remove the slot from the pool", through its back link; `pc->next` is read again after
the store. -/
def unlinkIdle (s : SlotPool n m) (p : Fin n) : SlotPool n m :=
  let s' := s.writeIdle (s.prev p) (s.next p)
  match s'.next p with
  | none => { s' with tail := s'.prev p }
  | some q => { s' with prev := Function.update s'.prev q (s'.prev p) }

/-- "Remove the slot from the hash map", when it is in a bucket. -/
def unlinkCall (s : SlotPool n m) (p : Fin n) : SlotPool n m :=
  match s.prevByCall p with
  | none => s
  | some l =>
    let s' := s.writeCall l (s.callLink (.nextByCall p))
    match s'.callLink (.nextByCall p) with
    | none => s'
    | some q => { s' with prevByCall := Function.update s'.prevByCall q (s'.prevByCall p) }

/-- "Add the slot to the hash map", at the front of bucket `h`. -/
def linkCall (s : SlotPool n m) (p : Fin n) (h : Fin 256) : SlotPool n m :=
  let s₁ := { s with prevByCall := Function.update s.prevByCall p (some (.bucket h)) }
  let s₂ := s₁.writeCall (.nextByCall p) (s₁.callLink (.bucket h))
  let s₃ := match s₂.callLink (.nextByCall p) with
    | none => s₂
    | some q => { s₂ with prevByCall := Function.update s₂.prevByCall q (some (.nextByCall p)) }
  s₃.writeCall (.bucket h) (some p)

/-- The last statement of `proxy_conn_finish`: `conn_client = NULL`. -/
def release (s : SlotPool n m) (p : Fin n) : SlotPool n m :=
  { s with client := Function.update s.client p none }

/-- "Put the slot back in the pool", at the tail. -/
def reinsert (s : SlotPool n m) (p : Fin n) : SlotPool n m :=
  let s₁ := { s with prev := Function.update s.prev p s.tail }
  let s₂ := s₁.writeIdle s₁.tail (some p)
  { s₂ with tail := .next p }

end SlotPool

/-- The events of a run of `proxy_worker_func`. -/
inductive PoolStep
  /-- The region under `idle_clients_mutex` that looks for a slot; `o` is what the
  `proxy_conn_accept` that gets past its locked test returns. -/
  | acquire (o : Outcome)
  /-- The end of `proxy_conn_finish`. -/
  | finish
  /-- `pc->next = NULL`. -/
  | clearNext
  /-- The region under `idle_clients_mutex` that puts the slot back. -/
  | reinsert

namespace SlotPool

variable {n m : ℕ} (hash : List Char → Fin 256)

/-- A run takes slot `p` for its client: the slot leaves the idle list and moves to the front
of the bucket of the run's callsign. -/
def takeSlot (s : SlotPool n m) (k : Fin m) (p : Fin n) : SlotPool n m :=
  ((((s.claim p k).unlinkIdle p).unlinkCall p).linkCall p (hash (s.run k).callsign)).setPhase k
    (.holding p)

/-- The slot search of run `k`: a reconnect along the bucket, or else the oldest idle slot. -/
def acquireStep (s : SlotPool n m) (k : Fin m) (o : Outcome) : Option (SlotPool n m) :=
  let c := (s.run k).callsign
  match s.head with
  | none => some (s.setPhase k .exited)
  | some h =>
    match s.bucketSearch c (n + 1) (s.callLink (.bucket (hash c))) with
    | none => none
    | some found =>
      let p := found.getD h
      if found = none ∧ s.acceptBusy h c false then some (s.setPhase k .exited)
      else
        match o with
        | .fail _ _ => some ((s.claimFailed p k).setPhase k .exited)
        | .ok => some (s.takeSlot hash k p)

/-- A step of run `k`. -/
def poolStep (s : SlotPool n m) : Fin m × PoolStep → Option (SlotPool n m)
  | (k, .acquire o) => if (s.run k).phase = .acquire then s.acquireStep hash k o else none
  | (k, .finish) =>
    match (s.run k).phase with
    | .holding p => some ((s.release p).setPhase k (.finished p))
    | _ => none
  | (k, .clearNext) =>
    match (s.run k).phase with
    | .finished p => some ((s.writeIdle (.next p) none).setPhase k (.cleared p))
    | _ => none
  | (k, .reinsert) =>
    match (s.run k).phase with
    | .cleared p => some ((s.reinsert p).setPhase k .exited)
    | _ => none

/-- The slot pool as a transition system. -/
def slotPoolLts : Lts (SlotPool n m) (Fin m × PoolStep) := Lts.ofFun (poolStep hash)

end SlotPool

/-! ## The lists `proxy_open` builds -/

namespace SlotPool

variable {n m : ℕ}

/-- From slot `i` on, the idle list of `proxy_open` visits the slots `i, …, n` in order. -/
theorem init_chain_from (cs : Fin m → List Char) (i : ℕ) (hi : i < n + 1) :
    Chain (init n m cs).next (some ⟨i, hi⟩) ((List.finRange (n + 1)).drop i) := by
  rw [List.drop_eq_getElem_cons (by simpa using hi), List.getElem_finRange]
  refine .cons ?_
  by_cases h : i + 1 < n + 1
  · have hnext : (init n m cs).next ⟨i, hi⟩ = some ⟨i + 1, h⟩ := dif_pos h
    rw [hnext]
    exact init_chain_from cs (i + 1) h
  · have hnext : (init n m cs).next ⟨i, hi⟩ = none := dif_neg h
    rw [hnext, List.drop_eq_nil_of_le (by simp; omega)]
    exact .nil
termination_by n + 1 - i

/-- `proxy_open` threads every slot on the idle list, in order. -/
theorem init_chain (cs : Fin m → List Char) :
    Chain (init n m cs).next (init n m cs).head (List.finRange (n + 1)) :=
  init_chain_from cs 0 (Nat.succ_pos n)

end SlotPool

/-! ## A reconnect during the re-insertion -/

open SlotPool

/-- Run 0 takes slot 0 and its client disconnects; between its `proxy_conn_finish` and its
re-insertion of the slot, run 1, for the same callsign, reconnects to the slot. -/
def reconnectRace : List (Fin 2 × PoolStep) :=
  [(0, .acquire .ok), (0, .finish), (1, .acquire .ok), (0, .clearNext), (0, .reinsert)]

/-- Then run 1's client disconnects and run 1 puts the slot back as well. -/
def secondRelease : List (Fin 2 × PoolStep) :=
  [(1, .finish), (1, .clearNext), (1, .reinsert)]

/-- **The reconnect race.**  For every pool of at least two slots and every hash, two runs for
one callsign of at most 11 characters: after `reconnectRace` slot 0 is linked in the idle list
while it serves run 1's client, and after `secondRelease` the walk from `idle_clients_head`
never ends. -/
theorem reconnect_race_corrupts_idle_list (n : ℕ) (hash : List Char → Fin 256) (c : List Char)
    (hc : c.length ≤ 11) :
    ∃ s₁ s₂ : SlotPool (n + 2) 2,
      (slotPoolLts hash).Run (init (n + 1) 2 fun _ => c) reconnectRace s₁ ∧
      (s₁.run 1).phase = .holding 0 ∧ s₁.client 0 = some 1 ∧
      (∃ l, Chain s₁.next s₁.head l ∧ 0 ∈ l) ∧
      (slotPoolLts hash).Run s₁ secondRelease s₂ ∧ ∀ l, ¬ Chain s₂.next s₂.head l := by
  set s₀ := init (n + 1) 2 fun _ => c with hs₀
  -- slot 0 is back on the idle list, after the others, and still serves run 1
  obtain ⟨s₁, h₁, hphase, hclient, hhead, htail, hnext⟩ : ∃ s₁,
      Lts.exec (poolStep hash) s₀ reconnectRace = some s₁ ∧ (s₁.run 1).phase = .holding 0 ∧
        s₁.client 0 = some 1 ∧ s₁.head = some 1 ∧ s₁.tail = .next 0 ∧
        s₁.next = Function.update (Function.update s₀.next 0 none) (Fin.last (n + 1)) (some 0) := by
    simp [hs₀, reconnectRace, Lts.exec, poolStep, acquireStep, init, head, bucketSearch,
      acceptBusy, takeSlot, setPhase, claim, unlinkIdle, unlinkCall, linkCall, writeIdle,
      writeCall, next, release, reinsert, Function.update_apply, List.take_of_length_le hc,
      funext_iff]
  -- run 1 puts it back too, at the tail, which is now slot 0's own `next`
  obtain ⟨s₂, h₂, hhead₂, hnext₂⟩ : ∃ s₂, Lts.exec (poolStep hash) s₁ secondRelease = some s₂ ∧
      s₂.head = s₁.head ∧ s₂.next = Function.update s₁.next 0 (some 0) := by
    simp [secondRelease, Lts.exec, poolStep, hphase, release, setPhase, writeIdle, reinsert,
      htail, head, next, Function.update_apply, funext_iff]
  -- the idle list of `s₁`: slots `1, …, n + 1` as `proxy_open` linked them, then slot 0
  set L := (List.finRange (n + 2)).drop 1
  have h0L : (0 : Fin (n + 2)) ∉ L := by simp [L, List.finRange_succ]
  have hlast : L.getLast? = some (Fin.last (n + 1)) := by
    rw [List.getLast?_drop, if_neg (by simp), List.finRange_succ_last]
    simp
  have hL : Chain s₀.next (some 1) L := init_chain_from _ 1 (by omega)
  have hchain₁ : Chain s₁.next s₁.head (L ++ [0]) := by
    rw [hnext, hhead]
    refine (hL.frame fun y hy => ?_).snoc hlast h0L (Function.update_self ..)
    exact Function.update_of_ne (fun e : y = 0 => h0L (e ▸ hy)) _ _
  refine ⟨s₁, s₂, Lts.Run.of_exec h₁, hphase, hclient, ⟨_, hchain₁, by simp⟩,
    Lts.Run.of_exec h₂, fun l hl => ?_⟩
  -- a walk from the head reaches slot 0, whose `next` is itself
  rw [hhead₂] at hl
  obtain ⟨r, hr⟩ := hchain₁.reach (fun y hy => by
    rw [hnext₂]; exact Function.update_of_ne (fun e : y = 0 => h0L (e ▸ hy)) _ _) hl
  exact not_chain_of_loop (by rw [hnext₂]; exact Function.update_self ..) r hr

/-- The race with two slots, any bucket, and the callsign `N0CALL`. -/
theorem reconnect_race_two_slots :
    ∃ s₁ s₂ : SlotPool 2 2,
      (slotPoolLts fun _ => 0).Run (init 1 2 fun _ => "N0CALL".toList) reconnectRace s₁ ∧
      (s₁.run 1).phase = .holding 0 ∧ s₁.client 0 = some 1 ∧
      (∃ l, Chain s₁.next s₁.head l ∧ 0 ∈ l) ∧
      (slotPoolLts fun _ => 0).Run s₁ secondRelease s₂ ∧ ∀ l, ¬ Chain s₂.next s₂.head l :=
  reconnect_race_corrupts_idle_list 0 (fun _ => 0) "N0CALL".toList (by decide)

/-- The race with three slots, bucket 42, and the callsign `W1AW`. -/
theorem reconnect_race_three_slots :
    ∃ s₁ s₂ : SlotPool 3 2,
      (slotPoolLts fun _ => 42).Run (init 2 2 fun _ => "W1AW".toList) reconnectRace s₁ ∧
      (s₁.run 1).phase = .holding 0 ∧ s₁.client 0 = some 1 ∧
      (∃ l, Chain s₁.next s₁.head l ∧ 0 ∈ l) ∧
      (slotPoolLts fun _ => 42).Run s₁ secondRelease s₂ ∧ ∀ l, ¬ Chain s₂.next s₂.head l :=
  reconnect_race_corrupts_idle_list 1 (fun _ => 42) "W1AW".toList (by decide)

end OpenElp
