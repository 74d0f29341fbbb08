import Mathlib
import OpenElp.Errno

/-!
# Receiving and sending on a stream connection (`conn.c`)

`conn_recv` loops on `recvfrom` until the buffer is full; `conn_send` loops on `send` until the
whole length has been accepted.  How many bytes each system call moves is the operating
system's choice: the model takes it as a list of `IoResult`s, one per call, so a theorem over
every list is a theorem over every chunking of the stream and every failure.

* `connRecv_chunks` : whatever the chunking, `conn_recv` of `n` bytes from a stream holding at
  least `n` returns `n` and exactly the next `n` bytes.
* `connRecv_prefix` : whatever the calls do, `conn_recv` of `n` bytes takes a prefix of at most
  `n` bytes from the stream, and returns it.
* `connSend_whole` : when `send` takes the buffer in one call, `conn_send` returns `0` and
  the stream gets the buffer.
* `connSend_short_sends` : when `send` takes less, every later call is handed the start of the
  buffer again (the `@TODO Bug? buff isn't changed` of `conn.c`): `conn_send` still returns `0`,
  and the stream gets the buffer's first bytes once for each call.
-/

namespace OpenElp

/-- What one `recvfrom` or `send` call does. -/
inductive IoResult
  /-- It moves at most `k` bytes: at least one, and no more than asked for and available. -/
  | bytes (k : ℕ)
  /-- It returns `0`. -/
  | zero
  /-- It returns `SOCKET_ERROR` with `errno` set. -/
  | fail (errno : ℕ)
  deriving DecidableEq, Repr

/-- The value a socket call returns: a count, or `SOCKET_ERROR` with an `errno`. -/
inductive SysRet
  | count (k : ℕ)
  | error (errno : ℕ)
  deriving DecidableEq, Repr

/-- One `recvfrom` or `send` of at most `len` bytes when `avail` can move, and the calls left.
Once the list of calls is used up, a call moves all it can. -/
def sysCall (len avail : ℕ) : List IoResult → SysRet × List IoResult
  | [] => (.count (min len avail), [])
  | .bytes k :: cs => (.count (min (max k 1) (min len avail)), cs)
  | .zero :: cs => (.count 0, cs)
  | .fail e :: cs => (.error e, cs)

/-- The loop of `conn_recv` on a stream whose unread bytes are `data` (all the peer sends: a
call that finds none returns `0`, the peer's shutdown).  It returns `ret`, the bytes read into
the buffer, the bytes left in the stream and the calls left. -/
def connRecvLoop (buffLen : ℕ) (read data : List UInt8) (calls : List IoResult) :
    ℤ × List UInt8 × List UInt8 × List IoResult :=
  if buffLen = 0 then ((read.length : ℤ), read, data, calls)
  else
    match sysCall buffLen data.length calls with
    | (.count 0, cs) => (-EPIPE, read, data, cs)
    | (.count (k + 1), cs) =>
      connRecvLoop (buffLen - (k + 1)) (read ++ data.take (k + 1)) (data.drop (k + 1)) cs
    | (.error e, cs) => (-(e : ℤ), read, data, cs)
termination_by buffLen

/-- The loop of `conn_send`: every `send` is handed the start of `buff` with the length still
to go, and `buff` is never advanced.  It returns `ret`, the bytes the stream received and the
calls left. -/
def connSendLoop (buff : List UInt8) (buffLen : ℕ) (sent : List UInt8) (calls : List IoResult) :
    ℤ × List UInt8 × List IoResult :=
  if buffLen = 0 then (0, sent, calls)
  else
    match sysCall buffLen buffLen calls with
    | (.count 0, cs) => (-EPIPE, sent, cs)
    | (.count (k + 1), cs) => connSendLoop buff (buffLen - (k + 1)) (sent ++ buff.take (k + 1)) cs
    | (.error e, cs) => (-(e : ℤ), sent, cs)
termination_by buffLen

/-- One end of a connected stream socket, as `conn_recv` and `conn_send` see it. -/
structure Link where
  /-- `fd != INVALID_SOCKET`. -/
  isOpen : Bool
  /-- The bytes from the peer that have not been read. -/
  inbox : List UInt8
  /-- What the coming `recvfrom` calls do. -/
  recvCalls : List IoResult
  /-- The bytes the stream to the peer has received, in order. -/
  outbox : List UInt8
  /-- What the coming `send` calls do. -/
  sendCalls : List IoResult

/-- `conn_recv(conn, buff, n)` on an open or closed stream connection: `ret`, the bytes read,
and the link after. -/
def connRecv (l : Link) (n : ℕ) : ℤ × List UInt8 × Link :=
  if l.isOpen then
    match connRecvLoop n [] l.inbox l.recvCalls with
    | (ret, read, data, cs) => (ret, read, { l with inbox := data, recvCalls := cs })
  else (-ENOTCONN, [], l)

/-- `conn_send(conn, buff, len)`: `ret` and the link after. -/
def connSend (l : Link) (buff : List UInt8) : ℤ × Link :=
  if l.isOpen then
    match connSendLoop buff buff.length [] l.sendCalls with
    | (ret, sent, cs) => (ret, { l with outbox := l.outbox ++ sent, sendCalls := cs })
  else (-ENOTCONN, l)

/-- What one `recvfrom` delivers: bytes from a source (none at all for a zero-length datagram
or the peer's shutdown), or a failure with an `errno`. -/
inductive RecvResult
  | bytes (source : UInt32) (data : List UInt8)
  | fail (errno : ℕ)

/-- `conn_recv_any` into a buffer of `buffLen` bytes: `ret`, the bytes and their source.  A
receive of zero bytes becomes `-EPIPE`, whatever the socket's type. -/
def connRecvAny (isOpen : Bool) (r : RecvResult) (buffLen : ℕ) : ℤ × List UInt8 × UInt32 :=
  if !isOpen then (-ENOTCONN, [], 0)
  else
    match r with
    | .bytes source data =>
      if data = [] then (-EPIPE, [], 0)
      else (((min data.length buffLen : ℕ) : ℤ), data.take buffLen, source)
    | .fail e => (-(e : ℤ), [], 0)

/-- A positive return of `conn_recv_any` comes from an open socket and counts the bytes it
delivers: at least one, and no more than the buffer holds. -/
theorem connRecvAny_pos {isOpen : Bool} {r : RecvResult} {buffLen : ℕ}
    (h : 0 < (connRecvAny isOpen r buffLen).1) :
    isOpen = true ∧
      (connRecvAny isOpen r buffLen).1 = (connRecvAny isOpen r buffLen).2.1.length ∧
      0 < (connRecvAny isOpen r buffLen).2.1.length ∧
      (connRecvAny isOpen r buffLen).2.1.length ≤ buffLen := by
  unfold connRecvAny at h ⊢
  cases isOpen
  · simp [ENOTCONN] at h
  refine ⟨rfl, ?_⟩
  simp only [Bool.not_true, Bool.false_eq_true, if_false] at h ⊢
  cases r with
  | bytes source data =>
    by_cases hd : data = []
    · simp [hd, EPIPE] at h
    · simp only [hd, if_false, List.length_take] at h ⊢
      omega
  | fail e =>
    dsimp only at h
    omega

/-- `conn_close`: the descriptor becomes `INVALID_SOCKET`. -/
def connClose (l : Link) : Link := { l with isOpen := false }

/-- A chunking of a stream: every `recvfrom` delivers some bytes. -/
def IsChunking (calls : List IoResult) : Prop := ∀ c ∈ calls, ∃ k, c = .bytes k

theorem IsChunking.tail {c : IoResult} {cs : List IoResult} (h : IsChunking (c :: cs)) :
    IsChunking cs :=
  fun c' hc' => h c' (List.mem_cons_of_mem c hc')

theorem isChunking_map (chunks : List ℕ) : IsChunking (chunks.map .bytes) := by
  intro c hc
  obtain ⟨k, -, rfl⟩ := List.mem_map.1 hc
  exact ⟨k, rfl⟩

/-- A call of a chunking on a non-empty stream moves at least one byte, and no more than asked
for and available. -/
theorem sysCall_chunk (len avail : ℕ) {calls : List IoResult} (hc : IsChunking calls)
    (hlen : 0 < len) (havail : 0 < avail) :
    ∃ k cs, sysCall len avail calls = (.count (k + 1), cs) ∧ k + 1 ≤ len ∧ k + 1 ≤ avail ∧
      IsChunking cs := by
  cases calls with
  | nil => exact ⟨min len avail - 1, [], by simp [sysCall]; omega, by omega, by omega,
      fun _ h => absurd h List.not_mem_nil⟩
  | cons c cs =>
    obtain ⟨k, rfl⟩ := hc c List.mem_cons_self
    refine ⟨min (max k 1) (min len avail) - 1, cs, ?_, by omega, by omega, hc.tail⟩
    simp only [sysCall, Prod.mk.injEq, SysRet.count.injEq, and_true]
    omega

/-- **`conn_recv` is exact under any chunking**: from a stream holding at least `n` bytes its
loop returns `n` and the next `n` bytes, in order. -/
theorem connRecvLoop_chunks (n : ℕ) (read data : List UInt8) (calls : List IoResult)
    (hc : IsChunking calls) (hn : n ≤ data.length) :
    ∃ cs, connRecvLoop n read data calls =
      (((read.length + n : ℕ) : ℤ), read ++ data.take n, data.drop n, cs) ∧ IsChunking cs := by
  induction n using Nat.strong_induction_on generalizing read data calls with
  | _ n ih =>
    rw [connRecvLoop]
    by_cases h0 : n = 0
    · subst h0
      exact ⟨calls, by simp, hc⟩
    · -- one call moves `k + 1` bytes; the loop goes on for the rest
      obtain ⟨k, cs, hcall, hk, hka, hcs⟩ :=
        sysCall_chunk n data.length hc (Nat.pos_of_ne_zero h0) (by omega)
      simp only [h0, ↓reduceIte, hcall]
      obtain ⟨cs', heq, hcs'⟩ := ih (n - (k + 1)) (by omega) (read ++ data.take (k + 1))
        (data.drop (k + 1)) cs hcs (by simp; omega)
      refine ⟨cs', ?_, hcs'⟩
      rw [heq]
      have hlen : (read ++ data.take (k + 1)).length = read.length + (k + 1) := by
        simp; omega
      have htake : data.take (k + 1) ++ (data.drop (k + 1)).take (n - (k + 1)) = data.take n := by
        rw [← List.take_add]
        congr 1
        omega
      have hdrop : (data.drop (k + 1)).drop (n - (k + 1)) = data.drop n := by
        rw [List.drop_drop]
        congr 1
        omega
      rw [hlen, List.append_assoc, htake, hdrop]
      congr 2
      omega

theorem connRecv_chunks {l : Link} {n : ℕ} (ho : l.isOpen = true) (hc : IsChunking l.recvCalls)
    (hn : n ≤ l.inbox.length) :
    ∃ cs, connRecv l n =
      ((n : ℤ), l.inbox.take n, { l with inbox := l.inbox.drop n, recvCalls := cs }) ∧
      IsChunking cs := by
  obtain ⟨cs, heq, hcs⟩ := connRecvLoop_chunks n [] l.inbox l.recvCalls hc hn
  refine ⟨cs, ?_, hcs⟩
  simp [connRecv, ho, heq]

/-- A call moves no more than asked for and available. -/
theorem sysCall_count_le {len avail k : ℕ} {calls cs : List IoResult}
    (h : sysCall len avail calls = (.count k, cs)) : k ≤ len ∧ k ≤ avail := by
  unfold sysCall at h
  split at h <;> simp only [Prod.mk.injEq, SysRet.count.injEq, reduceCtorEq, false_and] at h <;>
    omega

/-- A call uses up the first of the calls, or none. -/
theorem sysCall_suffix (len avail : ℕ) (calls : List IoResult) :
    (sysCall len avail calls).2 <:+ calls := by
  unfold sysCall
  split
  · exact List.suffix_refl _
  all_goals exact List.suffix_cons _ _

/-- Whatever the calls do, the loop of `conn_recv` reads a prefix of the stream, no longer than
asked for; a return of at least `0` read all of it, unless a failing call left `errno` at `0`. -/
theorem connRecvLoop_prefix (n : ℕ) (read data : List UInt8) (calls : List IoResult) :
    ∃ pre, (connRecvLoop n read data calls).2.1 = read ++ pre ∧
      data = pre ++ (connRecvLoop n read data calls).2.2.1 ∧ pre.length ≤ n ∧
      (connRecvLoop n read data calls).2.2.2 <:+ calls ∧
      (0 ≤ (connRecvLoop n read data calls).1 →
        (pre.length = n ∧ (connRecvLoop n read data calls).1 = (read.length + n : ℕ)) ∨
          ((connRecvLoop n read data calls).1 = 0 ∧ IoResult.fail 0 ∈ calls)) := by
  fun_induction connRecvLoop n read data calls with
  | case1 read data calls =>
    -- nothing left to read
    exact ⟨[], by simp, by simp, by simp, List.suffix_refl _, fun _ => .inl (by simp)⟩
  | case2 n read data calls h0 cs hcall =>
    -- a call that returns `0`: the peer's shutdown
    have hcs : cs <:+ calls := by simpa [hcall] using sysCall_suffix n data.length calls
    exact ⟨[], by simp, by simp, by simp, hcs, fun h => absurd h (by simp [EPIPE])⟩
  | case3 n read data calls h0 k cs hcall ih =>
    -- a call that moves `k + 1` bytes, then the rest of the loop
    have hk := sysCall_count_le hcall
    have hcs : cs <:+ calls := by simpa [hcall] using sysCall_suffix n data.length calls
    obtain ⟨pre, hread, hdata, hlen, hsuf, hret⟩ := ih
    refine ⟨data.take (k + 1) ++ pre, by simp [hread], ?_, ?_, hsuf.trans hcs, fun h => ?_⟩
    · rw [List.append_assoc, ← hdata, List.take_append_drop]
    · simp only [List.length_append, List.length_take]
      omega
    · rcases hret h with ⟨hpre, hr⟩ | ⟨hr, hfail⟩
      · refine .inl ⟨by simp only [List.length_append, List.length_take]; omega, ?_⟩
        rw [hr]
        simp only [List.length_append, List.length_take]
        omega
      · exact .inr ⟨hr, hcs.subset hfail⟩
  | case4 n read data calls h0 e cs hcall =>
    -- a failing call: its `errno`, negated
    have hcs : cs <:+ calls := by simpa [hcall] using sysCall_suffix n data.length calls
    refine ⟨[], by simp, by simp, by simp, hcs, fun h => .inr ⟨by omega, ?_⟩⟩
    have he : e = 0 := by omega
    subst he
    unfold sysCall at hcall
    split at hcall <;> simp_all
/-- **What `conn_recv` takes from the stream**, whatever the calls do: the bytes it returns, a
prefix of at most `n` bytes; a return of at least `0` took all `n`, unless a failing call left
`errno` at `0`. -/
theorem connRecv_prefix (l : Link) (n : ℕ) :
    l.inbox = (connRecv l n).2.1 ++ (connRecv l n).2.2.inbox ∧ (connRecv l n).2.1.length ≤ n ∧
      (connRecv l n).2.2.recvCalls <:+ l.recvCalls ∧
      (0 ≤ (connRecv l n).1 → ((connRecv l n).1 = n ∧ (connRecv l n).2.1.length = n) ∨
        ((connRecv l n).1 = 0 ∧ IoResult.fail 0 ∈ l.recvCalls)) := by
  unfold connRecv
  split
  · obtain ⟨pre, hread, hdata, hlen, hsuf, hret⟩ := connRecvLoop_prefix n [] l.inbox l.recvCalls
    rw [List.nil_append] at hread
    refine ⟨by rw [hread]; exact hdata, by rw [hread]; exact hlen, hsuf, fun h => ?_⟩
    rcases hret h with ⟨hpre, hr⟩ | hfail
    · exact .inl ⟨by simpa using hr, by rw [hread, hpre]⟩
    · exact .inr hfail
  · exact ⟨rfl, by simp, List.suffix_refl _, fun h => absurd h (by simp [ENOTCONN])⟩

/-- `conn_send` leaves the incoming stream alone. -/
@[simp] theorem connSend_inbox (l : Link) (buff : List UInt8) :
    (connSend l buff).2.inbox = l.inbox := by
  unfold connSend
  split <;> rfl

/-- `conn_send` returns `0` or a negative error. -/
theorem connSend_nonpos (l : Link) (buff : List UInt8) : (connSend l buff).1 ≤ 0 := by
  have hloop : ∀ n sent calls, (connSendLoop buff n sent calls).1 ≤ 0 := by
    intro n sent calls
    fun_induction connSendLoop buff n sent calls <;> simp_all [EPIPE]
  unfold connSend
  split
  · exact hloop _ _ _
  · simp [ENOTCONN]

/-- `conn_send` when `send` takes the whole buffer in one call. -/
theorem connSend_whole {l : Link} (buff : List UInt8) (ho : l.isOpen = true)
    (hs : l.sendCalls = []) :
    connSend l buff = (0, { l with outbox := l.outbox ++ buff }) := by
  have hloop : connSendLoop buff buff.length [] [] = (0, buff, []) := by
    rw [connSendLoop]
    by_cases h0 : buff.length = 0
    · simp [List.eq_nil_of_length_eq_zero h0]
    · obtain ⟨k, hk⟩ : ∃ k, buff.length = k + 1 := ⟨buff.length - 1, by omega⟩
      simp only [sysCall, Nat.min_self, hk]
      rw [connSendLoop]
      simp [← hk]
  simp [connSend, ho, hs, hloop]

/-- What the loop of `conn_send` hands the stream when the `send` calls take `k₁, …, kᵣ` bytes,
together the whole length: each call is handed the start of the buffer again, so the stream gets
the first `kᵢ` bytes of the buffer for each call. -/
theorem connSendLoop_counts (buff : List UInt8) (ks : List ℕ) (hpos : ∀ k ∈ ks, 0 < k) :
    ∀ sent : List UInt8, connSendLoop buff ks.sum sent (ks.map .bytes) =
      (0, sent ++ (ks.map buff.take).flatten, []) := by
  induction ks with
  | nil =>
    intro sent
    rw [connSendLoop, if_pos List.sum_nil]
    simp
  | cons k ks ih =>
    intro sent
    obtain ⟨j, rfl⟩ : ∃ j, k = j + 1 := ⟨k - 1, by have := hpos k List.mem_cons_self; omega⟩
    -- the first call takes its `j + 1` bytes, all from the start of the buffer
    have hcall : sysCall (((j + 1) :: ks).sum) (((j + 1) :: ks).sum) (((j + 1) :: ks).map .bytes) =
        (.count (j + 1), ks.map .bytes) := by
      simp only [List.map_cons, sysCall, List.sum_cons, Nat.min_self, Prod.mk.injEq,
        SysRet.count.injEq, and_true]
      omega
    rw [connSendLoop, if_neg (by simp), hcall]
    simp only
    rw [show ((j + 1) :: ks).sum - (j + 1) = ks.sum by simp,
      ih (fun k hk => hpos k (List.mem_cons_of_mem _ hk))]
    simp

/-- **`conn_send` under short `send`s**: on an open connection whose `send` calls take
`k₁, …, kᵣ` bytes, together the buffer's length, `conn_send` returns `0` and the stream
receives the first `kᵢ` bytes of the buffer for each call, not the buffer. -/
theorem connSend_short_sends {l : Link} (buff : List UInt8) (ks : List ℕ) (ho : l.isOpen = true)
    (hpos : ∀ k ∈ ks, 0 < k) (hsum : ks.sum = buff.length) (hs : l.sendCalls = ks.map .bytes) :
    connSend l buff =
      (0, { l with outbox := l.outbox ++ (ks.map buff.take).flatten, sendCalls := [] }) := by
  have hloop := connSendLoop_counts buff ks hpos []
  rw [hsum] at hloop
  simp [connSend, ho, hs, hloop]

/-- Two bytes sent in two calls of one byte: the stream gets the first byte twice. -/
theorem connSend_repeats_first_byte :
    connSend ⟨true, [], [], [], [.bytes 1, .bytes 1]⟩ [1, 2] =
      (0, ⟨true, [], [], [1, 1], []⟩) :=
  connSend_short_sends [1, 2] [1, 1] rfl (by decide) rfl rfl

/-- Three bytes sent as two and then one: the stream gets `1, 2, 1`. -/
theorem connSend_short_then_rest :
    (∀ k ∈ [2, 1], 0 < k) ∧ [2, 1].sum = ([1, 2, 3] : List UInt8).length ∧
      connSend ⟨true, [], [], [], [.bytes 2, .bytes 1]⟩ [1, 2, 3] =
        (0, ⟨true, [], [], [1, 2, 1], []⟩) :=
  ⟨by decide, rfl, connSend_short_sends [1, 2, 3] [2, 1] rfl (by decide) rfl rfl⟩

/-- A connection that does not fail: it is open, delivers the peer's bytes in some chunking, and
takes every `send` whole. -/
structure Link.Healthy (l : Link) : Prop where
  isOpen : l.isOpen = true
  chunking : IsChunking l.recvCalls
  whole : l.sendCalls = []

namespace Link.Healthy

variable {l : Link}

/-- A read from a healthy connection that holds enough bytes. -/
theorem recv (h : l.Healthy) {n : ℕ} (hn : n ≤ l.inbox.length) :
    ∃ cs, connRecv l n =
      ((n : ℤ), l.inbox.take n, { l with inbox := l.inbox.drop n, recvCalls := cs }) ∧
      ({ l with inbox := l.inbox.drop n, recvCalls := cs } : Link).Healthy := by
  obtain ⟨cs, heq, hcs⟩ := connRecv_chunks h.isOpen h.chunking hn
  exact ⟨cs, heq, ⟨h.isOpen, hcs, h.whole⟩⟩

/-- A send on a healthy connection. -/
theorem send (h : l.Healthy) (buff : List UInt8) :
    connSend l buff = (0, { l with outbox := l.outbox ++ buff }) ∧
      ({ l with outbox := l.outbox ++ buff } : Link).Healthy :=
  ⟨connSend_whole buff h.isOpen h.whole, ⟨h.isOpen, h.chunking, h.whole⟩⟩

end Link.Healthy

end OpenElp
