import OpenElp.Lts.Basic
import OpenElp.Errno

/-!
# The descriptors of a connection (`conn.c`)

`struct conn_priv` holds three descriptors: `sock_fd`, the socket `conn_listen` and
`conn_connect` create; `conn_fd`, the connection `conn_accept` stores into the handle it accepts
into; and `fd`, "one of `sock_fd` or `conn_fd`", which `conn_recv`, `conn_recv_any`, `conn_send`
and `conn_send_to` hand to the operating system unless it is `INVALID_SOCKET`.

The model follows the descriptors that the calls on one handle open and close.  Each descriptor
`socket` or `accept` returns is numbered in the order it was opened, so that a descriptor once
closed is never open again, even when the operating system hands its number out anew.  What the
socket calls do is a parameter of each operation (`SockEnv`), and so is the platform: on
`_WIN32` and `__APPLE__`, `conn_shutdown` also closes `sock_fd`, to cancel an `accept` in
progress.

* `FdsOpen`, `fdsOpen_reachable` : on every platform, `sock_fd` and `conn_fd` only ever name
  open descriptors;
* `fdOpen_reachable` : on a platform other than `_WIN32` and `__APPLE__`, so does `fd`: the
  calls that use it never operate on a closed descriptor;
* `connShutdown_closes_fd` : on `_WIN32` and `__APPLE__`, `conn_shutdown` closes the socket `fd`
  names and leaves `fd` naming it;
* `connConnect_strands_fd` : a `conn_connect` on a connected handle that fails at its `socket`,
  `bind` or `connect` leaves `fd` on the socket it has lost from `sock_fd`;
* `conn_descriptors` : **the descriptors of every reachable handle**, with the two ways `fd`
  leaves `sock_fd` and `conn_fd`.
-/

namespace OpenElp

/-- The platform `conn.c` is compiled for: `_WIN32`, `__APPLE__`, or neither. -/
inductive Platform
  | win32
  | apple
  | other
  deriving DecidableEq, Repr

/-- `enum CONN_TYPE`. -/
inductive ConnType
  | tcp
  | udp
  deriving DecidableEq, Repr

/-- The socket calls of `conn_listen`, `conn_accept` and `conn_connect` that can fail. -/
inductive SockCall
  /-- `getaddrinfo`, of the source address or, in `conn_connect`, of the remote one. -/
  | getaddrinfo
  | socket
  /-- `setsockopt(SO_REUSEADDR)`. -/
  | reuseAddr
  /-- `setsockopt(SO_NOSIGPIPE)`, made on `__APPLE__` only. -/
  | noSigPipe
  | bind
  | listen
  | connect
  | accept
  /-- The keep-alive options of `conn_accept`: `WSAIoctl(SIO_KEEPALIVE_VALS)` on `_WIN32`, four
  `setsockopt` elsewhere. -/
  | keepAlive
  deriving DecidableEq, Repr

/-- What the socket calls of one operation do: all succeed, or `fails` is the first to fail,
with `errno` (`WSAGetLastError()` on `_WIN32`). -/
structure SockEnv where
  fails : Option SockCall := none
  errno : ℕ := 0
  deriving DecidableEq, Repr

/-- `SOCK_ERRNO`. -/
def sockErrno (env : SockEnv) : ℤ := -(env.errno : ℤ)

/-- The descriptors of a `conn_handle`, `none` for `INVALID_SOCKET`, with the descriptors its
calls opened and did not close. -/
structure ConnFds where
  sockFd : Option ℕ
  connFd : Option ℕ
  fd : Option ℕ
  /-- The descriptors `socket` or `accept` returned that `closesocket` has not closed. -/
  openFds : Finset ℕ
  /-- The descriptors opened so far: the next one gets this number. -/
  opened : ℕ
  deriving DecidableEq

/-- `conn_init`: the three descriptors `INVALID_SOCKET`. -/
def connInit : ConnFds := ⟨none, none, none, ∅, 0⟩

namespace ConnFds

/-- A new descriptor from `socket` or `accept`. -/
def newFd (s : ConnFds) : ConnFds :=
  { s with openFds := insert s.opened s.openFds, opened := s.opened + 1 }

/-- `closesocket(d)`. -/
def closeFd (s : ConnFds) (d : ℕ) : ConnFds := { s with openFds := s.openFds.erase d }

/-- `priv->sock_fd = socket(..)`, when `socket` succeeds. -/
def openSock (s : ConnFds) : ConnFds := { s.newFd with sockFd := some s.opened }

/-- `apriv->conn_fd = accept(..)`, when `accept` succeeds. -/
def openConn (s : ConnFds) : ConnFds := { s.newFd with connFd := some s.opened }

/-- `if (priv->conn_fd != INVALID_SOCKET) { closesocket(priv->conn_fd); priv->conn_fd =
INVALID_SOCKET; }` -/
def releaseConn (s : ConnFds) : ConnFds :=
  match s.connFd with
  | some d => { s.closeFd d with connFd := none }
  | none => s

/-- The same for `sock_fd`. -/
def releaseSock (s : ConnFds) : ConnFds :=
  match s.sockFd with
  | some d => { s.closeFd d with sockFd := none }
  | none => s

@[simp] theorem openSock_sockFd (s : ConnFds) : s.openSock.sockFd = some s.opened := rfl
@[simp] theorem openSock_connFd (s : ConnFds) : s.openSock.connFd = s.connFd := rfl
@[simp] theorem openSock_fd (s : ConnFds) : s.openSock.fd = s.fd := rfl
@[simp] theorem openSock_openFds (s : ConnFds) :
    s.openSock.openFds = insert s.opened s.openFds := rfl
@[simp] theorem openSock_opened (s : ConnFds) : s.openSock.opened = s.opened + 1 := rfl
@[simp] theorem openConn_sockFd (s : ConnFds) : s.openConn.sockFd = s.sockFd := rfl
@[simp] theorem openConn_connFd (s : ConnFds) : s.openConn.connFd = some s.opened := rfl
@[simp] theorem openConn_fd (s : ConnFds) : s.openConn.fd = s.fd := rfl
@[simp] theorem openConn_openFds (s : ConnFds) :
    s.openConn.openFds = insert s.opened s.openFds := rfl
@[simp] theorem openConn_opened (s : ConnFds) : s.openConn.opened = s.opened + 1 := rfl

/-- `releaseConn` closes what `conn_fd` names and clears it. -/
theorem releaseConn_eq (s : ConnFds) :
    s.releaseConn =
      { s with openFds := s.connFd.elim s.openFds s.openFds.erase, connFd := none } := by
  rcases s with ⟨sk, _ | c, f, fs, o⟩ <;> rfl

/-- `releaseSock` closes what `sock_fd` names and clears it. -/
theorem releaseSock_eq (s : ConnFds) :
    s.releaseSock =
      { s with openFds := s.sockFd.elim s.openFds s.openFds.erase, sockFd := none } := by
  rcases s with ⟨_ | sk, c, f, fs, o⟩ <;> rfl

end ConnFds

open ConnFds

/-! ### The operations -/

/-- `conn_listen`: a socket for the source address and port, bound, and listening for a stream;
`fd` is set to it only when every call succeeds.  A failure after `socket` leaves `sock_fd`
open (`@TODO Close priv->sock_fd`). -/
def ConnFds.connListen (plat : Platform) (type : ConnType) (env : SockEnv) (s : ConnFds) :
    ℤ × ConnFds :=
  if env.fails = some .getaddrinfo then (-EADDRNOTAVAIL, s)
  else if env.fails = some .socket then (sockErrno env, { s with sockFd := none })
  else
    let s := s.openSock
    if env.fails = some .reuseAddr then (sockErrno env, s)
    else if plat = .apple ∧ env.fails = some .noSigPipe then (sockErrno env, s)
    else if env.fails = some .bind then (sockErrno env, s)
    else if type = .tcp ∧ env.fails = some .listen then (sockErrno env, s)
    else (0, { s with fd := s.sockFd })

/-- `conn_accept(conn, accepted)`, on the handle `accepted`: the connection `accept` returns is
stored in `conn_fd` before it is checked, and `fd` is set to it once its keep-alive options are
set.  A failure of those leaves `conn_fd` open (`@TODO Close apriv->conn_fd`). -/
def ConnFds.connAccept (env : SockEnv) (s : ConnFds) : ℤ × ConnFds :=
  if env.fails = some .accept then (sockErrno env, { s with connFd := none })
  else
    let s := s.openConn
    if env.fails = some .keepAlive then (sockErrno env, s)
    else (0, { s with fd := s.connFd })

/-- `conn_connect`: a stream socket, bound to the source address and connected to the remote
one; `fd` is set to it when the connection succeeds.  A failure of `bind` or `connect` closes
the socket (`conn_connect_free`); one of the options before it does not
(`conn_connect_free_early`). -/
def ConnFds.connConnect (plat : Platform) (type : ConnType) (env : SockEnv) (s : ConnFds) :
    ℤ × ConnFds :=
  if type ≠ .tcp then (-EPROTOTYPE, s)
  else if env.fails = some .getaddrinfo then (-EADDRNOTAVAIL, s)
  else if env.fails = some .socket then (sockErrno env, { s with sockFd := none })
  else
    let d := s.opened
    let s := s.openSock
    if env.fails = some .reuseAddr then (sockErrno env, s)
    else if plat = .apple ∧ env.fails = some .noSigPipe then (sockErrno env, s)
    else if env.fails = some .bind ∨ env.fails = some .connect then
      (sockErrno env, { s.closeFd d with sockFd := none })
    else (0, { s with fd := s.sockFd })

/-- `conn_shutdown`: `shutdown` of both descriptors, which closes neither; on `_WIN32` and
`__APPLE__` it also closes `sock_fd` and clears it ("Hack to cancel an in-progress accept"). -/
def ConnFds.connShutdown (plat : Platform) (s : ConnFds) : ConnFds :=
  if plat = .win32 ∨ plat = .apple then s.releaseSock else s

/-- `conn_drop`: unless both `conn_fd` and `fd` are `INVALID_SOCKET`, it clears `fd` and closes
`conn_fd`; `sock_fd` stays. -/
def ConnFds.connDrop (s : ConnFds) : ConnFds :=
  if s.connFd = none ∧ s.fd = none then s else { s with fd := none }.releaseConn

/-- `conn_close`: `conn_shutdown`, then under the exclusive lock it clears `fd` and closes
`conn_fd` and `sock_fd`. -/
def ConnFds.connClose (plat : Platform) (s : ConnFds) : ConnFds :=
  ({ ConnFds.connShutdown plat s with fd := none }.releaseConn).releaseSock

/-- The calls on one `conn_handle` after `conn_init`. -/
inductive ConnCall
  | listen (type : ConnType) (env : SockEnv)
  /-- `conn_accept` into this handle. -/
  | accept (env : SockEnv)
  | connect (type : ConnType) (env : SockEnv)
  /-- `conn_recv`, `conn_recv_any`, `conn_send` or `conn_send_to`: they hand `fd` to the
  operating system, and change no descriptor. -/
  | io
  | shutdown
  | drop
  | close
  deriving DecidableEq, Repr

/-- One call, on platform `plat`. -/
def connCall (plat : Platform) : ConnCall → ConnFds → ConnFds
  | .listen type env, s => (ConnFds.connListen plat type env s).2
  | .accept env, s => (ConnFds.connAccept env s).2
  | .connect type env, s => (ConnFds.connConnect plat type env s).2
  | .io, s => s
  | .shutdown, s => ConnFds.connShutdown plat s
  | .drop, s => ConnFds.connDrop s
  | .close, s => ConnFds.connClose plat s

/-- The calls on a handle as a transition system. -/
def connSystem (plat : Platform) : Lts ConnFds ConnCall :=
  Lts.ofFun fun s c => some (connCall plat c s)

/-! ### What each operation can do to the descriptors -/

/-- `conn_listen` leaves the descriptors as they were, clears `sock_fd`, or opens a new socket
in `sock_fd`, which `fd` takes when every call succeeded. -/
theorem ConnFds.connListen_cases (plat : Platform) (type : ConnType) (env : SockEnv) (s : ConnFds) :
    (ConnFds.connListen plat type env s).2 = s ∨
      (ConnFds.connListen plat type env s).2 = { s with sockFd := none } ∨
      (ConnFds.connListen plat type env s).2 = s.openSock ∨
      (ConnFds.connListen plat type env s).2 = { s.openSock with fd := some s.opened } := by
  unfold ConnFds.connListen
  split_ifs <;> simp

/-- `conn_accept` clears `conn_fd`, or opens a new connection in `conn_fd`, which `fd` takes when
its options are set. -/
theorem ConnFds.connAccept_cases (env : SockEnv) (s : ConnFds) :
    (ConnFds.connAccept env s).2 = { s with connFd := none } ∨
      (ConnFds.connAccept env s).2 = s.openConn ∨
      (ConnFds.connAccept env s).2 = { s.openConn with fd := some s.opened } := by
  unfold ConnFds.connAccept
  split_ifs <;> simp

/-- `conn_connect` does what `conn_listen` does, or opens a socket and closes it again. -/
theorem ConnFds.connConnect_cases (plat : Platform) (type : ConnType) (env : SockEnv)
    (s : ConnFds) :
    (ConnFds.connConnect plat type env s).2 = s ∨
      (ConnFds.connConnect plat type env s).2 = { s with sockFd := none } ∨
      (ConnFds.connConnect plat type env s).2 = s.openSock ∨
      (ConnFds.connConnect plat type env s).2 =
        { s.openSock.closeFd s.opened with sockFd := none } ∨
      (ConnFds.connConnect plat type env s).2 = { s.openSock with fd := some s.opened } := by
  unfold ConnFds.connConnect
  split_ifs <;> simp

/-! ### `sock_fd` and `conn_fd` -/

/-- What holds of every handle the calls reach: `sock_fd` and `conn_fd` name open descriptors,
and not the same one; the open descriptors are numbered below the count. -/
structure FdsOpen (s : ConnFds) : Prop where
  sock : ∀ d ∈ s.sockFd, d ∈ s.openFds
  conn : ∀ d ∈ s.connFd, d ∈ s.openFds
  distinct : ∀ d ∈ s.sockFd, s.connFd ≠ some d
  lt : ∀ d ∈ s.openFds, d < s.opened

theorem fdsOpen_init : FdsOpen connInit := ⟨nofun, nofun, nofun, nofun⟩

namespace FdsOpen

variable {s : ConnFds} (hs : FdsOpen s)
include hs

/-- The descriptor `socket` or `accept` returns is none of those open. -/
theorem opened_not_mem : s.opened ∉ s.openFds := fun h => lt_irrefl _ (hs.lt _ h)

/-- Setting `fd` changes none of the three facts. -/
theorem setFd (f : Option ℕ) : FdsOpen { s with fd := f } :=
  ⟨hs.sock, hs.conn, hs.distinct, hs.lt⟩

theorem clearSock : FdsOpen { s with sockFd := none } := ⟨nofun, hs.conn, nofun, hs.lt⟩

theorem clearConn : FdsOpen { s with connFd := none } :=
  ⟨hs.sock, nofun, fun _ _ => nofun, hs.lt⟩

/-- The open descriptors gain the new one, still below the count. -/
theorem lt_newFd : ∀ d ∈ insert s.opened s.openFds, d < s.opened + 1 := by
  intro d hd
  rcases Finset.mem_insert.1 hd with rfl | hd
  · exact Nat.lt_succ_self _
  · exact Nat.lt_succ_of_lt (hs.lt d hd)

/-- A new socket in `sock_fd`: the one it replaces stays open, and `conn_fd` is older. -/
theorem openSock : FdsOpen s.openSock := by
  refine ⟨?_, ?_, ?_, hs.lt_newFd⟩
  · intro d hd
    rw [openSock_sockFd, Option.mem_def, Option.some.injEq] at hd
    simp [hd]
  · intro d hd
    rw [openSock_openFds]
    exact Finset.mem_insert_of_mem (hs.conn d hd)
  · intro d hd hc
    rw [openSock_sockFd, Option.mem_def, Option.some.injEq] at hd
    rw [openSock_connFd] at hc
    subst hd
    exact hs.opened_not_mem (hs.conn _ hc)

/-- A new connection in `conn_fd`: `sock_fd` is older. -/
theorem openConn : FdsOpen s.openConn := by
  refine ⟨?_, ?_, ?_, hs.lt_newFd⟩
  · intro d hd
    rw [openConn_openFds]
    exact Finset.mem_insert_of_mem (hs.sock d hd)
  · intro d hd
    rw [openConn_connFd, Option.mem_def, Option.some.injEq] at hd
    simp [hd]
  · intro d hd hc
    rw [openConn_connFd, Option.some.injEq] at hc
    subst hc
    exact hs.opened_not_mem (hs.sock _ hd)

/-- Closing what `conn_fd` names keeps `sock_fd` open: they differ. -/
theorem releaseConn : FdsOpen s.releaseConn := by
  rw [releaseConn_eq]
  cases hc : s.connFd with
  | none => exact hs.clearConn
  | some c =>
    refine ⟨?_, nofun, fun _ _ => nofun, fun d hd => hs.lt d (Finset.mem_of_mem_erase hd)⟩
    -- `sock_fd` is not the descriptor closed
    intro d hd
    exact Finset.mem_erase.2 ⟨fun e => hs.distinct d hd (e ▸ hc), hs.sock d hd⟩

/-- Closing what `sock_fd` names keeps `conn_fd` open: they differ. -/
theorem releaseSock : FdsOpen s.releaseSock := by
  rw [releaseSock_eq]
  cases hk : s.sockFd with
  | none => exact hs.clearSock
  | some k =>
    refine ⟨nofun, ?_, nofun, fun d hd => hs.lt d (Finset.mem_of_mem_erase hd)⟩
    intro d hd
    refine Finset.mem_erase.2 ⟨?_, hs.conn d hd⟩
    rintro rfl
    exact hs.distinct _ hk hd

/-- A descriptor open before `conn_connect` opens a socket and closes it again is still open:
the socket closed is the new one. -/
theorem mem_openSock_closeFd {d : ℕ} (hd : d ∈ s.openFds) :
    d ∈ (s.openSock.closeFd s.opened).openFds :=
  Finset.mem_erase.2 ⟨fun e => hs.opened_not_mem (e ▸ hd), Finset.mem_insert_of_mem hd⟩

/-- The socket `conn_connect` opens and closes again: `sock_fd` cleared, the rest as before. -/
theorem openSock_closed : FdsOpen { s.openSock.closeFd s.opened with sockFd := none } :=
  ⟨nofun, fun d hd => hs.mem_openSock_closeFd (hs.conn d hd), nofun,
    fun d hd => hs.lt_newFd d (Finset.mem_of_mem_erase hd)⟩

/-- **Every call keeps `FdsOpen`**, on every platform and whatever the socket calls do. -/
theorem connCall (plat : Platform) (c : ConnCall) : FdsOpen (connCall plat c s) := by
  cases c with
  | listen type env =>
    rcases ConnFds.connListen_cases plat type env s with h | h | h | h <;>
      simp only [OpenElp.connCall, h]
    · exact hs
    · exact hs.clearSock
    · exact hs.openSock
    · exact hs.openSock.setFd _
  | accept env =>
    rcases ConnFds.connAccept_cases env s with h | h | h <;> simp only [OpenElp.connCall, h]
    · exact hs.clearConn
    · exact hs.openConn
    · exact hs.openConn.setFd _
  | connect type env =>
    rcases ConnFds.connConnect_cases plat type env s with h | h | h | h | h <;>
      simp only [OpenElp.connCall, h]
    · exact hs
    · exact hs.clearSock
    · exact hs.openSock
    · exact hs.openSock_closed
    · exact hs.openSock.setFd _
  | io => exact hs
  | shutdown =>
    simp only [OpenElp.connCall, ConnFds.connShutdown]
    split_ifs
    · exact hs.releaseSock
    · exact hs
  | drop =>
    simp only [OpenElp.connCall, ConnFds.connDrop]
    split_ifs
    · exact hs
    · exact (hs.setFd none).releaseConn
  | close =>
    simp only [OpenElp.connCall, ConnFds.connClose, ConnFds.connShutdown]
    split_ifs
    · exact ((hs.releaseSock.setFd none).releaseConn).releaseSock
    · exact ((hs.setFd none).releaseConn).releaseSock

end FdsOpen

/-- **On every platform, `sock_fd` and `conn_fd` only ever name open descriptors.** -/
theorem fdsOpen_reachable {plat : Platform} {s : ConnFds}
    (h : (connSystem plat).Reachable connInit s) : FdsOpen s := by
  refine h.invariant (fun s c s' hs hstep => ?_) fdsOpen_init
  cases hstep
  exact hs.connCall plat c

/-! ### `fd` -/

/-- `fd` is `INVALID_SOCKET` or an open descriptor. -/
def FdOpen (s : ConnFds) : Prop := ∀ d ∈ s.fd, d ∈ s.openFds

/-- `fd` is `INVALID_SOCKET`, `sock_fd` or `conn_fd`. -/
def FdTracked (s : ConnFds) : Prop := s.fd = none ∨ s.fd = s.sockFd ∨ s.fd = s.connFd

/-- Off `_WIN32` and `__APPLE__`, every call keeps `fd` open: nothing closes what it names
without clearing it, and a socket `conn_connect` closes again is newer than it. -/
theorem fdOpen_connCall {s : ConnFds} (hs : FdsOpen s) (hf : FdOpen s) (c : ConnCall) :
    FdOpen (connCall .other c s) := by
  -- a new descriptor keeps `fd` open, and so does a new one in `fd`
  have hnew : FdOpen s.openSock := fun d hd => Finset.mem_insert_of_mem (hf d hd)
  have hnewFd : FdOpen { s.openSock with fd := some s.opened } := by
    intro d hd
    rw [Option.mem_def, Option.some.injEq] at hd
    simp [hd]
  have hnewConn : FdOpen s.openConn := fun d hd => Finset.mem_insert_of_mem (hf d hd)
  have hnewConnFd : FdOpen { s.openConn with fd := some s.opened } := by
    intro d hd
    rw [Option.mem_def, Option.some.injEq] at hd
    simp [hd]
  -- once `fd` is cleared, closing changes nothing of it
  have hclear : ∀ t : ConnFds, FdOpen { t with fd := none }.releaseConn := by
    intro t
    simp [FdOpen, releaseConn_eq]
  cases c with
  | listen type env =>
    rcases ConnFds.connListen_cases .other type env s with h | h | h | h <;>
      simp only [connCall, h]
    · exact hf
    · exact hf
    · exact hnew
    · exact hnewFd
  | accept env =>
    rcases ConnFds.connAccept_cases env s with h | h | h <;> simp only [connCall, h]
    · exact hf
    · exact hnewConn
    · exact hnewConnFd
  | connect type env =>
    rcases ConnFds.connConnect_cases .other type env s with h | h | h | h | h <;>
      simp only [connCall, h]
    · exact hf
    · exact hf
    · exact hnew
    · -- the socket closed is the new one, and `fd` is older
      exact fun d hd => hs.mem_openSock_closeFd (hf d hd)
    · exact hnewFd
  | io => exact hf
  | shutdown => exact hf
  | drop =>
    simp only [connCall, ConnFds.connDrop]
    split_ifs
    · exact hf
    · exact hclear s
  | close =>
    simp only [connCall, ConnFds.connClose, ConnFds.connShutdown, reduceCtorEq, or_self, if_false]
    simp [FdOpen, releaseSock_eq, releaseConn_eq]

/-- **Off `_WIN32` and `__APPLE__`, `fd` only ever names an open descriptor**, so `conn_recv`,
`conn_recv_any`, `conn_send` and `conn_send_to` never operate on a closed one. -/
theorem fdOpen_reachable {s : ConnFds} (h : (connSystem .other).Reachable connInit s) :
    FdOpen s := by
  have key := h.invariant (I := fun s => FdsOpen s ∧ FdOpen s)
    (fun s c s' hs hstep => by
      cases hstep
      exact ⟨hs.1.connCall .other c, fdOpen_connCall hs.1 hs.2 c⟩)
    ⟨fdsOpen_init, nofun⟩
  exact key.2

/-! ### Where `fd` goes astray -/

/-- **On `_WIN32` and `__APPLE__`, `conn_shutdown` closes the socket `fd` names**, clears
`sock_fd` and leaves `fd` on the closed descriptor: `fd` is then neither `INVALID_SOCKET` nor
`sock_fd` nor `conn_fd`, and the calls that use it operate on a closed descriptor. -/
theorem connShutdown_closes_fd {plat : Platform} (hplat : plat ≠ .other) {s : ConnFds}
    (hs : FdsOpen s) {d : ℕ} (hsock : s.sockFd = some d) (hfd : s.fd = some d) :
    ¬ FdTracked (ConnFds.connShutdown plat s) ∧ ¬ FdOpen (ConnFds.connShutdown plat s) := by
  have hrel : ConnFds.connShutdown plat s = s.releaseSock := by
    unfold ConnFds.connShutdown
    rw [if_pos (by cases plat <;> simp_all)]
  have hconn : s.connFd ≠ some d := hs.distinct d hsock
  rw [hrel, releaseSock_eq, hsock]
  constructor
  · rintro (h | h | h) <;> simp_all
  · intro h
    simpa using h d (by simpa using hfd)

/-- **A failed `conn_connect` on a connected handle strands `fd`**: when `socket`, `bind` or
`connect` fails, `sock_fd` is cleared while `fd` keeps the socket it named, still open and no
longer named by `sock_fd` or `conn_fd`. -/
theorem connConnect_strands_fd (plat : Platform) {s : ConnFds} (hs : FdsOpen s) {d : ℕ}
    (hsock : s.sockFd = some d) (hfd : s.fd = some d) {env : SockEnv}
    (henv : env.fails = some .socket ∨ env.fails = some .bind ∨ env.fails = some .connect) :
    ¬ FdTracked (ConnFds.connConnect plat .tcp env s).2 ∧
      FdOpen (ConnFds.connConnect plat .tcp env s).2 := by
  have hconn : s.connFd ≠ some d := hs.distinct d hsock
  have hd : d ∈ s.openFds := hs.sock d hsock
  rcases henv with h | h | h
  · -- `socket` fails: `sock_fd` is `INVALID_SOCKET`
    have e : (ConnFds.connConnect plat .tcp env s).2 = { s with sockFd := none } := by
      simp [ConnFds.connConnect, h]
    rw [e]
    refine ⟨?_, ?_⟩
    · rintro (h | h | h) <;> simp_all
    · intro d' hd'
      change s.fd = some d' at hd'
      rw [hfd, Option.some.injEq] at hd'
      exact hd' ▸ hd
  all_goals
    -- `bind` or `connect` fails: the new socket is closed and `sock_fd` cleared
    have e : (ConnFds.connConnect plat .tcp env s).2 =
        { s.openSock.closeFd s.opened with sockFd := none } := by
      simp [ConnFds.connConnect, h]
    rw [e]
    refine ⟨?_, ?_⟩
    · rintro (h | h | h) <;> simp_all [closeFd]
    · intro d' hd'
      change s.fd = some d' at hd'
      rw [hfd, Option.some.injEq] at hd'
      exact hd' ▸ hs.mem_openSock_closeFd hd

/-- **The descriptors of every handle the calls reach.**  On every platform `sock_fd` and
`conn_fd` name open descriptors, and off `_WIN32` and `__APPLE__` so does `fd`.  But `fd` can
leave `sock_fd` and `conn_fd`: on `_WIN32` and `__APPLE__`, `conn_shutdown` of a handle whose
`fd` is its socket closes that socket and leaves `fd` on the closed descriptor; and on every
platform, a `conn_connect` on such a handle that fails at `socket`, `bind` or `connect` leaves
`fd` on the old socket, which `sock_fd` no longer names. -/
theorem conn_descriptors (plat : Platform) {s : ConnFds}
    (h : (connSystem plat).Reachable connInit s) :
    FdsOpen s ∧ (plat = .other → FdOpen s) ∧
      (plat ≠ .other → ∀ d, s.sockFd = some d → s.fd = some d →
        ¬ FdTracked (ConnFds.connShutdown plat s) ∧ ¬ FdOpen (ConnFds.connShutdown plat s)) ∧
      (∀ d env, s.sockFd = some d → s.fd = some d →
        (env.fails = some .socket ∨ env.fails = some .bind ∨ env.fails = some .connect) →
        ¬ FdTracked (ConnFds.connConnect plat .tcp env s).2 ∧
          FdOpen (ConnFds.connConnect plat .tcp env s).2) := by
  have hs := fdsOpen_reachable h
  refine ⟨hs, fun hplat => ?_, fun hplat d hsock hfd => connShutdown_closes_fd hplat hs hsock hfd,
    fun d env hsock hfd henv => connConnect_strands_fd plat hs hsock hfd henv⟩
  subst hplat
  exact fdOpen_reachable h

/-- The two ways, on one call each: on `__APPLE__`, `conn_shutdown` of a listening UDP socket
leaves `fd` on the descriptor it closed; on any other platform, a second `conn_connect` whose
`connect` fails (`ECONNREFUSED`) leaves `fd` on the first socket, open but named by neither
`sock_fd` nor `conn_fd`. -/
theorem conn_descriptors_astray :
    (∃ s, (connSystem .apple).Run connInit [.listen .udp {}, .shutdown] s ∧
      s.fd = some 0 ∧ 0 ∉ s.openFds ∧ s.sockFd = none ∧ s.connFd = none) ∧
    (∃ s, (connSystem .other).Run connInit
        [.connect .tcp {}, .connect .tcp { fails := some .connect, errno := 111 }] s ∧
      s.fd = some 0 ∧ 0 ∈ s.openFds ∧ s.sockFd = none ∧ s.connFd = none) :=
  ⟨⟨_, Lts.Run.of_exec rfl, rfl, by decide, rfl, rfl⟩,
    ⟨_, Lts.Run.of_exec rfl, rfl, by decide, rfl, rfl⟩⟩

/-- A handle connected on `_WIN32`. -/
theorem conn_descriptors_win32_connected :
    let s := connCall .win32 (.connect .tcp {}) connInit
    (connSystem .win32).Reachable connInit s ∧
      (FdsOpen s ∧ (Platform.win32 = .other → FdOpen s) ∧
        (Platform.win32 ≠ .other → ∀ d, s.sockFd = some d → s.fd = some d →
          ¬ FdTracked (ConnFds.connShutdown .win32 s) ∧
            ¬ FdOpen (ConnFds.connShutdown .win32 s)) ∧
        (∀ d env, s.sockFd = some d → s.fd = some d →
          (env.fails = some .socket ∨ env.fails = some .bind ∨ env.fails = some .connect) →
          ¬ FdTracked (ConnFds.connConnect .win32 .tcp env s).2 ∧
            FdOpen (ConnFds.connConnect .win32 .tcp env s).2)) := by
  intro s
  have h : (connSystem .win32).Reachable connInit s := ⟨[.connect .tcp {}], Lts.Run.single rfl⟩
  exact ⟨h, conn_descriptors .win32 h⟩

end OpenElp
