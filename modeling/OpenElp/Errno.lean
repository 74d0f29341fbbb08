import Mathlib.Data.Int.Init

/-!
# Return values

The functions of the proxy return `0` (or a count) on success and a negated `errno` value on
failure; the callers test for particular codes, so the model names them with their Linux
values.
-/

namespace OpenElp

/-- `EINTR`: interrupted system call. -/
def EINTR : ℤ := 4

/-- `ENOMEM`: out of memory. -/
def ENOMEM : ℤ := 12

/-- `EACCES`: permission denied (a client that fails authorization). -/
def EACCES : ℤ := 13

/-- `EBUSY`: device or resource busy (a slot or a worker that already has a client). -/
def EBUSY : ℤ := 16

/-- `EINVAL`: invalid argument. -/
def EINVAL : ℤ := 22

/-- `ENOSPC`: no space left (a message larger than the buffer given to `proxy_client_recv`). -/
def ENOSPC : ℤ := 28

/-- `EPIPE`: broken pipe; also what `conn_recv` and `conn_recv_any` make of a receive of zero
bytes. -/
def EPIPE : ℤ := 32

/-- `ENOTSUP`: operation not supported (what the stubs of a build without syslog or the event
log return). -/
def ENOTSUP : ℤ := 95

/-- `EPROTOTYPE`: a stream call on a datagram socket or the other way round. -/
def EPROTOTYPE : ℤ := 91

/-- `EADDRNOTAVAIL`: `getaddrinfo` found no address for the host and port asked for. -/
def EADDRNOTAVAIL : ℤ := 99

/-- `ECONNRESET`: connection reset by peer. -/
def ECONNRESET : ℤ := 104

/-- `ENOTCONN`: the socket is not connected (`fd == INVALID_SOCKET` in `conn.c`). -/
def ENOTCONN : ℤ := 107

/-- The codes after which the forwarders and `proxy_conn_process` consider the client gone
rather than failed (`case -ECONNRESET: case -EINTR: case -ENOTCONN: case -EPIPE:`). -/
def isDisconnect (ret : ℤ) : Bool :=
  ret = -ECONNRESET || ret = -EINTR || ret = -ENOTCONN || ret = -EPIPE

end OpenElp
