import OpenElp.Conn
import OpenElp.Msg
import OpenElp.Worker

/-!
# Processing the client's messages (`proxy_conn_process`)

A slot's processing thread calls `proxy_conn_process` until it fails: each call reads a 9-byte
header into the slot's 4096-byte buffer and dispatches on its type.  The data of a message is
read into the same buffer, a piece of at most `CONN_BUFF_LEN` bytes at a time, and sent on:
as datagrams to the address of the header (`UDP_DATA`, `UDP_CONTROL`), or on the remote TCP
connection (`TCP_DATA`).  `TCP_OPEN` connects the remote TCP connection, wakes its forwarder and
answers with `TCP_STATUS`; `TCP_CLOSE` closes it.

The remote side is the environment: what each `conn_connect` does is a list of `Dial`s, and the
remote TCP connection is a `Link` whose `send`s may fail.  What `conn_send_to` returns is only
logged by the code, so the model records the datagrams handed to it and nothing else.

* `proxyConnProcess_handles` : one call on a stream that starts with a client message consumes
  exactly that message and has the effect its type calls for (`Handles`).
* `conn_process_framing` : successive calls on any sequence of client messages, in any
  chunking.
-/

namespace OpenElp

/-- `CONN_BUFF_LEN`: the slot's buffer, which holds a header and then each piece of data. -/
def connBuffLen : ℕ := 4096

/-- A datagram handed to `conn_send_to`: where it goes and its bytes. -/
structure Datagram where
  addr : UInt32
  port : UInt16
  payload : List UInt8
  deriving DecidableEq, Repr

/-- What one `conn_connect` does: it connects to a peer that behaves as `conn`, or fails with a
positive `errno`. -/
inductive Dial
  | connected (conn : Link)
  | refused (errno : ℕ) (pos : 0 < errno)

/-- `conn_connect` on `conn_tcp`: the return value, the connection after and the dials left.
Once the list is used up, a dial connects to a peer that sends nothing. -/
def connConnect (tcp : Link) : List Dial → ℤ × Link × List Dial
  | [] => (0, ⟨true, [], [], [], []⟩, [])
  | .connected conn :: ds => (0, { conn with isOpen := true }, ds)
  | .refused e _ :: ds => (-(e : ℤ), tcp, ds)

/-- The slot as the processing thread sees it. -/
structure ProcConn where
  /-- `priv->conn_client`. -/
  client : Link
  /-- `priv->conn_tcp`. -/
  tcp : Link
  /-- The bytes handed to `conn_send` on `conn_tcp`, in order. -/
  tcpHanded : List UInt8
  /-- The datagrams handed to `conn_send_to` on `conn_control`. -/
  control : List Datagram
  /-- The datagrams handed to `conn_send_to` on `conn_data`. -/
  data : List Datagram
  /-- `priv->worker_tcp`. -/
  workerTcp : Worker
  /-- What the coming `conn_connect` calls on `conn_tcp` do. -/
  dials : List Dial

/-! ### UDP data -/

/-- The loop of `process_data_message` and `process_control_data_message`: pieces of at most
`CONN_BUFF_LEN` bytes from the client, each handed to `conn_send_to` towards `addr:port`,
whatever the earlier ones returned.  It returns `ret`, the client connection and the
datagrams handed so far. -/
def udpLoop (addr : UInt32) (port : UInt16) (msgSize : ℕ) (client : Link)
    (sent : List Datagram) : ℤ × Link × List Datagram :=
  if msgSize = 0 then (0, client, sent)
  else
    match connRecv client (min msgSize connBuffLen) with
    | (ret, bytes, client) =>
      if ret < 0 then (ret, client, sent)
      else if ret = 0 then (-EPIPE, client, sent)
      else udpLoop addr port (msgSize - ret.toNat) client (sent ++ [⟨addr, port, bytes⟩])
termination_by msgSize

/-- `process_control_data_message`: the data goes to port 5199 through `conn_control`. -/
def processControlDataMessage (msg : ProxyMsg) (pc : ProcConn) : ℤ × ProcConn :=
  match udpLoop msg.address 5199 msg.size.toNat pc.client pc.control with
  | (ret, client, control) => (ret, { pc with client, control })

/-- `process_data_message`: the data goes to port 5198 through `conn_data`. -/
def processDataMessage (msg : ProxyMsg) (pc : ProcConn) : ℤ × ProcConn :=
  match udpLoop msg.address 5198 msg.size.toNat pc.client pc.data with
  | (ret, client, data) => (ret, { pc with client, data })

/-! ### TCP messages -/

/-- The loop of `process_tcp_data_message`: pieces of at most `CONN_BUFF_LEN` bytes from the
client, each handed to `conn_send` on `conn_tcp` until one of those fails and closes
`conn_tcp`; after that the data is read and dropped.  It returns `ret`, `tcp_ret`, the client
connection, `conn_tcp` and the bytes handed to it so far. -/
def tcpDataLoop (msgSize : ℕ) (tcpRet : ℤ) (client tcp : Link) (handed : List UInt8) :
    ℤ × ℤ × Link × Link × List UInt8 :=
  if msgSize = 0 then (0, tcpRet, client, tcp, handed)
  else
    match connRecv client (min msgSize connBuffLen) with
    | (ret, bytes, client) =>
      if ret < 0 then (ret, tcpRet, client, tcp, handed)
      else if ret = 0 then (-EPIPE, tcpRet, client, tcp, handed)
      else if tcpRet = 0 then
        match connSend tcp bytes with
        | (tcpRet, tcp) =>
          tcpDataLoop (msgSize - ret.toNat) tcpRet client
            (if tcpRet < 0 then connClose tcp else tcp) (handed ++ bytes)
      else tcpDataLoop (msgSize - ret.toNat) tcpRet client tcp handed
termination_by msgSize

/-- The header `send_tcp_close` sends. -/
def tcpCloseMsg : ProxyMsg := ⟨ProxyMsgType.tcpClose.toByte, 0, 0⟩

/-- `send_tcp_close`. -/
def sendTcpClose (client : Link) : ℤ × Link := connSend client tcpCloseMsg.toBytes

/-- `process_tcp_data_message`; a failed remote `send` is reported with `TCP_CLOSE`, whose own
result is dropped. -/
def processTcpDataMessage (msg : ProxyMsg) (pc : ProcConn) : ℤ × ProcConn :=
  match tcpDataLoop msg.size.toNat 0 pc.client pc.tcp pc.tcpHanded with
  | (ret, tcpRet, client, tcp, handed) =>
    let pc := { pc with client, tcp, tcpHanded := handed }
    if ret < 0 then (ret, pc)
    else if tcpRet ≠ 0 then (0, { pc with client := (sendTcpClose pc.client).2 })
    else (0, pc)

/-- `process_tcp_close_message`. -/
def processTcpCloseMessage (pc : ProcConn) : ℤ × ProcConn :=
  (0, { pc with tcp := connClose pc.tcp })

/-- The number of characters `%hu` prints for a byte. -/
def decimalWidth (b : UInt8) : ℕ := if b < 10 then 1 else if b < 100 then 2 else 3

/-- What `snprintf` returns for the dotted quad of the address bytes. -/
def dottedQuadLength (address : UInt32) : ℕ := ((u32Bytes address).map decimalWidth).sum + 3

/-- The `TCP_STATUS` message: a header of size 4, then the `int` status as it is in memory. -/
def tcpStatusMsg (status : ℤ) : List UInt8 :=
  ProxyMsg.toBytes ⟨ProxyMsgType.tcpStatus.toByte, 0, 4⟩ ++ u32Bytes (UInt32.ofInt status)

/-- `process_tcp_open_message`: connect, wake the TCP forwarder (closing the connection if that
fails), and report the result with `TCP_STATUS`; the return value is that of the report. -/
def processTcpOpenMessage (msg : ProxyMsg) (pc : ProcConn) : ℤ × ProcConn :=
  let len := dottedQuadLength msg.address
  if len < 7 ∨ len > 15 then (-EINVAL, pc)
  else
    match connConnect pc.tcp pc.dials with
    | (ret, tcp, dials) =>
      let pc := { pc with tcp, dials }
      let (ret, pc) :=
        if ret < 0 then (ret, pc)
        else
          match workerWake pc.workerTcp with
          | (ret, w) =>
            (ret, { pc with workerTcp := w, tcp := if ret < 0 then connClose pc.tcp else pc.tcp })
      match connSend pc.client (tcpStatusMsg ret) with
      | (ret, client) => (ret, { pc with client })

/-! ### Dispatch -/

/-- `process_message`: the switch on the header's type. -/
def processMessage (msg : ProxyMsg) (pc : ProcConn) : ℤ × ProcConn :=
  match ProxyMsgType.ofByte msg.type with
  | some .tcpOpen => processTcpOpenMessage msg pc
  | some .tcpData => processTcpDataMessage msg pc
  | some .tcpClose => processTcpCloseMessage pc
  | some .udpData => processDataMessage msg pc
  | some .udpControl => processControlDataMessage msg pc
  | _ => (-EINVAL, pc)

/-- `proxy_conn_process`: read a header, then process its message. -/
def proxyConnProcess (pc : ProcConn) : ℤ × ProcConn :=
  match connRecv pc.client proxyMsgLen with
  | (ret, bytes, client) =>
    if ret < 0 then (ret, { pc with client })
    else processMessage (ProxyMsg.ofBytes bytes) { pc with client }

/-- `do ret = proxy_conn_process(pc); while (ret >= 0);` in `proxy_worker_func`, for at most
`fuel` calls: what the calls returned and the slot after. -/
def processLoop : ℕ → ProcConn → List ℤ × ProcConn
  | 0, pc => ([], pc)
  | fuel + 1, pc =>
    match proxyConnProcess pc with
    | (ret, pc) =>
      if ret < 0 then ([ret], pc)
      else
        match processLoop fuel pc with
        | (rets, pc) => (ret :: rets, pc)

/-! ### The loops on a stream that holds the data -/

/-- Datagrams that carry `payload` to `addr:port`, in order, each of at least one and at most
`CONN_BUFF_LEN` bytes. -/
def IsSplit (addr : UInt32) (port : UInt16) (payload : List UInt8) (ds : List Datagram) : Prop :=
  (ds.map Datagram.payload).flatten = payload ∧
    ∀ d ∈ ds, d.addr = addr ∧ d.port = port ∧ 0 < d.payload.length ∧
      d.payload.length ≤ connBuffLen

theorem isSplit_nil (addr : UInt32) (port : UInt16) : IsSplit addr port [] [] := by
  simp [IsSplit]

theorem IsSplit.cons {addr : UInt32} {port : UInt16} {piece payload : List UInt8}
    {ds : List Datagram} (h : IsSplit addr port payload ds) (hpos : 0 < piece.length)
    (hle : piece.length ≤ connBuffLen) :
    IsSplit addr port (piece ++ payload) (⟨addr, port, piece⟩ :: ds) := by
  obtain ⟨hcat, hds⟩ := h
  refine ⟨by simp [hcat], ?_⟩
  intro d hd
  rcases List.mem_cons.1 hd with rfl | hd
  · exact ⟨rfl, rfl, hpos, hle⟩
  · exact hds d hd

/-- The first piece of a read of `n` bytes: `take n` is that piece and the rest. -/
theorem take_piece (s : List UInt8) {n k : ℕ} (hk : k ≤ n) :
    s.take n = s.take k ++ (s.drop k).take (n - k) := by
  rw [← List.take_add]
  congr 1
  omega

/-- **The UDP loop on a stream that holds the data**, in any chunking: it reads exactly `n`
bytes and hands them on as a split into datagrams. -/
theorem udpLoop_chunks (addr : UInt32) (port : UInt16) (n : ℕ) (client : Link)
    (sent : List Datagram) (ho : client.isOpen = true) (hc : IsChunking client.recvCalls)
    (hn : n ≤ client.inbox.length) :
    ∃ cs ds, udpLoop addr port n client sent =
      (0, { client with inbox := client.inbox.drop n, recvCalls := cs }, sent ++ ds) ∧
      IsChunking cs ∧ IsSplit addr port (client.inbox.take n) ds := by
  induction n using Nat.strong_induction_on generalizing client sent with
  | _ n ih =>
    rw [udpLoop]
    by_cases h0 : n = 0
    · subst h0
      exact ⟨client.recvCalls, [], by simp, hc, by simpa using isSplit_nil addr port⟩
    · -- a piece of `k` bytes, then the rest of the data
      have hk : 0 < min n connBuffLen ∧ min n connBuffLen ≤ n := by
        simp only [connBuffLen]
        omega
      obtain ⟨cs, hrecv, hcs⟩ := connRecv_chunks (n := min n connBuffLen) ho hc (by omega)
      obtain ⟨cs', ds, heq, hcs', hsplit⟩ := ih (n - min n connBuffLen) (by omega)
        { client with inbox := client.inbox.drop (min n connBuffLen), recvCalls := cs }
        (sent ++ [⟨addr, port, client.inbox.take (min n connBuffLen)⟩]) ho hcs (by simp; omega)
      refine ⟨cs', ⟨addr, port, client.inbox.take (min n connBuffLen)⟩ :: ds, ?_, hcs', ?_⟩
      · rw [if_neg h0, hrecv]
        simp only
        rw [if_neg (by omega), if_neg (by omega), Int.toNat_natCast, heq]
        simp [List.drop_drop]
      · rw [take_piece client.inbox hk.2]
        exact hsplit.cons (by simp only [List.length_take]; omega)
          (by simp only [List.length_take]; omega)

/-- Once a remote `send` has failed, the TCP loop reads the rest of the data and drops it. -/
theorem tcpDataLoop_dropping (n : ℕ) {tcpRet : ℤ} (client : Link) (tcp : Link)
    (handed : List UInt8) (htcp : tcpRet ≠ 0) (ho : client.isOpen = true)
    (hc : IsChunking client.recvCalls) (hn : n ≤ client.inbox.length) :
    ∃ cs, tcpDataLoop n tcpRet client tcp handed =
      (0, tcpRet, { client with inbox := client.inbox.drop n, recvCalls := cs }, tcp, handed) ∧
      IsChunking cs := by
  induction n using Nat.strong_induction_on generalizing client with
  | _ n ih =>
    rw [tcpDataLoop]
    by_cases h0 : n = 0
    · subst h0
      exact ⟨client.recvCalls, by simp, hc⟩
    · have hk : 0 < min n connBuffLen ∧ min n connBuffLen ≤ n := by
        simp only [connBuffLen]
        omega
      obtain ⟨cs, hrecv, hcs⟩ := connRecv_chunks (n := min n connBuffLen) ho hc (by omega)
      obtain ⟨cs', heq, hcs'⟩ := ih (n - min n connBuffLen) (by omega)
        { client with inbox := client.inbox.drop (min n connBuffLen), recvCalls := cs }
        ho hcs (by simp; omega)
      refine ⟨cs', ?_, hcs'⟩
      rw [if_neg h0, hrecv]
      simp only
      rw [if_neg (by omega), if_neg (by omega), if_neg htcp, Int.toNat_natCast, heq]
      simp [List.drop_drop]

/-- **The TCP loop on a stream that holds the data**, in any chunking: it reads exactly `n`
bytes; it hands all of them to `conn_tcp`, or, once a remote `send` fails, a prefix of them, and
`conn_tcp` is then closed. -/
theorem tcpDataLoop_chunks (n : ℕ) (client : Link) (tcp : Link) (handed : List UInt8)
    (ho : client.isOpen = true) (hc : IsChunking client.recvCalls)
    (hn : n ≤ client.inbox.length) :
    ∃ cs tcpRet tcp' h, tcpDataLoop n 0 client tcp handed =
      (0, tcpRet, { client with inbox := client.inbox.drop n, recvCalls := cs }, tcp',
        handed ++ h) ∧ IsChunking cs ∧
      ((tcpRet = 0 ∧ h = client.inbox.take n) ∨
        (tcpRet < 0 ∧ h <+: client.inbox.take n ∧ tcp'.isOpen = false)) := by
  induction n using Nat.strong_induction_on generalizing client tcp handed with
  | _ n ih =>
    rw [tcpDataLoop]
    by_cases h0 : n = 0
    · subst h0
      exact ⟨client.recvCalls, 0, tcp, [], by simp, hc, .inl ⟨rfl, by simp⟩⟩
    · have hk : 0 < min n connBuffLen ∧ min n connBuffLen ≤ n := by
        simp only [connBuffLen]
        omega
      obtain ⟨cs, hrecv, hcs⟩ := connRecv_chunks (n := min n connBuffLen) ho hc (by omega)
      rw [if_neg h0, hrecv]
      simp only
      rw [if_neg (by omega), if_neg (by omega), if_pos trivial, Int.toNat_natCast]
      have hpre : client.inbox.take (min n connBuffLen) <+: client.inbox.take n := by
        rw [take_piece client.inbox hk.2]
        exact List.prefix_append _ _
      -- the piece goes to `conn_tcp`; the result of that `send` decides how the loop goes on
      have hr := connSend_nonpos tcp (client.inbox.take (min n connBuffLen))
      rcases hs : connSend tcp (client.inbox.take (min n connBuffLen)) with ⟨r, tcp₁⟩
      rw [hs] at hr
      by_cases hr0 : r = 0
      · subst hr0
        obtain ⟨cs', tcpRet, tcp', h, heq, hcs', hcase⟩ := ih (n - min n connBuffLen) (by omega)
          { client with inbox := client.inbox.drop (min n connBuffLen), recvCalls := cs }
          tcp₁ (handed ++ client.inbox.take (min n connBuffLen)) ho hcs (by simp; omega)
        refine ⟨cs', tcpRet, tcp', client.inbox.take (min n connBuffLen) ++ h, ?_, hcs', ?_⟩
        · rw [if_neg (lt_irrefl 0), heq]
          simp [List.drop_drop]
        · rw [take_piece client.inbox hk.2]
          rcases hcase with ⟨h₁, h₂⟩ | ⟨h₁, h₂, h₃⟩
          · exact .inl ⟨h₁, by rw [h₂]⟩
          · exact .inr ⟨h₁, (List.prefix_append_right_inj _).2 (by simpa using h₂), h₃⟩
      · have hneg : r < 0 := lt_of_le_of_ne hr hr0
        obtain ⟨cs', heq, hcs'⟩ := tcpDataLoop_dropping (n - min n connBuffLen)
          { client with inbox := client.inbox.drop (min n connBuffLen), recvCalls := cs }
          (connClose tcp₁) (handed ++ client.inbox.take (min n connBuffLen)) hr0
          ho hcs (by simp; omega)
        refine ⟨cs', r, connClose tcp₁, client.inbox.take (min n connBuffLen), ?_, hcs',
          .inr ⟨hneg, hpre, rfl⟩⟩
        rw [if_pos hneg, heq]
        simp [List.drop_drop]

/-! ### What handling a message does -/

/-- **What handling a client message does**, by its type: UDP data goes out as datagrams to the
header's address; TCP data goes to `conn_tcp`, all of it, or a prefix when a remote `send`
fails, which closes `conn_tcp` and is reported with `TCP_CLOSE`; `TCP_CLOSE` closes
`conn_tcp`; `TCP_OPEN` is answered with `TCP_STATUS`, whose status `0` means that `conn_tcp`
is open and its forwarder signaled. -/
def Handles (m : ClientMsg) (pc pc' : ProcConn) : Prop :=
  match m.type with
  | .udpData =>
    pc'.client.outbox = pc.client.outbox ∧ pc'.tcp = pc.tcp ∧ pc'.tcpHanded = pc.tcpHanded ∧
      pc'.control = pc.control ∧ ∃ ds, pc'.data = pc.data ++ ds ∧ IsSplit m.address 5198 m.payload ds
  | .udpControl =>
    pc'.client.outbox = pc.client.outbox ∧ pc'.tcp = pc.tcp ∧ pc'.tcpHanded = pc.tcpHanded ∧
      pc'.data = pc.data ∧ ∃ ds, pc'.control = pc.control ++ ds ∧
        IsSplit m.address 5199 m.payload ds
  | .tcpData =>
    pc'.control = pc.control ∧ pc'.data = pc.data ∧ ∃ h, pc'.tcpHanded = pc.tcpHanded ++ h ∧
      ((h = m.payload ∧ pc'.client.outbox = pc.client.outbox) ∨
        (h <+: m.payload ∧ pc'.tcp.isOpen = false ∧
          pc'.client.outbox = pc.client.outbox ++ tcpCloseMsg.toBytes))
  | .tcpClose =>
    pc'.client.outbox = pc.client.outbox ∧ pc'.tcp.isOpen = false ∧
      pc'.tcpHanded = pc.tcpHanded ∧ pc'.control = pc.control ∧ pc'.data = pc.data
  | .tcpOpen =>
    pc'.tcpHanded = pc.tcpHanded ∧ pc'.control = pc.control ∧ pc'.data = pc.data ∧
      ∃ status, pc'.client.outbox = pc.client.outbox ++ tcpStatusMsg status ∧
        (status = 0 → pc'.tcp.isOpen = true ∧ pc'.workerTcp.state = .signaled)
  | .tcpStatus => False

theorem decimalWidth_bounds (b : UInt8) : 1 ≤ decimalWidth b ∧ decimalWidth b ≤ 3 := by
  unfold decimalWidth
  split_ifs <;> omega

/-- Every address prints as a dotted quad of 7 to 15 characters, so the check of
`process_tcp_open_message` never fails. -/
theorem dottedQuadLength_bounds (address : UInt32) :
    7 ≤ dottedQuadLength address ∧ dottedQuadLength address ≤ 15 := by
  have h₀ := decimalWidth_bounds address.toUInt8
  have h₁ := decimalWidth_bounds (address >>> 8).toUInt8
  have h₂ := decimalWidth_bounds (address >>> 16).toUInt8
  have h₃ := decimalWidth_bounds (address >>> 24).toUInt8
  simp only [dottedQuadLength, u32Bytes, List.map_cons, List.map_nil, List.sum_cons,
    List.sum_nil]
  omega

/-- A dial returns `0` with the connection open, or a negative error. -/
theorem connConnect_cases (tcp : Link) (ds : List Dial) :
    (connConnect tcp ds).1 < 0 ∨
      ((connConnect tcp ds).1 = 0 ∧ (connConnect tcp ds).2.1.isOpen = true) := by
  cases ds with
  | nil => exact .inr ⟨rfl, rfl⟩
  | cons d ds =>
    cases d with
    | connected conn => exact .inr ⟨rfl, rfl⟩
    | refused e he => exact .inl (by simp [connConnect]; omega)

section Handling

variable {pc : ProcConn} {payload rest : List UInt8}

/-- `process_tcp_open_message` with a healthy client connection: whatever the dial and the
forwarder do, it answers with `TCP_STATUS` and returns `0`. -/
theorem processTcpOpenMessage_spec (msg : ProxyMsg) (hcl : pc.client.Healthy) :
    ∃ pc', processTcpOpenMessage msg pc = (0, pc') ∧ pc'.client.inbox = pc.client.inbox ∧
      pc'.client.Healthy ∧ pc'.tcpHanded = pc.tcpHanded ∧ pc'.control = pc.control ∧
      pc'.data = pc.data ∧ ∃ status, pc'.client.outbox = pc.client.outbox ++ tcpStatusMsg status ∧
        (status = 0 → pc'.tcp.isOpen = true ∧ pc'.workerTcp.state = .signaled) := by
  have hlen := dottedQuadLength_bounds msg.address
  have hdial := connConnect_cases pc.tcp pc.dials
  rcases hd : connConnect pc.tcp pc.dials with ⟨r, tcp, dials⟩
  rw [hd] at hdial
  unfold processTcpOpenMessage
  rw [if_neg (by omega), hd]
  simp only
  rcases hdial with hneg | ⟨rfl, hopen⟩
  · -- the dial failed: its error is the status
    obtain ⟨hsend, hcl'⟩ := hcl.send (tcpStatusMsg r)
    simp only [if_pos hneg, hsend]
    exact ⟨_, rfl, rfl, hcl', rfl, rfl, rfl, r, rfl, fun h => absurd h hneg.ne⟩
  · -- the dial connected: the wake's result is the status
    have hws := @workerWake_signaled pc.workerTcp
    rcases hw : workerWake pc.workerTcp with ⟨r', w⟩
    rw [hw] at hws
    obtain ⟨hsend, hcl'⟩ := hcl.send (tcpStatusMsg r')
    simp only [lt_irrefl, if_false, hsend]
    refine ⟨_, rfl, rfl, hcl', rfl, rfl, rfl, r', rfl, fun h0 => ?_⟩
    subst h0
    exact ⟨hopen, hws rfl⟩

/-- `process_tcp_data_message` on a healthy client connection that holds the data: it consumes
the data and returns `0`, whatever the remote connection does. -/
theorem processTcpDataMessage_spec (msg : ProxyMsg) (hcl : pc.client.Healthy)
    (hin : pc.client.inbox = payload ++ rest) (hsize : msg.size.toNat = payload.length) :
    ∃ pc', processTcpDataMessage msg pc = (0, pc') ∧ pc'.client.inbox = rest ∧
      pc'.client.Healthy ∧ pc'.control = pc.control ∧ pc'.data = pc.data ∧
      ∃ h, pc'.tcpHanded = pc.tcpHanded ++ h ∧
        ((h = payload ∧ pc'.client.outbox = pc.client.outbox) ∨
          (h <+: payload ∧ pc'.tcp.isOpen = false ∧
            pc'.client.outbox = pc.client.outbox ++ tcpCloseMsg.toBytes)) := by
  have htake : pc.client.inbox.take payload.length = payload := by simp [hin]
  have hdrop : pc.client.inbox.drop payload.length = rest := by simp [hin]
  obtain ⟨cs, tcpRet, tcp', h, heq, hcs, hcase⟩ := tcpDataLoop_chunks payload.length pc.client
    pc.tcp pc.tcpHanded hcl.isOpen hcl.chunking (by simp [hin])
  rw [htake] at hcase
  have hcl' : ({ pc.client with inbox := rest, recvCalls := cs } : Link).Healthy :=
    ⟨hcl.isOpen, hcs, hcl.whole⟩
  unfold processTcpDataMessage
  rw [hsize, heq, hdrop]
  simp only
  rw [if_neg (lt_irrefl 0)]
  rcases hcase with ⟨h0, rfl⟩ | ⟨hneg, hpre, hclosed⟩
  · -- every remote `send` went through
    rw [if_neg (by simp [h0])]
    exact ⟨_, rfl, rfl, hcl', rfl, rfl, h, rfl, .inl ⟨rfl, rfl⟩⟩
  · -- a remote `send` failed: `TCP_CLOSE` goes to the client
    obtain ⟨hsend, hcl''⟩ := hcl'.send tcpCloseMsg.toBytes
    rw [if_pos hneg.ne, sendTcpClose, hsend]
    exact ⟨_, rfl, rfl, hcl'', rfl, rfl, h, rfl, .inr ⟨hpre, hclosed, rfl⟩⟩

/-- **One client message, handled**: `process_message` on the header of a client message whose
data the stream holds consumes the data, returns `0`, and has the effect `Handles` gives its
type. -/
theorem processMessage_handles (m : ClientMsg) (hcl : pc.client.Healthy)
    (hin : pc.client.inbox = m.payload ++ rest) :
    ∃ pc', processMessage m.header pc = (0, pc') ∧ pc'.client.inbox = rest ∧
      pc'.client.Healthy ∧ Handles m pc pc' := by
  have hsize : m.header.size.toNat = m.payload.length := m.toFrame.header_size
  have htake : pc.client.inbox.take m.payload.length = m.payload := by simp [hin]
  have hdrop : pc.client.inbox.drop m.payload.length = rest := by simp [hin]
  have hlen : m.payload.length ≤ pc.client.inbox.length := by simp [hin]
  unfold processMessage Handles
  rw [show m.header.type = m.type.toByte from rfl, ProxyMsgType.ofByte_toByte]
  cases ht : m.type with
  | tcpOpen =>
    have hnil := m.empty_of_open_close (.inl ht)
    obtain ⟨pc', heq, hinbox, hcl', hrest⟩ := processTcpOpenMessage_spec m.header hcl
    exact ⟨pc', heq, by rw [hinbox, hin, hnil, List.nil_append], hcl', hrest⟩
  | tcpData => exact processTcpDataMessage_spec m.header hcl hin hsize
  | tcpClose =>
    have hnil := m.empty_of_open_close (.inr ht)
    exact ⟨_, rfl, by simp [hin, hnil], hcl, rfl, rfl, rfl, rfl, rfl⟩
  | tcpStatus => exact absurd ht m.not_status
  | udpData =>
    obtain ⟨cs, ds, heq, hcs, hsplit⟩ := udpLoop_chunks m.address 5198 m.payload.length
      pc.client pc.data hcl.isOpen hcl.chunking hlen
    rw [htake] at hsplit
    refine ⟨{ pc with
      client := { pc.client with inbox := pc.client.inbox.drop m.payload.length, recvCalls := cs },
      data := pc.data ++ ds }, ?_, hdrop, ⟨hcl.isOpen, hcs, hcl.whole⟩, rfl, rfl, rfl, rfl, ds,
      rfl, hsplit⟩
    show processDataMessage m.header pc = _
    rw [processDataMessage, hsize, show m.header.address = m.address from rfl, heq]
  | udpControl =>
    obtain ⟨cs, ds, heq, hcs, hsplit⟩ := udpLoop_chunks m.address 5199 m.payload.length
      pc.client pc.control hcl.isOpen hcl.chunking hlen
    rw [htake] at hsplit
    refine ⟨{ pc with
      client := { pc.client with inbox := pc.client.inbox.drop m.payload.length, recvCalls := cs },
      control := pc.control ++ ds }, ?_, hdrop, ⟨hcl.isOpen, hcs, hcl.whole⟩, rfl, rfl, rfl, rfl,
      ds, rfl, hsplit⟩
    show processControlDataMessage m.header pc = _
    rw [processControlDataMessage, hsize, show m.header.address = m.address from rfl, heq]

/-- One call of `proxy_conn_process` that handles the client message `m`: it returns `0`,
consumes exactly the message's `9 + size` bytes, and has the effect of the message's type. -/
def ProcessesMsg (pc : ProcConn) (m : ClientMsg) (pc' : ProcConn) : Prop :=
  proxyConnProcess pc = (0, pc') ∧
    pc'.client.inbox = pc.client.inbox.drop (proxyMsgLen + m.payload.length) ∧ Handles m pc pc'

/-- The processing thread as a transition system labelled by the messages it handles. -/
def processLts : Lts ProcConn ClientMsg := ⟨ProcessesMsg⟩

/-- **One call, one message**: on a healthy client connection whose stream starts with a client
message, `proxy_conn_process` handles exactly that message. -/
theorem proxyConnProcess_handles (m : ClientMsg) (hcl : pc.client.Healthy)
    (hin : pc.client.inbox = m.encode ++ rest) :
    ∃ pc', ProcessesMsg pc m pc' ∧ pc'.client.inbox = rest ∧ pc'.client.Healthy := by
  have hlen : proxyMsgLen ≤ pc.client.inbox.length := by simp [hin]; omega
  obtain ⟨cs, hrecv, hcl₁⟩ := hcl.recv hlen
  -- the header, then the data
  have hhead : pc.client.inbox.take proxyMsgLen = m.header.toBytes := by
    rw [hin, Frame.encode, List.append_assoc]
    exact List.take_left' (ProxyMsg.toBytes_length _)
  have hbody : pc.client.inbox.drop proxyMsgLen = m.payload ++ rest := by
    rw [hin, Frame.encode, List.append_assoc]
    exact List.drop_left' (ProxyMsg.toBytes_length _)
  have hdecode : ProxyMsg.ofBytes m.header.toBytes = m.header := by
    simpa using ProxyMsg.ofBytes_toBytes m.header []
  obtain ⟨pc', heq, hinbox, hcl', hh⟩ := @processMessage_handles
    { pc with client := { pc.client with
      inbox := pc.client.inbox.drop proxyMsgLen, recvCalls := cs } } rest m hcl₁ hbody
  refine ⟨pc', ⟨?_, ?_, hh⟩, hinbox, hcl'⟩
  · rw [proxyConnProcess, hrecv]
    simp only
    rw [if_neg (by omega), hhead, hdecode]
    exact heq
  · rw [hinbox, hin, List.drop_left' (Frame.encode_length m.toFrame)]

end Handling

/-- **Framing of the client's messages.**  Deliver any sequence of client messages, followed by
any bytes, on a client connection that does not fail (its `recv`s come in any chunking).  Then
successive calls of `proxy_conn_process`, as `proxy_worker_func` makes them, each handle exactly
one message: each returns `0`, consumes the message's `9 + size` bytes, and has the effect its
type calls for, whatever the remote connection, the dials and the datagram sends do. -/
theorem conn_process_framing (msgs : List ClientMsg) (rest : List UInt8) (pc : ProcConn)
    (hcl : pc.client.Healthy) (hin : pc.client.inbox = (msgs.map (·.encode)).flatten ++ rest) :
    ∃ pc', processLts.Run pc msgs pc' ∧
      processLoop msgs.length pc = (msgs.map fun _ => 0, pc') ∧ pc'.client.inbox = rest := by
  induction msgs generalizing pc with
  | nil => exact ⟨pc, .nil pc, rfl, by simpa using hin⟩
  | cons m ms ih =>
    rw [List.map_cons, List.flatten_cons, List.append_assoc] at hin
    obtain ⟨pc₁, hproc, hinbox₁, hcl₁⟩ := proxyConnProcess_handles m hcl hin
    obtain ⟨pc', hrun, hloop, hinbox⟩ := ih pc₁ hcl₁ hinbox₁
    refine ⟨pc', .cons hproc hrun, ?_, hinbox⟩
    rw [List.length_cons, processLoop, hproc.1]
    simp only [lt_irrefl, if_false, hloop, List.map_cons]

/-- A `UDP_DATA` message of three bytes for 127.0.0.1. -/
def udpSample : ClientMsg :=
  ⟨⟨.udpData, 0x0100007f, [1, 2, 3], by decide⟩, by decide, by decide⟩

/-- A slot whose client has sent `udpSample` and nothing more. -/
def udpSampleConn : ProcConn :=
  ⟨⟨true, udpSample.encode, [], [], []⟩, ⟨false, [], [], [], []⟩, [], [], [], Worker.init, []⟩

theorem conn_process_framing_udp :
    (udpSampleConn.client.Healthy ∧
      udpSampleConn.client.inbox = ([udpSample].map (·.encode)).flatten ++ []) ∧
    ∃ pc', processLts.Run udpSampleConn [udpSample] pc' ∧
      processLoop [udpSample].length udpSampleConn = ([udpSample].map fun _ => 0, pc') ∧
      pc'.client.inbox = [] :=
  ⟨⟨⟨rfl, fun _ h => absurd h List.not_mem_nil, rfl⟩, by simp [udpSampleConn]⟩,
    conn_process_framing _ [] _ ⟨rfl, fun _ h => absurd h List.not_mem_nil, rfl⟩
      (by simp [udpSampleConn])⟩

end OpenElp
