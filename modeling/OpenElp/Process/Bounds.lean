import OpenElp.Process
import OpenElp.Authorize.Bounds

/-!
# The arrays of `proxy_conn_process`

`proxyConnProcess` passes the header and each piece of data on as values.  In the source they
pass through `priv->buff[CONN_BUFF_LEN]`: `conn_recv` stores the header at its start,
`process_message` reads the header's fields back from it, and each piece of data is received into
it at offset `0` and sent from there.  `process_tcp_open_message` prints the address into
`char addr[16]` and builds its reply in `status_buf[sizeof(struct proxy_msg) + 4]`.  Here each of
these accesses is a load or a store of `Buf`, which fails outside its array.

* `udpLoop?_eq`, `tcpDataLoop?_eq`, `processTcpOpenMessage?_eq` : the loops and the opening of a
  TCP connection never leave their arrays, and compute what `Process` computes;
* `proxyConnProcess?_eq` : **every access of `proxy_conn_process` stays inside `buff[4096]`,
  `addr[16]` and `status_buf[13]`**, for every stream in any chunking, and the result is that
  of `proxyConnProcess`;
* `proxyConnProcess_reads`, `proxyConnProcess_reads_exactly` : a call reads at most the header
  and the data its type reads (`msgDataLen`), and exactly that much from a connection that does
  not fail;
* `client_input_in_bounds` : **the two parsers of client input stay in bounds**: what
  `Authorize.Bounds` shows of `proxy_worker_authorize`, with what this module shows of
  `proxy_conn_process`.
-/

namespace OpenElp

/-! ### `TCP_OPEN` on its arrays -/

/-- The text `snprintf` prints for `"%hu.%hu.%hu.%hu"` and the four bytes of the address. -/
def dottedQuad (address : UInt32) : List UInt8 :=
  List.intercalate [46] ((u32Bytes address).map fun b => (Nat.toDigits 10 b.toNat).map Char.toUInt8)

/-- `%hu` of a byte prints `decimalWidth` digits. -/
theorem length_toDigits_byte (b : UInt8) : (Nat.toDigits 10 b.toNat).length = decimalWidth b := by
  have hle : ∀ k, 0 < k → ((Nat.toDigits 10 b.toNat).length ≤ k ↔ b.toNat < 10 ^ k) :=
    fun k hk => Nat.length_toDigits_le_iff (by decide) hk
  have hpos : 0 < (Nat.toDigits 10 b.toNat).length := Nat.length_toDigits_pos
  have hb := b.toNat_lt
  unfold decimalWidth
  split_ifs with h₁ h₂
  · -- one digit
    have h₁' : b.toNat < 10 := by simpa [UInt8.lt_iff_toNat_lt] using h₁
    have := (hle 1 (by decide)).2 (by simpa using h₁')
    omega
  · -- two digits
    have h₁' : ¬b.toNat < 10 := by simpa [UInt8.lt_iff_toNat_lt] using h₁
    have h₂' : b.toNat < 100 := by simpa [UInt8.lt_iff_toNat_lt] using h₂
    have hup := (hle 2 (by decide)).2 (by simpa using h₂')
    have hlow := (hle 1 (by decide)).not.2 (by simpa using h₁')
    omega
  · -- three digits
    have h₂' : ¬b.toNat < 100 := by simpa [UInt8.lt_iff_toNat_lt] using h₂
    have hup := (hle 3 (by decide)).2 (by simp; omega)
    have hlow := (hle 2 (by decide)).not.2 (by simpa using h₂')
    omega

/-- The dotted quad has the length `dottedQuadLength` counts. -/
theorem dottedQuad_length (address : UInt32) :
    (dottedQuad address).length = dottedQuadLength address := by
  simp only [dottedQuad, dottedQuadLength, u32Bytes, List.map_cons, List.map_nil,
    List.intercalate_cons_cons, List.intercalate_singleton, List.length_append, List.length_map,
    length_toDigits_byte, List.sum_cons, List.sum_nil, List.length_singleton]
  omega

/-- The reply of `process_tcp_open_message`, built in `status_buf`: the type and the size into
its header (the address stays `0`), the status after it, and the `sizeof(*status_msg) +
status_msg->size` bytes `conn_send` reads. -/
def tcpStatusBuf? (status : ℤ) : Option (List UInt8) :=
  (Buf.store? (List.replicate (proxyMsgLen + 4) 0) 0 [ProxyMsgType.tcpStatus.toByte]).bind
    fun sb => (Buf.store? sb 5 (u32Bytes 4)).bind
    fun sb => (Buf.store? sb proxyMsgLen (u32Bytes (UInt32.ofInt status))).bind
    fun sb => Buf.load? sb 0 (proxyMsgLen + 4)

/-- `status_buf` holds the `TCP_STATUS` message. -/
theorem tcpStatusBuf?_eq (status : ℤ) : tcpStatusBuf? status = some (tcpStatusMsg status) := by
  simp [tcpStatusBuf?, tcpStatusMsg, Buf.store?, Buf.load?, u32Bytes, ProxyMsg.toBytes,
    proxyMsgLen, ProxyMsgType.toByte]

/-- `process_tcp_open_message` with its arrays: `snprintf` into `addr[16]`, which writes at most
15 characters and a NUL and returns the length of the text, and the reply from `status_buf`. -/
def processTcpOpenMessage? (msg : ProxyMsg) (pc : ProcConn) : Option (ℤ × ProcConn) :=
  (Buf.store? (List.replicate 16 0) 0 ((dottedQuad msg.address).take 15 ++ [0])).bind fun _ =>
  let len := (dottedQuad msg.address).length
  if len < 7 ∨ len > 15 then some (-EINVAL, pc)
  else
    match connConnect pc.tcp pc.dials with
    | (ret, tcp, dials) =>
      let pc := { pc with tcp, dials }
      let (ret, pc) :=
        if ret < 0 then (ret, pc)
        else
          match workerWake pc.workerTcp with
          | (ret, w) =>
            (ret, { pc with workerTcp := w, tcp := if ret < 0 then connClose pc.tcp else pc.tcp })
      (tcpStatusBuf? ret).bind fun reply =>
      match connSend pc.client reply with
      | (ret, client) => some (ret, { pc with client })

/-- `snprintf` stays inside `addr[16]` and `status_buf` holds the reply: the open is the one of
`Process`. -/
theorem processTcpOpenMessage?_eq (msg : ProxyMsg) (pc : ProcConn) :
    processTcpOpenMessage? msg pc = some (processTcpOpenMessage msg pc) := by
  obtain ⟨addr, haddr, -⟩ := Buf.store?_of_le
    (show 0 + ((dottedQuad msg.address).take 15 ++ [0]).length ≤ (List.replicate 16 (0 : UInt8)).length by
      simp only [List.length_append, List.length_take, List.length_singleton,
        List.length_replicate]
      omega)
  unfold processTcpOpenMessage? processTcpOpenMessage
  rw [haddr, Option.bind_some, dottedQuad_length]
  simp only [tcpStatusBuf?_eq, Option.bind_some]
  -- the two now take the same branches: the check of the length, the dial and the wake
  split_ifs <;> rfl

/-! ### The loops on `priv->buff` -/

/-- The loop of `process_data_message` and `process_control_data_message` on `priv->buff`: each
piece is received into it at offset `0`, and the `ret` bytes there are handed to
`conn_send_to`. -/
def udpLoop? (addr : UInt32) (port : UInt16) (msgSize : ℕ) (buff : List UInt8) (client : Link)
    (sent : List Datagram) : Option ((ℤ × Link × List Datagram) × List UInt8) :=
  if msgSize = 0 then some ((0, client, sent), buff)
  else
    match connRecv client (min msgSize connBuffLen) with
    | (ret, bytes, client) =>
      (Buf.store? buff 0 bytes).bind fun buff =>
        if ret < 0 then some ((ret, client, sent), buff)
        else if ret = 0 then some ((-EPIPE, client, sent), buff)
        else
          (Buf.load? buff 0 ret.toNat).bind fun piece =>
            udpLoop? addr port (msgSize - ret.toNat) buff client (sent ++ [⟨addr, port, piece⟩])
termination_by msgSize

/-- The loop of `process_tcp_data_message` on `priv->buff`. -/
def tcpDataLoop? (msgSize : ℕ) (tcpRet : ℤ) (buff : List UInt8) (client tcp : Link)
    (handed : List UInt8) : Option ((ℤ × ℤ × Link × Link × List UInt8) × List UInt8) :=
  if msgSize = 0 then some ((0, tcpRet, client, tcp, handed), buff)
  else
    match connRecv client (min msgSize connBuffLen) with
    | (ret, bytes, client) =>
      (Buf.store? buff 0 bytes).bind fun buff =>
        if ret < 0 then some ((ret, tcpRet, client, tcp, handed), buff)
        else if ret = 0 then some ((-EPIPE, tcpRet, client, tcp, handed), buff)
        else if tcpRet = 0 then
          (Buf.load? buff 0 ret.toNat).bind fun piece =>
            match connSend tcp piece with
            | (tcpRet, tcp) =>
              tcpDataLoop? (msgSize - ret.toNat) tcpRet buff client
                (if tcpRet < 0 then connClose tcp else tcp) (handed ++ piece)
        else tcpDataLoop? (msgSize - ret.toNat) tcpRet buff client tcp handed
termination_by msgSize

/-- One `conn_recv` of a loop, of at most `CONN_BUFF_LEN` bytes: it takes a prefix of the stream,
and a positive count is the length of what it took. -/
theorem piece_recv (client : Link) (n : ℕ) :
    client.inbox = (connRecv client (min n connBuffLen)).2.1 ++
        (connRecv client (min n connBuffLen)).2.2.inbox ∧
      (connRecv client (min n connBuffLen)).2.1.length ≤ min n connBuffLen ∧
      (0 < (connRecv client (min n connBuffLen)).1 →
        (connRecv client (min n connBuffLen)).1.toNat =
          (connRecv client (min n connBuffLen)).2.1.length) := by
  obtain ⟨hpre, hlen, -, hret⟩ := connRecv_prefix client (min n connBuffLen)
  refine ⟨hpre, hlen, fun hpos => ?_⟩
  -- a positive count read the whole piece
  rcases hret hpos.le with ⟨h₁, h₂⟩ | ⟨h₁, -⟩ <;> omega

/-- One piece of a loop in the buffer: the store of what `conn_recv` read fits a buffer of
`CONN_BUFF_LEN` bytes, and a load of the count it returned reads the piece back. -/
theorem piece_store? {buff : List UInt8} (hbuff : connBuffLen ≤ buff.length) (client : Link)
    (n : ℕ) :
    ∃ buff', Buf.store? buff 0 (connRecv client (min n connBuffLen)).2.1 = some buff' ∧
      buff'.length = buff.length ∧
      (0 < (connRecv client (min n connBuffLen)).1 →
        (connRecv client (min n connBuffLen)).1.toNat ≤ n ∧
        Buf.load? buff' 0 (connRecv client (min n connBuffLen)).1.toNat =
          some (connRecv client (min n connBuffLen)).2.1) := by
  obtain ⟨-, hlen, hcount⟩ := piece_recv client n
  obtain ⟨buff', hb, hlen'⟩ := Buf.store?_of_le
    (show 0 + (connRecv client (min n connBuffLen)).2.1.length ≤ buff.length by omega)
  refine ⟨buff', hb, hlen', fun hpos => ⟨?_, ?_⟩⟩
  · rw [hcount hpos]
    omega
  · rw [hcount hpos]
    exact Buf.load?_store? hb

/-- The UDP loop never leaves `priv->buff`, and hands on what `udpLoop` hands on. -/
theorem udpLoop?_eq (addr : UInt32) (port : UInt16) (n : ℕ) {buff : List UInt8}
    (hbuff : connBuffLen ≤ buff.length) (client : Link) (sent : List Datagram) :
    ∃ buff', udpLoop? addr port n buff client sent = some (udpLoop addr port n client sent, buff') ∧
      buff'.length = buff.length := by
  induction n using Nat.strong_induction_on generalizing buff client sent with
  | _ n ih =>
    rw [udpLoop?, udpLoop]
    by_cases h0 : n = 0
    · exact ⟨buff, by rw [if_pos h0, if_pos h0], rfl⟩
    rw [if_neg h0, if_neg h0]
    obtain ⟨buff₁, hb₁, hlen₁, hload⟩ := piece_store? hbuff client n
    rcases hr : connRecv client (min n connBuffLen) with ⟨ret, bytes, client'⟩
    rw [hr] at hb₁ hload
    dsimp only at hb₁ hload ⊢
    rw [hb₁, Option.bind_some]
    by_cases hneg : ret < 0
    · exact ⟨buff₁, by rw [if_pos hneg, if_pos hneg], hlen₁⟩
    rw [if_neg hneg, if_neg hneg]
    by_cases hz : ret = 0
    · exact ⟨buff₁, by rw [if_pos hz, if_pos hz], hlen₁⟩
    rw [if_neg hz, if_neg hz]
    -- the piece is read back from the buffer, and the loop goes on with the rest
    obtain ⟨hle, hpiece⟩ := hload (by omega)
    rw [hpiece, Option.bind_some]
    obtain ⟨buff', heq, hlen'⟩ := ih (n - ret.toNat) (by omega) (hlen₁ ▸ hbuff) client'
      (sent ++ [⟨addr, port, bytes⟩])
    exact ⟨buff', heq, hlen'.trans hlen₁⟩

/-- The TCP loop never leaves `priv->buff`, and does what `tcpDataLoop` does. -/
theorem tcpDataLoop?_eq (n : ℕ) (tcpRet : ℤ) {buff : List UInt8} (hbuff : connBuffLen ≤ buff.length)
    (client tcp : Link) (handed : List UInt8) :
    ∃ buff', tcpDataLoop? n tcpRet buff client tcp handed =
        some (tcpDataLoop n tcpRet client tcp handed, buff') ∧ buff'.length = buff.length := by
  induction n using Nat.strong_induction_on generalizing tcpRet buff client tcp handed with
  | _ n ih =>
    rw [tcpDataLoop?, tcpDataLoop]
    by_cases h0 : n = 0
    · exact ⟨buff, by rw [if_pos h0, if_pos h0], rfl⟩
    rw [if_neg h0, if_neg h0]
    obtain ⟨buff₁, hb₁, hlen₁, hload⟩ := piece_store? hbuff client n
    rcases hr : connRecv client (min n connBuffLen) with ⟨ret, bytes, client'⟩
    rw [hr] at hb₁ hload
    dsimp only at hb₁ hload ⊢
    rw [hb₁, Option.bind_some]
    by_cases hneg : ret < 0
    · exact ⟨buff₁, by rw [if_pos hneg, if_pos hneg], hlen₁⟩
    rw [if_neg hneg, if_neg hneg]
    by_cases hz : ret = 0
    · exact ⟨buff₁, by rw [if_pos hz, if_pos hz], hlen₁⟩
    rw [if_neg hz, if_neg hz]
    obtain ⟨hle, hpiece⟩ := hload (by omega)
    have hbuff₁ : connBuffLen ≤ buff₁.length := hlen₁ ▸ hbuff
    by_cases ht : tcpRet = 0
    · -- the piece goes to `conn_tcp` from the buffer
      rw [if_pos ht, if_pos ht, hpiece, Option.bind_some]
      rcases connSend tcp bytes with ⟨tcpRet', tcp'⟩
      obtain ⟨buff', heq, hlen'⟩ := ih (n - ret.toNat) (by omega) tcpRet' hbuff₁ client'
        (if tcpRet' < 0 then connClose tcp' else tcp') (handed ++ bytes)
      exact ⟨buff', heq, hlen'.trans hlen₁⟩
    · -- a remote `send` has failed: the piece is read and dropped
      rw [if_neg ht, if_neg ht]
      obtain ⟨buff', heq, hlen'⟩ := ih (n - ret.toNat) (by omega) tcpRet hbuff₁ client' tcp handed
      exact ⟨buff', heq, hlen'.trans hlen₁⟩

/-! ### `proxy_conn_process` on its arrays -/

/-- `process_data_message` on `priv->buff`. -/
def processDataMessage? (msg : ProxyMsg) (buff : List UInt8) (pc : ProcConn) :
    Option ((ℤ × ProcConn) × List UInt8) :=
  (udpLoop? msg.address 5198 msg.size.toNat buff pc.client pc.data).map
    fun ((ret, client, data), buff) => ((ret, { pc with client, data }), buff)

/-- `process_control_data_message` on `priv->buff`. -/
def processControlDataMessage? (msg : ProxyMsg) (buff : List UInt8) (pc : ProcConn) :
    Option ((ℤ × ProcConn) × List UInt8) :=
  (udpLoop? msg.address 5199 msg.size.toNat buff pc.client pc.control).map
    fun ((ret, client, control), buff) => ((ret, { pc with client, control }), buff)

/-- `process_tcp_data_message` on `priv->buff`. -/
def processTcpDataMessage? (msg : ProxyMsg) (buff : List UInt8) (pc : ProcConn) :
    Option ((ℤ × ProcConn) × List UInt8) :=
  (tcpDataLoop? msg.size.toNat 0 buff pc.client pc.tcp pc.tcpHanded).map
    fun ((ret, tcpRet, client, tcp, handed), buff) =>
      let pc := { pc with client, tcp, tcpHanded := handed }
      (if ret < 0 then (ret, pc)
        else if tcpRet ≠ 0 then (0, { pc with client := (sendTcpClose pc.client).2 })
        else (0, pc), buff)

/-- `process_message` on `priv->buff`. -/
def processMessage? (msg : ProxyMsg) (buff : List UInt8) (pc : ProcConn) :
    Option ((ℤ × ProcConn) × List UInt8) :=
  match ProxyMsgType.ofByte msg.type with
  | some .tcpOpen => (processTcpOpenMessage? msg pc).map fun r => (r, buff)
  | some .tcpData => processTcpDataMessage? msg buff pc
  | some .tcpClose => some (processTcpCloseMessage pc, buff)
  | some .udpData => processDataMessage? msg buff pc
  | some .udpControl => processControlDataMessage? msg buff pc
  | _ => some ((-EINVAL, pc), buff)

/-- `proxy_conn_process` with `priv->buff`: the header is received into it, and
`process_message` reads its fields back from it. -/
def proxyConnProcess? (buff : List UInt8) (pc : ProcConn) : Option ((ℤ × ProcConn) × List UInt8) :=
  match connRecv pc.client proxyMsgLen with
  | (ret, bytes, client) =>
    (Buf.store? buff 0 bytes).bind fun buff =>
      if ret < 0 then some ((ret, { pc with client }), buff)
      else
        (Buf.load? buff 0 proxyMsgLen).bind fun header =>
          processMessage? (ProxyMsg.ofBytes header) buff { pc with client }

/-- `process_message` never leaves its arrays, and does what `processMessage` does. -/
theorem processMessage?_eq (msg : ProxyMsg) {buff : List UInt8}
    (hbuff : connBuffLen ≤ buff.length) (pc : ProcConn) :
    ∃ buff', processMessage? msg buff pc = some (processMessage msg pc, buff') ∧
      buff'.length = buff.length := by
  unfold processMessage? processMessage
  rcases ProxyMsgType.ofByte msg.type with _ | t
  · exact ⟨buff, rfl, rfl⟩
  cases t with
  | tcpOpen => exact ⟨buff, by rw [processTcpOpenMessage?_eq]; rfl, rfl⟩
  | tcpData =>
    obtain ⟨buff', heq, hlen⟩ :=
      tcpDataLoop?_eq msg.size.toNat 0 hbuff pc.client pc.tcp pc.tcpHanded
    exact ⟨buff', by rw [processTcpDataMessage?, heq]; rfl, hlen⟩
  | tcpClose => exact ⟨buff, rfl, rfl⟩
  | tcpStatus => exact ⟨buff, rfl, rfl⟩
  | udpData =>
    obtain ⟨buff', heq, hlen⟩ := udpLoop?_eq msg.address 5198 msg.size.toNat hbuff pc.client pc.data
    exact ⟨buff', by rw [processDataMessage?, heq]; rfl, hlen⟩
  | udpControl =>
    obtain ⟨buff', heq, hlen⟩ :=
      udpLoop?_eq msg.address 5199 msg.size.toNat hbuff pc.client pc.control
    exact ⟨buff', by rw [processControlDataMessage?, heq]; rfl, hlen⟩

/-- **`proxy_conn_process` stays inside its arrays.**  For every stream the client sends, in any
chunking and with any failures that set `errno`: every store and load of `priv->buff[4096]`,
`addr[16]` and `status_buf[13]` lies inside its array, and the call returns what
`proxyConnProcess` returns. -/
theorem proxyConnProcess?_eq (pc : ProcConn) {buff : List UInt8} (hbuff : buff.length = connBuffLen)
    (herr : IoResult.fail 0 ∉ pc.client.recvCalls) :
    ∃ buff', proxyConnProcess? buff pc = some (proxyConnProcess pc, buff') ∧
      buff'.length = connBuffLen := by
  unfold proxyConnProcess? proxyConnProcess
  obtain ⟨-, hlen, -, hret⟩ := connRecv_prefix pc.client proxyMsgLen
  rcases hr : connRecv pc.client proxyMsgLen with ⟨ret, bytes, client⟩
  rw [hr] at hlen hret
  dsimp only at hlen hret ⊢
  -- the header, at most nine bytes, at the start of the buffer
  obtain ⟨buff₁, hb₁, hlen₁⟩ :=
    Buf.store?_of_le (show 0 + bytes.length ≤ buff.length by simp [proxyMsgLen, connBuffLen] at *; omega)
  rw [hb₁, Option.bind_some]
  by_cases hneg : ret < 0
  · exact ⟨buff₁, by rw [if_pos hneg, if_pos hneg], by omega⟩
  rw [if_neg hneg, if_neg hneg]
  -- the read of a header that returned was whole: the fields read back are its bytes
  have hfull : bytes.length = proxyMsgLen := by
    rcases hret (by omega) with ⟨-, h⟩ | ⟨-, hfail⟩
    · exact h
    · exact absurd hfail herr
  rw [← hfull, Buf.load?_store? hb₁, Option.bind_some]
  obtain ⟨buff', heq, hlen'⟩ := processMessage?_eq (ProxyMsg.ofBytes bytes)
    (show connBuffLen ≤ buff₁.length by omega) { pc with client }
  exact ⟨buff', heq, by omega⟩

/-! ### What a call reads -/

/-- The data `process_message` reads after a header: the `size` bytes of a data message, none
for the other types. -/
def msgDataLen (msg : ProxyMsg) : ℕ :=
  match ProxyMsgType.ofByte msg.type with
  | some .tcpData | some .udpData | some .udpControl => msg.size.toNat
  | _ => 0

/-- The UDP loop reads at most the data. -/
theorem udpLoop_reads (addr : UInt32) (port : UInt16) (n : ℕ) (client : Link)
    (sent : List Datagram) :
    ∃ pre, client.inbox = pre ++ (udpLoop addr port n client sent).2.1.inbox ∧ pre.length ≤ n := by
  induction n using Nat.strong_induction_on generalizing client sent with
  | _ n ih =>
    rw [udpLoop]
    by_cases h0 : n = 0
    · exact ⟨[], by rw [if_pos h0]; rfl, by simp⟩
    rw [if_neg h0]
    obtain ⟨hpre, hlen, hcount⟩ := piece_recv client n
    rcases hr : connRecv client (min n connBuffLen) with ⟨ret, bytes, client'⟩
    rw [hr] at hpre hlen hcount
    dsimp only at hpre hlen hcount ⊢
    by_cases hneg : ret < 0
    · exact ⟨bytes, by rw [if_pos hneg]; exact hpre, by omega⟩
    rw [if_neg hneg]
    by_cases hz : ret = 0
    · exact ⟨bytes, by rw [if_pos hz]; exact hpre, by omega⟩
    rw [if_neg hz]
    -- the piece, then what the rest of the loop reads
    have hc := hcount (by omega)
    obtain ⟨pre, hpre', hlen'⟩ := ih (n - ret.toNat) (by omega) client'
      (sent ++ [⟨addr, port, bytes⟩])
    exact ⟨bytes ++ pre, by rw [hpre, hpre', List.append_assoc], by simp only [List.length_append]; omega⟩

/-- The TCP loop reads at most the data. -/
theorem tcpDataLoop_reads (n : ℕ) (tcpRet : ℤ) (client tcp : Link) (handed : List UInt8) :
    ∃ pre, client.inbox = pre ++ (tcpDataLoop n tcpRet client tcp handed).2.2.1.inbox ∧
      pre.length ≤ n := by
  induction n using Nat.strong_induction_on generalizing tcpRet client tcp handed with
  | _ n ih =>
    rw [tcpDataLoop]
    by_cases h0 : n = 0
    · exact ⟨[], by rw [if_pos h0]; rfl, by simp⟩
    rw [if_neg h0]
    obtain ⟨hpre, hlen, hcount⟩ := piece_recv client n
    rcases hr : connRecv client (min n connBuffLen) with ⟨ret, bytes, client'⟩
    rw [hr] at hpre hlen hcount
    dsimp only at hpre hlen hcount ⊢
    by_cases hneg : ret < 0
    · exact ⟨bytes, by rw [if_pos hneg]; exact hpre, by omega⟩
    rw [if_neg hneg]
    by_cases hz : ret = 0
    · exact ⟨bytes, by rw [if_pos hz]; exact hpre, by omega⟩
    rw [if_neg hz]
    have hc := hcount (by omega)
    -- whether the piece goes to `conn_tcp` or is dropped, the rest of the loop reads the rest
    have hrest : ∀ tcpRet' tcp' handed', ∃ pre, client.inbox =
        pre ++ (tcpDataLoop (n - ret.toNat) tcpRet' client' tcp' handed').2.2.1.inbox ∧
          pre.length ≤ n := by
      intro tcpRet' tcp' handed'
      obtain ⟨pre, hpre', hlen'⟩ := ih (n - ret.toNat) (by omega) tcpRet' client' tcp' handed'
      exact ⟨bytes ++ pre, by rw [hpre, hpre', List.append_assoc],
        by simp only [List.length_append]; omega⟩
    by_cases ht : tcpRet = 0
    · rw [if_pos ht]
      rcases connSend tcp bytes with ⟨tcpRet', tcp'⟩
      exact hrest _ _ _
    · rw [if_neg ht]
      exact hrest _ _ _

/-- `process_tcp_open_message` reads nothing from the client. -/
theorem processTcpOpenMessage_inbox (msg : ProxyMsg) (pc : ProcConn) :
    (processTcpOpenMessage msg pc).2.client.inbox = pc.client.inbox := by
  unfold processTcpOpenMessage
  dsimp only
  -- every branch ends with the reply, which only sends
  split_ifs <;> simp

/-- `process_tcp_data_message` reads what its loop reads. -/
theorem processTcpDataMessage_inbox (msg : ProxyMsg) (pc : ProcConn) :
    (processTcpDataMessage msg pc).2.client.inbox =
      (tcpDataLoop msg.size.toNat 0 pc.client pc.tcp pc.tcpHanded).2.2.1.inbox := by
  unfold processTcpDataMessage
  rcases tcpDataLoop msg.size.toNat 0 pc.client pc.tcp pc.tcpHanded with
    ⟨ret, tcpRet, client, tcp, handed⟩
  dsimp only
  split_ifs <;> simp [sendTcpClose]

/-- `process_message` reads at most the data of the header's type. -/
theorem processMessage_reads (msg : ProxyMsg) (pc : ProcConn) :
    ∃ pre, pc.client.inbox = pre ++ (processMessage msg pc).2.client.inbox ∧
      pre.length ≤ msgDataLen msg := by
  unfold processMessage msgDataLen
  rcases ProxyMsgType.ofByte msg.type with _ | t
  · exact ⟨[], rfl, le_rfl⟩
  cases t with
  | tcpOpen => exact ⟨[], by rw [processTcpOpenMessage_inbox, List.nil_append], le_rfl⟩
  | tcpData =>
    rw [processTcpDataMessage_inbox]
    exact tcpDataLoop_reads _ _ _ _ _
  | tcpClose => exact ⟨[], rfl, le_rfl⟩
  | tcpStatus => exact ⟨[], rfl, le_rfl⟩
  | udpData => exact udpLoop_reads _ _ _ _ _
  | udpControl => exact udpLoop_reads _ _ _ _ _

/-- **A call reads at most the header and the data of its type**, for every stream, chunking and
failure: `9 + size` bytes for a data message, `9` for `TCP_OPEN`, `TCP_CLOSE` and a type it does
not know, counting the header it read. -/
theorem proxyConnProcess_reads (pc : ProcConn) :
    ∃ pre, pc.client.inbox = pre ++ (proxyConnProcess pc).2.client.inbox ∧
      pre.length ≤ proxyMsgLen + msgDataLen (ProxyMsg.ofBytes (connRecv pc.client proxyMsgLen).2.1) := by
  unfold proxyConnProcess
  obtain ⟨hpre, hlen, -, -⟩ := connRecv_prefix pc.client proxyMsgLen
  rcases hr : connRecv pc.client proxyMsgLen with ⟨ret, bytes, client⟩
  rw [hr] at hpre hlen
  dsimp only at hpre hlen ⊢
  by_cases hneg : ret < 0
  · exact ⟨bytes, by rw [if_pos hneg]; exact hpre, by omega⟩
  rw [if_neg hneg]
  obtain ⟨pre, hpre', hlen'⟩ := processMessage_reads (ProxyMsg.ofBytes bytes) { pc with client }
  exact ⟨bytes ++ pre, by rw [hpre, List.append_assoc, ← hpre'],
    by simp only [List.length_append]; omega⟩

/-- On a connection that does not fail, `process_message` reads exactly the data of the header's
type, when the stream holds it. -/
theorem processMessage_reads_exactly (msg : ProxyMsg) {pc : ProcConn} (hcl : pc.client.Healthy)
    (hdata : msgDataLen msg ≤ pc.client.inbox.length) :
    (processMessage msg pc).2.client.inbox = pc.client.inbox.drop (msgDataLen msg) := by
  have hsplit := (List.take_append_drop msg.size.toNat pc.client.inbox).symm
  unfold processMessage
  unfold msgDataLen at hdata ⊢
  generalize ProxyMsgType.ofByte msg.type = ty at hdata ⊢
  rcases ty with _ | t
  · rfl
  cases t with
  | tcpOpen => exact processTcpOpenMessage_inbox msg pc
  | tcpData =>
    have hd : msg.size.toNat ≤ pc.client.inbox.length := hdata
    obtain ⟨pc', heq, hinbox, -⟩ := processTcpDataMessage_spec msg hcl hsplit
      (by simp only [List.length_take]; omega)
    rw [heq, hinbox]
  | tcpClose => rfl
  | tcpStatus => rfl
  | udpData =>
    obtain ⟨cs, ds, heq, -, -⟩ := udpLoop_chunks msg.address 5198 msg.size.toNat pc.client
      pc.data hcl.isOpen hcl.chunking hdata
    show (udpLoop msg.address 5198 msg.size.toNat pc.client pc.data).2.1.inbox = _
    rw [heq]
  | udpControl =>
    obtain ⟨cs, ds, heq, -, -⟩ := udpLoop_chunks msg.address 5199 msg.size.toNat pc.client
      pc.control hcl.isOpen hcl.chunking hdata
    show (udpLoop msg.address 5199 msg.size.toNat pc.client pc.control).2.1.inbox = _
    rw [heq]

/-- **A call reads exactly the header and the data of its type** from a connection that does not
fail, when the stream holds them: whatever the header says, a well-formed message or not. -/
theorem proxyConnProcess_reads_exactly {pc : ProcConn} (hcl : pc.client.Healthy) (h : ProxyMsg)
    (rest : List UInt8) (hin : pc.client.inbox = h.toBytes ++ rest)
    (hdata : msgDataLen h ≤ rest.length) :
    (proxyConnProcess pc).2.client.inbox = rest.drop (msgDataLen h) := by
  obtain ⟨cs, hrecv, hcl₁⟩ := hcl.recv (show proxyMsgLen ≤ pc.client.inbox.length by simp [hin])
  have hhead : pc.client.inbox.take proxyMsgLen = h.toBytes := by
    rw [hin]
    exact List.take_left' (ProxyMsg.toBytes_length h)
  have hrest : pc.client.inbox.drop proxyMsgLen = rest := by
    rw [hin]
    exact List.drop_left' (ProxyMsg.toBytes_length h)
  have hdecode : ProxyMsg.ofBytes h.toBytes = h := by simpa using ProxyMsg.ofBytes_toBytes h []
  rw [proxyConnProcess, hrecv]
  dsimp only
  rw [if_neg (by omega), hhead, hdecode]
  have hexact := @processMessage_reads_exactly h { pc with client :=
    { pc.client with inbox := pc.client.inbox.drop proxyMsgLen, recvCalls := cs } } hcl₁
    (by simp only [hrest]; exact hdata)
  rw [hexact]
  simp only [hrest]

/-! ### The client's input, before and after the handshake -/

/-- **The parsers of client input stay inside their arrays.**  For every stream a client sends,
in any chunking and with any failures that set `errno`, and whatever the stack held:

* `proxy_worker_authorize` loads and stores only inside `buff[28]`, `response[16]` and
  `pw->callsign[12]`, computes what `proxyWorkerAuthorize` computes, leaves in `pw->callsign` its
  old contents or a callsign of at most ten bytes and its NUL, and reads at most 27 bytes;
* `proxy_conn_process` loads and stores only inside `priv->buff[4096]`, `addr[16]` and
  `status_buf[13]`, computes what `proxyConnProcess` computes, and reads at most the header and
  the data of the header's type, exactly that much from a connection that does not fail. -/
theorem client_input_in_bounds {Re : Type} (digest : List UInt8 → Vector UInt8 16)
    (pol : CallsignPolicy Re) (password : List UInt8) (nonce : UInt32)
    {stack callsign : List UInt8} (hstack : stack.length = 28) (hcall : callsign.length = 12)
    (l : Link) (pc : ProcConn) {buff : List UInt8} (hbuff : buff.length = connBuffLen)
    (herr : IoResult.fail 0 ∉ pc.client.recvCalls) :
    ((∃ callsign', proxyWorkerAuthorize? digest pol password nonce stack callsign l =
        some (proxyWorkerAuthorize digest pol password nonce (fun i => stack.getD i 0)
          (cString callsign) l, callsign') ∧
      (callsign' = callsign ∨
        ∃ c, c.length ≤ 10 ∧ 0 ∉ c ∧ callsign' = c ++ 0 :: callsign.drop (c.length + 1))) ∧
    (∃ pre, l.inbox = pre ++ (proxyWorkerAuthorize digest pol password nonce
        (fun i => stack.getD i 0) (cString callsign) l).link.inbox ∧ pre.length ≤ 27)) ∧
    ((∃ buff', proxyConnProcess? buff pc = some (proxyConnProcess pc, buff') ∧
        buff'.length = connBuffLen) ∧
    (∃ pre, pc.client.inbox = pre ++ (proxyConnProcess pc).2.client.inbox ∧
        pre.length ≤ proxyMsgLen + msgDataLen (ProxyMsg.ofBytes (connRecv pc.client proxyMsgLen).2.1)) ∧
    (pc.client.Healthy → ∀ h rest, pc.client.inbox = h.toBytes ++ rest →
        msgDataLen h ≤ rest.length →
        (proxyConnProcess pc).2.client.inbox = rest.drop (msgDataLen h))) :=
  ⟨⟨proxyWorkerAuthorize?_eq digest pol password nonce hstack hcall l,
      proxyWorkerAuthorize_reads digest pol password nonce _ _ l⟩,
    proxyConnProcess?_eq pc hbuff herr, proxyConnProcess_reads pc,
    fun hcl h rest hin hdata => proxyConnProcess_reads_exactly hcl h rest hin hdata⟩

/-- A client that answers the nonce with `N0CALL`, a newline and sixteen bytes, and a slot whose
client has sent a `UDP_DATA` message. -/
theorem client_input_in_bounds_sample :
    let digest : List UInt8 → Vector UInt8 16 := fun _ => Vector.replicate 16 0
    let pol : CallsignPolicy Unit := ⟨fun _ _ => 0, none, none⟩
    let stack : List UInt8 := List.replicate 28 0
    let callsign : List UInt8 := List.replicate 12 0
    let l : Link := ⟨true, [78, 48, 67, 65, 76, 76, 10] ++ List.replicate 16 0, [], [], []⟩
    let buff : List UInt8 := List.replicate connBuffLen 0
    stack.length = 28 ∧ callsign.length = 12 ∧ buff.length = connBuffLen ∧
      IoResult.fail 0 ∉ udpSampleConn.client.recvCalls ∧
    ((∃ callsign', proxyWorkerAuthorize? digest pol [] 7 stack callsign l =
        some (proxyWorkerAuthorize digest pol [] 7 (fun i => stack.getD i 0)
          (cString callsign) l, callsign') ∧
      (callsign' = callsign ∨
        ∃ c, c.length ≤ 10 ∧ 0 ∉ c ∧ callsign' = c ++ 0 :: callsign.drop (c.length + 1))) ∧
    (∃ pre, l.inbox = pre ++ (proxyWorkerAuthorize digest pol [] 7
        (fun i => stack.getD i 0) (cString callsign) l).link.inbox ∧ pre.length ≤ 27)) ∧
    ((∃ buff', proxyConnProcess? buff udpSampleConn = some (proxyConnProcess udpSampleConn, buff') ∧
        buff'.length = connBuffLen) ∧
    (∃ pre, udpSampleConn.client.inbox = pre ++ (proxyConnProcess udpSampleConn).2.client.inbox ∧
        pre.length ≤ proxyMsgLen +
          msgDataLen (ProxyMsg.ofBytes (connRecv udpSampleConn.client proxyMsgLen).2.1)) ∧
    (udpSampleConn.client.Healthy → ∀ h rest, udpSampleConn.client.inbox = h.toBytes ++ rest →
        msgDataLen h ≤ rest.length →
        (proxyConnProcess udpSampleConn).2.client.inbox = rest.drop (msgDataLen h))) := by
  intro digest pol stack callsign l buff
  have hstack : stack.length = 28 := List.length_replicate ..
  have hcall : callsign.length = 12 := List.length_replicate ..
  have hbuff : buff.length = connBuffLen := List.length_replicate ..
  have herr : IoResult.fail 0 ∉ udpSampleConn.client.recvCalls := List.not_mem_nil
  exact ⟨hstack, hcall, hbuff, herr,
    client_input_in_bounds digest pol [] 7 hstack hcall l udpSampleConn hbuff herr⟩

end OpenElp
