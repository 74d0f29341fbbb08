import OpenElp.Slot.Invariant

/-!
# The client's stream

Four threads write to the client's stream: the three forwarders and, for `TCP_STATUS` and
`TCP_CLOSE`, the processing thread.  Each holds `mutex_client_send` around one `conn_send` of
a whole buffer, header and data together, which the slot makes one step.  So the stream is at
every moment a sequence of whole messages, and a client that reads it with
`proxy_client_recv` gets them back one by one, provided its buffer holds the largest, the
`CONN_BUFF_LEN_HEADERLESS` bytes that a forwarder receives at most.

* `Sender.msgType`, `Sender.address`, `Sender.payload` : what each sender means to send, and
  `Sender.bytes_eq_encode` : the bytes it hands to `conn_send` are that message.
* `slot_streamInv` : in every reachable slot the stream is the concatenation of the messages
  sent, and each forwarded message holds `1` to `CONN_BUFF_LEN_HEADERLESS` bytes.
* `proxyClientRecv_encode`, `proxyClientRecvN_frames` : `proxy_client_recv` reads a message
  back, and a sequence of them in order.
* `client_stream_integrity` : **stream integrity**.
-/

namespace OpenElp

/-! ### What each sender sends -/

namespace Sender

/-- The type of each sender's messages. -/
def msgType : Sender → ProxyMsgType
  | .forwarder f _ _ => f.msgType
  | .status _ => .tcpStatus
  | .tcpClose => .tcpClose

/-- The address field of each sender's messages: the datagram's source for the UDP
forwarders, `0` otherwise. -/
def address : Sender → UInt32
  | .forwarder f source _ => if f = .tcp then 0 else source
  | _ => 0

/-- The data of each sender's message: what a forwarder received, the status as a
`uint32_t`, or nothing. -/
def payload : Sender → List UInt8
  | .forwarder _ _ data => data
  | .status ret => u32Bytes (UInt32.ofInt ret)
  | .tcpClose => []

/-- The sizes of the messages: `1` to `CONN_BUFF_LEN_HEADERLESS` bytes of forwarded data, four
for `TCP_STATUS` and none for `TCP_CLOSE`. -/
def SizeOk : Sender → Prop
  | .forwarder _ _ data => 0 < data.length ∧ data.length ≤ connBuffLenHeaderless
  | snd@(.status _) => snd.payload.length = 4
  | snd@.tcpClose => snd.payload.length = 0

theorem SizeOk.payload_le {snd : Sender} (h : snd.SizeOk) :
    snd.payload.length ≤ connBuffLenHeaderless := by
  cases snd with
  | forwarder f source data => exact h.2
  | status ret => simp [payload, connBuffLenHeaderless, connBuffLen, proxyMsgLen]
  | tcpClose => simp [payload]

theorem SizeOk.of_status (ret : ℤ) : (Sender.status ret).SizeOk := rfl

theorem SizeOk.of_tcpClose : Sender.tcpClose.SizeOk := rfl

/-- A sender's message as a frame, its data fitting the size field. -/
def frame (snd : Sender) (h : snd.SizeOk) : Frame :=
  ⟨snd.msgType, snd.address, snd.payload, by
    have := h.payload_le
    simp only [connBuffLenHeaderless, connBuffLen, proxyMsgLen] at this
    omega⟩

/-- The message a sender builds: its type, address and data. -/
def Builds (snd : Sender) (fr : Frame) : Prop :=
  fr.type = snd.msgType ∧ fr.address = snd.address ∧ fr.payload = snd.payload

/-- **Each sender hands `conn_send` one whole message**: the header of its frame, whose size
is the length of its data, and the data. -/
theorem bytes_eq_encode {snd : Sender} {fr : Frame} (h : snd.Builds fr) :
    snd.bytes = fr.encode := by
  obtain ⟨fr, address, payload, hlt⟩ := fr
  obtain ⟨rfl, rfl, rfl⟩ := h
  cases snd <;> rfl

end Sender

/-- Senders of the right sizes build a frame each. -/
theorem exists_frames {sent : List Sender} (h : ∀ snd ∈ sent, snd.SizeOk) :
    ∃ frames, List.Forall₂ Sender.Builds sent frames := by
  induction sent with
  | nil => exact ⟨[], .nil⟩
  | cons snd sent ih =>
    obtain ⟨frames, hf⟩ := ih fun snd' hm => h snd' (List.mem_cons_of_mem _ hm)
    exact ⟨snd.frame (h snd List.mem_cons_self) :: frames, .cons ⟨rfl, rfl, rfl⟩ hf⟩

theorem flatten_bytes {sent : List Sender} {frames : List Frame}
    (h : List.Forall₂ Sender.Builds sent frames) :
    (sent.map Sender.bytes).flatten = (frames.map Frame.encode).flatten := by
  induction h with
  | nil => rfl
  | cons hb _ ih => simp [Sender.bytes_eq_encode hb, ih]

/-- The data of the frames that senders of the right sizes build fit a forwarder's buffer. -/
theorem frames_payload_le {sent : List Sender} {frames : List Frame}
    (h : List.Forall₂ Sender.Builds sent frames) (hok : ∀ snd ∈ sent, snd.SizeOk) :
    ∀ fr ∈ frames, fr.payload.length ≤ connBuffLenHeaderless := by
  induction h with
  | nil => simp
  | @cons snd fr sent frames hb _ ih =>
    intro fr' hm
    rcases List.mem_cons.1 hm with rfl | hm
    · rw [hb.2.2]
      exact (hok snd List.mem_cons_self).payload_le
    · exact ih (fun snd' h' => hok snd' (List.mem_cons_of_mem _ h')) fr' hm

/-! ### The stream of a slot -/

/-- The stream holds the messages sent, in order, each of the right size, and a forwarder
about to send holds data of the right size. -/
structure Slot.StreamInv (s : Slot) : Prop where
  stream_eq : s.stream = (s.sent.map Sender.bytes).flatten
  sent_ok : ∀ snd ∈ s.sent, snd.SizeOk
  body_ok : ∀ f source data, s.body f = .send source data →
    (Sender.forwarder f source data).SizeOk

section Steps

variable {s s' : Slot}

/-- The stream and the senders, through a send on the client connection of a message of the
right size. -/
theorem Slot.StreamInv.sendClient (hs : s.StreamInv) (o : Outcome) {snd : Sender}
    (hsnd : snd.SizeOk) :
    (s.sendClient o snd).2.stream = ((s.sendClient o snd).2.sent.map Sender.bytes).flatten ∧
      ∀ snd' ∈ (s.sendClient o snd).2.sent, snd'.SizeOk := by
  -- the send either appends the whole message or nothing
  rcases Slot.sendClient_snd s o snd with h | h <;> rw [h]
  · exact ⟨hs.stream_eq, hs.sent_ok⟩
  · refine ⟨by simp [hs.stream_eq], fun snd' hm => ?_⟩
    rcases List.mem_append.1 hm with hm | hm
    · exact hs.sent_ok snd' hm
    · rw [List.mem_singleton.1 hm]
      exact hsnd

/-- Each step of the processing thread keeps the stream framed: it sends whole `TCP_STATUS`
and `TCP_CLOSE` messages, and `proxy_conn_accept` starts a new stream. -/
theorem procStep_streamInv {e : ProcEvent} (hs : s.StreamInv) (h : procStep s e = some s') :
    s'.StreamInv := by
  have hbody : s'.body = s.body := procStep_body h
  suffices s'.stream = (s'.sent.map Sender.bytes).flatten ∧ ∀ snd ∈ s'.sent, snd.SizeOk from
    ⟨this.1, this.2, by rw [hbody]; exact hs.body_ok⟩
  cases e with
  | accept =>
    simp only [procStep] at h
    split_ifs at h
    cases h
    simp
  | openStatus o =>
    obtain ⟨ret, -, rfl⟩ := procStep_openStatus h
    exact hs.sendClient o (Sender.SizeOk.of_status ret)
  | dataClose o =>
    simp only [procStep] at h
    split_ifs at h
    cases h
    exact hs.sendClient o Sender.SizeOk.of_tcpClose
  | finish =>
    simp only [procStep] at h
    unfold finishStep waitStep at h
    split at h <;> (try split_ifs at h) <;> cases h <;> exact ⟨hs.stream_eq, hs.sent_ok⟩
  | wakeControl | wakeData | openWake | tcpClose | tcpDataFail | processEnd =>
    simp only [procStep, wakeStep_eq] at h
    split_ifs at h
    all_goals
      cases h
      exact ⟨hs.stream_eq, hs.sent_ok⟩
  | listenControl o | listenData o | tcpOpen o =>
    simp only [procStep] at h
    split_ifs at h
    cases h
    cases o <;> exact ⟨hs.stream_eq, hs.sent_ok⟩

/-- What a forwarder is about to send was received by `conn_recv_any` on its open socket and
is of the right size. -/
theorem fwdStep_body_send {f g : Fwd} {e : FwdEvent} {source : UInt32} {data : List UInt8}
    (h : fwdStep s f e = some s') (hb : s'.body g = .send source data) :
    s.body g = .send source data ∨
      s.sock g = true ∧ (Sender.forwarder g source data).SizeOk := by
  by_cases hg : g = f
  · subst hg
    -- only the receive of `conn_recv_any` sets a message to send
    cases e with
    | thread next =>
      rw [(fwdStep_thread h).2.2] at hb
      split_ifs at hb
      exact .inl hb
    | recv r =>
      simp only [fwdStep] at h
      split at h <;> cases h
      simp only [Slot.setFwd_body, Function.update_self] at hb
      split_ifs at hb with hpos
      cases hb
      obtain ⟨hopen, -, hlen, hle⟩ := connRecvAny_pos hpos
      exact .inr ⟨hopen, hlen, hle⟩
    | send o =>
      obtain ⟨source', data', -, heq⟩ := fwdStep_send h
      rw [heq] at hb
      simp only [Slot.setFwd_body, Function.update_self] at hb
      split_ifs at hb
    | close | drop =>
      simp only [fwdStep] at h
      split at h <;> cases h <;> simp only [Slot.setFwd_body, Function.update_self] at hb
      all_goals first | (simp at hb) | (split_ifs at hb)
    | tcpSendClose o =>
      simp only [fwdStep] at h
      split_ifs at h
      cases h
      simp at hb
  · obtain ⟨t, w, b, rfl, -, htb, -, -⟩ := fwdStep_setFwd h
    rw [Slot.setFwd_body, Function.update_of_ne hg, htb] at hb
    exact .inl hb

/-- Each step of a forwarder keeps the stream framed: it sends one whole message of data it
received, or `TCP_CLOSE`. -/
theorem fwdStep_streamInv {f : Fwd} {e : FwdEvent} (hs : s.StreamInv)
    (h : fwdStep s f e = some s') : s'.StreamInv := by
  have hbody : ∀ g source data, s'.body g = .send source data →
      (Sender.forwarder g source data).SizeOk := by
    intro g source data hb
    rcases fwdStep_body_send h hb with hb | ⟨-, hok⟩
    · exact hs.body_ok g source data hb
    · exact hok
  suffices s'.stream = (s'.sent.map Sender.bytes).flatten ∧ ∀ snd ∈ s'.sent, snd.SizeOk from
    ⟨this.1, this.2, hbody⟩
  cases e with
  | send o =>
    obtain ⟨source, data, hb, rfl⟩ := fwdStep_send h
    simp only [Slot.setFwd_stream, Slot.setFwd_sent]
    exact hs.sendClient o (hs.body_ok f source data hb)
  | tcpSendClose o =>
    simp only [fwdStep] at h
    split_ifs at h
    cases h
    simp only [Slot.setFwd_stream, Slot.setFwd_sent]
    exact hs.sendClient o Sender.SizeOk.of_tcpClose
  | thread next =>
    simp only [fwdStep] at h
    split at h
    · cases h
    · split at h <;> cases h
      exact ⟨hs.stream_eq, hs.sent_ok⟩
  | recv r =>
    simp only [fwdStep] at h
    split at h <;> cases h
    exact ⟨hs.stream_eq, hs.sent_ok⟩
  | close =>
    simp only [fwdStep] at h
    split at h <;> cases h <;> simpa using ⟨hs.stream_eq, hs.sent_ok⟩
  | drop =>
    simp only [fwdStep] at h
    split at h <;> cases h <;> split_ifs <;> simpa using ⟨hs.stream_eq, hs.sent_ok⟩

end Steps

/-- **In every reachable slot the stream is framed.** -/
theorem slot_streamInv {s : Slot} (h : slotLts.Reachable Slot.init s) : s.StreamInv := by
  refine h.invariant (fun s e s' hs hst => ?_) ⟨rfl, by simp [Slot.init], by simp [Slot.init]⟩
  change slotStep s e = some s' at hst
  cases e with
  | proc e => exact procStep_streamInv hs hst
  | fwd f e => exact fwdStep_streamInv hs hst

/-! ### The client reading the stream -/

/-- `proxy_client_recv(ch, msg, buff, buff_len)`: `ret`, the header in `msg`, the bytes read
into `buff` and the connection after.  `conn_recv` writes what it reads over the start of
`msg`, whose earlier contents are `msg`. -/
def proxyClientRecv (l : Link) (msg : ProxyMsg) (buffLen : ℕ) :
    ℤ × ProxyMsg × List UInt8 × Link :=
  match connRecv l proxyMsgLen with
  | (ret, hdr, l) =>
    let msg := ProxyMsg.ofBytes (hdr ++ msg.toBytes.drop hdr.length)
    if ret ≥ 0 ∧ msg.size.toNat > 0 then
      if msg.size.toNat > buffLen then (-ENOSPC, msg, [], l)
      else
        match connRecv l msg.size.toNat with
        | (ret, data, l) => (ret, msg, data, l)
    else (ret, msg, [], l)

/-- What `proxy_client_recv` returns for a message read whole: the size of its data, or that
of the header for a message without data. -/
def Frame.recvRet (fr : Frame) : ℤ := if fr.payload = [] then proxyMsgLen else fr.payload.length

/-- **`proxy_client_recv` reads a message back**: from a healthy connection whose stream starts
with a message whose data fits the buffer, it returns the message's header and data and leaves
the rest of the stream. -/
theorem proxyClientRecv_encode {l : Link} (hl : l.Healthy) (fr : Frame) {rest : List UInt8}
    (hin : l.inbox = fr.encode ++ rest) (msg : ProxyMsg) {buffLen : ℕ}
    (hb : fr.payload.length ≤ buffLen) :
    ∃ l', proxyClientRecv l msg buffLen = (fr.recvRet, fr.header, fr.payload, l') ∧
      l'.Healthy ∧ l'.inbox = rest := by
  have hlen : proxyMsgLen ≤ l.inbox.length := by
    simp only [hin, List.length_append, Frame.encode_length]
    omega
  obtain ⟨cs, hrecv, hl₁⟩ := hl.recv hlen
  have htake : l.inbox.take proxyMsgLen = fr.header.toBytes := by
    rw [hin, Frame.encode, List.append_assoc]
    exact List.take_left' (ProxyMsg.toBytes_length _)
  have hdrop : l.inbox.drop proxyMsgLen = fr.payload ++ rest := by
    rw [hin, Frame.encode, List.append_assoc]
    exact List.drop_left' (ProxyMsg.toBytes_length _)
  by_cases hp : fr.payload = []
  · -- a message without data: the header is all there is to read
    refine ⟨_, ?_, hl₁, by simp [hdrop, hp]⟩
    simp [proxyClientRecv, hrecv, htake, Frame.recvRet, hp]
  · have hpos : 0 < fr.payload.length := List.length_pos_iff.2 hp
    have hlen₂ : fr.payload.length ≤ (l.inbox.drop proxyMsgLen).length := by
      simp [hdrop]
    obtain ⟨cs₂, hrecv₂, hl₂⟩ := hl₁.recv hlen₂
    refine ⟨_, ?_, hl₂, by simp [hdrop]⟩
    have hnot : ¬ fr.payload.length > buffLen := by omega
    simp only [proxyClientRecv, hrecv, htake, ProxyMsg.ofBytes_toBytes, Frame.header_size]
    rw [if_pos ⟨by simp [proxyMsgLen], hpos⟩, if_neg hnot, hrecv₂]
    simp [Frame.recvRet, hp, hdrop]

/-- A client that calls `proxy_client_recv` `n` times, each call given the header the one
before left: what each call returned, and the connection after. -/
def proxyClientRecvN (buffLen : ℕ) : ℕ → ProxyMsg → Link →
    List (ℤ × ProxyMsg × List UInt8) × Link
  | 0, _, l => ([], l)
  | n + 1, msg, l =>
    match proxyClientRecv l msg buffLen with
    | (ret, msg, data, l) =>
      match proxyClientRecvN buffLen n msg l with
      | (rs, l) => ((ret, msg, data) :: rs, l)

/-- **The client reads the messages back in order**: from a healthy connection whose stream
starts with a sequence of messages whose data fit the buffer, as many calls of
`proxy_client_recv` return their headers and data, one by one. -/
theorem proxyClientRecvN_frames {buffLen : ℕ} (frames : List Frame)
    (hb : ∀ fr ∈ frames, fr.payload.length ≤ buffLen) {rest : List UInt8} :
    ∀ (l : Link) (msg : ProxyMsg), l.Healthy → l.inbox = (frames.map Frame.encode).flatten ++ rest →
      ∃ l', proxyClientRecvN buffLen frames.length msg l =
        (frames.map fun fr => (fr.recvRet, fr.header, fr.payload), l') ∧
        l'.Healthy ∧ l'.inbox = rest := by
  induction frames with
  | nil =>
    intro l msg hl hin
    exact ⟨l, rfl, hl, by simpa using hin⟩
  | cons fr frames ih =>
    intro l msg hl hin
    have hin' : l.inbox = fr.encode ++ ((frames.map Frame.encode).flatten ++ rest) := by
      simp [hin]
    obtain ⟨l₁, hrecv, hl₁, hin₁⟩ :=
      proxyClientRecv_encode hl fr hin' msg (hb fr List.mem_cons_self)
    obtain ⟨l₂, hrest, hl₂, hin₂⟩ :=
      ih (fun fr' hm => hb fr' (List.mem_cons_of_mem _ hm)) l₁ fr.header hl₁ hin₁
    refine ⟨l₂, ?_, hl₂, hin₂⟩
    simp only [List.length_cons, proxyClientRecvN, hrecv, hrest, List.map_cons]

/-- **Stream integrity.**  In every reachable slot, the client's stream is the sequence of the
messages sent since `proxy_conn_accept`, each whole and in order: a 9-byte header whose size is
the length of the data after it, whose type is its sender's and whose address is the source of
the forwarded datagram for the UDP forwarders; forwarded data are `1` to
`CONN_BUFF_LEN_HEADERLESS` bytes, a status `4`, a close `0`.  A client whose connection
delivers that stream, in any chunking, and reads it with `proxy_client_recv` into a buffer of at
least `CONN_BUFF_LEN_HEADERLESS` bytes gets back exactly these messages. -/
theorem client_stream_integrity {s : Slot} (h : slotLts.Reachable Slot.init s) :
    ∃ frames : List Frame, List.Forall₂ Sender.Builds s.sent frames ∧
      s.stream = (frames.map Frame.encode).flatten ∧
      (∀ snd ∈ s.sent, snd.SizeOk) ∧
      ∀ buffLen, connBuffLenHeaderless ≤ buffLen → ∀ (l : Link) (msg : ProxyMsg) rest,
        l.Healthy → l.inbox = s.stream ++ rest →
        ∃ l', proxyClientRecvN buffLen frames.length msg l =
          (frames.map fun fr => (fr.recvRet, fr.header, fr.payload), l') ∧
          l'.Healthy ∧ l'.inbox = rest := by
  have hs := slot_streamInv h
  obtain ⟨frames, hf⟩ := exists_frames hs.sent_ok
  have hstream : s.stream = (frames.map Frame.encode).flatten := by
    rw [hs.stream_eq, flatten_bytes hf]
  refine ⟨frames, hf, hstream, hs.sent_ok, fun buffLen hbuff l msg rest hl hin => ?_⟩
  have hb : ∀ fr ∈ frames, fr.payload.length ≤ buffLen := fun fr hm =>
    (frames_payload_le hf hs.sent_ok fr hm).trans hbuff
  exact proxyClientRecvN_frames frames hb l msg hl (hstream ▸ hin)

/-- A client accepted, a datagram of three bytes forwarded from the control socket, and a
`TCP_OPEN` reported. -/
def forwardedSession : List SlotEvent :=
  [.proc .accept, .proc (.listenControl .ok), .proc (.listenData .ok), .proc .wakeControl,
    .proc .wakeData, .fwd .control (.thread .running),
    .fwd .control (.recv (.bytes 0x0A000001 [1, 2, 3])), .fwd .control (.send .ok),
    .proc (.tcpOpen .ok), .proc .openWake, .proc (.openStatus .ok)]

/-- The slot after `forwardedSession`. -/
def afterForward : Slot := (Lts.exec slotStep Slot.init forwardedSession).getD Slot.init

theorem client_stream_integrity_forwarded :
    slotLts.Reachable Slot.init afterForward ∧
      afterForward.sent = [.forwarder .control 0x0A000001 [1, 2, 3], .status 0] ∧
      ∃ frames : List Frame, List.Forall₂ Sender.Builds afterForward.sent frames ∧
        afterForward.stream = (frames.map Frame.encode).flatten ∧
        (∀ snd ∈ afterForward.sent, snd.SizeOk) ∧
        ∀ buffLen, connBuffLenHeaderless ≤ buffLen → ∀ (l : Link) (msg : ProxyMsg) rest,
          l.Healthy → l.inbox = afterForward.stream ++ rest →
          ∃ l', proxyClientRecvN buffLen frames.length msg l =
            (frames.map fun fr => (fr.recvRet, fr.header, fr.payload), l') ∧
            l'.Healthy ∧ l'.inbox = rest :=
  ⟨⟨forwardedSession, Lts.Run.of_exec rfl⟩, by decide,
    client_stream_integrity ⟨forwardedSession, Lts.Run.of_exec rfl⟩⟩

end OpenElp
