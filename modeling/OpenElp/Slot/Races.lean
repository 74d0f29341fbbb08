import OpenElp.Slot.Stream

/-!
# Two ways a forwarder's exit goes wrong

The forwarders decide what to do when their receive loop ends from the return value alone, and
they run the code after the loop whenever the scheduler lets them.  Two consequences:

* `zero_datagram_ends_forwarding` : `conn_recv_any` turns a datagram of zero bytes into
  `-EPIPE`, which `forwarder_control` and `forwarder_data` take for the client's disconnect: the
  forwarder leaves its loop without dropping the client, closes its socket and returns, and
  nothing opens the socket or runs the forwarder's loop again before the next
  `proxy_conn_accept` (`silent_run`).  The client stays connected without UDP forwarding on
  that port.
* `late_tcp_exit_closes_next_session` : when `forwarder_tcp` has left its loop for one session
  (the client's `TCP_CLOSE` closed `conn_tcp`) but not yet run the `conn_close` and
  `send_tcp_close` after it, a `TCP_OPEN` can connect `conn_tcp` again and report success; the
  forwarder's late `conn_close` then closes the new session's connection and its
  `send_tcp_close` reports it closed, whether the first session ended by the client's
  `TCP_CLOSE` or by a failed receive.

Each comes with concrete runs from `Slot.init` that reach the state it starts from.
-/

namespace OpenElp

section Steps

variable {s s' : Slot}

/-- A send to a client that has not been dropped, which the connection takes whole. -/
theorem Slot.sendClient_ok (hc : s.client = some ⟨false⟩) (snd : Sender) :
    s.sendClient .ok snd =
      (0, { s with stream := s.stream ++ snd.bytes, sent := s.sent ++ [snd] }) := by
  simp [Slot.sendClient, hc, Outcome.ret]

/-- A forwarder never opens a socket. -/
theorem fwdStep_sock {f g : Fwd} {e : FwdEvent} (h : fwdStep s f e = some s')
    (hs : s'.sock g = true) : s.sock g = true := by
  cases e with
  | send o =>
    obtain ⟨_, _, -, rfl⟩ := fwdStep_send h
    simpa using hs
  | thread next =>
    simp only [fwdStep] at h
    split at h
    · cases h
    · split at h <;> cases h
      simpa using hs
  | recv r =>
    simp only [fwdStep] at h
    split at h <;> cases h
    simpa using hs
  | close =>
    simp only [fwdStep] at h
    split at h <;> cases h <;> simp only [Slot.setFwd_sock, Slot.sock_closeSock] at hs <;>
      exact (Bool.and_eq_true_iff.1 hs).1
  | drop =>
    simp only [fwdStep] at h
    split at h <;> cases h <;> split_ifs at hs <;> simpa using hs
  | tcpSendClose o =>
    simp only [fwdStep] at h
    split_ifs at h
    cases h
    simpa using hs

/-- Away from `proxy_conn_accept`'s two `conn_listen` calls, and without a new
`proxy_conn_accept`, the processing thread opens neither UDP socket and does not come back to
those calls. -/
theorem procStep_udp_closed {e : ProcEvent} {f : Fwd} (h : procStep s e = some s')
    (he : e ≠ .accept) (hf : f ≠ .tcp) (hp : s.proc ≠ .listenControl ∧ s.proc ≠ .listenData)
    (hs : s.sock f = false) :
    (s'.proc ≠ .listenControl ∧ s'.proc ≠ .listenData) ∧ s'.sock f = false := by
  cases e with
  | accept => exact absurd rfl he
  | listenControl o | listenData o => simp [procStep, hp.1, hp.2] at h
  | openStatus o =>
    obtain ⟨ret, -, rfl⟩ := procStep_openStatus h
    constructor
    · split_ifs <;> simp
    · cases f <;> simp_all
  | finish =>
    simp only [procStep] at h
    unfold finishStep waitStep at h
    split at h <;> (try split_ifs at h) <;> cases h <;> cases f <;> simp_all [Slot.dropClient]
  | dataClose o =>
    simp only [procStep] at h
    split_ifs at h
    cases h
    cases f <;> simp_all
  | tcpOpen o =>
    simp only [procStep] at h
    split_ifs at h
    cases h
    cases o <;> cases f <;> simp_all
  | wakeControl | wakeData | openWake | tcpClose | tcpDataFail | processEnd =>
    simp only [procStep, wakeStep_eq] at h
    split_ifs at h
    all_goals
      cases h
      cases f <;> simp_all

end Steps

/-! ### A zero-length datagram -/

/-- Forwarder `f` is silent: its socket is closed, it has no message to send, and the
processing thread is away from the `conn_listen` calls that would open the socket again. -/
def Slot.Silent (f : Fwd) (t : Slot) : Prop :=
  (t.proc ≠ .listenControl ∧ t.proc ≠ .listenData) ∧ t.sock f = false ∧
    ∀ source data, t.body f ≠ .send source data

/-- Every step but `proxy_conn_accept` keeps a UDP forwarder silent. -/
theorem silent_step {f : Fwd} (hf : f ≠ .tcp) {t t' : Slot} {l : SlotEvent}
    (hl : l ≠ .proc .accept) (ht : t.Silent f) (hst : slotLts.step t l t') : t'.Silent f := by
  obtain ⟨htp, hts, htb⟩ := ht
  change slotStep t l = some t' at hst
  cases l with
  | proc e =>
    obtain ⟨htp', hts'⟩ := procStep_udp_closed hst (fun he => hl (by rw [he])) hf htp hts
    exact ⟨htp', hts', by rw [procStep_body hst]; exact htb⟩
  | fwd g e =>
    obtain ⟨u, w, b, rfl, -, -, hup, -⟩ := fwdStep_setFwd hst
    refine ⟨by rwa [Slot.setFwd_proc, hup], ?_, fun source data hbd => ?_⟩
    · cases hs' : (u.setFwd g w b).sock f
      · rfl
      · simp [fwdStep_sock hst hs'] at hts
    · rcases fwdStep_body_send hst hbd with hbd | ⟨hopen, -⟩
      · exact htb source data hbd
      · simp [hopen] at hts

/-- Along a run without `proxy_conn_accept`, a silent UDP forwarder never sends. -/
theorem silent_run {f : Fwd} (hf : f ≠ .tcp) {t t' : Slot} {ls : List SlotEvent}
    (hrun : slotLts.Run t ls t') (hacc : SlotEvent.proc .accept ∉ ls) (ht : t.Silent f) :
    ∀ o, SlotEvent.fwd f (.send o) ∉ ls := by
  intro o hmem
  have hP : ∀ l ∈ ls, l ≠ .proc .accept := fun l hl he => hacc (he ▸ hl)
  have hlabel := hrun.forall_label (Q := fun l => ∀ o, l ≠ .fwd f (.send o))
    (fun _ _ _ hl ht hst => silent_step hf hl ht hst) ?_ hP ht
  · exact hlabel _ hmem o rfl
  · -- a send needs a message to send
    rintro t l t' - ⟨-, -, htb⟩ hst o rfl
    change fwdStep t f (.send o) = some t' at hst
    obtain ⟨source, data, hbd, -⟩ := fwdStep_send hst
    exact htb source data hbd

/-- **A zero-length datagram ends UDP forwarding.**  Take a slot whose processing thread is
between messages of its client, and a UDP forwarder in `conn_recv_any` on its open socket.  A
datagram of zero bytes makes the forwarder leave its loop: `-EPIPE` is a disconnect code, so the
switch does not call `proxy_conn_drop`, and the forwarder closes its socket and returns.  The
client is left as it was, and along any run without a new `proxy_conn_accept`, whatever
arrives and whatever the threads do, the forwarder never sends to the client again. -/
theorem zero_datagram_ends_forwarding {s : Slot} {f : Fwd} (hf : f ≠ .tcp)
    (hp : s.proc = .processing) (hrun : (s.worker f).thread = .running)
    (hb : s.body f = .recv) (hs : s.sock f = true) (source : UInt32) :
    ∃ s₁, slotLts.Run s [.fwd f (.recv (.bytes source [])), .fwd f .drop, .fwd f .close] s₁ ∧
      s₁.proc = .processing ∧ s₁.client = s.client ∧ s₁.body f = .done ∧ s₁.sock f = false ∧
      ∀ ls s₂, slotLts.Run s₁ ls s₂ → SlotEvent.proc .accept ∉ ls →
        ∀ o, SlotEvent.fwd f (.send o) ∉ ls := by
  have hdisc : isDisconnect (-EPIPE) = true := by decide
  have hpipe : ¬ EPIPE < 0 := by decide
  refine ⟨(s.closeSock f).setFwd f (s.worker f) .done, Lts.Run.of_exec ?_, by simpa using hp,
    by simp, by simp, by simp, ?_⟩
  · -- the receive gives `-EPIPE`, the switch keeps the client, the socket is closed
    cases f
    · simp only [Slot.sock_control] at hs
      simp [Lts.exec, slotStep, fwdStep, hrun, hb, hs, connRecvAny, hdisc, hpipe, Slot.setFwd,
        Slot.closeSock]
    · simp only [Slot.sock_data] at hs
      simp [Lts.exec, slotStep, fwdStep, hrun, hb, hs, connRecvAny, hdisc, hpipe, Slot.setFwd,
        Slot.closeSock]
    · exact absurd rfl hf
  · -- from here on the socket stays closed, so the forwarder never has data to send
    exact fun ls s₂ hrun₂ hacc => silent_run hf hrun₂ hacc ⟨by simp [hp], by simp, by simp⟩

/-- A client accepted, both UDP forwarders woken, and `forwarder_control` in `conn_recv_any`. -/
def udpServing : List SlotEvent :=
  [.proc .accept, .proc (.listenControl .ok), .proc (.listenData .ok), .proc .wakeControl,
    .proc .wakeData, .fwd .control (.thread .running)]

/-- The slot after `udpServing`. -/
def afterUdpServing : Slot := (Lts.exec slotStep Slot.init udpServing).getD Slot.init

theorem zero_datagram_ends_forwarding_control :
    slotLts.Reachable Slot.init afterUdpServing ∧ afterUdpServing.client = some ⟨false⟩ ∧
      afterUdpServing.proc = .processing ∧
      (afterUdpServing.worker .control).thread = .running ∧
      afterUdpServing.body .control = .recv ∧ afterUdpServing.sock .control = true ∧
      ∃ s₁, slotLts.Run afterUdpServing
          [.fwd .control (.recv (.bytes 0x0A000001 [])), .fwd .control .drop,
            .fwd .control .close] s₁ ∧
        s₁.proc = .processing ∧ s₁.client = afterUdpServing.client ∧
        s₁.body .control = .done ∧ s₁.sock .control = false ∧
        ∀ ls s₂, slotLts.Run s₁ ls s₂ → SlotEvent.proc .accept ∉ ls →
          ∀ o, SlotEvent.fwd .control (.send o) ∉ ls :=
  ⟨⟨udpServing, Lts.Run.of_exec rfl⟩, by decide, by decide, by decide, by decide, by decide,
    zero_datagram_ends_forwarding (by decide) (by decide) (by decide) (by decide) (by decide)
      0x0A000001⟩

/-- The same for `forwarder_data`: the client is connected and `forwarder_data` is in
`conn_recv_any`. -/
def udpServingData : List SlotEvent :=
  [.proc .accept, .proc (.listenControl .ok), .proc (.listenData .ok), .proc .wakeControl,
    .proc .wakeData, .fwd .data (.thread .running)]

/-- The slot after `udpServingData`. -/
def afterUdpServingData : Slot := (Lts.exec slotStep Slot.init udpServingData).getD Slot.init

theorem zero_datagram_ends_forwarding_data :
    slotLts.Reachable Slot.init afterUdpServingData ∧
      ∃ s₁, slotLts.Run afterUdpServingData
          [.fwd .data (.recv (.bytes 0 [])), .fwd .data .drop, .fwd .data .close] s₁ ∧
        s₁.proc = .processing ∧ s₁.client = afterUdpServingData.client ∧
        s₁.body .data = .done ∧ s₁.sock .data = false ∧
        ∀ ls s₂, slotLts.Run s₁ ls s₂ → SlotEvent.proc .accept ∉ ls →
          ∀ o, SlotEvent.fwd .data (.send o) ∉ ls :=
  ⟨⟨udpServingData, Lts.Run.of_exec rfl⟩,
    zero_datagram_ends_forwarding (by decide) (by decide) (by decide) (by decide) (by decide) 0⟩

/-! ### A late exit of `forwarder_tcp` -/

/-- **`forwarder_tcp`'s late exit closes the next session.**  Take a reachable slot whose
processing thread is between messages of a client that has not been dropped, while
`forwarder_tcp` has left its receive loop and not yet run the `conn_close` after it.  The
client's `TCP_OPEN` connects `conn_tcp` for a new session, wakes the worker and reports
`TCP_STATUS` `0`; then the forwarder's `conn_close(&priv->conn_tcp)` closes that new connection
and its `send_tcp_close` sends `TCP_CLOSE` for it, though nothing of the new session failed or
asked for it. -/
theorem late_tcp_exit_closes_next_session {s : Slot} (h : slotLts.Reachable Slot.init s)
    (hp : s.proc = .processing) (hc : s.client = some ⟨false⟩)
    (hb : s.body .tcp = .exitClose) :
    ∃ s₁ s₂, slotLts.Run s [.proc (.tcpOpen .ok), .proc .openWake, .proc (.openStatus .ok)] s₁ ∧
      s₁.proc = .processing ∧ s₁.tcp = true ∧ s₁.session = s.session + 1 ∧
      s₁.sent = s.sent ++ [.status 0] ∧
      slotLts.Run s₁ [.fwd .tcp .close, .fwd .tcp (.tcpSendClose .ok)] s₂ ∧
      s₂.proc = .processing ∧ s₂.tcp = false ∧ s₂.session = s₁.session ∧
      s₂.sent = s₁.sent ++ [.tcpClose] := by
  -- the worker is serving, so the wake of `process_tcp_open_message` returns `0`
  have hwake := workerWake_of_serving ((slot_wf h).serving .tcp)
  let s₁ : Slot := { s with
    tcp := true, session := s.session + 1, proc := .processing,
    worker := Function.update s.worker .tcp { s.worker .tcp with state := .signaled },
    stream := s.stream ++ (Sender.status 0).bytes, sent := s.sent ++ [.status 0] }
  let s₂ : Slot := { s₁ with
    tcp := false, stream := s₁.stream ++ Sender.tcpClose.bytes, sent := s₁.sent ++ [.tcpClose],
    body := Function.update s.body .tcp .done }
  refine ⟨s₁, s₂, Lts.Run.of_exec ?_, rfl, rfl, rfl, rfl, Lts.Run.of_exec ?_, rfl, rfl, rfl, rfl⟩
  · simp [Lts.exec, slotStep, procStep, hp, wakeStep_eq, hwake, Slot.sendClient_ok, hc, s₁]
  · simp [Lts.exec, slotStep, fwdStep, hb, Slot.sendClient_ok, hc, s₁, s₂, Slot.closeSock,
      Slot.setFwd]

/-- A client accepted; a `TCP_OPEN` connects and is reported; `forwarder_tcp` begins its loop;
the client's `TCP_CLOSE` closes `conn_tcp`; the forwarder's receive fails on the closed
connection and its switch lets it out of the loop. -/
def tcpSessionClosed : List SlotEvent :=
  [.proc .accept, .proc (.listenControl .ok), .proc (.listenData .ok), .proc .wakeControl,
    .proc .wakeData, .proc (.tcpOpen .ok), .proc .openWake, .proc (.openStatus .ok),
    .fwd .tcp (.thread .running), .proc .tcpClose, .fwd .tcp (.recv (.bytes 0 [1])),
    .fwd .tcp .drop]

/-- The slot after `tcpSessionClosed`. -/
def afterTcpSessionClosed : Slot :=
  (Lts.exec slotStep Slot.init tcpSessionClosed).getD Slot.init

theorem late_tcp_exit_closes_second_session :
    slotLts.Reachable Slot.init afterTcpSessionClosed ∧
      afterTcpSessionClosed.proc = .processing ∧ afterTcpSessionClosed.client = some ⟨false⟩ ∧
      afterTcpSessionClosed.body .tcp = .exitClose ∧ afterTcpSessionClosed.session = 1 ∧
      afterTcpSessionClosed.tcp = false ∧
      ∃ s₁ s₂, slotLts.Run afterTcpSessionClosed
          [.proc (.tcpOpen .ok), .proc .openWake, .proc (.openStatus .ok)] s₁ ∧
        s₁.proc = .processing ∧ s₁.tcp = true ∧
        s₁.session = afterTcpSessionClosed.session + 1 ∧
        s₁.sent = afterTcpSessionClosed.sent ++ [.status 0] ∧
        slotLts.Run s₁ [.fwd .tcp .close, .fwd .tcp (.tcpSendClose .ok)] s₂ ∧
        s₂.proc = .processing ∧ s₂.tcp = false ∧ s₂.session = s₁.session ∧
        s₂.sent = s₁.sent ++ [.tcpClose] :=
  ⟨⟨tcpSessionClosed, Lts.Run.of_exec rfl⟩, by decide, by decide, by decide, by decide,
    by decide,
    late_tcp_exit_closes_next_session ⟨tcpSessionClosed, Lts.Run.of_exec rfl⟩ (by decide)
      (by decide) (by decide)⟩

/-- One client: `TCP_OPEN` connects, and the remote end resets the connection, so that
`forwarder_tcp`'s receive fails and it leaves its loop, with no `TCP_CLOSE` from the client. -/
def tcpSessionReset : List SlotEvent :=
  [.proc .accept, .proc (.listenControl .ok), .proc (.listenData .ok), .proc .wakeControl,
    .proc .wakeData, .proc (.tcpOpen .ok), .proc .openWake, .proc (.openStatus .ok),
    .fwd .tcp (.thread .running), .fwd .tcp (.recv (.fail 104)), .fwd .tcp .drop]

/-- The slot after `tcpSessionReset`. -/
def afterTcpSessionReset : Slot :=
  (Lts.exec slotStep Slot.init tcpSessionReset).getD Slot.init

/-- After the reset, a second `TCP_OPEN` is closed by the first session's late exit. -/
theorem late_tcp_exit_after_reset :
    slotLts.Reachable Slot.init afterTcpSessionReset ∧ afterTcpSessionReset.session = 1 ∧
      ∃ s₁ s₂, slotLts.Run afterTcpSessionReset
          [.proc (.tcpOpen .ok), .proc .openWake, .proc (.openStatus .ok)] s₁ ∧
        s₁.proc = .processing ∧ s₁.tcp = true ∧
        s₁.session = afterTcpSessionReset.session + 1 ∧
        s₁.sent = afterTcpSessionReset.sent ++ [.status 0] ∧
        slotLts.Run s₁ [.fwd .tcp .close, .fwd .tcp (.tcpSendClose .ok)] s₂ ∧
        s₂.proc = .processing ∧ s₂.tcp = false ∧ s₂.session = s₁.session ∧
        s₂.sent = s₁.sent ++ [.tcpClose] :=
  ⟨⟨tcpSessionReset, Lts.Run.of_exec rfl⟩, by decide,
    late_tcp_exit_closes_next_session ⟨tcpSessionReset, Lts.Run.of_exec rfl⟩ (by decide)
      (by decide) (by decide)⟩

end OpenElp
