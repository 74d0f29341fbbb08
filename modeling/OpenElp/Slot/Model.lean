import OpenElp.Lts.Basic
import OpenElp.Process

/-!
# A slot and its threads (`proxy_conn.c`)

A slot (`struct proxy_conn_handle`) serves one client at a time.  The proxy worker that
accepted the client is the slot's processing thread: it takes the slot (`proxy_conn_accept`),
processes the client's messages (`proxy_conn_process`) and gives the slot up
(`proxy_conn_finish`).  Three forwarders, workers started once by `proxy_conn_start`, forward
what arrives on the UDP control and data sockets and on the remote TCP connection to the client,
each piece as one message on the client's stream.

Each region under `mutex_client`, `mutex_client_send`, a worker's mutex or a connection's mutex
is one step, and so is each unguarded call between them.  The environment (the client, the
remote hosts, the network) chooses what every call on a connection returns; a send on the
client connection that succeeds appends its whole buffer to the client's stream.  Messages that
touch nothing the threads share (`UDP_DATA`, `UDP_CONTROL`, a `TCP_DATA` whose remote sends go
through) are not steps.

The model starts after `proxy_conn_start`.  As ghost state it records who sent each message on
the stream and how many TCP connections `TCP_OPEN` has opened.

* `slotLts` : the slot as a transition system;
* `slot_worker_reachable` : each forwarder's worker runs as the worker of `worker.c` does, so
  the results of `OpenElp.Worker` apply to it.
-/

namespace OpenElp

/-! ### The forwarders -/

/-- The forwarders of a slot: `worker_control`, `worker_data` and `worker_tcp`. -/
inductive Fwd
  | control
  | data
  | tcp
  deriving DecidableEq, Repr

/-- The type that `forwarder_control`, `forwarder_data` and `forwarder_tcp` set in their
buffer's header. -/
def Fwd.msgType : Fwd → ProxyMsgType
  | control => .udpControl
  | data => .udpData
  | tcp => .tcpData

/-- `CONN_BUFF_LEN_HEADERLESS`: the most a forwarder receives at once. -/
def connBuffLenHeaderless : ℕ := connBuffLen - proxyMsgLen

/-- What the environment makes a call return: success, or failure with a positive `errno`. -/
inductive Outcome
  | ok
  | fail (errno : ℕ) (pos : 0 < errno)

/-- The value returned for an outcome. -/
def Outcome.ret : Outcome → ℤ
  | ok => 0
  | fail e _ => -(e : ℤ)

/-- Where a forwarder's `func_ptr` is. -/
inductive FwdPhase
  /-- At `conn_recv_any`. -/
  | recv
  /-- At the locked `conn_send` of the message for `data`, received from `source`. -/
  | send (source : UInt32) (data : List UInt8)
  /-- That send failed with `ret`; `conn_close` of the forwarder's connection is next. -/
  | sendFailed (ret : ℤ)
  /-- Then the switch on `ret`, and `return`. -/
  | sendFailedDrop (ret : ℤ)
  /-- The loop ended with `ret`; the switch on it is next. -/
  | exited (ret : ℤ)
  /-- Then `conn_close` of the forwarder's connection. -/
  | exitClose
  /-- Then, in `forwarder_tcp`, `send_tcp_close`. -/
  | exitTcpClose
  /-- About to return from `func_ptr`. -/
  | done
  deriving DecidableEq, Repr

/-- Who sent a message on the client's stream. -/
inductive Sender
  /-- A forwarder, forwarding `data` that it received from `source`. -/
  | forwarder (f : Fwd) (source : UInt32) (data : List UInt8)
  /-- `process_tcp_open_message`, reporting `ret`. -/
  | status (ret : ℤ)
  /-- `send_tcp_close`, from `process_tcp_data_message` or from `forwarder_tcp`. -/
  | tcpClose
  deriving DecidableEq, Repr

/-- The bytes a forwarder sends: the header of its buffer (`type`, `address`, `size = ret`) and
the data after it.  `forwarder_tcp` never sets `address`, which keeps the `0` of the buffer's
initializer. -/
def fwdMsgBytes (f : Fwd) (source : UInt32) (data : List UInt8) : List UInt8 :=
  ProxyMsg.toBytes ⟨f.msgType.toByte, if f = .tcp then 0 else source, data.length.toUInt32⟩ ++
    data

/-- The bytes each sender hands to `conn_send`. -/
def Sender.bytes : Sender → List UInt8
  | .forwarder f source data => fwdMsgBytes f source data
  | .status ret => tcpStatusMsg ret
  | .tcpClose => tcpCloseMsg.toBytes

/-! ### The processing thread -/

/-- `priv->conn_client` while it is set. -/
structure ClientConn where
  /-- `conn_drop` has shut the connection down. -/
  dropped : Bool
  deriving DecidableEq, Repr

/-- Where the processing thread is. -/
inductive ProcPhase
  /-- The slot has no client. -/
  | free
  /-- In `proxy_conn_accept`, after taking the client: `conn_listen(&priv->conn_control)`. -/
  | listenControl
  /-- `conn_listen(&priv->conn_data)`. -/
  | listenData
  /-- `worker_wake(&priv->worker_control)`. -/
  | wakeControl
  /-- `worker_wake(&priv->worker_data)`. -/
  | wakeData
  /-- In the loop of `proxy_conn_process`, between messages. -/
  | processing
  /-- In `process_tcp_open_message` after connecting: `worker_wake(&priv->worker_tcp)`. -/
  | openWake
  /-- Then the locked send of `TCP_STATUS` reporting `ret`. -/
  | openStatus (ret : ℤ)
  /-- In `process_tcp_data_message` after a failed remote send: `send_tcp_close`. -/
  | dataClose
  /-- In `proxy_conn_finish`: `proxy_conn_drop`. -/
  | drop
  /-- `conn_close(&priv->conn_control)`. -/
  | closeControl
  /-- `conn_close(&priv->conn_data)`. -/
  | closeData
  /-- `conn_close(&priv->conn_tcp)`. -/
  | closeTcp
  /-- `worker_wait_idle(&priv->worker_tcp)`. -/
  | waitTcp
  /-- `worker_wait_idle(&priv->worker_data)`. -/
  | waitData
  /-- `worker_wait_idle(&priv->worker_control)`. -/
  | waitControl
  /-- The locked `priv->conn_client = NULL`. -/
  | clear
  deriving DecidableEq, Repr

/-- A slot and its threads. -/
structure Slot where
  /-- Where the processing thread is. -/
  proc : ProcPhase
  /-- `priv->conn_client`. -/
  client : Option ClientConn
  /-- What the client's stream has received since the client was accepted. -/
  stream : List UInt8
  /-- Whether `conn_control`, `conn_data` and `conn_tcp` are open. -/
  control : Bool
  data : Bool
  tcp : Bool
  /-- Ghost: the TCP connections `TCP_OPEN` has opened. -/
  session : ℕ
  /-- Ghost: who sent each message on the client's stream. -/
  sent : List Sender
  /-- `priv->worker_control`, `priv->worker_data`, `priv->worker_tcp`. -/
  worker : Fwd → Worker
  /-- Where each forwarder's `func_ptr` is, while its thread runs it. -/
  body : Fwd → FwdPhase

namespace Slot

/-- A slot after `proxy_conn_init` and `proxy_conn_start`: no client, every connection closed,
and each forwarder's thread just started. -/
def init : Slot where
  proc := .free
  client := none
  stream := []
  control := false
  data := false
  tcp := false
  session := 0
  sent := []
  worker := fun _ => ⟨.starting, .entry⟩
  body := fun _ => .done

/-- Whether a forwarder's connection is open. -/
def sock (s : Slot) : Fwd → Bool
  | .control => s.control
  | .data => s.data
  | .tcp => s.tcp

/-- `conn_close` of a forwarder's connection. -/
def closeSock (s : Slot) : Fwd → Slot
  | .control => { s with control := false }
  | .data => { s with data := false }
  | .tcp => { s with tcp := false }

/-- A locked send on the client connection: a dropped connection fails with `ENOTCONN`;
otherwise the environment's outcome decides, and a success appends the whole buffer. -/
def sendClient (s : Slot) (o : Outcome) (snd : Sender) : ℤ × Slot :=
  let ret := if s.client.any (·.dropped) then -ENOTCONN else o.ret
  if ret < 0 then (ret, s)
  else (ret, { s with stream := s.stream ++ snd.bytes, sent := s.sent ++ [snd] })

/-- `proxy_conn_drop`: shut the client connection down, if there is one. -/
def dropClient (s : Slot) : Slot :=
  { s with client := s.client.map fun _ => ⟨true⟩ }

/-- Set one forwarder's worker and body. -/
def setFwd (s : Slot) (f : Fwd) (w : Worker) (b : FwdPhase) : Slot :=
  { s with worker := Function.update s.worker f w, body := Function.update s.body f b }

end Slot

/-! ### The steps -/

/-- The processing thread's events. -/
inductive ProcEvent
  /-- The locked section of `proxy_conn_accept` that takes the client. -/
  | accept
  /-- `conn_listen` on `conn_control` and on `conn_data`. -/
  | listenControl (o : Outcome)
  | listenData (o : Outcome)
  /-- `worker_wake` of the UDP forwarders in `proxy_conn_accept`. -/
  | wakeControl
  | wakeData
  /-- A `TCP_OPEN` message: its header, the address check and `conn_connect`. -/
  | tcpOpen (o : Outcome)
  /-- `worker_wake(&priv->worker_tcp)`, and `conn_close` if it fails. -/
  | openWake
  /-- The locked send of `TCP_STATUS`. -/
  | openStatus (o : Outcome)
  /-- A `TCP_CLOSE` message: `conn_close(&priv->conn_tcp)`. -/
  | tcpClose
  /-- A `TCP_DATA` message some remote send of which fails: `conn_close(&priv->conn_tcp)`. -/
  | tcpDataFail
  /-- `send_tcp_close` after it, whose result is dropped. -/
  | dataClose (o : Outcome)
  /-- `proxy_conn_process` fails on the client connection. -/
  | processEnd
  /-- The next statement of `proxy_conn_finish`. -/
  | finish

/-- A forwarder's events. -/
inductive FwdEvent
  /-- A region of the worker's own loop (`worker_func`); `.thread .running` begins a call. -/
  | thread (next : ThreadPhase)
  /-- `conn_recv_any` on the forwarder's connection. -/
  | recv (r : RecvResult)
  /-- The locked `conn_send` of a message to the client. -/
  | send (o : Outcome)
  /-- `conn_close` of the forwarder's connection. -/
  | close
  /-- The switch on the return value, which may call `proxy_conn_drop`. -/
  | drop
  /-- `forwarder_tcp`'s `send_tcp_close`. -/
  | tcpSendClose (o : Outcome)

/-- An event of a slot. -/
inductive SlotEvent
  | proc (e : ProcEvent)
  | fwd (f : Fwd) (e : FwdEvent)

/-- `worker_wait_idle`: the step happens once the wait has returned. -/
def waitStep (s : Slot) (f : Fwd) (next : ProcPhase) : Option Slot :=
  if (workerWaitIdle (s.worker f)).isSome then some { s with proc := next } else none

/-- A `worker_wake` of the processing thread, then `next ret`. -/
def wakeStep (s : Slot) (f : Fwd) (next : ℤ → Slot → Slot) : Slot :=
  match workerWake (s.worker f) with
  | (ret, w) => next ret { s with worker := Function.update s.worker f w }

/-- The statements of `proxy_conn_finish`, one at a time. -/
def finishStep (s : Slot) : Option Slot :=
  match s.proc with
  | .drop => some { s.dropClient with proc := .closeControl }
  | .closeControl => some { s with control := false, proc := .closeData }
  | .closeData => some { s with data := false, proc := .closeTcp }
  | .closeTcp => some { s with tcp := false, proc := .waitTcp }
  | .waitTcp => waitStep s .tcp .waitData
  | .waitData => waitStep s .data .waitControl
  | .waitControl => waitStep s .control .clear
  | .clear => some { s with client := none, proc := .free }
  | _ => none

/-- A step of the processing thread. -/
def procStep (s : Slot) : ProcEvent → Option Slot
  | .accept =>
    -- `-EBUSY` while the slot has a client: this thread does not take the slot
    if s.proc = .free ∧ s.client = none then
      some { s with proc := .listenControl, client := some ⟨false⟩, stream := [], sent := [] }
    else none
  | .listenControl o =>
    if s.proc = .listenControl then
      some (match o with
        | .ok => { s with control := true, proc := .listenData }
        | .fail _ _ => { s with proc := .drop })
    else none
  | .listenData o =>
    if s.proc = .listenData then
      some (match o with
        | .ok => { s with data := true, proc := .wakeControl }
        | .fail _ _ => { s with proc := .drop })
    else none
  | .wakeControl =>
    if s.proc = .wakeControl then
      some (wakeStep s .control fun ret s => { s with proc := if ret < 0 then .drop else .wakeData })
    else none
  | .wakeData =>
    if s.proc = .wakeData then
      some (wakeStep s .data fun ret s => { s with proc := if ret < 0 then .drop else .processing })
    else none
  | .tcpOpen o =>
    if s.proc = .processing then
      some (match o with
        | .ok => { s with tcp := true, session := s.session + 1, proc := .openWake }
        | .fail e _ => { s with proc := .openStatus (-(e : ℤ)) })
    else none
  | .openWake =>
    if s.proc = .openWake then
      some (wakeStep s .tcp fun ret s =>
        { s with tcp := if ret < 0 then false else s.tcp, proc := .openStatus ret })
    else none
  | .openStatus o =>
    match s.proc with
    | .openStatus ret =>
      match s.sendClient o (.status ret) with
      | (r, s) => some { s with proc := if r < 0 then .drop else .processing }
    | _ => none
  | .tcpClose => if s.proc = .processing then some { s with tcp := false } else none
  | .tcpDataFail =>
    if s.proc = .processing then some { s with tcp := false, proc := .dataClose } else none
  | .dataClose o =>
    if s.proc = .dataClose then some { (s.sendClient o .tcpClose).2 with proc := .processing }
    else none
  | .processEnd => if s.proc = .processing then some { s with proc := .drop } else none
  | .finish => finishStep s

/-- A step of forwarder `f`. -/
def fwdStep (s : Slot) (f : Fwd) : FwdEvent → Option Slot
  | .thread next =>
    -- a call of `func_ptr` returns only from its end
    if (s.worker f).thread = .running ∧ s.body f ≠ .done then none
    else
      match workerStep 0 (s.worker f) (.thread next) with
      | some w => some (s.setFwd f w (if next = .running then .recv else s.body f))
      | none => none
  | .recv r =>
    if (s.worker f).thread = .running ∧ s.body f = .recv then
      match connRecvAny (s.sock f) r connBuffLenHeaderless with
      | (ret, data, source) =>
        some (s.setFwd f (s.worker f) (if ret > 0 then .send source data else .exited ret))
    else none
  | .send o =>
    match s.body f with
    | .send source data =>
      match s.sendClient o (.forwarder f source data) with
      | (ret, s) =>
        some (s.setFwd f (s.worker f) (if ret < 0 then .sendFailed ret else .recv))
    | _ => none
  | .close =>
    match s.body f with
    | .sendFailed ret => some ((s.closeSock f).setFwd f (s.worker f) (.sendFailedDrop ret))
    | .exitClose =>
      some ((s.closeSock f).setFwd f (s.worker f) (if f = .tcp then .exitTcpClose else .done))
    | _ => none
  | .drop =>
    match s.body f with
    | .sendFailedDrop ret =>
      some ((if isDisconnect ret then s else s.dropClient).setFwd f (s.worker f) .done)
    | .exited ret =>
      -- `forwarder_tcp` only logs a failed receive; the UDP forwarders drop the client
      some ((if isDisconnect ret || f = .tcp then s else s.dropClient).setFwd f (s.worker f)
        .exitClose)
    | _ => none
  | .tcpSendClose o =>
    if s.body f = .exitTcpClose then
      some (((s.sendClient o .tcpClose).2).setFwd f (s.worker f) .done)
    else none

/-- The step function of a slot. -/
def slotStep (s : Slot) : SlotEvent → Option Slot
  | .proc e => procStep s e
  | .fwd f e => fwdStep s f e

/-- A slot as a transition system. -/
def slotLts : Lts Slot SlotEvent := Lts.ofFun slotStep

/-! ### What each helper changes -/

namespace Slot

variable (s : Slot) (f g : Fwd)

@[simp] theorem closeSock_worker : (s.closeSock f).worker = s.worker := by cases f <;> rfl
@[simp] theorem closeSock_body : (s.closeSock f).body = s.body := by cases f <;> rfl
@[simp] theorem closeSock_client : (s.closeSock f).client = s.client := by cases f <;> rfl
@[simp] theorem closeSock_proc : (s.closeSock f).proc = s.proc := by cases f <;> rfl
@[simp] theorem closeSock_stream : (s.closeSock f).stream = s.stream := by cases f <;> rfl
@[simp] theorem closeSock_sent : (s.closeSock f).sent = s.sent := by cases f <;> rfl
@[simp] theorem closeSock_session : (s.closeSock f).session = s.session := by cases f <;> rfl

@[simp] theorem sock_control : s.sock .control = s.control := rfl
@[simp] theorem sock_data : s.sock .data = s.data := rfl
@[simp] theorem sock_tcp : s.sock .tcp = s.tcp := rfl

@[simp] theorem sock_closeSock : (s.closeSock f).sock g = (s.sock g && g != f) := by
  cases f <;> cases g <;> simp [closeSock, sock]

variable (o : Outcome) (snd : Sender)

/-- A send on the client connection appends the sender's bytes, or nothing. -/
theorem sendClient_snd : (s.sendClient o snd).2 = s ∨
    (s.sendClient o snd).2 = { s with stream := s.stream ++ snd.bytes, sent := s.sent ++ [snd] } := by
  by_cases h : (if s.client.any (·.dropped) then -ENOTCONN else o.ret) < 0
  · exact .inl (by simp only [sendClient, h, if_true])
  · exact .inr (by simp only [sendClient, h, if_false])

@[simp] theorem sendClient_worker : (s.sendClient o snd).2.worker = s.worker := by
  rcases sendClient_snd s o snd with h | h <;> rw [h]
@[simp] theorem sendClient_body : (s.sendClient o snd).2.body = s.body := by
  rcases sendClient_snd s o snd with h | h <;> rw [h]
@[simp] theorem sendClient_client : (s.sendClient o snd).2.client = s.client := by
  rcases sendClient_snd s o snd with h | h <;> rw [h]
@[simp] theorem sendClient_proc : (s.sendClient o snd).2.proc = s.proc := by
  rcases sendClient_snd s o snd with h | h <;> rw [h]
@[simp] theorem sendClient_sock : (s.sendClient o snd).2.sock f = s.sock f := by
  rcases sendClient_snd s o snd with h | h <;> rw [h]
  cases f <;> rfl
@[simp] theorem sendClient_session : (s.sendClient o snd).2.session = s.session := by
  rcases sendClient_snd s o snd with h | h <;> rw [h]
@[simp] theorem sendClient_control : (s.sendClient o snd).2.control = s.control :=
  sendClient_sock s .control o snd
@[simp] theorem sendClient_data : (s.sendClient o snd).2.data = s.data :=
  sendClient_sock s .data o snd
@[simp] theorem sendClient_tcp : (s.sendClient o snd).2.tcp = s.tcp :=
  sendClient_sock s .tcp o snd

@[simp] theorem dropClient_worker : s.dropClient.worker = s.worker := rfl
@[simp] theorem dropClient_body : s.dropClient.body = s.body := rfl
@[simp] theorem dropClient_proc : s.dropClient.proc = s.proc := rfl
@[simp] theorem dropClient_stream : s.dropClient.stream = s.stream := rfl
@[simp] theorem dropClient_sent : s.dropClient.sent = s.sent := rfl
@[simp] theorem dropClient_sock : s.dropClient.sock f = s.sock f := by cases f <;> rfl
@[simp] theorem dropClient_session : s.dropClient.session = s.session := rfl

variable (w : Worker) (b : FwdPhase)

@[simp] theorem setFwd_worker : (s.setFwd f w b).worker = Function.update s.worker f w := rfl
@[simp] theorem setFwd_body : (s.setFwd f w b).body = Function.update s.body f b := rfl
@[simp] theorem setFwd_client : (s.setFwd f w b).client = s.client := rfl
@[simp] theorem setFwd_proc : (s.setFwd f w b).proc = s.proc := rfl
@[simp] theorem setFwd_stream : (s.setFwd f w b).stream = s.stream := rfl
@[simp] theorem setFwd_sent : (s.setFwd f w b).sent = s.sent := rfl
@[simp] theorem setFwd_sock : (s.setFwd f w b).sock g = s.sock g := by cases g <;> rfl
@[simp] theorem setFwd_session : (s.setFwd f w b).session = s.session := rfl

end Slot

/-! ### What the steps do to the forwarders' workers -/

/-- The forwarder whose worker an event of the processing thread wakes. -/
def ProcEvent.wakes : ProcEvent → Option Fwd
  | .wakeControl => some .control
  | .wakeData => some .data
  | .openWake => some .tcp
  | _ => none

section Steps

variable {s s' : Slot}

theorem wakeStep_eq (f : Fwd) (next : ℤ → Slot → Slot) :
    wakeStep s f next = next (workerWake (s.worker f)).1
      { s with worker := Function.update s.worker f (workerWake (s.worker f)).2 } := rfl

theorem finishStep_worker (h : finishStep s = some s') : s'.worker = s.worker := by
  unfold finishStep waitStep at h
  split at h <;> (try split_ifs at h) <;> cases h <;> rfl

/-- The step of the locked send of `TCP_STATUS`. -/
theorem procStep_openStatus {o : Outcome} (h : procStep s (.openStatus o) = some s') :
    ∃ ret, s.proc = .openStatus ret ∧
      s' = { (s.sendClient o (.status ret)).2 with
        proc := if (s.sendClient o (.status ret)).1 < 0 then .drop else .processing } := by
  simp only [procStep] at h
  split at h
  · rename_i ret hp
    generalize hsc : s.sendClient o (.status ret) = p at h
    obtain ⟨r, t⟩ := p
    cases h
    refine ⟨ret, hp, ?_⟩
    rw [hsc]
  · cases h

/-- The processing thread changes a forwarder's worker only by waking it. -/
theorem procStep_worker {e : ProcEvent} (h : procStep s e = some s') (f : Fwd) :
    s'.worker f = if e.wakes = some f then (workerWake (s.worker f)).2 else s.worker f := by
  have key : s'.worker = match e.wakes with
      | some g => Function.update s.worker g (workerWake (s.worker g)).2
      | none => s.worker := by
    cases e with
    | wakeControl | wakeData | openWake =>
      simp only [procStep] at h
      split_ifs at h
      cases h
      rfl
    | openStatus o =>
      obtain ⟨ret, -, rfl⟩ := procStep_openStatus h
      simp [ProcEvent.wakes]
    | finish => exact finishStep_worker h
    | accept | tcpClose | tcpDataFail | processEnd =>
      simp only [procStep] at h
      split_ifs at h
      cases h
      rfl
    | listenControl o | listenData o | tcpOpen o =>
      simp only [procStep] at h
      split_ifs at h
      cases h
      cases o <;> rfl
    | dataClose o =>
      simp only [procStep] at h
      split_ifs at h
      cases h
      exact s.sendClient_worker o .tcpClose
  rw [key]
  cases e.wakes with
  | none => simp
  | some g =>
    by_cases hg : f = g
    · subst hg
      simp
    · simp [Function.update_of_ne hg, Ne.symm hg]

/-- The locked send of a forwarder's message. -/
theorem fwdStep_send {f : Fwd} {o : Outcome} (h : fwdStep s f (.send o) = some s') :
    ∃ source data, s.body f = .send source data ∧
      s' = (s.sendClient o (.forwarder f source data)).2.setFwd f (s.worker f)
        (if (s.sendClient o (.forwarder f source data)).1 < 0 then
          .sendFailed (s.sendClient o (.forwarder f source data)).1 else .recv) := by
  simp only [fwdStep] at h
  split at h
  · rename_i source data hb
    generalize hsc : s.sendClient o (.forwarder f source data) = p at h
    obtain ⟨r, t⟩ := p
    cases h
    have ht : t = (s.sendClient o (.forwarder f source data)).2 := by rw [hsc]
    refine ⟨source, data, hb, ?_⟩
    rw [hsc, ht, Slot.sendClient_worker]
  · cases h

/-- A forwarder changes no worker but its own, and its own only by a region of its thread. -/
theorem fwdStep_worker {f : Fwd} {e : FwdEvent} (h : fwdStep s f e = some s') :
    s'.worker = s.worker ∨
      ∃ next w, e = .thread next ∧ workerStep 0 (s.worker f) (.thread next) = some w ∧
        s'.worker = Function.update s.worker f w := by
  cases e with
  | thread next =>
    simp only [fwdStep] at h
    by_cases hr : (s.worker f).thread = .running ∧ s.body f ≠ .done
    · rw [if_pos hr] at h
      cases h
    · rw [if_neg hr] at h
      split at h
      · rename_i w hw
        cases h
        exact .inr ⟨next, w, rfl, hw, rfl⟩
      · cases h
  | recv r =>
    simp only [fwdStep] at h
    split_ifs at h <;> cases h <;> exact .inl (by simp)
  | send o =>
    obtain ⟨source, data, -, rfl⟩ := fwdStep_send h
    exact .inl (by simp)
  | close | drop =>
    simp only [fwdStep] at h
    split at h <;> cases h <;> exact .inl (by first | (split_ifs <;> simp) | simp)
  | tcpSendClose o =>
    simp only [fwdStep] at h
    split_ifs at h
    cases h
    exact .inl (by simp)

/-- Every step of a forwarder sets its own worker and body on a slot that differs from the one
before only in the connections, the stream and the client's dropped flag. -/
theorem fwdStep_setFwd {f : Fwd} {e : FwdEvent} (h : fwdStep s f e = some s') :
    ∃ (t : Slot) (w : Worker) (b : FwdPhase), s' = t.setFwd f w b ∧ t.worker = s.worker ∧ t.body = s.body ∧ t.proc = s.proc ∧
      (t.client = s.client ∨ t.client = s.dropClient.client) := by
  cases e with
  | thread next =>
    simp only [fwdStep] at h
    split at h
    · cases h
    · split at h <;> cases h
      exact ⟨s, _, _, rfl, rfl, rfl, rfl, .inl rfl⟩
  | recv r =>
    simp only [fwdStep] at h
    split at h <;> cases h
    exact ⟨s, _, _, rfl, rfl, rfl, rfl, .inl rfl⟩
  | send o =>
    obtain ⟨source, data, -, rfl⟩ := fwdStep_send h
    exact ⟨_, _, _, rfl, by simp, by simp, by simp, .inl (by simp)⟩
  | close =>
    simp only [fwdStep] at h
    split at h <;> cases h <;> exact ⟨_, _, _, rfl, by simp, by simp, by simp, .inl (by simp)⟩
  | drop =>
    simp only [fwdStep] at h
    split at h <;> cases h
    all_goals
      refine ⟨_, _, _, rfl, by split_ifs <;> rfl, by split_ifs <;> rfl, by split_ifs <;> rfl, ?_⟩
      split_ifs
      · exact .inl rfl
      · exact .inr rfl
  | tcpSendClose o =>
    simp only [fwdStep] at h
    split_ifs at h
    cases h
    exact ⟨_, _, _, rfl, by simp, by simp, by simp, .inl (by simp)⟩

/-- The steps of a forwarder other than its thread's regions happen inside `func_ptr`, where its
body is not at its end. -/
theorem fwdStep_body_ne_done {f : Fwd} {e : FwdEvent} (h : fwdStep s f e = some s')
    (he : ∀ next, e ≠ .thread next) : s.body f ≠ .done ∧ s'.worker f = s.worker f := by
  refine ⟨fun hd => ?_, ?_⟩
  · cases e with
    | thread next => exact he next rfl
    | recv r | tcpSendClose r => simp [fwdStep, hd] at h
    | send o | close | drop => simp [fwdStep, hd] at h
  · rcases fwdStep_worker h with hw | ⟨next, _, rfl, _, _⟩
    · rw [hw]
    · exact absurd rfl (he next)

/-- A region of a forwarder's thread: the worker's own step, from the end of `func_ptr` if the
thread was in it; a call begins at `conn_recv_any`. -/
theorem fwdStep_thread {f : Fwd} {next : ThreadPhase} (h : fwdStep s f (.thread next) = some s') :
    ((s.worker f).thread = .running → s.body f = .done) ∧
      workerStep 0 (s.worker f) (.thread next) = some (s'.worker f) ∧
      s'.body f = if next = .running then .recv else s.body f := by
  simp only [fwdStep] at h
  by_cases hr : (s.worker f).thread = .running ∧ s.body f ≠ .done
  · rw [if_pos hr] at h
    cases h
  · rw [if_neg hr] at h
    split at h
    · rename_i w hw
      cases h
      refine ⟨fun hrun => ?_, by simpa using hw, by simp⟩
      by_contra hb
      exact hr ⟨hrun, hb⟩
    · cases h

end Steps

/-! ### Each forwarder's worker -/

/-- **Each forwarder's worker is a worker of `worker.c`**: seen on one forwarder, a state that
the slot reaches is one that a worker with no `periodic_wake` reaches from a stopped worker,
through `worker_start` and then the wakes of the processing thread and the regions of its own
thread. -/
theorem slot_worker_reachable {s : Slot} (h : slotLts.Reachable Slot.init s) (f : Fwd) :
    (workerLts 0).Reachable Worker.init (s.worker f) := by
  have hstart : (workerLts 0).Reachable Worker.init ⟨.starting, .entry⟩ :=
    (Lts.Reachable.refl _).step (l := .start) rfl
  refine hstart.trans (h.map (fun s => s.worker f) ?_)
  intro s e s' hst
  change slotStep s e = some s' at hst
  cases e with
  | proc e =>
    -- only a wake of this forwarder is a step of its worker
    by_cases hw : e.wakes = some f
    · refine .inr ⟨.wake (workerWake (s.worker f)).1, ?_⟩
      change workerStep 0 _ _ = some _
      rw [procStep_worker hst f, if_pos hw]
      exact workerStep_wake.2 rfl
    · exact .inl (by simp only [procStep_worker hst f, if_neg hw])
  | fwd g e =>
    rcases fwdStep_worker hst with hw | ⟨next, w, -, hw, hupd⟩
    · exact .inl (by rw [hw])
    · by_cases hg : f = g
      · subst hg
        refine .inr ⟨.thread next, ?_⟩
        change workerStep 0 _ _ = some _
        rw [hupd, Function.update_self]
        exact hw
      · exact .inl (by simp [hupd, Function.update_of_ne hg])

end OpenElp
