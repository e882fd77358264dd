import QvNetfilter.Endpoints
import QvNetfilter.Rearm

/-!
# Sockets under other names

The proxy hands its sockets to the system and never compares two of them. Two
worlds agree at an endpoint when all that belongs to it is the same up to a renaming
of sockets; every function of the proxy that works for the endpoint keeps that, over
systems whose answers at the endpoint agree in the same way.
-/

namespace UdpProxy

def Call.rename (ρ : Socket → Socket) : Call → Call
  | .registerSocket s => .registerSocket (ρ s)
  | .connectEx s pAddr addrLen => .connectEx (ρ s) pAddr addrLen
  | .wsaSend s buf => .wsaSend (ρ s) buf
  | .wsaSendTo s buf pAddr addrLen => .wsaSendTo (ρ s) buf pAddr addrLen
  | .wsaRecv s => .wsaRecv (ρ s)
  | .wsaRecvFrom s => .wsaRecvFrom (ρ s)
  | .postCompletion s pov => .postCompletion (ρ s) pov

def Action.rename (ρ : Socket → Socket) : Action → Action
  | .opened type s => .opened type (s.map ρ)
  | .closed s => .closed (ρ s)
  | .created => .created
  | .call c accepted => .call (c.rename ρ) accepted
  | .received type data => .received type data
  | .onUdpReceiveComplete d => .onUdpReceiveComplete d

def ProxyData.rename (ρ : Socket → Socket) (pd : ProxyData) : ProxyData :=
  { pd with tcpSocket := ρ pd.tcpSocket, udpSocket := ρ pd.udpSocket }

def Operation.rename (ρ : Socket → Socket) (op : Operation) : Operation :=
  { op with socket := ρ op.socket }

theorem Operation.rename_injective {ρ : Socket → Socket} (injective : Function.Injective ρ) :
    Function.Injective (Operation.rename ρ) := by
  rintro ⟨pov, socket, queued⟩ ⟨pov', socket', queued'⟩ same
  obtain ⟨rfl, renamed, rfl⟩ := Operation.mk.inj same
  obtain rfl := injective renamed
  rfl

end UdpProxy

namespace Renaming

open Memory Socks Mealy UdpProxy Endpoints

/-- The answers of two systems at an endpoint, up to the names of sockets. -/
structure OsAgree (ρ : Socket → Socket) (id : EndpointId) (os os' : Os) : Prop where
  socket : ∀ history type,
    os'.socket id (history.map (Action.rename ρ)) type = (os.socket id history type).map ρ
  accepts : ∀ history c,
    os'.accepts id (history.map (Action.rename ρ)) (c.rename ρ) = os.accepts id history c

/-- What belongs to the endpoint is the same in both worlds, up to the names of sockets. -/
structure Agree (ρ : Socket → Socket) (id : EndpointId) (w w' : World) : Prop where
  entry : w'.socketMap id = (w.socketMap id).map (ProxyData.rename ρ)
  ovData : ∀ n, w'.ovData (id, n) = w.ovData (id, n)
  nextOv : w'.nextOv id = w.nextOv id
  work : workOf id w'.pending = (workOf id w.pending).map (Operation.rename ρ)
  history : w'.history id = (w.history id).map (Action.rename ρ)

namespace Agree
variable {ρ : Socket → Socket} {id : EndpointId} {w w' w₁ : World}

theorem initial : Agree ρ id World.initial World.initial :=
  ⟨rfl, fun _ => rfl, rfl, rfl, rfl⟩

/-- What another endpoint does in one of the worlds does not matter. -/
theorem left (agree : Agree ρ id w w') (same : Untouched id w w₁) : Agree ρ id w₁ w' where
  entry := by rw [agree.entry, same.entry]
  ovData n := by rw [agree.ovData, same.ovData]
  nextOv := by rw [agree.nextOv, same.nextOv]
  work := by rw [agree.work, same.work]
  history := by rw [agree.history, same.history]

theorem right (agree : Agree ρ id w w') (same : Untouched id w' w₁) : Agree ρ id w w₁ where
  entry := same.entry.trans agree.entry
  ovData n := (same.ovData n).trans (agree.ovData n)
  nextOv := same.nextOv.trans agree.nextOv
  work := same.work.trans agree.work
  history := same.history.trans agree.history

theorem record (agree : Agree ρ id w w') (a : Action) :
    Agree ρ id (w.record id a) (w'.record id (a.rename ρ)) := by
  refine ⟨agree.entry, agree.ovData, agree.nextOv, agree.work, ?_⟩
  have one := agree.history
  simp only [World.history] at one
  simp [World.history, World.record, one]

theorem setEntry (agree : Agree ρ id w w') (entry : Option ProxyData) :
    Agree ρ id (w.setEntry id entry) (w'.setEntry id (entry.map (ProxyData.rename ρ))) := by
  refine ⟨?_, agree.ovData, agree.nextOv, agree.work, agree.history⟩
  simp [World.setEntry]

theorem setOv (agree : Agree ρ id w w') (pov : Pov) (ov : Option OvData) :
    Agree ρ id (w.setOv pov ov) (w'.setOv pov ov) := by
  refine ⟨agree.entry, fun n => ?_, agree.nextOv, agree.work, agree.history⟩
  by_cases same : (id, n) = pov
  · subst same
    simp [World.setOv]
  · simp [World.setOv, Function.update_of_ne same, agree.ovData n]

theorem deleteOvData (agree : Agree ρ id w w') (pov : Pov) :
    Agree ρ id (w.deleteOvData pov) (w'.deleteOvData pov) :=
  agree.setOv pov none

theorem newOvData (agree : Agree ρ id w w') (ov : OvData) (own : ov.id = id) :
    Agree ρ id (w.newOvData ov).1 (w'.newOvData ov).1 ∧
      (w'.newOvData ov).2 = (w.newOvData ov).2 := by
  subst own
  have next : w'.nextOv ov.id = w.nextOv ov.id := agree.nextOv
  refine ⟨⟨agree.entry, fun n => ?_, ?_, agree.work, agree.history⟩, ?_⟩
  · simp only [World.newOvData, next]
    by_cases same : n = w.nextOv ov.id
    · subst same
      simp
    · have other : (ov.id, n) ≠ (ov.id, w.nextOv ov.id) := fun h => same (congrArg Prod.snd h)
      simp [Function.update_of_ne other, agree.ovData n]
  · simp [World.newOvData, next]
  · simp [World.newOvData, next]

theorem addPending (agree : Agree ρ id w w') (op : Operation) (own : op.pov.1 = id) :
    Agree ρ id (w.addPending op) (w'.addPending (op.rename ρ)) := by
  refine ⟨agree.entry, agree.ovData, agree.nextOv, ?_, agree.history⟩
  have renamed : (op.rename ρ).pov.1 = id := own
  have one := agree.work
  simp only [workOf] at one
  simp [workOf, World.addPending, List.filter_append, one, own, renamed]

theorem removePending (agree : Agree ρ id w w') (injective : Function.Injective ρ)
    (op : Operation) :
    Agree ρ id (w.removePending op) (w'.removePending (op.rename ρ)) := by
  refine ⟨agree.entry, agree.ovData, agree.nextOv, ?_, agree.history⟩
  have one := agree.work
  simp only [workOf] at one
  simp only [workOf, World.removePending]
  rw [← List.erase_filter, ← List.erase_filter, one,
    List.map_erase (Operation.rename_injective injective)]

/-- An operation of the endpoint is pending in both worlds, or in none. -/
theorem pending_iff (agree : Agree ρ id w w') (injective : Function.Injective ρ)
    {op : Operation} (own : op.pov.1 = id) : op.rename ρ ∈ w'.pending ↔ op ∈ w.pending := by
  have renamed : (op.rename ρ).pov.1 = id := own
  have here : op.rename ρ ∈ workOf id w'.pending ↔ op ∈ workOf id w.pending := by
    rw [agree.work, List.mem_map_of_injective (Operation.rename_injective injective)]
  simpa [workOf, own, renamed] using here

end Agree

section Functions
variable {ρ : Socket → Socket} {id : EndpointId} {os os' : Os} {config : Config} {w w' : World}

theorem agree_invoke (system : OsAgree ρ id os os') (agree : Agree ρ id w w') (c : Call) :
    Agree ρ id (invoke os w id c).1 (invoke os' w' id (c.rename ρ)).1 ∧
      (invoke os' w' id (c.rename ρ)).2 = (invoke os w id c).2 := by
  have answer : os'.accepts id (w'.history id) (c.rename ρ) = os.accepts id (w.history id) c := by
    rw [agree.history]
    exact system.accepts _ c
  refine ⟨?_, answer⟩
  have recorded := agree.record (.call c (os.accepts id (w.history id) c))
  simp only [invoke, answer]
  exact recorded

theorem agree_postClosed (system : OsAgree ρ id os os') (agree : Agree ρ id w w')
    (socket : Socket) {pov : Pov} (own : pov.1 = id) {ov : OvData} (named : ov.id = id) :
    Agree ρ id (postClosed os w socket pov ov) (postClosed os' w' (ρ socket) pov ov) := by
  subst named
  obtain ⟨asked, answer⟩ := agree_invoke system (agree.setOv pov (some ov))
    (.postCompletion socket pov)
  simp only [Call.rename] at asked answer
  simp only [postClosed, answer]
  split
  · exact asked.addPending _ own
  · exact asked.deleteOvData pov

theorem agree_startConnect (system : OsAgree ρ id os os') (agree : Agree ρ id w w')
    (socket : Socket) (pAddr : Address) (addrLen : Nat) :
    Agree ρ id (startConnect os w socket pAddr addrLen id).1
        (startConnect os' w' (ρ socket) pAddr addrLen id).1 ∧
      (startConnect os' w' (ρ socket) pAddr addrLen id).2 =
        (startConnect os w socket pAddr addrLen id).2 := by
  obtain ⟨new, same⟩ := agree.newOvData ⟨id, .ovtConnect, []⟩ rfl
  obtain ⟨asked, answer⟩ := agree_invoke system new (.connectEx socket pAddr addrLen)
  simp only [Call.rename] at asked answer
  simp only [startConnect, answer, same]
  split
  · exact ⟨asked.addPending _ rfl, rfl⟩
  · exact ⟨asked.deleteOvData _, rfl⟩

theorem agree_rearmUdpReceive (system : OsAgree ρ id os os') (agree : Agree ρ id w w')
    (socket : Socket) {pov : Pov} (own : pov.1 = id) {ov : OvData} (named : ov.id = id) :
    Agree ρ id (rearmUdpReceive os w socket id pov ov)
      (rearmUdpReceive os' w' (ρ socket) id pov ov) := by
  obtain ⟨asked, answer⟩ := agree_invoke system agree (.wsaRecvFrom socket)
  simp only [Call.rename] at asked answer
  simp only [rearmUdpReceive, answer]
  split
  · exact asked.addPending _ own
  · exact agree_postClosed system asked socket own named

theorem agree_startUdpReceive (system : OsAgree ρ id os os') (agree : Agree ρ id w w')
    (socket : Socket) :
    Agree ρ id (startUdpReceive os w socket id) (startUdpReceive os' w' (ρ socket) id) := by
  obtain ⟨new, same⟩ :=
    agree.newOvData ⟨id, .ovtUdpReceive, List.replicate packetSize 0⟩ rfl
  simp only [startUdpReceive, same]
  exact agree_rearmUdpReceive system new socket rfl rfl

theorem agree_rearmTcpReceive (system : OsAgree ρ id os os') (agree : Agree ρ id w w')
    (socket : Socket) {pov : Pov} (own : pov.1 = id) {ov : OvData} (named : ov.id = id) :
    Agree ρ id (rearmTcpReceive os w socket id pov ov)
      (rearmTcpReceive os' w' (ρ socket) id pov ov) := by
  obtain ⟨asked, answer⟩ := agree_invoke system agree (.wsaRecv socket)
  simp only [Call.rename] at asked answer
  simp only [rearmTcpReceive, answer]
  split
  · exact asked.addPending _ own
  · exact agree_postClosed system asked socket own named

theorem agree_startTcpReceive (system : OsAgree ρ id os os') (agree : Agree ρ id w w')
    (socket : Socket) :
    Agree ρ id (startTcpReceive os w socket id) (startTcpReceive os' w' (ρ socket) id) := by
  obtain ⟨new, same⟩ :=
    agree.newOvData ⟨id, .ovtTcpReceive, List.replicate packetSize 0⟩ rfl
  simp only [startTcpReceive, same]
  exact agree_rearmTcpReceive system new socket rfl rfl

theorem agree_startTcpSend (system : OsAgree ρ id os os') (agree : Agree ρ id w w')
    (socket : Socket) (buf : Bytes) :
    Agree ρ id (startTcpSend os w socket buf id).1 (startTcpSend os' w' (ρ socket) buf id).1 ∧
      (startTcpSend os' w' (ρ socket) buf id).2 = (startTcpSend os w socket buf id).2 := by
  obtain ⟨new, same⟩ := agree.newOvData ⟨id, .ovtTcpSend, buf⟩ rfl
  obtain ⟨asked, answer⟩ := agree_invoke system new (.wsaSend socket buf)
  simp only [Call.rename] at asked answer
  simp only [startTcpSend, answer, same]
  split
  · exact ⟨asked.addPending _ rfl, rfl⟩
  · exact ⟨agree_postClosed system asked socket rfl rfl, rfl⟩

theorem agree_sendDatagram (system : OsAgree ρ id os os') (agree : Agree ρ id w w')
    (pd : ProxyData) (buf : Bytes) (remoteAddress : Address) :
    Agree ρ id (sendDatagram os w id pd buf remoteAddress).1
        (sendDatagram os' w' id (pd.rename ρ) buf remoteAddress).1 ∧
      (sendDatagram os' w' id (pd.rename ρ) buf remoteAddress).2 =
        (sendDatagram os w id pd buf remoteAddress).2 := by
  obtain ⟨new, same⟩ :=
    agree.newOvData ⟨id, .ovtUdpSend, encapsulate buf remoteAddress⟩ rfl
  obtain ⟨asked, answer⟩ := agree_invoke system new (.wsaSendTo pd.udpSocket
    (encapsulate buf remoteAddress) pd.remoteAddress pd.remoteAddressLen)
  simp only [Call.rename] at asked answer
  simp only [sendDatagram, ProxyData.rename, answer, same]
  split
  · have armed := asked.addPending ⟨(w.newOvData ⟨id, .ovtUdpSend,
      encapsulate buf remoteAddress⟩).2, pd.udpSocket, false⟩ rfl
    split
    · exact ⟨agree_startUdpReceive system (armed.setEntry (some { pd with udpRecvStarted := true }))
        pd.udpSocket, rfl⟩
    · exact ⟨armed, rfl⟩
  · exact ⟨agree_postClosed system asked pd.udpSocket rfl rfl, rfl⟩

theorem enqueue_rename (ρ : Socket → Socket) (pd : ProxyData) (buf : Bytes)
    (remoteAddress : Address) (remoteAddressLen : Nat) :
    enqueue (pd.rename ρ) buf remoteAddress remoteAddressLen =
      (enqueue pd buf remoteAddress remoteAddressLen).rename ρ := by
  unfold enqueue
  split <;> rfl

theorem agree_udpSend (system : OsAgree ρ id os os') (agree : Agree ρ id w w') (buf : Bytes)
    (remoteAddress : Address) (remoteAddressLen : Nat) :
    Agree ρ id (udpSend os w id buf remoteAddress remoteAddressLen).1
        (udpSend os' w' id buf remoteAddress remoteAddressLen).1 ∧
      (udpSend os' w' id buf remoteAddress remoteAddressLen).2 =
        (udpSend os w id buf remoteAddress remoteAddressLen).2 := by
  unfold udpSend
  rw [agree.entry]
  cases w.socketMap id with
  | none => exact ⟨agree, rfl⟩
  | some pd =>
    simp only [Option.map_some, ProxyData.rename]
    split
    · rw [← ProxyData.rename, enqueue_rename]
      exact ⟨agree.setEntry (some (enqueue pd buf remoteAddress remoteAddressLen)), rfl⟩
    · exact agree_sendDatagram system agree pd buf remoteAddress

theorem agree_erasePacket (agree : Agree ρ id w w') :
    Agree ρ id (erasePacket w id) (erasePacket w' id) := by
  unfold erasePacket
  rw [agree.entry]
  cases w.socketMap id with
  | none => exact agree
  | some pd => exact agree.setEntry (some { pd with udpSendPackets := pd.udpSendPackets.tail })

theorem agree_flushPackets (system : OsAgree ρ id os os') (agree : Agree ρ id w w') (fuel : Nat) :
    Agree ρ id (flushPackets os w id fuel) (flushPackets os' w' id fuel) := by
  induction fuel generalizing w w' with
  | zero => exact agree
  | succ fuel ih =>
    rw [flushPackets, flushPackets, agree.entry]
    cases w.socketMap id with
    | none => exact agree
    | some pd =>
      simp only [Option.map_some, ProxyData.rename]
      cases pd.udpSendPackets with
      | nil => exact agree
      | cons p rest =>
        obtain ⟨sent, _⟩ :=
          agree_udpSend system agree p.buffer p.remoteAddress p.remoteAddressLen
        exact ih (agree_erasePacket sent)

theorem agree_answer (system : OsAgree ρ id os os') (agree : Agree ρ id w w') (pd : ProxyData)
    (reply : Option (Bytes × ProxyState)) :
    Agree ρ id (answer os w id pd reply) (answer os' w' id (pd.rename ρ) reply) := by
  cases reply with
  | none => exact agree
  | some reply =>
    obtain ⟨sends, sent⟩ := agree_startTcpSend system agree pd.tcpSocket reply.1
    simp only [answer, ProxyData.rename, sent]
    split
    · exact sends.setEntry (some { pd with proxyState := reply.2 })
    · exact sends

theorem agree_connected (system : OsAgree ρ id os os') (agree : Agree ρ id w w') (pd : ProxyData)
    (addr : Option Bytes) :
    Agree ρ id (connected os w id pd addr) (connected os' w' id (pd.rename ρ) addr) := by
  cases addr with
  | none => exact agree
  | some addr =>
    have entered := agree.setEntry (some { pd with
      remoteAddress := pd.remoteAddress.write addr
      remoteAddressLen := addr.length
      proxyState := .psConnected })
    exact agree_flushPackets system entered pd.udpSendPackets.length

theorem agree_onControlData (system : OsAgree ρ id os os') (agree : Agree ρ id w w')
    (buffer : Bytes) (dwTransferred : Nat) :
    Agree ρ id (onControlData os config w id buffer dwTransferred)
      (onControlData os' config w' id buffer dwTransferred) := by
  unfold onControlData
  rw [agree.entry]
  cases w.socketMap id with
  | none => exact agree
  | some pd =>
    simp only [Option.map_some]
    have state : (pd.rename ρ).proxyState = pd.proxyState := rfl
    rw [state]
    cases pd.proxyState with
    | psNone | psConnected | psClosed => exact agree
    | psAuth | psAuthNegotiation => exact agree_answer system agree pd _
    | psUdpAssoc => exact agree_connected system agree pd _

theorem agree_deleteProxyConnection (agree : Agree ρ id w w') :
    Agree ρ id (w.deleteProxyConnection id) (w'.deleteProxyConnection id) := by
  unfold World.deleteProxyConnection
  rw [agree.entry]
  cases w.socketMap id with
  | none => exact agree
  | some pd =>
    exact ((agree.record (.closed pd.tcpSocket)).record (.closed pd.udpSocket)).setEntry none

theorem agree_onConnectComplete (system : OsAgree ρ id os os') (agree : Agree ρ id w w')
    (pov : Pov) {ov : OvData} (named : ov.id = id) (error : Nat) :
    Agree ρ id (onConnectComplete os w pov ov error) (onConnectComplete os' w' pov ov error) := by
  subst named
  unfold onConnectComplete
  split
  · exact (agree_deleteProxyConnection agree).deleteOvData pov
  · rw [agree.entry]
    cases w.socketMap ov.id with
    | none => exact agree.deleteOvData pov
    | some pd =>
      have greeted := agree_answer system agree pd
        (some (socks5AuthRequest (offeredMethod pd.userName), .psAuth))
      exact (agree_startTcpReceive system greeted pd.tcpSocket).deleteOvData pov

end Functions

section Completions
variable {ρ : Socket → Socket} {id : EndpointId} {os os' : Os} {config : Config} {w w' : World}

/-- The receive that a handler is about to issue, on the renamed socket. -/
def pendingRename (ρ : Socket → Socket) (r : Rearm.Pending) : Rearm.Pending :=
  { r with socket := ρ r.socket }

theorem agree_onComplete (system : OsAgree ρ id os os') (agree : Agree ρ id w w')
    (socket : Socket) (dwTransferred : Nat) (pov : Pov) {ov : OvData} (named : ov.id = id)
    (error : Nat) (ends : ov.type.receives = false) :
    Agree ρ id (onComplete os config w socket dwTransferred pov ov error)
      (onComplete os' config w' (ρ socket) dwTransferred pov ov error) := by
  unfold onComplete
  cases type : ov.type with
  | ovtConnect => exact agree_onConnectComplete system agree pov named error
  | ovtTcpSend | ovtUdpSend => exact agree.deleteOvData pov
  | ovtTcpReceive | ovtUdpReceive =>
    rw [type] at ends
    exact absurd ends nofun

theorem agree_onCompleteUntilRearm (system : OsAgree ρ id os os') (agree : Agree ρ id w w')
    (socket : Socket) (dwTransferred : Nat) (pov : Pov) {ov : OvData} (named : ov.id = id)
    (error : Nat) :
    Agree ρ id (Rearm.onCompleteUntilRearm os config w socket dwTransferred pov ov error).1
        (Rearm.onCompleteUntilRearm os' config w' (ρ socket) dwTransferred pov ov error).1 ∧
      (Rearm.onCompleteUntilRearm os' config w' (ρ socket) dwTransferred pov ov error).2 =
        (Rearm.onCompleteUntilRearm os config w socket dwTransferred pov ov error).2.map
          (pendingRename ρ) := by
  unfold Rearm.onCompleteUntilRearm
  cases type : ov.type with
  | ovtUdpReceive =>
    simp only
    split
    · exact ⟨agree.deleteOvData pov, rfl⟩
    · subst named
      cases relayedDatagram ov.buffer dwTransferred with
      | none => exact ⟨agree, rfl⟩
      | some d => exact ⟨agree.record (.onUdpReceiveComplete d), rfl⟩
  | ovtTcpReceive =>
    simp only
    split
    · exact ⟨agree.deleteOvData pov, rfl⟩
    · subst named
      exact ⟨agree_onControlData system agree ov.buffer dwTransferred, rfl⟩
  | ovtConnect | ovtTcpSend | ovtUdpSend =>
    have ends : ov.type.receives = false := by rw [type]; rfl
    exact ⟨agree_onComplete system agree socket dwTransferred pov named error ends, rfl⟩

/-- A completion of the endpoint, up to the receive that it issues. -/
theorem agree_completeUntilRearm (config : Config) (system : OsAgree ρ id os os')
    (injective : Function.Injective ρ)
    (agree : Agree ρ id w w') {op : Operation} (own : op.pov.1 = id)
    (named : ∀ ov, w.ovData op.pov = some ov → ov.id = id) (data : Bytes) (error : Nat) :
    Agree ρ id (Rearm.completeUntilRearm os config w op data error).1
        (Rearm.completeUntilRearm os' config w' (op.rename ρ) data error).1 ∧
      (Rearm.completeUntilRearm os' config w' (op.rename ρ) data error).2 =
        (Rearm.completeUntilRearm os config w op data error).2.map (pendingRename ρ) := by
  unfold Rearm.completeUntilRearm
  simp only [agree.pending_iff injective own]
  split
  · have taken := agree.removePending injective op
    have same : (w'.removePending (op.rename ρ)).ovData (op.rename ρ).pov =
        w.ovData op.pov := by
      have mine := agree.ovData op.pov.2
      rw [← own] at mine
      exact mine
    have same₀ : (w.removePending op).ovData op.pov = w.ovData op.pov := rfl
    unfold Rearm.dispatchUntilRearm
    rw [same, same₀]
    cases hov : w.ovData op.pov with
    | none => exact ⟨taken, rfl⟩
    | some ov =>
      have mine := named ov hov
      have posted : (op.rename ρ).queued = op.queued := rfl
      simp only [posted]
      by_cases queued : op.queued = true
      · simp only [if_pos queued]
        exact agree_onCompleteUntilRearm system taken op.socket 0 op.pov mine 0
      · simp only [if_neg queued]
        by_cases receives : ov.type.receives = true
        · simp only [if_pos receives]
          subst mine
          let written : OvData :=
            { ov with buffer := overwrite ov.buffer (data.take ov.buffer.length) }
          have received := (taken.setOv op.pov (some written)).record
            (.received ov.type (data.take ov.buffer.length))
          have mine' : written.id = ov.id := rfl
          exact agree_onCompleteUntilRearm system received op.socket _ op.pov mine' error
        · simp only [if_neg receives]
          exact agree_onCompleteUntilRearm system taken op.socket data.length op.pov mine error
  · exact ⟨agree, rfl⟩

theorem agree_issue (system : OsAgree ρ id os os') (agree : Agree ρ id w w') {r : Rearm.Pending}
    (own : r.pov.1 = id) (named : r.ov.id = id) :
    Agree ρ id (Rearm.issue os w r) (Rearm.issue os' w' (pendingRename ρ r)) := by
  subst named
  unfold Rearm.issue
  have type : (pendingRename ρ r).ov.type = r.ov.type := rfl
  rw [type]
  cases r.ov.type with
  | ovtTcpReceive => exact agree_rearmTcpReceive system agree r.socket own rfl
  | ovtUdpReceive | ovtConnect | ovtTcpSend | ovtUdpSend =>
    exact agree_rearmUdpReceive system agree r.socket own rfl

end Completions

end Renaming
