import QvNetfilter.UdpHistory

/-!
# The control receive

An endpoint has one receive on its control connection, which is armed again on
the same `OV_DATA` after every completion. As long as the system accepts the
sends and receives of the connection, the receive stays armed, and a completion
changes the entry, the buffer and the messages sent as the three cases below say.
-/

namespace ControlReceive

open Memory Socks Mealy UdpProxy UdpHistory

section Kept
variable (os : Os) {pov : Pov} (w : World)

/-- An allocated `OV_DATA` stays allocated and as it is. -/
def Keeps (pov : Pov) (w w' : World) : Prop :=
  pov.2 < w.nextOv pov.1 → pov.2 < w'.nextOv pov.1 ∧ w'.ovData pov = w.ovData pov

theorem Keeps.refl : Keeps pov w w := fun allocated => ⟨allocated, rfl⟩

theorem Keeps.trans {w₁ w₂ w₃ : World} (first : Keeps pov w₁ w₂) (second : Keeps pov w₂ w₃) :
    Keeps pov w₁ w₃ := by
  intro allocated
  obtain ⟨still, same⟩ := first allocated
  obtain ⟨still', same'⟩ := second still
  exact ⟨still', same'.trans same⟩

theorem keeps_setOv {pov' : Pov} (other : pov' ≠ pov) (ov : Option OvData) :
    Keeps pov w (w.setOv pov' ov) :=
  fun allocated => ⟨allocated, Function.update_of_ne (Ne.symm other) _ _⟩

theorem keeps_invoke (id : EndpointId) (c : Call) : Keeps pov w (invoke os w id c).1 :=
  Keeps.refl w

theorem newOvData_ne {w : World} (allocated : pov.2 < w.nextOv pov.1) (ov : OvData) :
    (w.newOvData ov).2 ≠ pov := by
  rintro rfl
  exact absurd allocated (Nat.lt_irrefl _)

theorem keeps_newOvData (ov : OvData) : Keeps pov w (w.newOvData ov).1 := by
  intro allocated
  refine ⟨?_, Function.update_of_ne (Ne.symm (newOvData_ne allocated ov)) _ _⟩
  by_cases hid : pov.1 = ov.id
  · have next : (w.newOvData ov).1.nextOv pov.1 = w.nextOv ov.id + 1 := by
      rw [hid]
      exact Function.update_self ..
    rw [hid] at allocated
    omega
  · have next : (w.newOvData ov).1.nextOv pov.1 = w.nextOv pov.1 := Function.update_of_ne hid _ _
    omega

theorem keeps_postClosed {pov' : Pov} (other : pov' ≠ pov) (socket : Socket) (ov : OvData) :
    Keeps pov w (postClosed os w socket pov' ov) := by
  have stored := keeps_setOv w other (some ov)
  simp only [postClosed]
  split
  · exact stored
  · exact stored.trans (keeps_setOv _ other none)

theorem keeps_rearmUdpReceive {pov' : Pov} (other : pov' ≠ pov) (socket : Socket)
    (id : EndpointId) (ov : OvData) :
    Keeps pov w (rearmUdpReceive os w socket id pov' ov) := by
  have received : Keeps pov w _ := keeps_invoke os w id (.wsaRecvFrom socket)
  simp only [rearmUdpReceive]
  split
  · exact received
  · exact received.trans (keeps_postClosed os _ other socket ov)

theorem keeps_startUdpReceive (socket : Socket) (id : EndpointId) :
    Keeps pov w (startUdpReceive os w socket id) := by
  intro allocated
  have other := newOvData_ne allocated ⟨id, .ovtUdpReceive, List.replicate packetSize 0⟩
  exact (keeps_newOvData w _).trans (keeps_rearmUdpReceive os _ other socket id _) allocated

theorem keeps_startTcpSend (socket : Socket) (buf : Bytes) (id : EndpointId) :
    Keeps pov w (startTcpSend os w socket buf id).1 := by
  intro allocated
  have other := newOvData_ne allocated ⟨id, .ovtTcpSend, buf⟩
  have sent : Keeps pov w _ :=
    (keeps_newOvData w ⟨id, .ovtTcpSend, buf⟩).trans (keeps_invoke os _ id (.wsaSend socket buf))
  simp only [startTcpSend]
  split
  · exact sent allocated
  · exact sent.trans (keeps_postClosed os _ other socket _) allocated

theorem keeps_sendDatagram (id : EndpointId) (pd : ProxyData) (buf : Bytes)
    (remoteAddress : Address) : Keeps pov w (sendDatagram os w id pd buf remoteAddress).1 := by
  intro allocated
  have other := newOvData_ne allocated ⟨id, .ovtUdpSend, encapsulate buf remoteAddress⟩
  have sent : Keeps pov w _ :=
    (keeps_newOvData w ⟨id, .ovtUdpSend, encapsulate buf remoteAddress⟩).trans
      (keeps_invoke os _ id (.wsaSendTo pd.udpSocket (encapsulate buf remoteAddress)
        pd.remoteAddress pd.remoteAddressLen))
  simp only [sendDatagram]
  split
  · split
    · refine Keeps.trans ?_ (keeps_startUdpReceive os _ pd.udpSocket id) allocated
      exact sent
    · exact sent allocated
  · exact sent.trans (keeps_postClosed os _ other pd.udpSocket _) allocated

theorem keeps_udpSend (id : EndpointId) (buf : Bytes) (remoteAddress : Address)
    (remoteAddressLen : Nat) :
    Keeps pov w (udpSend os w id buf remoteAddress remoteAddressLen).1 := by
  simp only [udpSend]
  split
  · exact Keeps.refl w
  · split
    · exact Keeps.refl w
    · exact keeps_sendDatagram os w id _ buf remoteAddress

theorem keeps_erasePacket (id : EndpointId) : Keeps pov w (erasePacket w id) := by
  simp only [erasePacket]
  split
  · exact Keeps.refl w
  · exact Keeps.refl w

theorem keeps_flushPackets (id : EndpointId) (fuel : Nat) :
    Keeps pov w (flushPackets os w id fuel) := by
  induction fuel generalizing w with
  | zero => exact Keeps.refl w
  | succ fuel ih =>
    rw [flushPackets]
    split
    · exact Keeps.refl w
    · split
      · exact Keeps.refl w
      · exact ((keeps_udpSend os w id _ _ _).trans (keeps_erasePacket _ id)).trans (ih _)

theorem keeps_connected (id : EndpointId) (pd : ProxyData) (addr : Option Bytes) :
    Keeps pov w (connected os w id pd addr) := by
  cases addr with
  | none => exact Keeps.refl w
  | some addr =>
    have flushed : Keeps pov (w.setEntry id (some { pd with
        remoteAddress := pd.remoteAddress.write addr
        remoteAddressLen := addr.length
        proxyState := .psConnected })) _ := keeps_flushPackets os _ id pd.udpSendPackets.length
    exact flushed

end Kept

section Messages

/-- What leaves on the control connection and on the relay socket. -/
inductive Message where
  | tcp (buf : Bytes)
  | udp (datagram : Bytes) (remoteAddress : Address) (remoteAddressLen : Nat)
deriving DecidableEq

def message : Action → Option Message
  | .call (.wsaSend _ buf) _ => some (.tcp buf)
  | .call (.wsaSendTo _ buf pAddr addrLen) _ => some (.udp buf pAddr addrLen)
  | _ => none

def messages (w : World) (id : EndpointId) : List Message := view message w id

/-- Where the connection stands and where its datagrams go. -/
def progress (pd : ProxyData) : ProxyState × Address × Nat :=
  (pd.proxyState, pd.remoteAddress, pd.remoteAddressLen)

def flushed (packets : List UdpPacket) (remoteAddress : Address) (remoteAddressLen : Nat) :
    List Message :=
  packets.map fun p => .udp (encapsulate p.buffer p.remoteAddress) remoteAddress remoteAddressLen

variable (os : Os) {w : World} {id : EndpointId} {pd : ProxyData}

/-- One round of the loop sends the first packet and erases it. -/
theorem flushPackets_succ (entry : w.socketMap id = some pd)
    (established : pd.proxyState = .psConnected) {p : UdpPacket} {rest : List UdpPacket}
    (queue : pd.udpSendPackets = p :: rest) :
    ∃ w₁ started, (∀ fuel, flushPackets os w id (fuel + 1) = flushPackets os w₁ id fuel) ∧
      w₁.socketMap id = some { pd with udpRecvStarted := started, udpSendPackets := rest } ∧
      messages w₁ id = messages w id ++
        [.udp (encapsulate p.buffer p.remoteAddress) pd.remoteAddress pd.remoteAddressLen] := by
  obtain ⟨started, hmap⟩ := sendDatagram_socketMap os w id entry p.buffer p.remoteAddress
  obtain ⟨accepted, hview⟩ : ∃ accepted,
      messages (sendDatagram os w id pd p.buffer p.remoteAddress).1 id = messages w id ++
        shown message id id (.call (.wsaSendTo pd.udpSocket
          (encapsulate p.buffer p.remoteAddress) pd.remoteAddress pd.remoteAddressLen)
          accepted) :=
    view_sendDatagram os w id pd p.buffer p.remoteAddress (fun _ => rfl) (fun _ _ => rfl) id
  have sent : (sendDatagram os w id pd p.buffer p.remoteAddress).1.socketMap id =
      some { pd with udpRecvStarted := started } := by
    rw [hmap]
    exact Function.update_self ..
  refine ⟨erasePacket (sendDatagram os w id pd p.buffer p.remoteAddress).1 id, started, ?_, ?_, ?_⟩
  · intro fuel
    have hsend : udpSend os w id p.buffer p.remoteAddress p.remoteAddressLen =
        sendDatagram os w id pd p.buffer p.remoteAddress := by
      simp [udpSend, entry, established]
    simp only [flushPackets, entry, queue, hsend]
  · simp [erasePacket, sent, queue]
  · rw [shown_self] at hview
    simp only [erasePacket, sent]
    exact hview

/-- The queue is sent in its order, one datagram for each packet, whatever the system
answers. -/
theorem flushPackets_messages (entry : w.socketMap id = some pd)
    (established : pd.proxyState = .psConnected) :
    (∃ pd', (flushPackets os w id pd.udpSendPackets.length).socketMap id = some pd' ∧
      progress pd' = progress pd) ∧
    messages (flushPackets os w id pd.udpSendPackets.length) id =
      messages w id ++ flushed pd.udpSendPackets pd.remoteAddress pd.remoteAddressLen := by
  generalize hqueue : pd.udpSendPackets = queue
  induction queue generalizing w pd with
  | nil => exact ⟨⟨pd, entry, rfl⟩, (List.append_nil _).symm⟩
  | cons p rest ih =>
    -- The first round leaves the rest of the queue in an entry with the same address.
    obtain ⟨w₁, started, loop, next, sent⟩ := flushPackets_succ os entry established hqueue
    obtain ⟨⟨pd', hpd', same⟩, later⟩ := ih next established rfl
    rw [List.length_cons, loop]
    refine ⟨⟨pd', hpd', same⟩, ?_⟩
    rw [later, sent, List.append_assoc]
    rfl

end Messages

section Completion

/-- The system accepts the sends and receives of the control connection. -/
structure Accepting (os : Os) (id : EndpointId) : Prop where
  sends : ∀ history socket buf, os.accepts id history (.wsaSend socket buf) = true
  receives : ∀ history socket, os.accepts id history (.wsaRecv socket) = true

theorem Accepting.startTcpSend {os : Os} {id : EndpointId} (accepting : Accepting os id) (w : World)
    (socket : Socket) (buf : Bytes) : (UdpProxy.startTcpSend os w socket buf id).2 = true := by
  have sent := accepting.sends ((w.newOvData ⟨id, .ovtTcpSend, buf⟩).1.history id) socket buf
  simp only [UdpProxy.startTcpSend]
  split
  · rfl
  · rename_i refused
    exact absurd sent refused

/-- The control receive of the endpoint is armed on `buffer`. -/
structure Receiving (w : World) (id : EndpointId) (op : Operation) (buffer : Bytes)
    (pd : ProxyData) : Prop where
  pending : op ∈ w.pending
  direct : op.queued = false
  allocated : op.pov.2 < w.nextOv op.pov.1
  ov : w.ovData op.pov = some ⟨id, .ovtTcpReceive, buffer⟩
  entry : w.socketMap id = some pd

/-- A receive has got `data`, and its handler has not run. -/
def received (w : World) (id : EndpointId) (op : Operation) (buffer data : Bytes) : World :=
  ((w.removePending op).setOv op.pov (some ⟨id, .ovtTcpReceive, overwrite buffer data⟩)).record id
    (.received .ovtTcpReceive data)

variable {os : Os} {config : Config} {w : World} {id : EndpointId} {op : Operation}
  {buffer data : Bytes} {pd : ProxyData}

theorem received_messages : messages (received w id op buffer data) id = messages w id := by
  refine (view_record _ id id _).trans ?_
  rw [shown_none rfl, List.append_nil]
  rfl

theorem step_complete (accepting : Accepting os id) (receiving : Receiving w id op buffer pd)
    (nonempty : data ≠ []) (fits : data.length ≤ buffer.length) :
    step os config w (.complete op data 0) =
      (invoke os (onControlData os config (received w id op buffer data) id
        (overwrite buffer data) data.length) id (.wsaRecv op.socket)).1.addPending op := by
  have whole : data.take buffer.length = data := List.take_of_length_le fits
  have hlen : data.length ≠ 0 := fun h => nonempty (List.length_eq_zero_iff.mp h)
  have hop : (⟨op.pov, op.socket, false⟩ : Operation) = op := by
    rw [← receiving.direct]
  have hov : (w.removePending op).ovData op.pov = some ⟨id, .ovtTcpReceive, buffer⟩ := receiving.ov
  simp only [step, complete, receiving.pending, if_true, dispatch, hov, receiving.direct,
    OvType.receives, whole, onComplete, onTcpReceiveComplete, hlen, if_false, rearmTcpReceive,
    Bool.false_eq_true]
  rw [hop]
  exact if_pos (accepting.receives _ _)

/-- Whatever the handler does, the receive is armed again on the buffer that it got. -/
theorem Receiving.rearmed {w₁ : World} {pd' : ProxyData} {sent : List Message}
    (accepting : Accepting os id) (receiving : Receiving w id op buffer pd)
    (nonempty : data ≠ []) (fits : data.length ≤ buffer.length)
    (handled : onControlData os config (received w id op buffer data) id
      (overwrite buffer data) data.length = w₁)
    (keeps : Keeps op.pov (received w id op buffer data) w₁)
    (entry : w₁.socketMap id = some pd')
    (added : messages w₁ id = messages (received w id op buffer data) id ++ sent) :
    Receiving (step os config w (.complete op data 0)) id op (overwrite buffer data) pd' ∧
      messages (step os config w (.complete op data 0)) id = messages w id ++ sent := by
  rw [step_complete accepting receiving nonempty fits, handled]
  obtain ⟨allocated, same⟩ := keeps receiving.allocated
  have hov : (received w id op buffer data).ovData op.pov =
      some ⟨id, .ovtTcpReceive, overwrite buffer data⟩ := Function.update_self ..
  refine ⟨⟨List.mem_append_right _ List.mem_cons_self, receiving.direct, allocated,
    same.trans hov, entry⟩, ?_⟩
  rw [received_messages] at added
  exact (view_invoke_hidden os w₁ id id (fun _ => rfl)).trans added

/-- The state that a reply finds, as the handler's switch sees it. -/
theorem onControlData_received (os : Os) (config : Config)
    (receiving : Receiving w id op buffer pd) (data : Bytes) (n : Nat) :
    onControlData os config (received w id op buffer data) id (overwrite buffer data) n =
      match pd.proxyState with
      | .psAuth => answer os (received w id op buffer data) id pd
          (authReply pd.userName pd.userPassword (overwrite buffer data) n)
      | .psAuthNegotiation => answer os (received w id op buffer data) id pd
          (authNegotiationReply (overwrite buffer data) n)
      | .psUdpAssoc => connected os (received w id op buffer data) id pd
          (udpAssocReply config (overwrite buffer data) n)
      | _ => received w id op buffer data := by
  have entry : (received w id op buffer data).socketMap id = some pd := receiving.entry
  simp only [onControlData, entry]
  cases pd.proxyState <;> rfl

/-- A reply that calls for nothing. -/
theorem Receiving.silent (config : Config) (accepting : Accepting os id)
    (receiving : Receiving w id op buffer pd) (nonempty : data ≠ [])
    (fits : data.length ≤ buffer.length)
    (nothing : onControlData os config (received w id op buffer data) id
      (overwrite buffer data) data.length = received w id op buffer data) :
    Receiving (step os config w (.complete op data 0)) id op (overwrite buffer data) pd ∧
      messages (step os config w (.complete op data 0)) id = messages w id := by
  obtain ⟨armed, sent⟩ := receiving.rearmed accepting nonempty fits nothing (Keeps.refl _)
    receiving.entry (List.append_nil _).symm
  exact ⟨armed, sent.trans (List.append_nil _)⟩

/-- A reply that is answered. -/
theorem Receiving.answered {reply : Bytes} {next : ProxyState} (accepting : Accepting os id)
    (receiving : Receiving w id op buffer pd) (nonempty : data ≠ [])
    (fits : data.length ≤ buffer.length)
    (answers : onControlData os config (received w id op buffer data) id
      (overwrite buffer data) data.length =
        answer os (received w id op buffer data) id pd (some (reply, next))) :
    Receiving (step os config w (.complete op data 0)) id op (overwrite buffer data)
        { pd with proxyState := next } ∧
      messages (step os config w (.complete op data 0)) id = messages w id ++ [.tcp reply] := by
  have accepted := accepting.startTcpSend (received w id op buffer data) pd.tcpSocket reply
  have sent : messages (startTcpSend os (received w id op buffer data) pd.tcpSocket reply id).1 id =
      _ := view_startTcpSend os _ pd.tcpSocket reply id (fun _ _ => rfl) id
  refine receiving.rearmed accepting nonempty fits (answers.trans (if_pos accepted))
    (keeps_startTcpSend os _ _ _ _) (Function.update_self ..) ?_
  rw [shown_self] at sent
  exact sent

/-- The address of the relay is kept, the state moves on, and then the queue is flushed. -/
theorem connected_flushed (os : Os) (w : World) (id : EndpointId) (pd : ProxyData) (addr : Bytes) :
    ∃ pd', (connected os w id pd (some addr)).socketMap id = some pd' ∧
      progress pd' = (.psConnected, pd.remoteAddress.write addr, addr.length) ∧
      messages (connected os w id pd (some addr)) id = messages w id ++
        flushed pd.udpSendPackets (pd.remoteAddress.write addr) addr.length := by
  let established : ProxyData := { pd with
    remoteAddress := pd.remoteAddress.write addr
    remoteAddressLen := addr.length
    proxyState := .psConnected }
  have entered : (w.setEntry id (some established)).socketMap id = some established :=
    Function.update_self ..
  obtain ⟨⟨pd', entry, same⟩, sent⟩ := flushPackets_messages os entered rfl
  exact ⟨pd', entry, same, sent⟩

/-- A reply that establishes the connection: the queue is flushed. -/
theorem Receiving.connected {addr : Bytes} (accepting : Accepting os id)
    (receiving : Receiving w id op buffer pd) (nonempty : data ≠ [])
    (fits : data.length ≤ buffer.length)
    (connects : onControlData os config (received w id op buffer data) id
      (overwrite buffer data) data.length =
        UdpProxy.connected os (received w id op buffer data) id pd (some addr)) :
    ∃ pd', progress pd' = (.psConnected, pd.remoteAddress.write addr, addr.length) ∧
      Receiving (step os config w (.complete op data 0)) id op (overwrite buffer data) pd' ∧
      messages (step os config w (.complete op data 0)) id = messages w id ++
        flushed pd.udpSendPackets (pd.remoteAddress.write addr) addr.length := by
  obtain ⟨pd', entry, same, sent⟩ :=
    connected_flushed os (received w id op buffer data) id pd addr
  exact ⟨pd', same, receiving.rearmed accepting nonempty fits connects
    (keeps_connected os _ id pd (some addr)) entry sent⟩

/-- The connection is made: the receive is armed on a fresh buffer, and the handshake waits
for the method selection. -/
theorem greeted_receiving (accepting : Accepting os id) {pov : Pov} {ov : OvData}
    (entry : w.socketMap ov.id = some pd) (own : ov.id = id)
    (allocated : pov.2 < w.nextOv pov.1) :
    ∃ op, Receiving (onConnectComplete os w pov ov 0) id op (List.replicate packetSize 0)
      { pd with proxyState := .psAuth } := by
  subst own
  have keeps : Keeps pov w _ := keeps_startTcpSend os w pd.tcpSocket
    (socks5AuthRequest (offeredMethod pd.userName)) ov.id
  have accepted := accepting.startTcpSend w pd.tcpSocket
    (socks5AuthRequest (offeredMethod pd.userName))
  generalize hsent : startTcpSend os w pd.tcpSocket
    (socks5AuthRequest (offeredMethod pd.userName)) ov.id = sent at keeps accepted
  have hanswer : answer os w ov.id pd
      (some (socks5AuthRequest (offeredMethod pd.userName), .psAuth)) =
      sent.1.setEntry ov.id (some { pd with proxyState := .psAuth }) := by
    simp only [answer, hsent, accepted, if_true]
  generalize hw : sent.1.setEntry ov.id (some { pd with proxyState := .psAuth }) = w₁ at hanswer
  have still : pov.2 < w₁.nextOv pov.1 := hw ▸ (keeps allocated).1
  let fresh : OvData := ⟨ov.id, .ovtTcpReceive, List.replicate packetSize 0⟩
  have hreceive : startTcpReceive os w₁ pd.tcpSocket ov.id =
      (invoke os (w₁.newOvData fresh).1 ov.id (.wsaRecv pd.tcpSocket)).1.addPending
        ⟨(w₁.newOvData fresh).2, pd.tcpSocket, false⟩ := if_pos (accepting.receives _ _)
  have hconnected : onConnectComplete os w pov ov 0 =
      (startTcpReceive os w₁ pd.tcpSocket ov.id).deleteOvData pov := by
    simp only [onConnectComplete, entry, hanswer, ne_eq, not_true_eq_false, if_false]
  rw [hconnected, hreceive]
  refine ⟨⟨(w₁.newOvData fresh).2, pd.tcpSocket, false⟩,
    ⟨List.mem_append_right _ List.mem_cons_self, rfl, ?_, ?_, ?_⟩⟩
  · have next : (w₁.newOvData fresh).1.nextOv ov.id = w₁.nextOv ov.id + 1 :=
      Function.update_self ..
    exact Nat.lt_of_lt_of_eq (Nat.lt_succ_self _) next.symm
  · exact (Function.update_of_ne (newOvData_ne still fresh) _ _).trans (Function.update_self ..)
  · exact hw ▸ Function.update_self ..

end Completion

end ControlReceive
