import QvNetfilter.Ownership

/-!
# What a step leaves alone

The endpoints share the table of connections, the set of `OV_DATA` and the
completion thread. A function of the proxy that works for one endpoint leaves
everything of every other endpoint as it was: its entry, its records, its
outstanding work and its history.
-/

namespace Endpoints

open Memory Socks Mealy UdpProxy Ownership

/-- The outstanding work of one endpoint. -/
def workOf (id : EndpointId) (pending : List Operation) : List Operation :=
  pending.filter fun op => op.pov.1 = id

/-- Everything that belongs to endpoint `j` is the same in both worlds. -/
structure Untouched (j : EndpointId) (w w' : World) : Prop where
  entry : w'.socketMap j = w.socketMap j
  ovData : ∀ n, w'.ovData (j, n) = w.ovData (j, n)
  nextOv : w'.nextOv j = w.nextOv j
  work : workOf j w'.pending = workOf j w.pending
  history : w'.history j = w.history j

namespace Untouched
variable {w w₁ w₂ : World} {id j : EndpointId}

theorem refl (j : EndpointId) (w : World) : Untouched j w w :=
  ⟨rfl, fun _ => rfl, rfl, rfl, rfl⟩

theorem trans (first : Untouched j w w₁) (second : Untouched j w₁ w₂) : Untouched j w w₂ :=
  ⟨second.entry.trans first.entry, fun n => (second.ovData n).trans (first.ovData n),
    second.nextOv.trans first.nextOv, second.work.trans first.work,
    second.history.trans first.history⟩

theorem record (same : Untouched j w w₁) (other : id ≠ j) (a : Action) :
    Untouched j w (w₁.record id a) := by
  refine ⟨same.entry, same.ovData, same.nextOv, same.work, ?_⟩
  rw [← same.history]
  simp [World.history, World.record, atIndex_cons_ne other]

theorem setEntry (same : Untouched j w w₁) (other : id ≠ j) (entry : Option ProxyData) :
    Untouched j w (w₁.setEntry id entry) :=
  ⟨(Function.update_of_ne (Ne.symm other) _ _).trans same.entry, same.ovData, same.nextOv,
    same.work, same.history⟩

theorem setOv (same : Untouched j w w₁) {pov : Pov} (other : pov.1 ≠ j) (ov : Option OvData) :
    Untouched j w (w₁.setOv pov ov) := by
  refine ⟨same.entry, fun n => ?_, same.nextOv, same.work, same.history⟩
  have ne : ((j, n) : Pov) ≠ pov := fun h => other (h ▸ rfl)
  exact (Function.update_of_ne ne _ _).trans (same.ovData n)

theorem deleteOvData (same : Untouched j w w₁) {pov : Pov} (other : pov.1 ≠ j) :
    Untouched j w (w₁.deleteOvData pov) :=
  same.setOv other none

theorem newOvData (same : Untouched j w w₁) {ov : OvData} (other : ov.id ≠ j) :
    Untouched j w (w₁.newOvData ov).1 := by
  refine ⟨same.entry, fun n => ?_, ?_, same.work, same.history⟩
  · have ne : ((j, n) : Pov) ≠ (ov.id, w₁.nextOv ov.id) :=
      fun h => other (congrArg Prod.fst h).symm
    exact (Function.update_of_ne ne _ _).trans (same.ovData n)
  · exact (Function.update_of_ne (Ne.symm other) _ _).trans same.nextOv

theorem addPending (same : Untouched j w w₁) {op : Operation} (other : op.pov.1 ≠ j) :
    Untouched j w (w₁.addPending op) := by
  refine ⟨same.entry, same.ovData, same.nextOv, ?_, same.history⟩
  rw [← same.work]
  simp [workOf, World.addPending, other]

theorem removePending (same : Untouched j w w₁) {op : Operation} (other : op.pov.1 ≠ j) :
    Untouched j w (w₁.removePending op) := by
  refine ⟨same.entry, same.ovData, same.nextOv, ?_, same.history⟩
  rw [← same.work]
  simp only [workOf, World.removePending]
  rw [← List.erase_filter, List.erase_of_not_mem]
  simp [other]

theorem invoke (same : Untouched j w w₁) (other : id ≠ j) (os : Os) (c : Call) :
    Untouched j w (UdpProxy.invoke os w₁ id c).1 :=
  same.record other _

end Untouched

section Functions
variable (os : Os) (config : Config) {w w₁ : World} {id j : EndpointId}

theorem untouched_postClosed (same : Untouched j w w₁) (socket : Socket) {pov : Pov}
    (other : pov.1 ≠ j) {ov : OvData} (own : ov.id = pov.1) :
    Untouched j w (postClosed os w₁ socket pov ov) := by
  have named : ov.id ≠ j := own ▸ other
  have asked := (same.setOv other (some ov)).invoke named os (.postCompletion socket pov)
  simp only [postClosed]
  split
  · exact asked.addPending other
  · exact asked.deleteOvData other

theorem untouched_startConnect (same : Untouched j w w₁) (other : id ≠ j) (socket : Socket)
    (pAddr : Address) (addrLen : Nat) :
    Untouched j w (startConnect os w₁ socket pAddr addrLen id).1 := by
  have new : Untouched j w (w₁.newOvData ⟨id, .ovtConnect, []⟩).1 := same.newOvData other
  have asked := new.invoke other os (.connectEx socket pAddr addrLen)
  simp only [startConnect]
  split
  · exact asked.addPending other
  · exact asked.deleteOvData other

theorem untouched_rearmUdpReceive (same : Untouched j w w₁) (other : id ≠ j) (socket : Socket)
    {pov : Pov} (own : pov.1 = id) {ov : OvData} (named : ov.id = pov.1) :
    Untouched j w (rearmUdpReceive os w₁ socket id pov ov) := by
  have asked := same.invoke other os (.wsaRecvFrom socket)
  have elsewhere : pov.1 ≠ j := own ▸ other
  simp only [rearmUdpReceive]
  split
  · exact asked.addPending elsewhere
  · exact untouched_postClosed os asked socket elsewhere named

theorem untouched_startUdpReceive (same : Untouched j w w₁) (other : id ≠ j) (socket : Socket) :
    Untouched j w (startUdpReceive os w₁ socket id) :=
  untouched_rearmUdpReceive os (same.newOvData other) other socket rfl rfl

theorem untouched_rearmTcpReceive (same : Untouched j w w₁) (other : id ≠ j) (socket : Socket)
    {pov : Pov} (own : pov.1 = id) {ov : OvData} (named : ov.id = pov.1) :
    Untouched j w (rearmTcpReceive os w₁ socket id pov ov) := by
  have asked := same.invoke other os (.wsaRecv socket)
  have elsewhere : pov.1 ≠ j := own ▸ other
  simp only [rearmTcpReceive]
  split
  · exact asked.addPending elsewhere
  · exact untouched_postClosed os asked socket elsewhere named

theorem untouched_startTcpReceive (same : Untouched j w w₁) (other : id ≠ j) (socket : Socket) :
    Untouched j w (startTcpReceive os w₁ socket id) :=
  untouched_rearmTcpReceive os (same.newOvData other) other socket rfl rfl

theorem untouched_startTcpSend (same : Untouched j w w₁) (other : id ≠ j) (socket : Socket)
    (buf : Bytes) : Untouched j w (startTcpSend os w₁ socket buf id).1 := by
  have new : Untouched j w (w₁.newOvData ⟨id, .ovtTcpSend, buf⟩).1 := same.newOvData other
  have asked := new.invoke other os (.wsaSend socket buf)
  simp only [startTcpSend]
  split
  · exact asked.addPending other
  · exact untouched_postClosed os asked socket other rfl

theorem untouched_sendDatagram (same : Untouched j w w₁) (other : id ≠ j) (pd : ProxyData)
    (buf : Bytes) (remoteAddress : Address) :
    Untouched j w (sendDatagram os w₁ id pd buf remoteAddress).1 := by
  have new : Untouched j w (w₁.newOvData ⟨id, .ovtUdpSend, encapsulate buf remoteAddress⟩).1 :=
    same.newOvData other
  have asked := new.invoke other os (.wsaSendTo pd.udpSocket (encapsulate buf remoteAddress)
    pd.remoteAddress pd.remoteAddressLen)
  simp only [sendDatagram]
  split
  · split
    · exact untouched_startUdpReceive os ((asked.addPending other).setEntry other _) other
        pd.udpSocket
    · exact asked.addPending other
  · exact untouched_postClosed os asked pd.udpSocket other rfl

theorem untouched_udpSend (same : Untouched j w w₁) (other : id ≠ j) (buf : Bytes)
    (remoteAddress : Address) (remoteAddressLen : Nat) :
    Untouched j w (udpSend os w₁ id buf remoteAddress remoteAddressLen).1 := by
  simp only [udpSend]
  split
  · exact same
  · split
    · exact same.setEntry other _
    · exact untouched_sendDatagram os same other _ buf remoteAddress

theorem untouched_erasePacket (same : Untouched j w w₁) (other : id ≠ j) :
    Untouched j w (erasePacket w₁ id) := by
  simp only [erasePacket]
  split
  · exact same
  · exact same.setEntry other _

theorem untouched_flushPackets (same : Untouched j w w₁) (other : id ≠ j) (fuel : Nat) :
    Untouched j w (flushPackets os w₁ id fuel) := by
  induction fuel generalizing w₁ with
  | zero => exact same
  | succ fuel ih =>
    rw [flushPackets]
    split
    · exact same
    · split
      · exact same
      · exact ih (untouched_erasePacket (untouched_udpSend os same other _ _ _) other)

theorem untouched_answer (same : Untouched j w w₁) (other : id ≠ j) (pd : ProxyData)
    (reply : Option (Bytes × ProxyState)) : Untouched j w (answer os w₁ id pd reply) := by
  cases reply with
  | none => exact same
  | some reply =>
    have sent := untouched_startTcpSend os same other pd.tcpSocket reply.1
    simp only [answer]
    split
    · exact sent.setEntry other _
    · exact sent

theorem untouched_connected (same : Untouched j w w₁) (other : id ≠ j) (pd : ProxyData)
    (addr : Option Bytes) : Untouched j w (connected os w₁ id pd addr) := by
  cases addr with
  | none => exact same
  | some addr => exact untouched_flushPackets os (same.setEntry other _) other _

theorem untouched_onControlData (same : Untouched j w w₁) (other : id ≠ j) (buffer : Bytes)
    (dwTransferred : Nat) :
    Untouched j w (onControlData os config w₁ id buffer dwTransferred) := by
  simp only [onControlData]
  split
  · exact same
  · split
    · exact same
    · exact untouched_answer os same other _ _
    · exact untouched_answer os same other _ _
    · exact untouched_connected os same other _ _
    · exact same
    · exact same

theorem untouched_deleteProxyConnection (same : Untouched j w w₁) (other : id ≠ j) :
    Untouched j w (w₁.deleteProxyConnection id) := by
  simp only [World.deleteProxyConnection]
  split
  · exact same
  · exact ((same.record other _).record other _).setEntry other none

theorem untouched_registerAndConnect (same : Untouched j w w₁) (other : id ≠ j)
    (tcpSocket udpSocket : Socket) :
    Untouched j w (registerAndConnect os config w₁ id tcpSocket udpSocket).1 := by
  have first := same.invoke other os (.registerSocket tcpSocket)
  have second := first.invoke other os (.registerSocket udpSocket)
  simp only [registerAndConnect]
  split
  · exact first
  · split
    · exact second
    · exact untouched_startConnect os second other tcpSocket _ _

theorem untouched_createProxyConnection (same : Untouched j w w₁) (other : id ≠ j) :
    Untouched j w (createProxyConnection os config w₁ id).1 := by
  unfold createProxyConnection
  split
  · exact same.record other _
  · rename_i tcpSocket _
    have opened := same.record other (.opened .stream (some tcpSocket))
    simp only
    split
    · exact (opened.record other _).record other _
    · rename_i udpSocket _
      have stored := ((opened.record other (.opened .dgram (some udpSocket))).setEntry other
        (some (ProxyData.new config tcpSocket udpSocket))).record other .created
      have connecting := untouched_registerAndConnect os config stored other tcpSocket udpSocket
      split
      · exact connecting
      · exact untouched_deleteProxyConnection connecting other

end Functions

section Handlers
variable (os : Os) (config : Config) {w w₁ : World} {j : EndpointId} {pov : Pov} {ov : OvData}

theorem untouched_onConnectComplete (same : Untouched j w w₁) (other : pov.1 ≠ j)
    (own : ov.id = pov.1) (error : Nat) :
    Untouched j w (onConnectComplete os w₁ pov ov error) := by
  have named : ov.id ≠ j := own ▸ other
  simp only [onConnectComplete]
  split
  · exact (untouched_deleteProxyConnection same named).deleteOvData other
  · split
    · exact same.deleteOvData other
    · exact (untouched_startTcpReceive os (untouched_answer os same named _ _) named
        _).deleteOvData other

theorem untouched_onTcpReceiveComplete (same : Untouched j w w₁) (other : pov.1 ≠ j)
    (own : ov.id = pov.1) (socket : Socket) (dwTransferred : Nat) :
    Untouched j w (onTcpReceiveComplete os config w₁ socket dwTransferred pov ov) := by
  have named : ov.id ≠ j := own ▸ other
  simp only [onTcpReceiveComplete]
  split
  · exact same.deleteOvData other
  · exact untouched_rearmTcpReceive os (untouched_onControlData os config same named ov.buffer
      dwTransferred) named socket own.symm own

theorem untouched_onUdpReceiveComplete (same : Untouched j w w₁) (other : pov.1 ≠ j)
    (own : ov.id = pov.1) (socket : Socket) (dwTransferred : Nat) :
    Untouched j w (onUdpReceiveComplete os w₁ socket dwTransferred pov ov) := by
  have named : ov.id ≠ j := own ▸ other
  simp only [onUdpReceiveComplete]
  split
  · exact same.deleteOvData other
  · apply untouched_rearmUdpReceive os _ named socket own.symm own
    cases relayedDatagram ov.buffer dwTransferred with
    | none => exact same
    | some d => exact same.record named (.onUdpReceiveComplete d)

theorem untouched_onComplete (same : Untouched j w w₁) (other : pov.1 ≠ j)
    (own : ov.id = pov.1) (socket : Socket) (dwTransferred error : Nat) :
    Untouched j w (onComplete os config w₁ socket dwTransferred pov ov error) := by
  simp only [onComplete]
  cases ov.type with
  | ovtConnect => exact untouched_onConnectComplete os same other own error
  | ovtTcpSend => exact same.deleteOvData other
  | ovtUdpSend => exact same.deleteOvData other
  | ovtTcpReceive =>
    exact untouched_onTcpReceiveComplete os config same other own socket dwTransferred
  | ovtUdpReceive => exact untouched_onUdpReceiveComplete os same other own socket dwTransferred

theorem untouched_dispatch {op : Operation} (same : Untouched j w w₁) (other : op.pov.1 ≠ j)
    (named : ∀ ov, w₁.ovData op.pov = some ov → ov.id = op.pov.1) (data : Bytes) (error : Nat) :
    Untouched j w (dispatch os config w₁ op data error) := by
  simp only [dispatch]
  split
  · exact same
  · rename_i ov hov
    have own := named ov hov
    have elsewhere : ov.id ≠ j := own ▸ other
    split
    · exact untouched_onComplete os config same other own op.socket 0 0
    · split
      · let written : OvData :=
          { ov with buffer := overwrite ov.buffer (data.take ov.buffer.length) }
        have received := (same.setOv other (some written)).record elsewhere
          (.received ov.type (data.take ov.buffer.length))
        have ownWritten : written.id = op.pov.1 := own
        exact untouched_onComplete os config received other ownWritten op.socket _ error
      · exact untouched_onComplete os config same other own op.socket data.length error

end Handlers

section Step
variable (os : Os) (config : Config)

/-- The endpoint that an event is about. -/
def endpoint : Event → EndpointId
  | .createProxyConnection id => id
  | .deleteProxyConnection id => id
  | .udpSend id _ _ _ => id
  | .complete op _ _ => op.pov.1

/-- A step for one endpoint leaves the others as they were. -/
theorem untouched_step {w : World} (owned : Owned w []) {e : Event} {j : EndpointId}
    (other : endpoint e ≠ j) : Untouched j w (step os config w e) := by
  have start := Untouched.refl j w
  cases e with
  | createProxyConnection id => exact untouched_createProxyConnection os config start other
  | deleteProxyConnection id => exact untouched_deleteProxyConnection start other
  | udpSend id buf remoteAddress remoteAddressLen =>
    exact untouched_udpSend os start other buf remoteAddress remoteAddressLen
  | complete op data error =>
    simp only [step, complete]
    split
    · exact untouched_dispatch os config (start.removePending other) other
        (fun ov hov => owned.named op.pov ov hov) data error
    · exact start

end Step

end Endpoints
