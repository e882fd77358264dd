import QvNetfilter.Rearm
import QvNetfilter.UdpHandler

/-!
# The receive buffers

A receive gets a buffer of 65536 bytes, which its completions write to and never
enlarge, and a refused send is posted as a receive with no buffer at all. No
completion therefore brings more than 65536 bytes.
-/

namespace Buffers

open Memory Socks Mealy
open UdpProxy hiding Event step machine
open UdpHandler (openSockets advance HandlerStep)

/-- The buffers of receives are no larger than they were allocated. -/
def Sized (w : World) : Prop :=
  ∀ pov ov, w.ovData pov = some ov → ov.type.receives = true → ov.buffer.length ≤ packetSize

/-- A record that may be stored. -/
def Fits (ov : OvData) : Prop := ov.type.receives = true → ov.buffer.length ≤ packetSize

theorem fits_fresh (id : EndpointId) (type : OvType) :
    Fits ⟨id, type, List.replicate packetSize 0⟩ :=
  fun _ => Nat.le_of_eq List.length_replicate

theorem fits_empty (id : EndpointId) (type : OvType) : Fits ⟨id, type, []⟩ :=
  fun _ => Nat.zero_le _

/-- What a receive gets fits into its buffer, which keeps its size. -/
theorem Fits.write {ov : OvData} (fits : Fits ov) (data : Bytes) :
    Fits { ov with buffer := overwrite ov.buffer (data.take ov.buffer.length) } := by
  intro receives
  have room : (data.take ov.buffer.length).length ≤ ov.buffer.length := by
    rw [List.length_take]
    exact Nat.min_le_left ..
  rw [overwrite_length room]
  exact fits receives

namespace Sized
variable {w : World}

theorem initial : Sized World.initial := fun _ _ stored => by cases stored

theorem record (sized : Sized w) (id : EndpointId) (a : Action) : Sized (w.record id a) := sized

theorem setEntry (sized : Sized w) (id : EndpointId) (entry : Option ProxyData) :
    Sized (w.setEntry id entry) := sized

theorem addPending (sized : Sized w) (op : Operation) : Sized (w.addPending op) := sized

theorem removePending (sized : Sized w) (op : Operation) : Sized (w.removePending op) := sized

theorem invoke (sized : Sized w) (os : Os) (id : EndpointId) (c : Call) :
    Sized (UdpProxy.invoke os w id c).1 := sized

theorem setOv (sized : Sized w) (pov : Pov) {ov : OvData} (fits : Fits ov) :
    Sized (w.setOv pov (some ov)) := by
  intro p ov' stored
  by_cases here : p = pov
  · subst here
    have new : (w.setOv p (some ov)).ovData p = some ov := Function.update_self ..
    obtain rfl := Option.some_inj.mp (new.symm.trans stored)
    exact fits
  · exact sized p ov' ((Function.update_of_ne here ..).symm.trans stored)

theorem deleteOvData (sized : Sized w) (pov : Pov) : Sized (w.deleteOvData pov) := by
  intro p ov stored
  by_cases here : p = pov
  · subst here
    have gone : (w.deleteOvData p).ovData p = none := Function.update_self ..
    cases gone.symm.trans stored
  · exact sized p ov ((Function.update_of_ne here ..).symm.trans stored)

theorem newOvData (sized : Sized w) {ov : OvData} (fits : Fits ov) :
    Sized (w.newOvData ov).1 :=
  sized.setOv (ov.id, w.nextOv ov.id) fits

end Sized

section Functions
variable (os : Os) (config : Config) {w : World}

theorem sized_postClosed (sized : Sized w) (socket : Socket) (pov : Pov) {ov : OvData}
    (fits : Fits ov) : Sized (postClosed os w socket pov ov) := by
  have stored := sized.setOv pov fits
  simp only [postClosed]
  split
  · exact stored
  · exact stored.deleteOvData pov

theorem sized_startConnect (sized : Sized w) (socket : Socket) (pAddr : Address) (addrLen : Nat)
    (id : EndpointId) : Sized (startConnect os w socket pAddr addrLen id).1 := by
  have new := sized.newOvData (fits_empty id .ovtConnect)
  simp only [startConnect]
  split
  · exact new
  · exact new.deleteOvData _

theorem sized_rearmUdpReceive (sized : Sized w) (socket : Socket) (id : EndpointId) (pov : Pov)
    {ov : OvData} (fits : Fits ov) : Sized (rearmUdpReceive os w socket id pov ov) := by
  have asked := sized.invoke os id (.wsaRecvFrom socket)
  simp only [rearmUdpReceive]
  split
  · exact asked
  · exact sized_postClosed os asked socket pov fits

theorem sized_startUdpReceive (sized : Sized w) (socket : Socket) (id : EndpointId) :
    Sized (startUdpReceive os w socket id) :=
  have fits := fits_fresh id .ovtUdpReceive
  sized_rearmUdpReceive os (sized.newOvData fits) socket id _ fits

theorem sized_rearmTcpReceive (sized : Sized w) (socket : Socket) (id : EndpointId) (pov : Pov)
    {ov : OvData} (fits : Fits ov) : Sized (rearmTcpReceive os w socket id pov ov) := by
  have asked := sized.invoke os id (.wsaRecv socket)
  simp only [rearmTcpReceive]
  split
  · exact asked
  · exact sized_postClosed os asked socket pov fits

theorem sized_startTcpReceive (sized : Sized w) (socket : Socket) (id : EndpointId) :
    Sized (startTcpReceive os w socket id) :=
  have fits := fits_fresh id .ovtTcpReceive
  sized_rearmTcpReceive os (sized.newOvData fits) socket id _ fits

theorem sized_startTcpSend (sized : Sized w) (socket : Socket) (buf : Bytes) (id : EndpointId) :
    Sized (startTcpSend os w socket buf id).1 := by
  have new : Sized (w.newOvData ⟨id, .ovtTcpSend, buf⟩).1 :=
    sized.newOvData fun receives => absurd receives Bool.false_ne_true
  have asked := new.invoke os id (.wsaSend socket buf)
  simp only [startTcpSend]
  split
  · exact asked
  · exact sized_postClosed os asked socket _ (fits_empty id .ovtTcpReceive)

theorem sized_sendDatagram (sized : Sized w) (id : EndpointId) (pd : ProxyData) (buf : Bytes)
    (remoteAddress : Address) : Sized (sendDatagram os w id pd buf remoteAddress).1 := by
  have new : Sized (w.newOvData ⟨id, .ovtUdpSend, encapsulate buf remoteAddress⟩).1 :=
    sized.newOvData fun receives => absurd receives Bool.false_ne_true
  have asked := new.invoke os id (.wsaSendTo pd.udpSocket (encapsulate buf remoteAddress)
    pd.remoteAddress pd.remoteAddressLen)
  simp only [sendDatagram]
  split
  · have handed := asked.addPending ⟨(w.newOvData ⟨id, .ovtUdpSend,
      encapsulate buf remoteAddress⟩).2, pd.udpSocket, false⟩
    split
    · exact sized_startUdpReceive os (handed.setEntry id _) pd.udpSocket id
    · exact handed
  · exact sized_postClosed os asked pd.udpSocket _ (fits_empty id .ovtUdpReceive)

theorem sized_udpSend (sized : Sized w) (id : EndpointId) (buf : Bytes) (remoteAddress : Address)
    (remoteAddressLen : Nat) : Sized (udpSend os w id buf remoteAddress remoteAddressLen).1 := by
  simp only [udpSend]
  split
  · exact sized
  · split
    · exact sized
    · exact sized_sendDatagram os sized id _ buf remoteAddress

theorem sized_erasePacket (sized : Sized w) (id : EndpointId) : Sized (erasePacket w id) := by
  simp only [erasePacket]
  split
  · exact sized
  · exact sized

theorem sized_flushPackets (sized : Sized w) (id : EndpointId) (fuel : Nat) :
    Sized (flushPackets os w id fuel) := by
  induction fuel generalizing w with
  | zero => exact sized
  | succ fuel ih =>
    rw [flushPackets]
    split
    · exact sized
    · split
      · exact sized
      · exact ih (sized_erasePacket (sized_udpSend os sized id _ _ _) id)

theorem sized_answer (sized : Sized w) (id : EndpointId) (pd : ProxyData)
    (reply : Option (Bytes × ProxyState)) : Sized (answer os w id pd reply) := by
  cases reply with
  | none => exact sized
  | some reply =>
    have sent := sized_startTcpSend os sized pd.tcpSocket reply.1 id
    simp only [answer]
    split
    · exact sent
    · exact sent

theorem sized_onControlData (sized : Sized w) (id : EndpointId) (buffer : Bytes)
    (dwTransferred : Nat) : Sized (onControlData os config w id buffer dwTransferred) := by
  simp only [onControlData]
  split
  · exact sized
  · split
    · exact sized
    · exact sized_answer os sized id _ _
    · exact sized_answer os sized id _ _
    · cases udpAssocReply config buffer dwTransferred with
      | none => exact sized
      | some addr => exact sized_flushPackets os (sized.setEntry id _) id _
    · exact sized
    · exact sized

theorem sized_deleteProxyConnection (sized : Sized w) (id : EndpointId) :
    Sized (w.deleteProxyConnection id) := by
  simp only [World.deleteProxyConnection]
  split
  · exact sized
  · exact sized

theorem sized_openSockets (sized : Sized w) (id : EndpointId) :
    Sized (openSockets os w id).1 := by
  unfold openSockets
  split
  · exact sized
  · simp only
    split
    · exact sized
    · exact sized

theorem sized_advance (sized : Sized w) (id : EndpointId) (tcpSocket udpSocket : Socket)
    (stage : UdpHandler.Creating) :
    Sized (advance os config w id tcpSocket udpSocket stage).1 := by
  cases stage with
  | opened | stored | tcpRegistered | connecting | failed => exact sized
  | udpRegistered => exact sized_startConnect os sized _ _ _ id

theorem sized_onConnectComplete (sized : Sized w) (pov : Pov) (ov : OvData) (error : Nat) :
    Sized (onConnectComplete os w pov ov error) := by
  simp only [onConnectComplete]
  split
  · exact (sized_deleteProxyConnection sized ov.id).deleteOvData pov
  · split
    · exact sized.deleteOvData pov
    · exact (sized_startTcpReceive os (sized_answer os sized ov.id _ _) _ ov.id).deleteOvData pov

end Functions

section Handlers
variable (os : Os) (config : Config) {w : World}

theorem sized_onCompleteUntilRearm (sized : Sized w) (socket : Socket) (dwTransferred : Nat)
    (pov : Pov) {ov : OvData} (fits : Fits ov) (error : Nat) :
    Sized (Rearm.onCompleteUntilRearm os config w socket dwTransferred pov ov error).1 ∧
      ∀ r, (Rearm.onCompleteUntilRearm os config w socket dwTransferred pov ov error).2 = some r →
        Fits r.ov := by
  unfold Rearm.onCompleteUntilRearm
  cases type : ov.type with
  | ovtUdpReceive =>
    simp only
    split
    · exact ⟨sized.deleteOvData pov, by simp⟩
    · refine ⟨?_, fun r left => ?_⟩
      · cases relayedDatagram ov.buffer dwTransferred with
        | none => exact sized
        | some d => exact sized
      · obtain rfl := Option.some_inj.mp left
        exact fits
  | ovtTcpReceive =>
    simp only
    split
    · exact ⟨sized.deleteOvData pov, by simp⟩
    · refine ⟨sized_onControlData os config sized ov.id ov.buffer dwTransferred, fun r left => ?_⟩
      obtain rfl := Option.some_inj.mp left
      exact fits
  | ovtConnect =>
    simp only [onComplete, type]
    exact ⟨sized_onConnectComplete os sized pov ov error, by simp⟩
  | ovtTcpSend | ovtUdpSend =>
    simp only [onComplete, type]
    exact ⟨sized.deleteOvData pov, by simp⟩

/-- A completion leaves the buffers, and that of the receive which is still to be issued, as
large as they were. -/
theorem sized_completeUntilRearm (sized : Sized w) (op : Operation) (data : Bytes) (error : Nat) :
    Sized (Rearm.completeUntilRearm os config w op data error).1 ∧
      ∀ r, (Rearm.completeUntilRearm os config w op data error).2 = some r → Fits r.ov := by
  unfold Rearm.completeUntilRearm
  split
  · have taken := sized.removePending op
    unfold Rearm.dispatchUntilRearm
    cases hov : (w.removePending op).ovData op.pov with
    | none => exact ⟨taken, by simp⟩
    | some ov =>
      have fits : Fits ov := taken op.pov ov hov
      simp only
      split
      · exact sized_onCompleteUntilRearm os config taken op.socket 0 op.pov fits 0
      · split
        · have written := (taken.setOv op.pov (fits.write data)).record ov.id
            (.received ov.type (data.take ov.buffer.length))
          exact sized_onCompleteUntilRearm os config written op.socket _ op.pov (fits.write data)
            error
        · exact sized_onCompleteUntilRearm os config taken op.socket data.length op.pov fits error
  · exact ⟨sized, by simp⟩

theorem sized_issue (sized : Sized w) {r : Rearm.Pending} (fits : Fits r.ov) :
    Sized (Rearm.issue os w r) := by
  unfold Rearm.issue
  split
  · exact sized_rearmTcpReceive os sized r.socket r.ov.id r.pov fits
  · exact sized_rearmUdpReceive os sized r.socket r.ov.id r.pov fits

theorem sized_complete (sized : Sized w) (op : Operation) (data : Bytes) (error : Nat) :
    Sized (complete os config w op data error) := by
  obtain ⟨sized', fits⟩ := sized_completeUntilRearm os config sized op data error
  rw [← Rearm.finish_complete]
  generalize Rearm.completeUntilRearm os config w op data error = left at sized' fits ⊢
  obtain ⟨w', _ | r⟩ := left
  · exact sized'
  · exact sized_issue os sized' (fits r rfl)

/-- Whatever the driver's thread, the worker and `free` do, the buffers keep their size. -/
theorem sized_handler {s : UdpHandler.State} (sized : Sized s.proxy) (e : UdpHandler.Event) :
    Sized (UdpHandler.step os config s e).1.proxy := by
  have move := UdpHandler.handlerStep os config s e
  generalize UdpHandler.step os config s e = result at move ⊢
  obtain ⟨s', outs⟩ := result
  cases move with
  | ignored | received | known | created | closed | serviceFreed | contextsCleared => exact sized
  | @notOpened j d w idle unknown result | @opened j d w t u idle unknown result =>
    have opened := sized_openSockets (UdpHandler.currentOs os s.freeing) sized j
    rw [result] at opened
    exact opened
  | @advanced j d stage stage' w t u there notConnecting notFailed result =>
    have advanced := sized_advance (UdpHandler.currentOs os s.freeing) config sized j t u stage
    rw [result] at advanced
    exact advanced
  | @gaveUp j | @closes j => exact sized_deleteProxyConnection sized j
  | @sent j d w there result | @posted j d w there result =>
    have sent := sized_udpSend (UdpHandler.currentOs os s.freeing) sized j d.buf d.remoteAddress
      (UdpHandler.sendAddrLen d.remoteAddress)
    rw [result] at sent
    exact sent
  | @completed op data error => exact sized_complete os config sized op data error
  | tablesCleared => exact fun _ _ stored => by cases stored

theorem sized_run (evs : List UdpHandler.Event) :
    Sized ((UdpHandler.machine os config).run UdpHandler.State.initial evs).proxy := by
  have kept : ∀ s e, Sized s.proxy → True →
      Sized ((UdpHandler.machine os config).step s e).1.proxy :=
    fun _ e sized _ => sized_handler os config sized e
  exact (UdpHandler.machine os config).run_invariant (I := fun s => Sized s.proxy) kept
    Sized.initial fun _ _ => trivial

end Handlers

end Buffers
