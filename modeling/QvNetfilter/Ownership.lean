import QvNetfilter.UdpHistory

/-!
# Who owns an `OV_DATA`

The functions of the proxy create these records, hand them to the operating
system and take them back. A record that is in the set is owned by exactly one
pending operation or queued completion, except while a handler holds it.
-/

namespace Ownership

open Memory Socks Mealy UdpProxy UdpHistory

/-- The `OV_DATA` that outstanding work refers to. -/
def outstanding (w : World) : List Pov := w.pending.map Operation.pov

/-- Every record of the set has one owner: outstanding work, or a running handler that
holds it. A posted completion is handled as a receive. -/
structure Owned (w : World) (held : List Pov) : Prop where
  once : (held ++ outstanding w).Nodup
  live : ∀ pov, w.ovData pov ≠ none ↔ pov ∈ held ++ outstanding w
  allocated : ∀ pov, w.ovData pov ≠ none → pov.2 < w.nextOv pov.1
  named : ∀ pov ov, w.ovData pov = some ov → ov.id = pov.1
  posted : ∀ op ∈ w.pending, op.queued = true →
    ∀ ov, w.ovData op.pov = some ov → ov.type.receives = true

namespace Owned
variable {w : World} {held : List Pov}

theorem initial : Owned World.initial [] :=
  ⟨List.nodup_nil, fun _ => by simp [World.initial, outstanding], fun _ h => absurd rfl h, nofun,
    nofun⟩

theorem record (owned : Owned w held) (id : EndpointId) (a : Action) :
    Owned (w.record id a) held :=
  ⟨owned.once, owned.live, owned.allocated, owned.named, owned.posted⟩

theorem setEntry (owned : Owned w held) (id : EndpointId) (entry : Option ProxyData) :
    Owned (w.setEntry id entry) held :=
  ⟨owned.once, owned.live, owned.allocated, owned.named, owned.posted⟩

theorem invoke (owned : Owned w held) (os : Os) (id : EndpointId) (c : Call) :
    Owned (UdpProxy.invoke os w id c).1 held :=
  owned.record id _

/-- A new record is not one that has an owner. -/
theorem fresh (owned : Owned w held) (ov : OvData) :
    (w.newOvData ov).2 ∉ held ++ outstanding w := by
  intro present
  have allocated := owned.allocated _ ((owned.live _).mpr present)
  exact absurd allocated (Nat.lt_irrefl _)

theorem newOvData (owned : Owned w held) (ov : OvData) :
    Owned (w.newOvData ov).1 ((w.newOvData ov).2 :: held) := by
  refine ⟨List.nodup_cons.mpr ⟨owned.fresh ov, owned.once⟩, fun pov => ?_, fun pov present => ?_,
    fun pov ov' present => ?_, fun op pending queued ov' present => ?_⟩
  · by_cases same : pov = (w.newOvData ov).2
    · subst same
      exact iff_of_true (by simp [World.newOvData]) List.mem_cons_self
    · have kept : (w.newOvData ov).1.ovData pov = w.ovData pov := Function.update_of_ne same _ _
      rw [kept, owned.live pov, List.cons_append, List.mem_cons, or_iff_right same]
      rfl
  · by_cases same : pov = (w.newOvData ov).2
    · subst same
      simp [World.newOvData]
    · have kept : (w.newOvData ov).1.ovData pov = w.ovData pov := Function.update_of_ne same _ _
      rw [kept] at present
      have before := owned.allocated pov present
      by_cases own : pov.1 = ov.id
      · have next : (w.newOvData ov).1.nextOv pov.1 = w.nextOv pov.1 + 1 := by
          rw [own]
          exact Function.update_self ..
        omega
      · have next : (w.newOvData ov).1.nextOv pov.1 = w.nextOv pov.1 :=
          Function.update_of_ne own _ _
        omega
  · by_cases same : pov = (w.newOvData ov).2
    · subst same
      have stored : (w.newOvData ov).1.ovData (w.newOvData ov).2 = some ov :=
        Function.update_self ..
      rw [stored] at present
      rw [← Option.some_inj.mp present]
      rfl
    · have kept : (w.newOvData ov).1.ovData pov = w.ovData pov := Function.update_of_ne same _ _
      exact owned.named pov ov' (kept ▸ present)
  · have other : op.pov ≠ (w.newOvData ov).2 := by
      intro same
      exact owned.fresh ov (same ▸ List.mem_append_right _ (List.mem_map_of_mem pending))
    have kept : (w.newOvData ov).1.ovData op.pov = w.ovData op.pov :=
      Function.update_of_ne other _ _
    exact owned.posted op pending queued ov' (kept ▸ present)

/-- A record that a handler holds is in no outstanding operation. -/
theorem pov_ne_held (owned : Owned w held) {pov : Pov} (holds : pov ∈ held) {op : Operation}
    (pending : op ∈ w.pending) : op.pov ≠ pov := by
  have apart := (List.nodup_append.mp owned.once).2.2
  exact (apart pov holds op.pov (List.mem_map_of_mem pending)).symm

theorem setOv (owned : Owned w held) {pov : Pov} (holds : pov ∈ held) {ov : OvData}
    (own : ov.id = pov.1) : Owned (w.setOv pov (some ov)) held := by
  have live := (owned.live pov).mpr (List.mem_append_left _ holds)
  have same : ∀ p, (w.setOv pov (some ov)).ovData p ≠ none ↔ w.ovData p ≠ none := by
    intro p
    by_cases h : p = pov
    · subst h
      exact iff_of_true (by simp [World.setOv]) live
    · have kept : (w.setOv pov (some ov)).ovData p = w.ovData p := Function.update_of_ne h _ _
      rw [kept]
  refine ⟨owned.once, fun p => (same p).trans (owned.live p),
    fun p present => owned.allocated p ((same p).mp present), fun p ov' present => ?_,
    fun op pending queued ov' present => ?_⟩
  · by_cases h : p = pov
    · subst h
      have stored : (w.setOv p (some ov)).ovData p = some ov := Function.update_self ..
      rw [stored] at present
      rw [← Option.some_inj.mp present, own]
    · have kept : (w.setOv pov (some ov)).ovData p = w.ovData p := Function.update_of_ne h _ _
      exact owned.named p ov' (kept ▸ present)
  · have kept : (w.setOv pov (some ov)).ovData op.pov = w.ovData op.pov :=
      Function.update_of_ne (owned.pov_ne_held holds pending) _ _
    exact owned.posted op pending queued ov' (kept ▸ present)

/-- What the handler holds it may free. -/
theorem deleteOvData {pov : Pov} (owned : Owned w (pov :: held)) :
    Owned (w.deleteOvData pov) held := by
  obtain ⟨other, once⟩ := List.nodup_cons.mp owned.once
  have kept : ∀ p, p ≠ pov → (w.deleteOvData pov).ovData p = w.ovData p :=
    fun p h => Function.update_of_ne h _ _
  have gone : (w.deleteOvData pov).ovData pov = none := Function.update_self ..
  refine ⟨once, fun p => ?_, fun p present => ?_, fun p ov present => ?_,
    fun op pending queued ov present => ?_⟩
  · by_cases h : p = pov
    · subst h
      exact iff_of_false (fun present => present gone) other
    · rw [kept p h, owned.live p, List.cons_append, List.mem_cons, or_iff_right h]
      rfl
  · have h : p ≠ pov := fun same => present (same ▸ gone)
    exact owned.allocated p (kept p h ▸ present)
  · have h : p ≠ pov := by
      rintro rfl
      rw [gone] at present
      exact absurd present nofun
    exact owned.named p ov (kept p h ▸ present)
  · have h := owned.pov_ne_held List.mem_cons_self pending
    exact owned.posted op pending queued ov (kept op.pov h ▸ present)

/-- What the handler holds it may hand to an operation. -/
theorem addPending {op : Operation} (owned : Owned w (op.pov :: held))
    (posted : op.queued = true → ∀ ov, w.ovData op.pov = some ov → ov.type.receives = true) :
    Owned (w.addPending op) held := by
  have moved : (op.pov :: held ++ outstanding w).Perm (held ++ outstanding (w.addPending op)) := by
    simp only [outstanding, World.addPending, List.map_append, List.map_cons, List.map_nil,
      ← List.append_assoc]
    exact (List.perm_append_singleton _ _).symm
  refine ⟨moved.nodup_iff.mp owned.once, fun pov => (owned.live pov).trans moved.mem_iff,
    owned.allocated, owned.named, fun op' pending => ?_⟩
  rcases List.mem_append.mp pending with before | new
  · exact owned.posted op' before
  · obtain rfl := List.mem_singleton.mp new
    exact posted

theorem addDirect {pov : Pov} (owned : Owned w (pov :: held)) (socket : Socket) :
    Owned (w.addPending ⟨pov, socket, false⟩) held :=
  owned.addPending nofun

/-- A handler holds the record of the operation that has completed. -/
theorem removePending (owned : Owned w held) {op : Operation} (pending : op ∈ w.pending) :
    Owned (w.removePending op) (op.pov :: held) := by
  have moved : (held ++ outstanding w).Perm
      (op.pov :: held ++ outstanding (w.removePending op)) := by
    have taken : (outstanding w).Perm (op.pov :: outstanding (w.removePending op)) :=
      (List.perm_cons_erase pending).map Operation.pov
    exact (taken.append_left held).trans List.perm_middle
  exact ⟨moved.nodup_iff.mp owned.once, fun pov => (owned.live pov).trans moved.mem_iff,
    owned.allocated, owned.named, fun op' left => owned.posted op' (List.mem_of_mem_erase left)⟩

end Owned

section Functions
variable (os : Os) (config : Config) {w : World} {held : List Pov}

theorem owned_postClosed {pov : Pov} (owned : Owned w (pov :: held)) (socket : Socket) {ov : OvData}
    (own : ov.id = pov.1) (receives : ov.type.receives = true) :
    Owned (postClosed os w socket pov ov) held := by
  have asked := (owned.setOv List.mem_cons_self own).invoke os ov.id (.postCompletion socket pov)
  simp only [postClosed]
  split
  · refine asked.addPending (fun _ ov' present => ?_)
    have stored : (w.setOv pov (some ov)).ovData pov = some ov := Function.update_self ..
    obtain rfl := Option.some_inj.mp (stored.symm.trans present)
    exact receives
  · exact asked.deleteOvData

theorem owned_startConnect (owned : Owned w held) (socket : Socket) (pAddr : Address)
    (addrLen : Nat) (id : EndpointId) :
    Owned (startConnect os w socket pAddr addrLen id).1 held := by
  have asked := (owned.newOvData ⟨id, .ovtConnect, []⟩).invoke os id
    (.connectEx socket pAddr addrLen)
  simp only [startConnect]
  split
  · exact asked.addDirect _
  · exact asked.deleteOvData

theorem owned_rearmUdpReceive {pov : Pov} (owned : Owned w (pov :: held)) (socket : Socket)
    (id : EndpointId) {ov : OvData} (own : ov.id = pov.1) (receives : ov.type.receives = true) :
    Owned (rearmUdpReceive os w socket id pov ov) held := by
  have asked := owned.invoke os id (.wsaRecvFrom socket)
  simp only [rearmUdpReceive]
  split
  · exact asked.addDirect _
  · exact owned_postClosed os asked socket own receives

theorem owned_startUdpReceive (owned : Owned w held) (socket : Socket) (id : EndpointId) :
    Owned (startUdpReceive os w socket id) held :=
  owned_rearmUdpReceive os (owned.newOvData _) socket id rfl rfl

theorem owned_rearmTcpReceive {pov : Pov} (owned : Owned w (pov :: held)) (socket : Socket)
    (id : EndpointId) {ov : OvData} (own : ov.id = pov.1) (receives : ov.type.receives = true) :
    Owned (rearmTcpReceive os w socket id pov ov) held := by
  have asked := owned.invoke os id (.wsaRecv socket)
  simp only [rearmTcpReceive]
  split
  · exact asked.addDirect _
  · exact owned_postClosed os asked socket own receives

theorem owned_startTcpReceive (owned : Owned w held) (socket : Socket) (id : EndpointId) :
    Owned (startTcpReceive os w socket id) held :=
  owned_rearmTcpReceive os (owned.newOvData _) socket id rfl rfl

theorem owned_startTcpSend (owned : Owned w held) (socket : Socket) (buf : Bytes)
    (id : EndpointId) : Owned (startTcpSend os w socket buf id).1 held := by
  have asked := (owned.newOvData ⟨id, .ovtTcpSend, buf⟩).invoke os id (.wsaSend socket buf)
  simp only [startTcpSend]
  split
  · exact asked.addDirect _
  · exact owned_postClosed os asked socket rfl rfl

theorem owned_sendDatagram (owned : Owned w held) (id : EndpointId) (pd : ProxyData) (buf : Bytes)
    (remoteAddress : Address) : Owned (sendDatagram os w id pd buf remoteAddress).1 held := by
  have asked := (owned.newOvData ⟨id, .ovtUdpSend, encapsulate buf remoteAddress⟩).invoke os id
    (.wsaSendTo pd.udpSocket (encapsulate buf remoteAddress) pd.remoteAddress pd.remoteAddressLen)
  simp only [sendDatagram]
  split
  · split
    · exact owned_startUdpReceive os ((asked.addDirect pd.udpSocket).setEntry id _) pd.udpSocket id
    · exact asked.addDirect _
  · exact owned_postClosed os asked pd.udpSocket rfl rfl

theorem owned_udpSend (owned : Owned w held) (id : EndpointId) (buf : Bytes)
    (remoteAddress : Address) (remoteAddressLen : Nat) :
    Owned (udpSend os w id buf remoteAddress remoteAddressLen).1 held := by
  simp only [udpSend]
  split
  · exact owned
  · split
    · exact owned.setEntry id _
    · exact owned_sendDatagram os owned id _ buf remoteAddress

theorem owned_erasePacket (owned : Owned w held) (id : EndpointId) :
    Owned (erasePacket w id) held := by
  simp only [erasePacket]
  split
  · exact owned
  · exact owned.setEntry id _

theorem owned_flushPackets (owned : Owned w held) (id : EndpointId) (fuel : Nat) :
    Owned (flushPackets os w id fuel) held := by
  induction fuel generalizing w with
  | zero => exact owned
  | succ fuel ih =>
    rw [flushPackets]
    split
    · exact owned
    · split
      · exact owned
      · exact ih (owned_erasePacket (owned_udpSend os owned id _ _ _) id)

theorem owned_answer (owned : Owned w held) (id : EndpointId) (pd : ProxyData)
    (reply : Option (Bytes × ProxyState)) : Owned (answer os w id pd reply) held := by
  cases reply with
  | none => exact owned
  | some reply =>
    have sent := owned_startTcpSend os owned pd.tcpSocket reply.1 id
    simp only [answer]
    split
    · exact sent.setEntry id _
    · exact sent

theorem owned_connected (owned : Owned w held) (id : EndpointId) (pd : ProxyData)
    (addr : Option Bytes) : Owned (connected os w id pd addr) held := by
  cases addr with
  | none => exact owned
  | some addr => exact owned_flushPackets os (owned.setEntry id _) id _

theorem owned_onControlData (owned : Owned w held) (id : EndpointId) (buffer : Bytes)
    (dwTransferred : Nat) : Owned (onControlData os config w id buffer dwTransferred) held := by
  simp only [onControlData]
  split
  · exact owned
  · split
    · exact owned
    · exact owned_answer os owned id _ _
    · exact owned_answer os owned id _ _
    · exact owned_connected os owned id _ _
    · exact owned
    · exact owned

theorem owned_deleteProxyConnection (owned : Owned w held) (id : EndpointId) :
    Owned (w.deleteProxyConnection id) held := by
  simp only [World.deleteProxyConnection]
  split
  · exact owned
  · exact ((owned.record id _).record id _).setEntry id none

theorem owned_registerAndConnect (owned : Owned w held) (id : EndpointId)
    (tcpSocket udpSocket : Socket) :
    Owned (registerAndConnect os config w id tcpSocket udpSocket).1 held := by
  have first := owned.invoke os id (.registerSocket tcpSocket)
  have second := first.invoke os id (.registerSocket udpSocket)
  simp only [registerAndConnect]
  split
  · exact first
  · split
    · exact second
    · exact owned_startConnect os second tcpSocket config.proxyAddress config.proxyAddressLen id

theorem owned_createProxyConnection (owned : Owned w held) (id : EndpointId) :
    Owned (createProxyConnection os config w id).1 held := by
  unfold createProxyConnection
  split
  · exact owned.record id _
  · rename_i tcpSocket _
    have opened := owned.record id (.opened .stream (some tcpSocket))
    simp only
    split
    · exact (opened.record id _).record id _
    · rename_i udpSocket _
      have stored := ((opened.record id (.opened .dgram (some udpSocket))).setEntry id
        (some (ProxyData.new config tcpSocket udpSocket))).record id .created
      have connecting := owned_registerAndConnect os config stored id tcpSocket udpSocket
      split
      · exact connecting
      · exact owned_deleteProxyConnection connecting id

end Functions

section Handlers
variable (os : Os) (config : Config) {w : World} {pov : Pov}

theorem owned_onTcpReceiveComplete (owned : Owned w [pov]) (socket : Socket) (dwTransferred : Nat)
    {ov : OvData} (own : ov.id = pov.1) (receives : ov.type.receives = true) :
    Owned (onTcpReceiveComplete os config w socket dwTransferred pov ov) [] := by
  simp only [onTcpReceiveComplete]
  split
  · exact owned.deleteOvData
  · exact owned_rearmTcpReceive os (owned_onControlData os config owned ov.id ov.buffer
      dwTransferred) socket ov.id own receives

theorem owned_onConnectComplete (owned : Owned w [pov]) (ov : OvData) (error : Nat) :
    Owned (onConnectComplete os w pov ov error) [] := by
  simp only [onConnectComplete]
  split
  · exact (owned_deleteProxyConnection owned ov.id).deleteOvData
  · split
    · exact owned.deleteOvData
    · exact (owned_startTcpReceive os (owned_answer os owned ov.id _ _) _ ov.id).deleteOvData

theorem owned_onUdpReceiveComplete (owned : Owned w [pov]) (socket : Socket) (dwTransferred : Nat)
    {ov : OvData} (own : ov.id = pov.1) (receives : ov.type.receives = true) :
    Owned (onUdpReceiveComplete os w socket dwTransferred pov ov) [] := by
  simp only [onUdpReceiveComplete]
  split
  · exact owned.deleteOvData
  · apply owned_rearmUdpReceive os _ socket ov.id own receives
    cases relayedDatagram ov.buffer dwTransferred with
    | none => exact owned
    | some d => exact owned.record ov.id (.onUdpReceiveComplete d)

theorem owned_onComplete (owned : Owned w [pov]) (socket : Socket) (dwTransferred : Nat)
    {ov : OvData} (own : ov.id = pov.1) (error : Nat) :
    Owned (onComplete os config w socket dwTransferred pov ov error) [] := by
  simp only [onComplete]
  cases type : ov.type with
  | ovtConnect => exact owned_onConnectComplete os owned ov error
  | ovtTcpSend => exact owned.deleteOvData
  | ovtUdpSend => exact owned.deleteOvData
  | ovtTcpReceive =>
    have receives : ov.type.receives = true := by rw [type]; rfl
    exact owned_onTcpReceiveComplete os config owned socket dwTransferred own receives
  | ovtUdpReceive =>
    have receives : ov.type.receives = true := by rw [type]; rfl
    exact owned_onUdpReceiveComplete os owned socket dwTransferred own receives

/-- The handler of a completed operation gives back or hands on the record that it holds. -/
theorem owned_dispatch {op : Operation} (owned : Owned w [op.pov]) (data : Bytes) (error : Nat) :
    Owned (dispatch os config w op data error) [] := by
  have live : w.ovData op.pov ≠ none := (owned.live op.pov).mpr (List.mem_append_left _ (by simp))
  simp only [dispatch]
  split
  · exact absurd ‹_› live
  · rename_i ov hov
    have own := owned.named op.pov ov hov
    split
    · exact owned_onComplete os config owned op.socket 0 own 0
    · split
      · let written : OvData :=
          { ov with buffer := overwrite ov.buffer (data.take ov.buffer.length) }
        have stored : Owned (w.setOv op.pov (some written)) [op.pov] :=
          owned.setOv List.mem_cons_self own
        have received := stored.record ov.id (.received ov.type (data.take ov.buffer.length))
        have ownWritten : written.id = op.pov.1 := own
        exact owned_onComplete os config received op.socket _ ownWritten error
      · exact owned_onComplete os config owned op.socket data.length own error

theorem owned_step {w : World} (owned : Owned w []) (e : Event) :
    Owned (step os config w e) [] := by
  cases e with
  | createProxyConnection id => exact owned_createProxyConnection os config owned id
  | deleteProxyConnection id => exact owned_deleteProxyConnection owned id
  | udpSend id buf remoteAddress remoteAddressLen =>
    exact owned_udpSend os owned id buf remoteAddress remoteAddressLen
  | complete op data error =>
    simp only [step, complete]
    split
    · rename_i pending
      exact owned_dispatch os config (owned.removePending pending) data error
    · exact owned

theorem owned_run (evs : List Event) : Owned ((machine os config).run World.initial evs) [] := by
  have kept : ∀ w e, Owned w [] → True → Owned ((machine os config).step w e).1 [] :=
    fun _ e owned _ => owned_step os config owned e
  exact (machine os config).run_invariant kept Owned.initial (fun _ _ => trivial)

/-- In every reachable state the set of `OV_DATA` and the work that refers to it are the
same, and no record is referred to twice. -/
theorem ovData_outstanding (evs : List Event) :
    (outstanding ((machine os config).run World.initial evs)).Nodup ∧
      ∀ pov, ((machine os config).run World.initial evs).ovData pov ≠ none ↔
        pov ∈ outstanding ((machine os config).run World.initial evs) := by
  have owned := owned_run os config evs
  exact ⟨owned.once, owned.live⟩

end Handlers

end Ownership
