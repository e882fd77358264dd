import QvNetfilter.UdpProxy

/-!
# What the proxy's functions add to the log

A property of a run usually speaks of some actions only. `view watch` is the
history of one endpoint with everything but the watched actions left out; each
function of the proxy extends it by the watched calls that the function makes,
and leaves the views of all other endpoints alone. Beside it stand the entries
of `m_socketMap` that each function writes.
-/

namespace UdpHistory

open Memory Socks Mealy UdpProxy

section Entries
variable (os : Os) (w : World) (id : EndpointId)

@[simp] theorem record_socketMap (a : Action) : (w.record id a).socketMap = w.socketMap := rfl

@[simp] theorem addPending_socketMap (op : Operation) :
    (w.addPending op).socketMap = w.socketMap := rfl

@[simp] theorem removePending_ovData (op : Operation) :
    (w.removePending op).ovData = w.ovData := rfl

@[simp] theorem newOvData_socketMap (ov : OvData) :
    (w.newOvData ov).1.socketMap = w.socketMap := rfl

@[simp] theorem setEntry_socketMap (entry : Option ProxyData) :
    (w.setEntry id entry).socketMap = Function.update w.socketMap id entry := rfl

@[simp] theorem invoke_socketMap (c : Call) : (invoke os w id c).1.socketMap = w.socketMap := rfl

@[simp] theorem postClosed_socketMap (socket : Socket) (pov : Pov) (ov : OvData) :
    (postClosed os w socket pov ov).socketMap = w.socketMap := by
  simp only [postClosed]
  split <;> rfl

@[simp] theorem startConnect_socketMap (socket : Socket) (pAddr : Address) (addrLen : Nat) :
    (startConnect os w socket pAddr addrLen id).1.socketMap = w.socketMap := by
  simp only [startConnect]
  split <;> rfl

@[simp] theorem rearmUdpReceive_socketMap (socket : Socket) (pov : Pov) (ov : OvData) :
    (rearmUdpReceive os w socket id pov ov).socketMap = w.socketMap := by
  simp only [rearmUdpReceive]
  split <;> simp

@[simp] theorem rearmTcpReceive_socketMap (socket : Socket) (pov : Pov) (ov : OvData) :
    (rearmTcpReceive os w socket id pov ov).socketMap = w.socketMap := by
  simp only [rearmTcpReceive]
  split <;> simp

@[simp] theorem startUdpReceive_socketMap (socket : Socket) :
    (startUdpReceive os w socket id).socketMap = w.socketMap := by
  simp [startUdpReceive]

@[simp] theorem startTcpReceive_socketMap (socket : Socket) :
    (startTcpReceive os w socket id).socketMap = w.socketMap := by
  simp [startTcpReceive]

@[simp] theorem startTcpSend_socketMap (socket : Socket) (buf : Bytes) :
    (startTcpSend os w socket buf id).1.socketMap = w.socketMap := by
  simp only [startTcpSend]
  split <;> simp

@[simp] theorem deleteProxyConnection_socketMap :
    (w.deleteProxyConnection id).socketMap = Function.update w.socketMap id none := by
  unfold World.deleteProxyConnection
  split
  · rename_i h
    exact (Function.update_eq_self_iff.mpr h.symm).symm
  · rfl

end Entries

section View
variable {α : Type*} (watch : Action → Option α)

/-- The watched part of an endpoint's history. -/
def view (w : World) (id : EndpointId) : List α := (w.history id).filterMap watch

/-- A call that is not watched, whatever its answer. -/
def Hidden (c : Call) : Prop := ∀ accepted, watch (.call c accepted) = none

/-- The watched part of one new action of endpoint `id`, as endpoint `j` sees it. -/
def shown (id j : EndpointId) (a : Action) : List α :=
  if id = j then (watch a).toList else []

variable {watch}

@[simp] theorem shown_self (id : EndpointId) (a : Action) :
    shown watch id id a = (watch a).toList := if_pos rfl

theorem shown_ne {id j : EndpointId} (h : id ≠ j) (a : Action) : shown watch id j a = [] :=
  if_neg h

theorem shown_none {a : Action} (h : watch a = none) (id j : EndpointId) :
    shown watch id j a = [] := by
  simp [shown, h]

theorem view_record (w : World) (id j : EndpointId) (a : Action) :
    view watch (w.record id a) j = view watch w j ++ shown watch id j a := by
  by_cases h : id = j
  · subst h
    cases hw : watch a <;> simp [view, World.history, World.record, hw]
  · simp [view, World.history, World.record, shown, h, atIndex_cons_ne h]

@[simp] theorem view_setEntry (w : World) (id j : EndpointId) (entry : Option ProxyData) :
    view watch (w.setEntry id entry) j = view watch w j := rfl

variable (os : Os)

theorem view_invoke (w : World) (id j : EndpointId) (c : Call) :
    view watch (invoke os w id c).1 j =
      view watch w j ++ shown watch id j (.call c (invoke os w id c).2) :=
  view_record w id j _

theorem view_invoke_hidden (w : World) (id j : EndpointId) {c : Call} (hidden : Hidden watch c) :
    view watch (invoke os w id c).1 j = view watch w j := by
  rw [view_invoke, shown_none (hidden _), List.append_nil]

theorem view_postClosed (w : World) (socket : Socket) (pov : Pov) (ov : OvData)
    (hidden : Hidden watch (.postCompletion socket pov)) (j : EndpointId) :
    view watch (postClosed os w socket pov ov) j = view watch w j := by
  have posted := view_invoke_hidden os (w.setOv pov (some ov)) ov.id j hidden
  simp only [postClosed]
  split
  · exact posted
  · exact posted

theorem view_rearmUdpReceive (w : World) (socket : Socket) (id : EndpointId) (pov : Pov)
    (ov : OvData) (receive : Hidden watch (.wsaRecvFrom socket))
    (post : Hidden watch (.postCompletion socket pov)) (j : EndpointId) :
    view watch (rearmUdpReceive os w socket id pov ov) j = view watch w j := by
  have received := view_invoke_hidden os w id j receive
  simp only [rearmUdpReceive]
  split
  · exact received
  · exact (view_postClosed os _ socket pov ov post j).trans received

theorem view_rearmTcpReceive (w : World) (socket : Socket) (id : EndpointId) (pov : Pov)
    (ov : OvData) (receive : Hidden watch (.wsaRecv socket))
    (post : Hidden watch (.postCompletion socket pov)) (j : EndpointId) :
    view watch (rearmTcpReceive os w socket id pov ov) j = view watch w j := by
  have received := view_invoke_hidden os w id j receive
  simp only [rearmTcpReceive]
  split
  · exact received
  · exact (view_postClosed os _ socket pov ov post j).trans received

theorem view_startUdpReceive (w : World) (socket : Socket) (id : EndpointId)
    (receive : Hidden watch (.wsaRecvFrom socket))
    (post : ∀ pov, Hidden watch (.postCompletion socket pov)) (j : EndpointId) :
    view watch (startUdpReceive os w socket id) j = view watch w j :=
  view_rearmUdpReceive os _ socket id _ _ receive (post _) j

theorem view_startTcpReceive (w : World) (socket : Socket) (id : EndpointId)
    (receive : Hidden watch (.wsaRecv socket))
    (post : ∀ pov, Hidden watch (.postCompletion socket pov)) (j : EndpointId) :
    view watch (startTcpReceive os w socket id) j = view watch w j :=
  view_rearmTcpReceive os _ socket id _ _ receive (post _) j

/-- A send on the control connection adds the one call, with the answer it returns. -/
theorem view_startTcpSend (w : World) (socket : Socket) (buf : Bytes) (id : EndpointId)
    (post : ∀ pov, Hidden watch (.postCompletion socket pov)) (j : EndpointId) :
    view watch (startTcpSend os w socket buf id).1 j = view watch w j ++
      shown watch id j (.call (.wsaSend socket buf) (startTcpSend os w socket buf id).2) := by
  have sent : view watch (invoke os (w.newOvData ⟨id, .ovtTcpSend, buf⟩).1 id
      (.wsaSend socket buf)).1 j = _ :=
    view_invoke os (w.newOvData ⟨id, .ovtTcpSend, buf⟩).1 id j (.wsaSend socket buf)
  simp only [startTcpSend]
  split
  · rename_i accepted
    rw [accepted] at sent
    exact sent
  · rename_i refused
    rw [Bool.eq_false_iff.mpr refused] at sent
    exact (view_postClosed os _ socket _ _ (post _) j).trans sent

theorem view_startConnect (w : World) (socket : Socket) (pAddr : Address) (addrLen : Nat)
    (id : EndpointId) (connect : Hidden watch (.connectEx socket pAddr addrLen))
    (j : EndpointId) :
    view watch (startConnect os w socket pAddr addrLen id).1 j = view watch w j := by
  have started := view_invoke_hidden os (w.newOvData ⟨id, .ovtConnect, []⟩).1 id j connect
  simp only [startConnect]
  split
  · exact started
  · exact started

theorem view_deleteProxyConnection (w : World) (id : EndpointId)
    (closed : ∀ s, watch (.closed s) = none) (j : EndpointId) :
    view watch (w.deleteProxyConnection id) j = view watch w j := by
  unfold World.deleteProxyConnection
  split
  · rfl
  · rw [view_setEntry, view_record, view_record, shown_none (closed _), shown_none (closed _),
      List.append_nil, List.append_nil]

/-- A datagram adds the one call to the view, with the answer that is returned. -/
theorem view_sendDatagram_sent (w : World) (id : EndpointId) (pd : ProxyData) (buf : Bytes)
    (remoteAddress : Address) (receive : Hidden watch (.wsaRecvFrom pd.udpSocket))
    (post : ∀ pov, Hidden watch (.postCompletion pd.udpSocket pov)) (j : EndpointId) :
    view watch (sendDatagram os w id pd buf remoteAddress).1 j = view watch w j ++
      shown watch id j (.call (.wsaSendTo pd.udpSocket (encapsulate buf remoteAddress)
        pd.remoteAddress pd.remoteAddressLen) (sendDatagram os w id pd buf remoteAddress).2) := by
  have sent : view watch (invoke os
      (w.newOvData ⟨id, .ovtUdpSend, encapsulate buf remoteAddress⟩).1 id _).1 j = _ :=
    view_invoke os _ id j (.wsaSendTo pd.udpSocket (encapsulate buf remoteAddress)
      pd.remoteAddress pd.remoteAddressLen)
  simp only [sendDatagram]
  split
  · rename_i accepted
    rw [accepted] at sent
    split
    · exact (view_startUdpReceive os _ pd.udpSocket id receive post j).trans sent
    · exact sent
  · rename_i refused
    rw [Bool.eq_false_iff.mpr refused] at sent
    exact (view_postClosed os _ pd.udpSocket _ _ (post _) j).trans sent

theorem view_sendDatagram (w : World) (id : EndpointId) (pd : ProxyData) (buf : Bytes)
    (remoteAddress : Address) (receive : Hidden watch (.wsaRecvFrom pd.udpSocket))
    (post : ∀ pov, Hidden watch (.postCompletion pd.udpSocket pov)) (j : EndpointId) :
    ∃ accepted, view watch (sendDatagram os w id pd buf remoteAddress).1 j = view watch w j ++
      shown watch id j (.call (.wsaSendTo pd.udpSocket (encapsulate buf remoteAddress)
        pd.remoteAddress pd.remoteAddressLen) accepted) :=
  ⟨_, view_sendDatagram_sent os w id pd buf remoteAddress receive post j⟩

end View

section Datagrams
variable (os : Os) (w : World) (id : EndpointId)

/-- Only the connection's own entry is written, and only its `udpRecvStarted`. -/
theorem sendDatagram_socketMap {pd : ProxyData} (entry : w.socketMap id = some pd) (buf : Bytes)
    (remoteAddress : Address) :
    ∃ started, (sendDatagram os w id pd buf remoteAddress).1.socketMap =
      Function.update w.socketMap id (some { pd with udpRecvStarted := started }) := by
  have same : w.socketMap = Function.update w.socketMap id
      (some { pd with udpRecvStarted := pd.udpRecvStarted }) :=
    (Function.update_eq_self_iff.mpr entry.symm).symm
  simp only [sendDatagram]
  split
  · split
    · exact ⟨true, by simp⟩
    · exact ⟨pd.udpRecvStarted, same⟩
  · exact ⟨pd.udpRecvStarted, by simpa using same⟩

end Datagrams

section Growth
variable (os : Os) (config : Config)

/-- The log is only appended to. -/
def Grows (w w' : World) : Prop := w.log <+: w'.log

variable {w w₁ w₂ : World}

theorem Grows.refl (w : World) : Grows w w := List.prefix_refl _

theorem Grows.trans (first : Grows w w₁) (second : Grows w₁ w₂) : Grows w w₂ :=
  List.IsPrefix.trans first second

theorem Grows.congr (grows : Grows w₁ w₂) (same : w₁.log = w.log) : Grows w w₂ := by
  rw [Grows, ← same]
  exact grows

theorem grows_record (w : World) (id : EndpointId) (a : Action) : Grows w (w.record id a) :=
  List.prefix_append _ _

theorem grows_invoke (w : World) (id : EndpointId) (c : Call) : Grows w (invoke os w id c).1 :=
  grows_record w id _

theorem grows_postClosed (w : World) (socket : Socket) (pov : Pov) (ov : OvData) :
    Grows w (postClosed os w socket pov ov) := by
  have asked := grows_invoke os (w.setOv pov (some ov)) ov.id (.postCompletion socket pov)
  simp only [postClosed]
  split
  · exact asked
  · exact asked

theorem grows_startConnect (w : World) (socket : Socket) (pAddr : Address) (addrLen : Nat)
    (id : EndpointId) : Grows w (startConnect os w socket pAddr addrLen id).1 := by
  have asked := grows_invoke os (w.newOvData ⟨id, .ovtConnect, []⟩).1 id
    (.connectEx socket pAddr addrLen)
  simp only [startConnect]
  split
  · exact asked
  · exact asked

theorem grows_rearmUdpReceive (w : World) (socket : Socket) (id : EndpointId) (pov : Pov)
    (ov : OvData) : Grows w (rearmUdpReceive os w socket id pov ov) := by
  have asked := grows_invoke os w id (.wsaRecvFrom socket)
  simp only [rearmUdpReceive]
  split
  · exact asked
  · exact asked.trans (grows_postClosed os _ socket pov ov)

theorem grows_rearmTcpReceive (w : World) (socket : Socket) (id : EndpointId) (pov : Pov)
    (ov : OvData) : Grows w (rearmTcpReceive os w socket id pov ov) := by
  have asked := grows_invoke os w id (.wsaRecv socket)
  simp only [rearmTcpReceive]
  split
  · exact asked
  · exact asked.trans (grows_postClosed os _ socket pov ov)

theorem grows_startUdpReceive (w : World) (socket : Socket) (id : EndpointId) :
    Grows w (startUdpReceive os w socket id) :=
  grows_rearmUdpReceive os (w.newOvData _).1 socket id _ _

theorem grows_startTcpReceive (w : World) (socket : Socket) (id : EndpointId) :
    Grows w (startTcpReceive os w socket id) :=
  grows_rearmTcpReceive os (w.newOvData _).1 socket id _ _

theorem grows_startTcpSend (w : World) (socket : Socket) (buf : Bytes) (id : EndpointId) :
    Grows w (startTcpSend os w socket buf id).1 := by
  have asked := grows_invoke os (w.newOvData ⟨id, .ovtTcpSend, buf⟩).1 id (.wsaSend socket buf)
  simp only [startTcpSend]
  split
  · exact asked
  · exact Grows.trans asked (grows_postClosed os _ socket _ _)

theorem grows_deleteProxyConnection (w : World) (id : EndpointId) :
    Grows w (w.deleteProxyConnection id) := by
  unfold World.deleteProxyConnection
  split
  · exact .refl w
  · exact (grows_record w id _).trans (grows_record _ id _)

theorem grows_sendDatagram (w : World) (id : EndpointId) (pd : ProxyData) (buf : Bytes)
    (remoteAddress : Address) : Grows w (sendDatagram os w id pd buf remoteAddress).1 := by
  have asked := grows_invoke os (w.newOvData ⟨id, .ovtUdpSend, encapsulate buf remoteAddress⟩).1 id
    (.wsaSendTo pd.udpSocket (encapsulate buf remoteAddress) pd.remoteAddress pd.remoteAddressLen)
  simp only [sendDatagram]
  split
  · split
    · exact Grows.trans asked ((grows_startUdpReceive os _ pd.udpSocket id).congr rfl)
    · exact asked
  · exact Grows.trans asked (grows_postClosed os _ pd.udpSocket _ _)

theorem grows_udpSend (w : World) (id : EndpointId) (buf : Bytes) (remoteAddress : Address)
    (remoteAddressLen : Nat) : Grows w (udpSend os w id buf remoteAddress remoteAddressLen).1 := by
  unfold udpSend
  split
  · exact .refl w
  · rename_i pd _
    split
    · exact .refl w
    · exact grows_sendDatagram os w id pd buf remoteAddress

theorem grows_flushPackets (w : World) (id : EndpointId) (fuel : Nat) :
    Grows w (flushPackets os w id fuel) := by
  induction fuel generalizing w with
  | zero => exact .refl w
  | succ fuel ih =>
    rw [flushPackets]
    split
    · exact .refl w
    · split
      · exact .refl w
      · rename_i p _ _
        have sent := grows_udpSend os w id p.buffer p.remoteAddress p.remoteAddressLen
        refine Grows.trans sent (Grows.trans ?_ (ih _))
        unfold erasePacket
        split <;> exact .refl _

theorem grows_answer (w : World) (id : EndpointId) (pd : ProxyData)
    (reply : Option (Bytes × ProxyState)) : Grows w (answer os w id pd reply) := by
  cases reply with
  | none => exact .refl w
  | some reply =>
    have sent := grows_startTcpSend os w pd.tcpSocket reply.1 id
    simp only [answer]
    split
    · exact sent
    · exact sent

theorem grows_onControlData (w : World) (id : EndpointId) (buffer : Bytes) (dwTransferred : Nat) :
    Grows w (onControlData os config w id buffer dwTransferred) := by
  unfold onControlData
  split
  · exact .refl w
  · split
    · exact .refl w
    · exact grows_answer os w id _ _
    · exact grows_answer os w id _ _
    · cases udpAssocReply config buffer dwTransferred with
      | none => exact .refl w
      | some addr => exact grows_flushPackets os (w.setEntry id _) id _
    · exact .refl w
    · exact .refl w

theorem grows_onComplete (w : World) (socket : Socket) (dwTransferred : Nat) (pov : Pov)
    (ov : OvData) (error : Nat) :
    Grows w (onComplete os config w socket dwTransferred pov ov error) := by
  unfold onComplete
  cases ov.type with
  | ovtTcpSend | ovtUdpSend => exact .refl w
  | ovtConnect =>
    simp only [onConnectComplete]
    split
    · exact grows_deleteProxyConnection w ov.id
    · split
      · exact .refl w
      · exact Grows.trans (grows_answer os w ov.id _ _) (grows_startTcpReceive os _ _ ov.id)
  | ovtTcpReceive =>
    simp only [onTcpReceiveComplete]
    split
    · exact .refl w
    · exact (grows_onControlData os config w ov.id ov.buffer dwTransferred).trans
        (grows_rearmTcpReceive os _ socket ov.id pov ov)
  | ovtUdpReceive =>
    simp only [onUdpReceiveComplete]
    split
    · exact .refl w
    · refine Grows.trans ?_ (grows_rearmUdpReceive os _ socket ov.id pov ov)
      cases relayedDatagram ov.buffer dwTransferred with
      | none => exact .refl w
      | some d => exact grows_record w ov.id _

theorem grows_complete (w : World) (op : Operation) (data : Bytes) (error : Nat) :
    Grows w (complete os config w op data error) := by
  unfold complete
  split
  · unfold dispatch
    split
    · exact .refl w
    · rename_i ov _
      simp only
      split
      · exact grows_onComplete os config (w.removePending op) op.socket 0 op.pov ov 0
      · split
        · exact Grows.trans (grows_record ((w.removePending op).setOv op.pov _) ov.id _)
            (grows_onComplete os config _ op.socket _ op.pov _ error)
        · exact grows_onComplete os config (w.removePending op) op.socket _ op.pov ov error
  · exact .refl w

end Growth

end UdpHistory
