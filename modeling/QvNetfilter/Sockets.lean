import QvNetfilter.UdpHistory

/-!
# The sockets of the connections

An entry of `m_socketMap` keeps its two sockets as long as it exists. No handler
puts an entry in or gives one other sockets; the only completion that takes one
away is the failure of its connect.
-/

namespace Sockets

open Memory Socks Mealy UdpProxy UdpHistory

section Handlers
variable (os : Os) (config : Config)

/-- The sockets of the entries. -/
def sockets (w : World) (id : EndpointId) : Option (Socket × Socket) :=
  (w.socketMap id).map fun pd => (pd.tcpSocket, pd.udpSocket)

theorem sockets_congr {w w' : World} (same : w'.socketMap = w.socketMap) :
    sockets w' = sockets w := by
  funext id
  rw [sockets, sockets, same]

theorem sockets_setEntry {w : World} {id : EndpointId} {pd pd' : ProxyData}
    (entry : w.socketMap id = some pd) (tcp : pd'.tcpSocket = pd.tcpSocket)
    (udp : pd'.udpSocket = pd.udpSocket) : sockets (w.setEntry id (some pd')) = sockets w := by
  funext j
  by_cases own : j = id
  · subst own
    simp [sockets, entry, tcp, udp]
  · simp [sockets, Function.update_of_ne own]

theorem sockets_udpSend (w : World) (id : EndpointId) (buf : Bytes) (remoteAddress : Address)
    (remoteAddressLen : Nat) :
    sockets (udpSend os w id buf remoteAddress remoteAddressLen).1 = sockets w := by
  simp only [udpSend]
  split
  · rfl
  · rename_i pd entry
    split
    · apply sockets_setEntry entry <;> unfold enqueue <;> split <;> rfl
    · obtain ⟨started, hmap⟩ := sendDatagram_socketMap os w id entry buf remoteAddress
      have same : sockets (w.setEntry id (some { pd with udpRecvStarted := started })) =
          sockets w := sockets_setEntry entry rfl rfl
      rw [← same]
      exact sockets_congr hmap

theorem sockets_erasePacket (w : World) (id : EndpointId) :
    sockets (erasePacket w id) = sockets w := by
  simp only [erasePacket]
  split
  · rfl
  · rename_i pd entry
    exact sockets_setEntry entry rfl rfl

theorem sockets_flushPackets (id : EndpointId) (fuel : Nat) (w : World) :
    sockets (flushPackets os w id fuel) = sockets w := by
  induction fuel generalizing w with
  | zero => rfl
  | succ fuel ih =>
    rw [flushPackets]
    split
    · rfl
    · split
      · rfl
      · rw [ih, sockets_erasePacket, sockets_udpSend]

theorem sockets_answer {w : World} {id : EndpointId} {pd : ProxyData}
    (entry : w.socketMap id = some pd) (reply : Option (Bytes × ProxyState)) :
    sockets (answer os w id pd reply) = sockets w := by
  cases reply with
  | none => rfl
  | some reply =>
    have same := startTcpSend_socketMap os w id pd.tcpSocket reply.1
    simp only [answer]
    split
    · have entry' : (startTcpSend os w pd.tcpSocket reply.1 id).1.socketMap id = some pd := by
        rw [same]
        exact entry
      refine Eq.trans ?_ (sockets_congr same)
      exact sockets_setEntry entry' rfl rfl
    · exact sockets_congr same

/-- The switch over the state leaves every connection its sockets. -/
theorem sockets_onControlData (w : World) (id : EndpointId) (buffer : Bytes)
    (dwTransferred : Nat) :
    sockets (onControlData os config w id buffer dwTransferred) = sockets w := by
  simp only [onControlData]
  split
  · rfl
  · rename_i pd entry
    split
    · rfl
    · exact sockets_answer os entry _
    · exact sockets_answer os entry _
    · cases udpAssocReply config buffer dwTransferred with
      | none => rfl
      | some addr =>
        simp only [connected]
        rw [sockets_flushPackets]
        exact sockets_setEntry entry rfl rfl
    · rfl
    · rfl

end Handlers

section Connections
variable {os : Os} {config : Config}

theorem sockets_deleteProxyConnection (w : World) {id j : EndpointId} (other : j ≠ id) :
    sockets (w.deleteProxyConnection id) j = sockets w j := by
  rw [sockets, deleteProxyConnection_socketMap, Function.update_of_ne other]
  rfl

theorem registerAndConnect_socketMap (os : Os) (config : Config) (w : World) (id : EndpointId)
    (tcpSocket udpSocket : Socket) :
    (registerAndConnect os config w id tcpSocket udpSocket).1.socketMap = w.socketMap := by
  simp only [registerAndConnect]
  split
  · rfl
  · split
    · rfl
    · simp

theorem sockets_createProxyConnection (w : World) {id j : EndpointId} (other : j ≠ id) :
    sockets (createProxyConnection os config w id).1 j = sockets w j := by
  unfold createProxyConnection
  split
  · rfl
  · rename_i tcpSocket _
    simp only
    split
    · rfl
    · rename_i udpSocket _
      let entry := some (ProxyData.new config tcpSocket udpSocket)
      have stored : (((((w.record id (.opened .stream (some tcpSocket))).record id
          (.opened .dgram (some udpSocket))).setEntry id entry).record id .created).socketMap) j =
          w.socketMap j := Function.update_of_ne other _ _
      split
      · rw [sockets, registerAndConnect_socketMap, stored]
        rfl
      · rw [sockets_deleteProxyConnection _ other, sockets, registerAndConnect_socketMap, stored]
        rfl

end Connections

section Completions
variable (os : Os) (config : Config)

/-- The completion tells that the connect of the endpoint has failed. -/
structure ConnectFailed (w : World) (op : Operation) (error : Nat) (j : EndpointId) : Prop where
  pending : op ∈ w.pending
  direct : op.queued = false
  failed : error ≠ 0
  ovData : ∃ ov, w.ovData op.pov = some ov ∧ ov.type = .ovtConnect ∧ ov.id = j

theorem sockets_startTcpReceive (w : World) (socket : Socket) (id : EndpointId) :
    sockets (startTcpReceive os w socket id) = sockets w :=
  sockets_congr (startTcpReceive_socketMap os w id socket)

theorem sockets_rearmTcpReceive (w : World) (socket : Socket) (id : EndpointId) (pov : Pov)
    (ov : OvData) : sockets (rearmTcpReceive os w socket id pov ov) = sockets w :=
  sockets_congr (rearmTcpReceive_socketMap os w id socket pov ov)

theorem sockets_rearmUdpReceive (w : World) (socket : Socket) (id : EndpointId) (pov : Pov)
    (ov : OvData) : sockets (rearmUdpReceive os w socket id pov ov) = sockets w :=
  sockets_congr (rearmUdpReceive_socketMap os w id socket pov ov)

theorem sockets_onConnectComplete (w : World) (pov : Pov) (ov : OvData) :
    sockets (onConnectComplete os w pov ov 0) = sockets w := by
  simp only [onConnectComplete, if_neg (not_not_intro rfl)]
  split
  · rfl
  · rename_i pd entry
    exact (sockets_startTcpReceive os _ _ _).trans (sockets_answer os entry _)

theorem sockets_onComplete (w : World) (socket : Socket) (dwTransferred : Nat) (pov : Pov)
    (ov : OvData) (error : Nat) (j : EndpointId) :
    sockets (onComplete os config w socket dwTransferred pov ov error) j = sockets w j ∨
      (ov.type = .ovtConnect ∧ error ≠ 0 ∧ ov.id = j ∧
        sockets (onComplete os config w socket dwTransferred pov ov error) j = none) := by
  simp only [onComplete]
  cases type : ov.type with
  | ovtTcpSend | ovtUdpSend => exact Or.inl rfl
  | ovtConnect =>
    by_cases failed : error = 0
    · subst failed
      exact Or.inl (congrFun (sockets_onConnectComplete os w pov ov) j)
    · have removed : onConnectComplete os w pov ov error =
          (w.deleteProxyConnection ov.id).deleteOvData pov := if_pos failed
      simp only [removed]
      by_cases own : ov.id = j
      · subst own
        refine Or.inr ⟨trivial, failed, rfl, ?_⟩
        have gone : (w.deleteProxyConnection ov.id).socketMap ov.id = none := by simp
        have gone' : ((w.deleteProxyConnection ov.id).deleteOvData pov).socketMap ov.id = none :=
          gone
        rw [sockets, gone', Option.map_none]
      · exact Or.inl (sockets_deleteProxyConnection w (Ne.symm own))
  | ovtUdpReceive =>
    simp only [onUdpReceiveComplete]
    split
    · exact Or.inl rfl
    · refine Or.inl ((congrFun (sockets_rearmUdpReceive os _ _ _ _ _) j).trans ?_)
      cases relayedDatagram ov.buffer dwTransferred <;> rfl
  | ovtTcpReceive =>
    simp only [onTcpReceiveComplete]
    split
    · exact Or.inl rfl
    · have switched := sockets_onControlData os config w ov.id ov.buffer dwTransferred
      exact Or.inl (congrFun ((sockets_rearmTcpReceive os _ _ _ _ _).trans switched) j)

/-- A completion takes a connection away only if its connect has failed. -/
theorem sockets_complete (w : World) (op : Operation) (data : Bytes) (error : Nat)
    (j : EndpointId) :
    sockets (complete os config w op data error) j = sockets w j ∨
      (ConnectFailed w op error j ∧ sockets (complete os config w op data error) j = none) := by
  simp only [complete]
  split
  · rename_i pending
    simp only [dispatch]
    have same : (w.removePending op).ovData op.pov = w.ovData op.pov := rfl
    rw [same]
    cases hov : w.ovData op.pov with
    | none => exact Or.inl rfl
    | some ov =>
      simp only
      split
      · rcases sockets_onComplete os config (w.removePending op) op.socket 0
          op.pov ov 0 j with kept | ⟨_, failed, _⟩
        · exact Or.inl kept
        · exact absurd rfl failed
      · rename_i direct
        split
        · rename_i receives
          rcases sockets_onComplete os config _ op.socket _ op.pov
            { ov with buffer := overwrite ov.buffer (data.take ov.buffer.length) } error j with
            kept | ⟨connect, _⟩
          · exact Or.inl kept
          · have type : ov.type = .ovtConnect := connect
            rw [type] at receives
            exact absurd receives (by decide)
        · rcases sockets_onComplete os config (w.removePending op) op.socket
            data.length op.pov ov error j with kept | ⟨connect, failed, own, gone⟩
          · exact Or.inl kept
          · exact Or.inr ⟨⟨pending, Bool.eq_false_iff.mpr direct, failed, ov, hov, connect, own⟩,
              gone⟩
  · exact Or.inl rfl

end Completions

end Sockets
