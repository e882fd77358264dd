import QvNetfilter.Links

/-!
# A step at one endpoint

Each handler of the proxy makes one of the moves of `LinkStep` at the endpoint
that it works for, so every step of the proxy is one such move at every endpoint.
-/

namespace LinkSteps

open Memory Socks Mealy UdpProxy UdpHistory Ownership Endpoints ControlChannel ControlReceive Links

section Connections
variable (os : Os) (config : Config) {w : World} {held : List Pov} {id : EndpointId}

theorem link_deleteProxyConnection (w : World) (id : EndpointId) :
    link (w.deleteProxyConnection id) id = (link w id).setEntry none := by
  simp only [World.deleteProxyConnection]
  split
  · rename_i absent
    have gone : (link w id).entry = none := absent
    simp only [Link.setEntry, ← gone]
  · rw [link_setEntry, link_record_hidden id rfl, link_record_hidden id rfl]

theorem link_registerAndConnect (owned : Owned w held) (id : EndpointId)
    (tcpSocket udpSocket : Socket) :
    (registerAndConnect os config w id tcpSocket udpSocket).2 = true ∧
        (∃ op, Starts id tcpSocket op ∧
          link (registerAndConnect os config w id tcpSocket udpSocket).1 id =
            (link w id).arm .ovtConnect op) ∨
      (registerAndConnect os config w id tcpSocket udpSocket).2 = false ∧
        link (registerAndConnect os config w id tcpSocket udpSocket).1 id = link w id := by
  have first := link_invoke_hidden os w id (c := .registerSocket tcpSocket) (fun _ => rfl)
  have second := (link_invoke_hidden os (invoke os w id (.registerSocket tcpSocket)).1 id
    (c := .registerSocket udpSocket) (fun _ => rfl)).trans first
  have owned' := (owned.invoke os id (.registerSocket tcpSocket)).invoke os id
    (.registerSocket udpSocket)
  simp only [registerAndConnect]
  split
  · exact Or.inr ⟨rfl, first⟩
  · split
    · exact Or.inr ⟨rfl, second⟩
    · rw [← second]
      exact link_startConnect os owned' tcpSocket _ _ id

theorem linkStep_createProxyConnection (owned : Owned w held) (id : EndpointId) :
    LinkStep config id (link w id) (.createProxyConnection id)
      (link (createProxyConnection os config w id).1 id) := by
  unfold createProxyConnection
  split
  · rw [link_record_hidden id rfl]
    exact .notOpened
  · rename_i tcpSocket _
    have opened := link_record_hidden (w := w) id (a := .opened .stream (some tcpSocket)) rfl
    have owned' := owned.record id (.opened .stream (some tcpSocket))
    simp only
    split
    · rw [link_record_hidden id rfl, link_record_hidden id rfl, opened]
      exact .notOpened
    · rename_i udpSocket _
      let entry := some (ProxyData.new config tcpSocket udpSocket)
      have stored := ((owned'.record id (.opened .dgram (some udpSocket))).setEntry id
        entry).record id .created
      have hstored : link ((((w.record id (.opened .stream (some tcpSocket))).record id
          (.opened .dgram (some udpSocket))).setEntry id entry).record id .created) id =
          ((link w id).note .created).setEntry entry := by
        rw [link_record id rfl, link_setEntry, link_record_hidden id rfl, opened]
        rfl
      obtain ⟨result, op, starts, armed⟩ | ⟨result, same⟩ :=
        link_registerAndConnect os config stored id tcpSocket udpSocket
      · rw [if_pos result, armed, hstored]
        exact .created tcpSocket udpSocket op starts
      · rw [if_neg (Bool.eq_false_iff.mp result), link_deleteProxyConnection, same, hstored]
        exact .notConnected

end Connections

section Replies
variable (os : Os) (config : Config) {w : World} {held : List Pov} {id : EndpointId}
  {pd : ProxyData}

theorem link_answer (owned : Owned w held) (entry : w.socketMap id = some pd) (message : Bytes)
    (next : ProxyState) :
    ∃ accepted, link (answer os w id pd (some (message, next))) id =
      (link w id).answer pd message next accepted := by
  have sent := link_startTcpSend os owned pd.tcpSocket message id
  have entry' : (link w id).entry = some pd := entry
  refine ⟨(startTcpSend os w pd.tcpSocket message id).2, ?_⟩
  simp only [answer]
  split
  · rename_i accepted
    rw [link_setEntry, sent, accepted]
    rfl
  · rename_i refused
    rw [sent, Bool.eq_false_iff.mpr refused]
    simp only [Link.note, Link.answer, entry']
    rfl

/-- A handler's switch over the state of the connection. -/
theorem switch_onControlData (owned : Owned w held) (id : EndpointId) (buffer reply : Bytes) :
    Switch config id reply (link w id)
      (link (onControlData os config w id (overwrite buffer reply) reply.length) id) := by
  simp only [onControlData]
  split
  · exact .silent
  · rename_i pd entry
    -- what holds when the state's function gives the answer
    have answering : ∀ result, controlAnswer (core pd) reply = result →
        Switch config id reply (link w id) (link (answer os w id pd result) id) := by
      intro result hresult
      cases result with
      | none => exact .silent
      | some result =>
        obtain ⟨accepted, moved⟩ := link_answer os owned entry result.1 result.2
        rw [moved]
        exact .answered entry hresult accepted
    split
    · exact .silent
    · rename_i state
      apply answering
      simp only [controlAnswer, core, state, authReply_overwrite]
    · rename_i state
      apply answering
      simp only [controlAnswer, core, state, authNegotiationReply_overwrite]
    · rename_i state
      cases address : udpAssocReply config (overwrite buffer reply) reply.length with
      | none => exact .silent
      | some addr =>
        have flushed := flushed_flushPackets os (owned.setEntry id (some { pd with
          remoteAddress := pd.remoteAddress.write addr
          remoteAddressLen := addr.length
          proxyState := .psConnected })) (Function.update_self ..) rfl
        rw [link_setEntry] at flushed
        exact .connected entry state address flushed
    · exact .silent
    · exact .silent

theorem keeps_answer {pov : Pov} (w : World) (id : EndpointId) (pd : ProxyData)
    (reply : Option (Bytes × ProxyState)) : Keeps pov w (answer os w id pd reply) := by
  cases reply with
  | none => exact Keeps.refl w
  | some reply =>
    have sent : Keeps pov w _ := keeps_startTcpSend os w pd.tcpSocket reply.1 id
    simp only [answer]
    split
    · exact sent
    · exact sent

theorem keeps_onControlData {pov : Pov} (w : World) (id : EndpointId) (buffer : Bytes)
    (dwTransferred : Nat) : Keeps pov w (onControlData os config w id buffer dwTransferred) := by
  simp only [onControlData]
  split
  · exact Keeps.refl w
  · rename_i pd entry
    split
    · exact Keeps.refl w
    · exact keeps_answer os w id pd _
    · exact keeps_answer os w id pd _
    · cases udpAssocReply config buffer dwTransferred with
      | none => exact Keeps.refl w
      | some addr => exact keeps_flushPackets os (w.setEntry id _) id _
    · exact Keeps.refl w
    · exact Keeps.refl w

end Replies

section Handlers
variable (os : Os) (config : Config) {w : World} {pov : Pov}

theorem link_onTcpReceiveComplete (owned : Owned w [pov]) (buffer : Bytes) {reply : Bytes}
    (hov : w.ovData pov = some ⟨pov.1, .ovtTcpReceive, overwrite buffer reply⟩)
    (nonempty : reply ≠ []) (socket : Socket) :
    ∃ l' accepted, Switch config pov.1 reply (link w pov.1) l' ∧
      link (onTcpReceiveComplete os config w socket reply.length pov
        ⟨pov.1, .ovtTcpReceive, overwrite buffer reply⟩) pov.1 =
          l'.receive ⟨pov, socket, false⟩ accepted := by
  have hlen : reply.length ≠ 0 := fun h => nonempty (List.length_eq_zero_iff.mp h)
  have switch := switch_onControlData os config owned pov.1 buffer reply
  have owned' := owned_onControlData os config owned pov.1 (overwrite buffer reply) reply.length
  have present : w.ovData pov ≠ none := by rw [hov]; exact Option.some_ne_none _
  have keeps : Keeps pov w (onControlData os config w pov.1 (overwrite buffer reply)
    reply.length) := keeps_onControlData os config w pov.1 (overwrite buffer reply) reply.length
  obtain ⟨_, kept⟩ := keeps (owned.allocated pov present)
  obtain ⟨accepted, armed⟩ := link_rearmTcpReceive os
    ⟨pov.1, .ovtTcpReceive, overwrite buffer reply⟩ owned' rfl (kept.trans hov) rfl socket
  refine ⟨_, accepted, switch, ?_⟩
  rw [← armed]
  simp only [onTcpReceiveComplete, if_neg hlen]

theorem link_onUdpReceiveComplete (owned : Owned w [pov]) (buffer : Bytes)
    (hov : w.ovData pov = some ⟨pov.1, .ovtUdpReceive, buffer⟩) {dwTransferred : Nat}
    (nonzero : dwTransferred ≠ 0) (socket : Socket) :
    ∃ accepted, link (onUdpReceiveComplete os w socket dwTransferred pov
        ⟨pov.1, .ovtUdpReceive, buffer⟩) pov.1 =
      (link w pov.1).receiveFrom ⟨pov, socket, false⟩ accepted := by
  simp only [onUdpReceiveComplete, if_neg nonzero]
  cases relayedDatagram buffer dwTransferred with
  | none =>
    exact link_rearmUdpReceive os ⟨pov.1, .ovtUdpReceive, buffer⟩ owned rfl hov rfl socket
  | some d =>
    have delivered := link_record_hidden (w := w) pov.1 (a := .onUdpReceiveComplete d) rfl
    rw [← delivered]
    exact link_rearmUdpReceive os ⟨pov.1, .ovtUdpReceive, buffer⟩
      (owned.record pov.1 (.onUdpReceiveComplete d)) rfl hov rfl socket

/-- The completion of a connect, on a link from which it has been taken. -/
theorem linkStep_onConnectComplete {l : Link} {op : Operation} (owned : Owned w [op.pov])
    (armed : op ∈ l.connects) (taken : link w op.pov.1 = l.disarm op) (buffer data : Bytes)
    (error : Nat) :
    LinkStep config op.pov.1 l (.complete op data error)
      (link (onConnectComplete os w op.pov ⟨op.pov.1, .ovtConnect, buffer⟩ error) op.pov.1) := by
  simp only [onConnectComplete]
  by_cases failed : error ≠ 0
  · have owned' := owned_deleteProxyConnection owned op.pov.1
    rw [if_pos failed, link_deleteOvData owned', link_deleteProxyConnection, taken]
    exact .connectFailed armed failed
  · rw [if_neg failed]
    obtain rfl := not_not.mp failed
    split
    · rename_i absent
      have gone : (link w op.pov.1).entry = none := absent
      rw [link_deleteOvData owned, taken]
      rw [taken] at gone
      exact .connectIgnored armed gone
    · rename_i pd entry
      have found : (link w op.pov.1).entry = some pd := entry
      rw [taken] at found
      obtain ⟨sent, moved⟩ := link_answer os owned entry
        (socks5AuthRequest (offeredMethod pd.userName)) .psAuth
      have owned' := owned_answer os owned op.pov.1 pd
        (some (socks5AuthRequest (offeredMethod pd.userName), .psAuth))
      obtain ⟨accepted, op', starts, started⟩ := link_startTcpReceive os owned' pd.tcpSocket op.pov.1
      rw [moved, taken] at started
      have owned'' := owned_startTcpReceive os owned' pd.tcpSocket op.pov.1
      rw [link_deleteOvData owned'', started]
      exact .greeted armed found sent accepted op' starts

theorem link_disarm_of_not_mem {l : Link} {op : Operation} (connects : op ∉ l.connects)
    (controls : op ∉ l.controls) (relays : op ∉ l.relays) : l.disarm op = l := by
  simp only [Link.disarm, List.erase_of_not_mem connects, List.erase_of_not_mem controls,
    List.erase_of_not_mem relays]

theorem mem_armed {w : World} {id : EndpointId} {type : OvType} {op : Operation} :
    op ∈ armed w id type ↔ op ∈ w.pending ∧ op.pov.1 = id ∧ op.queued = false ∧
      (w.ovData op.pov).map OvData.type = some type := by
  simp [armed]

theorem own_of_armed {id : EndpointId} {type : OvType} {op : Operation}
    (mem : op ∈ armed w id type) : op.pov.1 = id :=
  (mem_armed.mp mem).2.1

/-- What has no armed operation behind it is freed. -/
theorem linkStep_unarmed {w : World} {op : Operation}
    (owned : Owned (w.removePending op) [op.pov]) (data : Bytes) (error : Nat)
    (unarmed : ∀ type, type = .ovtConnect ∨ type = .ovtTcpReceive ∨ type = .ovtUdpReceive →
      op ∉ armed w op.pov.1 type) :
    LinkStep config op.pov.1 (link w op.pov.1) (.complete op data error)
      (link ((w.removePending op).deleteOvData op.pov) op.pov.1) := by
  have connects := unarmed .ovtConnect (Or.inl rfl)
  have controls := unarmed .ovtTcpReceive (Or.inr (Or.inl rfl))
  have relays := unarmed .ovtUdpReceive (Or.inr (Or.inr rfl))
  rw [link_deleteOvData owned, link_removePending,
    link_disarm_of_not_mem (l := link w op.pov.1) connects controls relays]
  exact .unarmed connects controls relays

theorem linkStep_dispatch {w : World} (owned : Owned w []) {op : Operation}
    (pending : op ∈ w.pending) (data : Bytes) (error : Nat) :
    LinkStep config op.pov.1 (link w op.pov.1) (.complete op data error)
      (link (dispatch os config (w.removePending op) op data error) op.pov.1) := by
  have held := owned.removePending pending
  have taken : link (w.removePending op) op.pov.1 = _ := link_removePending op
  have live := (owned.live op.pov).mpr (List.mem_map_of_mem pending)
  simp only [dispatch]
  split
  · exact absurd ‹_› live
  · rename_i ov hov
    have named := owned.named op.pov ov hov
    have typed : (w.ovData op.pov).map OvData.type = some ov.type := congrArg _ hov
    obtain ⟨id, type, buffer⟩ := ov
    obtain rfl : id = op.pov.1 := named
    split
    · rename_i queued
      have receives := owned.posted op pending queued _ hov
      have freed := linkStep_unarmed config held data error (by
        intro type _ hop
        simp [mem_armed, queued] at hop)
      cases type with
      | ovtConnect => exact absurd receives Bool.false_ne_true
      | ovtTcpSend => exact absurd receives Bool.false_ne_true
      | ovtUdpSend => exact absurd receives Bool.false_ne_true
      | ovtTcpReceive => exact freed
      | ovtUdpReceive => exact freed
    · rename_i direct
      have direct' : op.queued = false := Bool.eq_false_iff.mpr direct
      have hop : (⟨op.pov, op.socket, false⟩ : Operation) = op := by rw [← direct']
      have hmem : op ∈ armed w op.pov.1 type := mem_armed.mpr ⟨pending, rfl, direct', typed⟩
      cases type with
      | ovtConnect =>
        exact linkStep_onConnectComplete os config held hmem taken buffer data error
      | ovtTcpSend =>
        refine linkStep_unarmed config held data error ?_
        intro type htype hop
        rw [mem_armed, typed] at hop
        rcases htype with rfl | rfl | rfl <;> simp at hop
      | ovtUdpSend =>
        refine linkStep_unarmed config held data error ?_
        intro type htype hop
        rw [mem_armed, typed] at hop
        rcases htype with rfl | rfl | rfl <;> simp at hop
      | ovtTcpReceive =>
        let reply := data.take buffer.length
        let written : OvData := ⟨op.pov.1, .ovtTcpReceive, overwrite buffer reply⟩
        have stored : Owned ((w.removePending op).setOv op.pov (some written)) [op.pov] :=
          held.setOv List.mem_cons_self rfl
        have received := stored.record op.pov.1 (.received .ovtTcpReceive reply)
        have hlink : link (((w.removePending op).setOv op.pov (some written)).record op.pov.1
            (.received .ovtTcpReceive reply)) op.pov.1 =
            ((link w op.pov.1).disarm op).note (.received .ovtTcpReceive reply) := by
          rw [link_record op.pov.1 rfl, link_setOv held List.mem_cons_self, taken]
        by_cases empty : reply = []
        · have ended : LinkStep config op.pov.1 (link w op.pov.1) (.complete op data error) _ :=
            .controlEnded hmem
          rw [← empty, ← hlink, ← link_deleteOvData received] at ended
          simpa [OvType.receives, onComplete, onTcpReceiveComplete, written, reply, empty] using ended
        · obtain ⟨l', accepted, switch, rearmed⟩ := link_onTcpReceiveComplete os config received
            buffer (Function.update_self ..) empty op.socket
          rw [hlink] at switch
          rw [hop] at rearmed
          have again : LinkStep config op.pov.1 (link w op.pov.1) (.complete op data error) _ :=
            .controlData hmem empty switch accepted
          rw [← rearmed] at again
          exact again
      | ovtUdpReceive =>
        let reply := data.take buffer.length
        let written : OvData := ⟨op.pov.1, .ovtUdpReceive, overwrite buffer reply⟩
        have stored : Owned ((w.removePending op).setOv op.pov (some written)) [op.pov] :=
          held.setOv List.mem_cons_self rfl
        have received := stored.record op.pov.1 (.received .ovtUdpReceive reply)
        have hlink : link (((w.removePending op).setOv op.pov (some written)).record op.pov.1
            (.received .ovtUdpReceive reply)) op.pov.1 =
            ((link w op.pov.1).disarm op).note (.received .ovtUdpReceive reply) := by
          rw [link_record op.pov.1 rfl, link_setOv held List.mem_cons_self, taken]
        by_cases empty : reply = []
        · have ended : LinkStep config op.pov.1 (link w op.pov.1) (.complete op data error) _ :=
            .relayEnded hmem
          rw [← empty, ← hlink, ← link_deleteOvData received] at ended
          simpa [OvType.receives, onComplete, onUdpReceiveComplete, written, reply, empty] using ended
        · have hlen : reply.length ≠ 0 := fun h => empty (List.length_eq_zero_iff.mp h)
          obtain ⟨accepted, rearmed⟩ := link_onUdpReceiveComplete os received
            (overwrite buffer reply) (Function.update_self ..) hlen op.socket
          rw [hlink, hop] at rearmed
          have again : LinkStep config op.pov.1 (link w op.pov.1) (.complete op data error) _ :=
            .relayData hmem empty accepted
          rw [← rearmed] at again
          exact again

end Handlers

section Step
variable (os : Os) (config : Config) {w : World} {held : List Pov} {id j : EndpointId}

theorem linkStep_udpSend (owned : Owned w held) (buf : Bytes) (addr : Address) (len : Nat) :
    LinkStep config id (link w id) (.udpSend id buf addr len)
      (link (udpSend os w id buf addr len).1 id) := by
  simp only [udpSend]
  split
  · exact .unknown ‹_›
  · rename_i pd entry
    split
    · rename_i waiting
      rw [link_setEntry]
      exact .queued entry waiting
    · rename_i established
      exact .attempted entry (not_not.mp established)
        (attempt_sendDatagram os owned id pd buf addr)

/-- Nothing of a link changes where its endpoint is left alone. -/
theorem link_untouched {w' : World} (same : Untouched j w w') : link w' j = link w j := by
  have works : ∀ type, armed w' j type = armed w j type := by
    intro type
    have split : ∀ v : World, armed v j type = (workOf j v.pending).filter fun op =>
        op.queued = false ∧ (v.ovData (j, op.pov.2)).map OvData.type = some type := by
      intro v
      simp only [armed, workOf, List.filter_filter]
      apply List.filter_congr
      intro op _
      by_cases own : op.pov.1 = j
      · subst own
        simp
      · simp [own]
    rw [split, split, same.work]
    simp only [same.ovData]
  simp only [link, works, same.entry, notes, view, same.history]

/-- Every step of the proxy is one move at every endpoint. -/
theorem link_step (owned : Owned w []) (e : Event) (id : EndpointId) :
    LinkStep config id (link w id) e (link (step os config w e) id) := by
  by_cases own : endpoint e = id
  · subst own
    cases e with
    | createProxyConnection id => exact linkStep_createProxyConnection os config owned id
    | deleteProxyConnection id =>
      have gone : link (step os config w (.deleteProxyConnection id)) id = _ :=
        link_deleteProxyConnection w id
      simp only [endpoint, gone]
      exact .deleted
    | udpSend id buf addr len => exact linkStep_udpSend os config owned buf addr len
    | complete op data error =>
      simp only [step, complete, endpoint]
      split
      · exact linkStep_dispatch os config owned ‹_› data error
      · rename_i missing
        have unarmed : ∀ type, op ∉ armed w op.pov.1 type :=
          fun type hop => missing (mem_armed.mp hop).1
        exact .unarmed (unarmed _) (unarmed _) (unarmed _)
  · rw [link_untouched (untouched_step os config owned own)]
    exact .elsewhere own

/-- The endpoints that a step is not for keep their links. -/
theorem link_elsewhere (owned : Owned w []) {e : Event} (other : endpoint e ≠ j) :
    link (step os config w e) j = link w j :=
  link_untouched (untouched_step os config owned other)

/-- The handler of a receive, after the system has written what it got. -/
def handled (w : World) (op : Operation) (ov : OvData) (data : Bytes) (error : Nat) : World :=
  onComplete os config
    (((w.removePending op).setOv op.pov
      (some { ov with buffer := overwrite ov.buffer data })).record ov.id (.received ov.type data))
    op.socket data.length op.pov { ov with buffer := overwrite ov.buffer data } error

/-- A receive that got no more than fits into its buffer. -/
theorem step_receive {op : Operation} {ov : OvData} (pending : op ∈ w.pending)
    (direct : op.queued = false) (hov : w.ovData op.pov = some ov)
    (receives : ov.type.receives = true) {data : Bytes} (fits : data.length ≤ ov.buffer.length)
    (error : Nat) :
    step os config w (.complete op data error) = handled os config w op ov data error := by
  have hov' : (w.removePending op).ovData op.pov = some ov := hov
  simp only [step, complete, if_pos pending, dispatch, hov', direct, receives, handled,
    List.take_of_length_le fits, Bool.false_eq_true, if_false, if_true]

end Step

end LinkSteps
