import QvNetfilter.UdpHistory

/-!
# The control connection

What one step of the proxy can do to the control connection of an endpoint: the
messages and replies that pass over it, and the part of the entry that decides
how the handshake goes on. Every invariant of the handshake is derived from
this one account of a step.
-/

namespace ControlChannel

open Memory Socks Mealy UdpProxy UdpHistory

/-- What happens on the control connections of one endpoint. -/
inductive Control where
  | created
  | received (reply : Bytes)
  | sent (message : Bytes) (accepted : Bool)
deriving DecidableEq

def control : Action → Option Control
  | .created => some .created
  | .received .ovtTcpReceive data => some (.received data)
  | .call (.wsaSend _ buf) accepted => some (.sent buf accepted)
  | _ => none

def transcript (w : World) (id : EndpointId) : List Control := view control w id

/-- The part of `PROXY_DATA` that the handshake depends on. -/
structure Core where
  proxyState : ProxyState
  userName : Bytes
  userPassword : Bytes
deriving DecidableEq

def core (pd : ProxyData) : Core := ⟨pd.proxyState, pd.userName, pd.userPassword⟩

def coreAt (w : World) (id : EndpointId) : Option Core := (w.socketMap id).map core

/-- The message that a reply calls for, with the state after it was sent. -/
def controlAnswer (c : Core) (reply : Bytes) : Option (Bytes × ProxyState) :=
  match c.proxyState with
  | .psAuth => authReply c.userName c.userPassword reply reply.length
  | .psAuthNegotiation => authNegotiationReply reply reply.length
  | _ => none

def Core.moved (c : Core) (next : ProxyState) (accepted : Bool) : Core :=
  if accepted then { c with proxyState := next } else c

/-- Everything that a step can do to an endpoint's control connection. -/
inductive ControlStep (config : Config) :
    Option Core → List Control → Option Core → Prop where
  | keep (c : Option Core) : ControlStep config c [] c
  | removed (c : Option Core) : ControlStep config c [] none
  | created (c : Option Core) :
      ControlStep config c [.created] (some ⟨.psNone, config.userName, config.userPassword⟩)
  | notCreated (c : Option Core) : ControlStep config c [.created] none
  | greeted (c : Core) (accepted : Bool) :
      ControlStep config (some c)
        [.sent (socks5AuthRequest (offeredMethod c.userName)) accepted]
        (some (c.moved .psAuth accepted))
  | ignored (c : Option Core) (reply : Bytes) (silent : ∀ k ∈ c, controlAnswer k reply = none) :
      ControlStep config c [.received reply] c
  | answered (c : Core) (reply message : Bytes) (next : ProxyState) (accepted : Bool)
      (answer : controlAnswer c reply = some (message, next)) :
      ControlStep config (some c) [.received reply, .sent message accepted]
        (some (c.moved next accepted))
  | connected (c : Core) (reply : Bytes) (waiting : c.proxyState = .psUdpAssoc) :
      ControlStep config (some c) [.received reply] (some { c with proxyState := .psConnected })

section Frames

/-- Neither a transcript nor the core of an entry has changed. -/
structure SameControl (w w' : World) : Prop where
  transcripts : ∀ j, transcript w' j = transcript w j
  cores : ∀ j, coreAt w' j = coreAt w j

theorem SameControl.refl (w : World) : SameControl w w := ⟨fun _ => rfl, fun _ => rfl⟩

theorem SameControl.trans {w₁ w₂ w₃ : World} (first : SameControl w₁ w₂)
    (second : SameControl w₂ w₃) : SameControl w₁ w₃ :=
  ⟨fun j => (second.transcripts j).trans (first.transcripts j),
    fun j => (second.cores j).trans (first.cores j)⟩

/-- Only one endpoint's control connection has moved. -/
structure MovesOnly (id : EndpointId) (w w' : World) : Prop where
  transcripts : ∀ j, j ≠ id → transcript w' j = transcript w j
  cores : ∀ j, j ≠ id → coreAt w' j = coreAt w j

theorem SameControl.movesOnly {w w' : World} (same : SameControl w w') (id : EndpointId) :
    MovesOnly id w w' :=
  ⟨fun j _ => same.transcripts j, fun j _ => same.cores j⟩

theorem MovesOnly.trans {id : EndpointId} {w₁ w₂ w₃ : World} (first : MovesOnly id w₁ w₂)
    (second : MovesOnly id w₂ w₃) : MovesOnly id w₁ w₃ :=
  ⟨fun j hj => (second.transcripts j hj).trans (first.transcripts j hj),
    fun j hj => (second.cores j hj).trans (first.cores j hj)⟩

variable (os : Os)

theorem coreAt_setEntry_self (w : World) (id : EndpointId) (entry : Option ProxyData) :
    coreAt (w.setEntry id entry) id = entry.map core := by
  simp [coreAt]

theorem coreAt_setEntry_ne (w : World) {id j : EndpointId} (h : j ≠ id)
    (entry : Option ProxyData) : coreAt (w.setEntry id entry) j = coreAt w j := by
  simp [coreAt, Function.update_of_ne h]

/-- An entry may be replaced by one with the same core. -/
theorem sameControl_setEntry {w : World} {id : EndpointId} {pd pd' : ProxyData}
    (entry : w.socketMap id = some pd) (same : core pd' = core pd) :
    SameControl w (w.setEntry id (some pd')) := by
  refine ⟨fun _ => rfl, fun j => ?_⟩
  by_cases hj : j = id
  · subst hj
    rw [coreAt_setEntry_self, coreAt, entry, Option.map_some, Option.map_some, same]
  · exact coreAt_setEntry_ne w hj _

theorem sameControl_sendDatagram {w : World} {id : EndpointId} {pd : ProxyData}
    (entry : w.socketMap id = some pd) (buf : Bytes) (remoteAddress : Address) :
    SameControl w (sendDatagram os w id pd buf remoteAddress).1 := by
  obtain ⟨started, hmap⟩ := sendDatagram_socketMap os w id entry buf remoteAddress
  have same : SameControl w (w.setEntry id (some { pd with udpRecvStarted := started })) :=
    sameControl_setEntry entry rfl
  refine ⟨fun j => ?_, fun j => ?_⟩
  · have hview : ∃ accepted, transcript (sendDatagram os w id pd buf remoteAddress).1 j =
        transcript w j ++ shown control id j (.call (.wsaSendTo pd.udpSocket
          (encapsulate buf remoteAddress) pd.remoteAddress pd.remoteAddressLen) accepted) :=
      view_sendDatagram os w id pd buf remoteAddress (fun _ => rfl) (fun _ _ => rfl) j
    obtain ⟨accepted, hview⟩ := hview
    rw [hview, shown_none rfl, List.append_nil]
  · rw [← same.cores j]
    simp only [coreAt, hmap, setEntry_socketMap]

theorem sameControl_udpSend (w : World) (id : EndpointId) (buf : Bytes) (remoteAddress : Address)
    (remoteAddressLen : Nat) :
    SameControl w (udpSend os w id buf remoteAddress remoteAddressLen).1 := by
  unfold udpSend
  split
  · exact SameControl.refl w
  · rename_i pd entry
    split
    · refine sameControl_setEntry entry ?_
      unfold enqueue
      split <;> rfl
    · exact sameControl_sendDatagram os entry buf remoteAddress

theorem sameControl_erasePacket (w : World) (id : EndpointId) :
    SameControl w (erasePacket w id) := by
  unfold erasePacket
  split
  · exact SameControl.refl w
  · rename_i pd entry
    exact sameControl_setEntry entry rfl

theorem sameControl_flushPackets (id : EndpointId) (fuel : Nat) (w : World) :
    SameControl w (flushPackets os w id fuel) := by
  induction fuel generalizing w with
  | zero => exact SameControl.refl w
  | succ fuel ih =>
    rw [flushPackets]
    split
    · exact SameControl.refl w
    · split
      · exact SameControl.refl w
      · exact ((sameControl_udpSend os w id _ _ _).trans (sameControl_erasePacket _ id)).trans
          (ih _)

theorem sameControl_rearmTcpReceive (w : World) (socket : Socket) (id : EndpointId) (pov : Pov)
    (ov : OvData) : SameControl w (rearmTcpReceive os w socket id pov ov) :=
  ⟨view_rearmTcpReceive os w socket id pov ov (fun _ => rfl) (fun _ => rfl),
    fun _ => by rw [coreAt, rearmTcpReceive_socketMap]; rfl⟩

theorem sameControl_startTcpReceive (w : World) (socket : Socket) (id : EndpointId) :
    SameControl w (startTcpReceive os w socket id) :=
  ⟨view_startTcpReceive os w socket id (fun _ => rfl) (fun _ _ => rfl),
    fun _ => by rw [coreAt, startTcpReceive_socketMap]; rfl⟩

theorem sameControl_rearmUdpReceive (w : World) (socket : Socket) (id : EndpointId) (pov : Pov)
    (ov : OvData) : SameControl w (rearmUdpReceive os w socket id pov ov) :=
  ⟨view_rearmUdpReceive os w socket id pov ov (fun _ => rfl) (fun _ => rfl),
    fun _ => by rw [coreAt, rearmUdpReceive_socketMap]; rfl⟩

/-- Recording an action that is none of the control connection's. -/
theorem sameControl_record (w : World) (id : EndpointId) {a : Action} (other : control a = none) :
    SameControl w (w.record id a) := by
  refine ⟨fun j => ?_, fun _ => rfl⟩
  rw [transcript, view_record, shown_none other, List.append_nil]
  rfl

theorem sameControl_onUdpReceiveComplete (w : World) (socket : Socket) (dwTransferred : Nat)
    (pov : Pov) (ov : OvData) :
    SameControl w (onUdpReceiveComplete os w socket dwTransferred pov ov) := by
  unfold onUdpReceiveComplete
  split
  · exact ⟨fun _ => rfl, fun _ => rfl⟩
  · refine SameControl.trans ?_ (sameControl_rearmUdpReceive os _ socket ov.id pov ov)
    cases relayedDatagram ov.buffer dwTransferred with
    | none => exact SameControl.refl w
    | some d => exact sameControl_record w ov.id rfl

end Frames

section Moves
variable (os : Os) (config : Config)

theorem transcript_deleteProxyConnection (w : World) (id j : EndpointId) :
    transcript (w.deleteProxyConnection id) j = transcript w j :=
  view_deleteProxyConnection w id (fun _ => rfl) j

theorem movesOnly_deleteProxyConnection (w : World) (id : EndpointId) :
    MovesOnly id w (w.deleteProxyConnection id) := by
  refine ⟨fun j _ => transcript_deleteProxyConnection w id j, fun j hj => ?_⟩
  simp [coreAt, Function.update_of_ne hj]

theorem coreAt_deleteProxyConnection (w : World) (id : EndpointId) :
    coreAt (w.deleteProxyConnection id) id = none := by
  simp [coreAt]

/-- A message on the control connection: it is sent once, and the state moves if it
was accepted. -/
theorem answer_some {w : World} {id : EndpointId} {pd : ProxyData}
    (entry : w.socketMap id = some pd) (message : Bytes) (next : ProxyState) :
    MovesOnly id w (answer os w id pd (some (message, next))) ∧
    ∃ accepted, transcript (answer os w id pd (some (message, next))) id =
        transcript w id ++ [.sent message accepted] ∧
      coreAt (answer os w id pd (some (message, next))) id =
        some ((core pd).moved next accepted) := by
  have sent : ∀ j, transcript (startTcpSend os w pd.tcpSocket message id).1 j =
      transcript w j ++ shown control id j (.call (.wsaSend pd.tcpSocket message)
        (startTcpSend os w pd.tcpSocket message id).2) :=
    view_startTcpSend os w pd.tcpSocket message id (fun _ _ => rfl)
  have hmap := startTcpSend_socketMap os w id pd.tcpSocket message
  have other : ∀ j, j ≠ id →
      transcript (startTcpSend os w pd.tcpSocket message id).1 j = transcript w j := by
    intro j hj
    rw [sent j, shown_ne (Ne.symm hj), List.append_nil]
  have own := sent id
  rw [shown_self] at own
  simp only [answer]
  split
  · rename_i accepted
    rw [accepted] at own
    refine ⟨⟨other, fun j hj => ?_⟩, true, own, ?_⟩
    · rw [coreAt_setEntry_ne _ hj, coreAt, hmap]
      rfl
    · rw [coreAt_setEntry_self]
      rfl
  · rename_i refused
    rw [Bool.eq_false_iff.mpr refused] at own
    refine ⟨⟨other, fun j _ => by rw [coreAt, hmap]; rfl⟩, false, own, ?_⟩
    rw [coreAt, hmap, entry]
    rfl

/-- Entering `PS_CONNECTED` sends nothing on the control connection. -/
theorem connected_some (w : World) (id : EndpointId) (pd : ProxyData) (addr : Bytes) :
    MovesOnly id w (connected os w id pd (some addr)) ∧
    transcript (connected os w id pd (some addr)) id = transcript w id ∧
    coreAt (connected os w id pd (some addr)) id =
      some { core pd with proxyState := .psConnected } := by
  have flushed := sameControl_flushPackets os id pd.udpSendPackets.length
    (w.setEntry id (some { pd with
      remoteAddress := pd.remoteAddress.write addr
      remoteAddressLen := addr.length
      proxyState := .psConnected }))
  refine ⟨⟨fun j _ => flushed.transcripts j, fun j hj => ?_⟩, flushed.transcripts id, ?_⟩
  · exact (flushed.cores j).trans (coreAt_setEntry_ne w hj _)
  · refine (flushed.cores id).trans ?_
    rw [coreAt_setEntry_self]
    rfl

/-- A reply read from the front of the buffer is answered as the reply itself. -/
theorem authReply_overwrite (userName userPassword buffer reply : Bytes) :
    authReply userName userPassword (overwrite buffer reply) reply.length =
      authReply userName userPassword reply reply.length := by
  by_cases short : reply.length < sizeofSock5AuthResponse
  · simp [authReply, short]
  · have long : 2 ≤ reply.length := Nat.le_of_not_lt short
    have hzero : byteAt (overwrite buffer reply) 0 = byteAt reply 0 :=
      byteAt_overwrite_of_lt (by omega)
    have hone : byteAt (overwrite buffer reply) 1 = byteAt reply 1 :=
      byteAt_overwrite_of_lt (by omega)
    simp only [authReply, hzero, hone]

theorem authNegotiationReply_overwrite (buffer reply : Bytes) :
    authNegotiationReply (overwrite buffer reply) reply.length =
      authNegotiationReply reply reply.length := by
  by_cases short : reply.length < sizeofSock5AuthResponse
  · simp [authNegotiationReply, short]
  · have long : 2 ≤ reply.length := Nat.le_of_not_lt short
    have hzero : byteAt (overwrite buffer reply) 0 = byteAt reply 0 :=
      byteAt_overwrite_of_lt (by omega)
    have hone : byteAt (overwrite buffer reply) 1 = byteAt reply 1 :=
      byteAt_overwrite_of_lt (by omega)
    simp only [authNegotiationReply, hzero, hone]

/-- A reply has just been recorded; the switch over the state makes it one step. -/
theorem step_onControlData (w : World) (id : EndpointId) (buffer reply : Bytes) :
    let w₁ := w.record id (.received .ovtTcpReceive reply)
    let w₂ := onControlData os config w₁ id (overwrite buffer reply) reply.length
    MovesOnly id w w₂ ∧ ∃ news, transcript w₂ id = transcript w id ++ .received reply :: news ∧
      (∀ r, .received r ∉ news) ∧
      ControlStep config (coreAt w id) (.received reply :: news) (coreAt w₂ id) := by
  intro w₁ w₂
  have recorded : MovesOnly id w w₁ := by
    refine ⟨fun j hj => ?_, fun _ _ => rfl⟩
    rw [transcript, view_record, shown_ne (Ne.symm hj), List.append_nil]
    rfl
  have own : transcript w₁ id = transcript w id ++ [.received reply] := by
    rw [transcript, view_record, shown_self]
    rfl
  have same : coreAt w₁ id = coreAt w id := rfl
  -- what holds when the switch leaves the world as it is
  have idle : w₂ = w₁ → (∀ k ∈ coreAt w id, controlAnswer k reply = none) →
      MovesOnly id w w₂ ∧ ∃ news, transcript w₂ id = transcript w id ++ .received reply :: news ∧
        (∀ r, .received r ∉ news) ∧
        ControlStep config (coreAt w id) (.received reply :: news) (coreAt w₂ id) := by
    intro hw silent
    rw [hw, same]
    exact ⟨recorded, [], own, by simp, .ignored _ reply silent⟩
  -- what holds when the switch calls for the answer that the state and the reply give
  have answering : ∀ pd, w.socketMap id = some pd →
      w₂ = answer os w₁ id pd (controlAnswer (core pd) reply) →
      MovesOnly id w w₂ ∧ ∃ news, transcript w₂ id = transcript w id ++ .received reply :: news ∧
        (∀ r, .received r ∉ news) ∧
        ControlStep config (coreAt w id) (.received reply :: news) (coreAt w₂ id) := by
    intro pd entry hw
    have hcore : coreAt w id = some (core pd) := by rw [coreAt, entry, Option.map_some]
    cases hanswer : controlAnswer (core pd) reply with
    | none => exact idle (by rw [hw, hanswer]; rfl) (by simp [hcore, hanswer])
    | some a =>
      obtain ⟨message, next⟩ := a
      obtain ⟨moves, accepted, htranscript, hcore₂⟩ :=
        answer_some os (w := w₁) entry message next
      rw [hw, hanswer, hcore]
      refine ⟨recorded.trans moves, [.sent message accepted], ?_, by simp, ?_⟩
      · rw [htranscript, own, List.append_assoc]
        rfl
      · rw [hcore₂]
        exact .answered (core pd) reply message next accepted hanswer
  cases entry : w.socketMap id with
  | none =>
    refine idle ?_ ?_
    · simp only [w₂, onControlData, w₁, record_socketMap, entry]
    · simp [coreAt, entry]
  | some pd =>
    have hcore : coreAt w id = some (core pd) := by rw [coreAt, entry, Option.map_some]
    cases state : pd.proxyState with
    | psNone | psConnected | psClosed =>
      refine idle ?_ ?_
      · simp only [w₂, onControlData, w₁, record_socketMap, entry, state]
      · simp [hcore, controlAnswer, core, state]
    | psAuth =>
      have hanswer : controlAnswer (core pd) reply = authReply pd.userName pd.userPassword
          (overwrite buffer reply) reply.length := by
        simp only [controlAnswer, core, state, authReply_overwrite]
      refine answering pd entry ?_
      simp only [w₂, onControlData, w₁, record_socketMap, entry, state, hanswer]
    | psAuthNegotiation =>
      have hanswer : controlAnswer (core pd) reply =
          authNegotiationReply (overwrite buffer reply) reply.length := by
        simp only [controlAnswer, core, state, authNegotiationReply_overwrite]
      refine answering pd entry ?_
      simp only [w₂, onControlData, w₁, record_socketMap, entry, state, hanswer]
    | psUdpAssoc =>
      have hw : w₂ = connected os w₁ id pd
          (udpAssocReply config (overwrite buffer reply) reply.length) := by
        simp only [w₂, onControlData, w₁, record_socketMap, entry, state]
      cases address : udpAssocReply config (overwrite buffer reply) reply.length with
      | none =>
        refine idle (by rw [hw, address]; rfl) ?_
        simp [hcore, controlAnswer, core, state]
      | some addr =>
        obtain ⟨moves, htranscript, hconnected⟩ := connected_some os w₁ id pd addr
        rw [hw, address]
        refine ⟨recorded.trans moves, [], htranscript.trans own, by simp, ?_⟩
        rw [hcore, hconnected]
        exact .connected (core pd) reply state

theorem sameControl_startConnect (w : World) (socket : Socket) (id : EndpointId) :
    SameControl w
      (startConnect os w socket config.proxyAddress config.proxyAddressLen id).1 := by
  refine ⟨view_startConnect os w socket _ _ id (fun _ => rfl), fun _ => ?_⟩
  rw [coreAt, startConnect_socketMap]
  rfl

theorem sameControl_invoke (w : World) (id : EndpointId) {c : Call} (hidden : Hidden control c) :
    SameControl w (invoke os w id c).1 :=
  ⟨fun j => view_invoke_hidden os w id j hidden, fun _ => rfl⟩

theorem sameControl_registerAndConnect (w : World) (id : EndpointId)
    (tcpSocket udpSocket : Socket) :
    SameControl w (registerAndConnect os config w id tcpSocket udpSocket).1 := by
  have first := sameControl_invoke os w id (c := .registerSocket tcpSocket) (fun _ => rfl)
  have second := sameControl_invoke os (invoke os w id (.registerSocket tcpSocket)).1 id
    (c := .registerSocket udpSocket) (fun _ => rfl)
  simp only [registerAndConnect]
  split
  · exact first
  · split
    · exact first.trans second
    · exact (first.trans second).trans (sameControl_startConnect os config _ tcpSocket id)

end Moves

section Step
variable (os : Os) (config : Config)

def Control.reply : Control → Option Bytes
  | .received r => some r
  | _ => none

/-- What a completed operation brings to an endpoint: the bytes its control receive got. -/
def dataFor (id : EndpointId) (data : Bytes) (ov : OvData) : Option Bytes :=
  if ov.type = .ovtTcpReceive ∧ ov.id = id then some (data.take ov.buffer.length) else none

/-- The control data that an event hands to an endpoint. -/
def controlReply (w : World) (e : Event) (id : EndpointId) : Option Bytes :=
  match e with
  | .complete op data _ =>
    if op ∈ w.pending then
      if op.queued then none else (w.ovData op.pov).bind (dataFor id data)
    else none
  | _ => none

/-- A world that is one control step further at an endpoint, at which it has been
handed `reply`. -/
def StepAt (w w' : World) (id : EndpointId) (reply : Option Bytes) : Prop :=
  ∃ news, transcript w' id = transcript w id ++ news ∧
    news.filterMap Control.reply = reply.toList ∧
    ControlStep config (coreAt w id) news (coreAt w' id)

variable {config}

theorem SameControl.stepAt {w w' : World} (same : SameControl w w') (id : EndpointId) :
    StepAt config w w' id none := by
  refine ⟨[], ?_, rfl, ?_⟩
  · rw [same.transcripts id, List.append_nil]
  · rw [same.cores id]
    exact .keep _

theorem MovesOnly.stepAt {id j : EndpointId} {w w' : World} (moves : MovesOnly id w w')
    (hj : j ≠ id) : StepAt config w w' j none := by
  refine ⟨[], ?_, rfl, ?_⟩
  · rw [moves.transcripts j hj, List.append_nil]
  · rw [moves.cores j hj]
    exact .keep _

theorem stepAt_deleteProxyConnection (w : World) (id j : EndpointId) :
    StepAt config w (w.deleteProxyConnection id) j none := by
  by_cases hj : j = id
  · subst hj
    refine ⟨[], ?_, rfl, ?_⟩
    · rw [transcript_deleteProxyConnection, List.append_nil]
    · rw [coreAt_deleteProxyConnection]
      exact .removed _
  · exact (movesOnly_deleteProxyConnection w id).stepAt hj

theorem stepAt_createProxyConnection (w : World) (id j : EndpointId) :
    StepAt config w (createProxyConnection os config w id).1 j none := by
  unfold createProxyConnection
  split
  · exact (sameControl_record w id rfl).stepAt j
  · rename_i tcpSocket _
    have first := sameControl_record w id (a := .opened .stream (some tcpSocket)) rfl
    simp only
    split
    · exact ((first.trans (sameControl_record _ id rfl)).trans
        (sameControl_record _ id rfl)).stepAt j
    · rename_i udpSocket _
      have second := first.trans
        (sameControl_record _ id (a := .opened .dgram (some udpSocket)) rfl)
      generalize hopened : (w.record id (.opened .stream (some tcpSocket))).record id
        (.opened .dgram (some udpSocket)) = w₁ at second
      generalize hstored : (w₁.setEntry id (some (ProxyData.new config tcpSocket
        udpSocket))).record id .created = w₂
      have stored : MovesOnly id w w₂ := by
        subst hstored
        refine (second.movesOnly id).trans ⟨fun i hi => ?_, fun i hi => ?_⟩
        · rw [transcript, view_record, shown_ne (Ne.symm hi), List.append_nil]
          rfl
        · exact coreAt_setEntry_ne w₁ hi _
      have own : transcript w₂ id = transcript w id ++ [.created] := by
        subst hstored
        rw [transcript, view_record, shown_self, ← second.transcripts id]
        rfl
      have new : coreAt w₂ id = some ⟨.psNone, config.userName, config.userPassword⟩ := by
        subst hstored
        exact coreAt_setEntry_self w₁ id _
      have connecting := sameControl_registerAndConnect os config w₂ id tcpSocket udpSocket
      split
      · by_cases hj : j = id
        · subst hj
          refine ⟨[.created], (connecting.transcripts j).trans own, rfl, ?_⟩
          rw [connecting.cores j, new]
          exact .created _
        · exact (stored.trans (connecting.movesOnly id)).stepAt hj
      · by_cases hj : j = id
        · subst hj
          refine ⟨[.created], ?_, rfl, ?_⟩
          · rw [transcript_deleteProxyConnection]
            exact (connecting.transcripts j).trans own
          · rw [coreAt_deleteProxyConnection]
            exact .notCreated _
        · exact ((stored.trans (connecting.movesOnly id)).trans
            (movesOnly_deleteProxyConnection _ id)).stepAt hj

theorem stepAt_onConnectComplete (w : World) (pov : Pov) (ov : OvData) (error : Nat)
    (j : EndpointId) : StepAt config w (onConnectComplete os w pov ov error) j none := by
  unfold onConnectComplete
  split
  · exact stepAt_deleteProxyConnection w ov.id j
  · split
    · exact (SameControl.refl w).stepAt j
    · rename_i pd entry
      obtain ⟨moves, accepted, htranscript, hcore⟩ :=
        answer_some os entry (socks5AuthRequest (offeredMethod pd.userName)) .psAuth
      generalize answer os w ov.id pd
        (some (socks5AuthRequest (offeredMethod pd.userName), .psAuth)) = w₁ at *
      have receiving := sameControl_startTcpReceive os w₁ pd.tcpSocket ov.id
      by_cases hj : j = ov.id
      · subst hj
        refine ⟨[.sent (socks5AuthRequest (offeredMethod pd.userName)) accepted],
          (receiving.transcripts ov.id).trans htranscript, rfl, ?_⟩
        have after : coreAt ((startTcpReceive os w₁ pd.tcpSocket ov.id).deleteOvData pov) ov.id =
            some ((core pd).moved .psAuth accepted) := (receiving.cores ov.id).trans hcore
        rw [after, coreAt, entry]
        exact .greeted (core pd) accepted
      · exact (moves.trans (receiving.movesOnly ov.id)).stepAt hj

/-- A completion that brings no control data. -/
theorem stepAt_onComplete (w : World) (socket : Socket) (dwTransferred : Nat) (pov : Pov)
    (ov : OvData) (error : Nat) (nodata : ov.type = .ovtTcpReceive → dwTransferred = 0)
    (j : EndpointId) :
    StepAt config w (onComplete os config w socket dwTransferred pov ov error) j none := by
  have freed : SameControl w (w.deleteOvData pov) := ⟨fun _ => rfl, fun _ => rfl⟩
  unfold onComplete
  cases type : ov.type with
  | ovtUdpSend => exact freed.stepAt j
  | ovtTcpSend => exact freed.stepAt j
  | ovtUdpReceive =>
    exact (sameControl_onUdpReceiveComplete os w socket dwTransferred pov ov).stepAt j
  | ovtConnect => exact stepAt_onConnectComplete os w pov ov error j
  | ovtTcpReceive =>
    simp only [onTcpReceiveComplete, nodata type, if_true]
    exact freed.stepAt j

/-- A completion of the control receive: one reply, handled and re-armed. -/
theorem stepAt_onTcpReceiveComplete (w : World) (socket : Socket) (pov : Pov) (id : EndpointId)
    (buffer reply : Bytes) (j : EndpointId) :
    StepAt config w (onTcpReceiveComplete os config
        (w.record id (.received .ovtTcpReceive reply)) socket reply.length pov
        ⟨id, .ovtTcpReceive, overwrite buffer reply⟩) j
      (if id = j then some reply else none) := by
  have switched := step_onControlData os config w id buffer reply
  simp only at switched
  obtain ⟨moves, news, htranscript, hnews, hstep⟩ := switched
  have hreplies : (.received reply :: news).filterMap Control.reply = [reply] := by
    have none : news.filterMap Control.reply = [] := by
      rw [List.filterMap_eq_nil_iff]
      intro a ha
      cases a with
      | received r => exact absurd ha (hnews r)
      | created | sent => rfl
    exact congrArg (List.cons reply) none
  unfold onTcpReceiveComplete
  split
  · rename_i empty
    obtain rfl := List.length_eq_zero_iff.mp empty
    have own : transcript (w.record id (.received .ovtTcpReceive [])) id =
        transcript w id ++ [.received []] := by
      rw [transcript, view_record, shown_self]
      rfl
    by_cases hj : id = j
    · subst hj
      rw [if_pos rfl]
      refine ⟨[.received []], own, rfl, .ignored _ [] ?_⟩
      intro k _
      cases hk : k.proxyState <;>
        simp [controlAnswer, hk, authReply, authNegotiationReply, sizeofSock5AuthResponse]
    · rw [if_neg hj]
      refine ⟨[], ?_, rfl, .keep _⟩
      rw [List.append_nil]
      exact (view_record w id j _).trans (by rw [shown_ne hj, List.append_nil]; rfl)
  · have rearmed := sameControl_rearmTcpReceive os (onControlData os config
        (w.record id (.received .ovtTcpReceive reply)) id (overwrite buffer reply) reply.length)
      socket id pov ⟨id, .ovtTcpReceive, overwrite buffer reply⟩
    by_cases hj : id = j
    · subst hj
      rw [if_pos rfl]
      refine ⟨.received reply :: news, (rearmed.transcripts id).trans htranscript, hreplies, ?_⟩
      rw [rearmed.cores id]
      exact hstep
    · rw [if_neg hj]
      exact (moves.trans (rearmed.movesOnly id)).stepAt (Ne.symm hj)

theorem SameControl.before {w₁ w₂ w₃ : World} (same : SameControl w₁ w₂) {j : EndpointId}
    {reply : Option Bytes} (later : StepAt config w₂ w₃ j reply) :
    StepAt config w₁ w₃ j reply := by
  obtain ⟨news, htranscript, hreplies, hstep⟩ := later
  rw [same.transcripts j] at htranscript
  rw [same.cores j] at hstep
  exact ⟨news, htranscript, hreplies, hstep⟩

theorem stepAt_dispatch (w : World) (op : Operation) (data : Bytes) (error : Nat)
    (j : EndpointId) :
    StepAt config w (dispatch os config w op data error) j
      (if op.queued then none else (w.ovData op.pov).bind (dataFor j data)) := by
  unfold dispatch
  cases hov : w.ovData op.pov with
  | none => cases op.queued <;> exact (SameControl.refl w).stepAt j
  | some ov =>
    obtain ⟨id, type, buffer⟩ := ov
    cases hqueued : op.queued with
    | true => exact stepAt_onComplete os w op.socket 0 op.pov _ 0 (fun _ => rfl) j
    | false =>
      simp only [Bool.false_eq_true, if_false, Option.bind_some, dataFor]
      cases type with
      | ovtTcpReceive =>
        have written : SameControl w (w.setOv op.pov (some ⟨id, .ovtTcpReceive,
            overwrite buffer (data.take buffer.length)⟩)) := ⟨fun _ => rfl, fun _ => rfl⟩
        have received : StepAt config w _ j _ := written.before
          (stepAt_onTcpReceiveComplete os _ op.socket op.pov id buffer (data.take buffer.length) j)
        simpa [onComplete, OvType.receives] using received
      | ovtUdpReceive =>
        have recorded := sameControl_record (w.setOv op.pov (some ⟨id, .ovtUdpReceive,
          overwrite buffer (data.take buffer.length)⟩)) id
          (a := .received .ovtUdpReceive (data.take buffer.length)) rfl
        exact recorded.before (stepAt_onComplete os _ op.socket _ op.pov
          ⟨id, .ovtUdpReceive, _⟩ error nofun j)
      | ovtConnect =>
        exact stepAt_onComplete os w op.socket data.length op.pov ⟨id, .ovtConnect, buffer⟩ error
          nofun j
      | ovtTcpSend =>
        exact stepAt_onComplete os w op.socket data.length op.pov ⟨id, .ovtTcpSend, buffer⟩ error
          nofun j
      | ovtUdpSend =>
        exact stepAt_onComplete os w op.socket data.length op.pov ⟨id, .ovtUdpSend, buffer⟩ error
          nofun j

/-- Every step of the proxy is one control step at every endpoint. -/
theorem control_step (w : World) (e : Event) (j : EndpointId) :
    StepAt config w (step os config w e) j (controlReply w e j) := by
  cases e with
  | createProxyConnection id => exact stepAt_createProxyConnection os w id j
  | deleteProxyConnection id => exact stepAt_deleteProxyConnection w id j
  | udpSend id buf remoteAddress remoteAddressLen =>
    exact (sameControl_udpSend os w id buf remoteAddress remoteAddressLen).stepAt j
  | complete op data error =>
    by_cases hpending : op ∈ w.pending
    · have taken : SameControl w (w.removePending op) := ⟨fun _ => rfl, fun _ => rfl⟩
      have dispatched : StepAt config w _ j _ :=
        taken.before (stepAt_dispatch os (w.removePending op) op data error j)
      simpa [step, complete, controlReply, hpending] using dispatched
    · simp only [step, complete, controlReply, hpending, if_false]
      exact (SameControl.refl w).stepAt j

end Step

end ControlChannel
