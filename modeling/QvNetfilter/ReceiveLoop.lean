import Mathlib.Data.List.Nodup
import QvNetfilter.Handshake
import QvNetfilter.LinkSteps

/-!
# The receive loop of the relay

A connection that has sent a datagram waits for the relay on one receive, which
its own completion handler arms again. Nothing else does: `udpRecvStarted` stays
set. The loop goes on as long as every completion brings bytes and every
`WSARecvFrom` is accepted.
-/

namespace ReceiveLoop

open Memory Socks Mealy UdpProxy UdpHistory Ownership Endpoints Links LinkSteps

/-- An outstanding receive that `startUdpReceive` has issued. -/
def Receives (w : World) (op : Operation) : Prop := op ∈ armed w op.pov.1 .ovtUdpReceive

/-- Every connection that has started to receive has exactly one receive outstanding on its
relay socket. -/
def LoopAlive (w : World) : Prop :=
  ∀ id pd, w.socketMap id = some pd → pd.udpRecvStarted = true →
    ∃! op, Receives w op ∧ op.socket = pd.udpSocket

/-- A relay socket on which a connection has started to receive. -/
def Listening (w : World) (s : Socket) : Prop :=
  ∃ id pd, w.socketMap id = some pd ∧ pd.udpRecvStarted = true ∧ pd.udpSocket = s

section Change
variable {id : EndpointId} {pd : ProxyData} {l l' : Link}

/-- The sends of a connection leave its receives alone, or start the first one. -/
inductive Sends (id : EndpointId) (pd : ProxyData) (l l' : Link) : Prop where
  | idle (packets : List UdpPacket) (entry : l'.entry = some { pd with udpSendPackets := packets })
      (relays : l'.relays = l.relays)
  | starts (notStarted : pd.udpRecvStarted = false) (packets : List UdpPacket) (op : Operation)
      (accepted : Bool) (op_starts : Starts id pd.udpSocket op)
      (entry : l'.entry = some { pd with udpSendPackets := packets, udpRecvStarted := true })
      (relays : l'.relays = if accepted then l.relays ++ [op] else l.relays)
      (noted : .receiveFrom pd.udpSocket accepted ∈ newNotes l l')

theorem sends_attempt {bytes : Bytes} {sent : Bool} (entry : l.entry = some pd)
    (attempt : Attempt id pd bytes l sent l') : Sends id pd l l' := by
  cases attempt with
  | refused => exact .idle pd.udpSendPackets entry rfl
  | sent started => exact .idle pd.udpSendPackets entry rfl
  | first notStarted op accepted op_starts =>
    refine .starts notStarted pd.udpSendPackets op accepted op_starts rfl rfl ?_
    have added : (((l.note (.datagram bytes true)).setEntry
        (some { pd with udpRecvStarted := true })).receiveFrom op accepted).notes =
          l.notes ++ [.datagram bytes true, .receiveFrom op.socket accepted] :=
      List.append_assoc ..
    rw [newNotes_append added, op_starts.socket]
    exact List.mem_cons_of_mem _ List.mem_cons_self

theorem sends_flushed (entry : l.entry = some pd) (flushed : Flushed id l l') :
    Sends id pd l l' := by
  induction flushed generalizing pd with
  | done _ empty => exact .idle pd.udpSendPackets entry rfl
  | @next l l₁ l₂ pd' pd₁ p rest sent entry' queue attempt left flushed ih =>
    obtain rfl := Option.some_inj.mp (entry.symm.trans entry')
    obtain ⟨news, added, _⟩ := attempt.relayOnly.notes
    obtain ⟨later, added', _⟩ := flushed.relayOnly.notes
    have added'' : l₂.notes = l.notes ++ (news ++ later) := by
      rw [added', ← List.append_assoc, ← added]
      rfl
    have laterNotes : newNotes (l₁.setEntry (some { pd₁ with udpSendPackets := rest })) l₂ = later :=
      newNotes_append added'
    have firstNotes : newNotes l l₁ = news := newNotes_append added
    cases sends_attempt entry attempt with
    | idle packets entry₁ relays =>
      obtain rfl := Option.some_inj.mp (left.symm.trans entry₁)
      cases ih rfl with
      | idle packets' entry₂ relays' => exact .idle packets' entry₂ (relays'.trans relays)
      | starts notStarted packets' op accepted op_starts entry₂ relays' noted =>
        refine .starts notStarted packets' op accepted op_starts entry₂ ?_ ?_
        · rw [← relays]
          exact relays'
        · rw [newNotes_append added'']
          exact List.mem_append_right _ (laterNotes ▸ noted)
    | starts notStarted packets op accepted op_starts entry₁ relays noted =>
      obtain rfl := Option.some_inj.mp (left.symm.trans entry₁)
      cases ih rfl with
      | idle packets' entry₂ relays' =>
        refine .starts notStarted packets' op accepted op_starts entry₂ (relays'.trans relays) ?_
        rw [newNotes_append added'']
        exact List.mem_append_left _ (firstNotes ▸ noted)
      | starts again => exact absurd again nofun

/-- What a step does to the receives of one endpoint and to its `udpRecvStarted`. -/
inductive ReceiveChange (id : EndpointId) (l : Link) (e : Event) (l' : Link) : Prop where
  | kept (relays : l'.relays = l.relays)
      (entries : ∀ pd', l'.entry = some pd' → pd'.udpRecvStarted = true →
        ∃ pd, l.entry = some pd ∧ pd.udpRecvStarted = true ∧ pd.udpSocket = pd'.udpSocket)
      (other : ∀ op data error, e = .complete op data error → op ∉ l.relays)
  | started (pd pd' : ProxyData) (entry : l.entry = some pd) (op : Operation) (accepted : Bool)
      (op_starts : Starts id pd.udpSocket op) (entry' : l'.entry = some pd')
      (socket : pd'.udpSocket = pd.udpSocket)
      (relays : l'.relays = if accepted then l.relays ++ [op] else l.relays)
      (noted : .receiveFrom pd.udpSocket accepted ∈ newNotes l l')
      (other : ∀ op data error, e = .complete op data error → op ∉ l.relays)
  | ended (op : Operation) (data : Bytes) (error : Nat) (event : e = .complete op data error)
      (armed : op ∈ l.relays) (entries : l'.entry = l.entry) (relays : l'.relays = l.relays.erase op)
      (noted : l'.notes = l.notes ++ [.received .ovtUdpReceive []])
  | rearmed (op : Operation) (data : Bytes) (error : Nat) (event : e = .complete op data error)
      (armed : op ∈ l.relays) (entries : l'.entry = l.entry) (reply : Bytes) (accepted : Bool)
      (relays : l'.relays = if accepted then l.relays.erase op ++ [op] else l.relays.erase op)
      (noted : l'.notes =
        l.notes ++ [.received .ovtUdpReceive reply, .receiveFrom op.socket accepted])

/-- An entry that keeps its `udpRecvStarted` and its socket through a step without receives. -/
theorem ReceiveChange.same {e : Event} (relays : l'.relays = l.relays) (entry : l'.entry = l.entry)
    (other : ∀ op data error, e = .complete op data error → op ∉ l.relays) :
    ReceiveChange id l e l' :=
  .kept relays (fun pd' entry' started => ⟨pd', entry ▸ entry', started, rfl⟩) other

/-- The relay receives are the endpoint's own, and no operations of the control connection. -/
structure Apart (id : EndpointId) (l : Link) : Prop where
  own : ∀ op ∈ l.relays, op.pov.1 = id
  connects : ∀ op ∈ l.relays, op ∉ l.connects
  controls : ∀ op ∈ l.relays, op ∉ l.controls

theorem receiveChange_switch {config : Config} {op : Operation} {data reply : Bytes} {error : Nat}
    {accepted : Bool} (unrelated : op ∉ l.relays)
    (switch : Switch config id reply ((l.disarm op).note (.received .ovtTcpReceive reply)) l') :
    ReceiveChange id l (.complete op data error) (l'.receive op accepted) := by
  have other : ∀ op' data' error', Event.complete op data error = .complete op' data' error' →
      op' ∉ l.relays := by
    rintro op' data' error' ⟨⟩
    exact unrelated
  have left : l.relays.erase op = l.relays := List.erase_of_not_mem unrelated
  cases switch with
  | silent => exact .same left rfl other
  | @answered pd message next entry answer sent =>
    refine .kept left ?_ other
    rintro pd' ⟨⟩ started
    cases sent with
    | true => exact ⟨pd, entry, started, rfl⟩
    | false => exact ⟨pd, entry, started, rfl⟩
  | @connected pd buffer addr _ entry waiting relay flushed =>
    obtain ⟨news, added, _⟩ := flushed.relayOnly.notes
    have entry' : l.entry = some pd := entry
    have before : l.notes <+: ((l.disarm op).note (.received .ovtTcpReceive reply)).notes :=
      List.prefix_append _ _
    have after : l'.notes <+: (l'.receive op accepted).notes := List.prefix_append _ _
    cases sends_flushed rfl flushed with
    | idle packets emptied relays =>
      refine .kept (relays.trans left) ?_ other
      intro pd' found started
      obtain rfl := Option.some_inj.mp (emptied.symm.trans found)
      exact ⟨pd, entry', started, rfl⟩
    | starts notStarted packets op' accepted' op_starts emptied relays noted =>
      refine .started pd _ entry' op' accepted' op_starts emptied rfl (relays.trans ?_)
        (newNotes_within before after noted ⟨news, added.symm⟩) other
      simp only [Link.setEntry, Link.note, Link.disarm, left]

theorem receiveChange {config : Config} {e : Event} (apart : Apart id l)
    (step : LinkStep config id l e l') : ReceiveChange id l e l' := by
  have completes : ∀ op data error, op ∉ l.relays → ∀ op' data' error',
      Event.complete op data error = .complete op' data' error' → op' ∉ l.relays := by
    rintro op data error unrelated op' data' error' ⟨⟩
    exact unrelated
  have connect : ∀ op, op ∈ l.connects → op ∉ l.relays :=
    fun op armed relay => apart.connects op relay armed
  have control : ∀ op, op ∈ l.controls → op ∉ l.relays :=
    fun op armed relay => apart.controls op relay armed
  have erased : ∀ op, op ∉ l.relays → l.relays.erase op = l.relays :=
    fun op unrelated => List.erase_of_not_mem unrelated
  cases step with
  | elsewhere other =>
    refine .same rfl rfl ?_
    rintro op data error rfl relay
    exact other (apart.own op relay)
  | unarmed connects controls relays => exact .same rfl rfl (completes _ _ _ relays)
  | notOpened | unknown => exact .same rfl rfl nofun
  | notConnected | deleted => exact .kept rfl (fun _ => nofun) nofun
  | created tcpSocket udpSocket op starts =>
    refine .kept rfl ?_ nofun
    rintro pd' ⟨⟩ started
    exact absurd started Bool.false_ne_true
  | @queued buf addr len pd entry waiting =>
    obtain ⟨packets, queued⟩ := enqueue_packets pd buf addr len
    rw [queued]
    refine .kept rfl ?_ nofun
    rintro pd' ⟨⟩ started
    exact ⟨pd, entry, started, rfl⟩
  | @attempted buf addr len pd sent _ entry established attempt =>
    cases sends_attempt entry attempt with
    | idle packets entry' relays =>
      refine .kept relays ?_ nofun
      intro pd' found started
      obtain rfl := Option.some_inj.mp (entry'.symm.trans found)
      exact ⟨pd, entry, started, rfl⟩
    | starts notStarted packets op accepted op_starts entry' relays noted =>
      exact .started pd _ entry op accepted op_starts entry' rfl relays noted nofun
  | @connectFailed op data error armed failed =>
    exact .kept (erased op (connect op armed)) (fun _ => nofun)
      (completes _ _ _ (connect op armed))
  | @connectIgnored op data armed entry =>
    exact .same (erased op (connect op armed)) rfl (completes _ _ _ (connect op armed))
  | @greeted op data pd armed entry sent accepted op' starts =>
    refine .kept (erased op (connect op armed)) ?_ (completes _ _ _ (connect op armed))
    rintro pd' ⟨⟩ started
    cases sent with
    | true => exact ⟨pd, entry, started, rfl⟩
    | false => exact ⟨pd, entry, started, rfl⟩
  | @controlEnded op data error armed =>
    exact .same (erased op (control op armed)) rfl (completes _ _ _ (control op armed))
  | @controlData op data reply error _ armed nonempty switch accepted =>
    exact receiveChange_switch (control op armed) switch
  | @relayEnded op data error armed => exact .ended op data error rfl armed rfl rfl rfl
  | @relayData op data reply error armed nonempty accepted =>
    exact .rearmed op data error rfl armed rfl reply accepted rfl (List.append_assoc ..)

end Change

section Step
variable {os : Os} {config : Config} {w w' : World} {id : EndpointId}

theorem receives_iff {op : Operation} : Receives w op ↔ op ∈ (link w op.pov.1).relays := Iff.rfl

theorem apart_link (w : World) (id : EndpointId) : Apart id (link w id) := by
  have typed : ∀ op ∈ armed w id .ovtUdpReceive, ∀ type, op ∈ armed w id type →
      type = .ovtUdpReceive := by
    intro op relay type other
    have first := (mem_armed.mp relay).2.2.2
    have second := (mem_armed.mp other).2.2.2
    exact Option.some_inj.mp (second.symm.trans first)
  refine ⟨fun op => own_of_armed, fun op relay other => ?_, fun op relay other => ?_⟩
  · exact absurd (typed op relay _ other) nofun
  · exact absurd (typed op relay _ other) nofun

theorem relays_nodup (owned : Owned w []) (id : EndpointId) : (link w id).relays.Nodup :=
  (List.Nodup.of_map _ owned.once).filter _

/-- What a completion brings, with at most the size of the buffer. -/
def transferred (w : World) (op : Operation) (data : Bytes) : Bytes :=
  data.take ((w.ovData op.pov).elim 0 fun ov => ov.buffer.length)

/-- What has happened at the endpoint of a relay receive when it is issued again. -/
def historyAt (w : World) (op : Operation) (data : Bytes) : List Action :=
  let buffer := (w.ovData op.pov).elim [] OvData.buffer
  let brought := transferred w op data
  w.history op.pov.1 ++ .received .ovtUdpReceive brought ::
    (relayedDatagram (overwrite buffer brought) brought.length).toList.map .onUdpReceiveComplete

/-- The condition under which a step leaves the loops going. -/
structure GoesOn (os : Os) (config : Config) (w : World) (e : Event) : Prop where
  /-- A receive on the relay socket of a connection that has started to receive completes
  with at least one byte, and the `WSARecvFrom` that follows is accepted. -/
  completes : ∀ op data error, e = .complete op data error → Receives w op →
    Listening w op.socket →
    transferred w op data ≠ [] ∧
      os.accepts op.pov.1 (historyAt w op data) (.wsaRecvFrom op.socket) = true
  /-- The first `WSARecvFrom` of a connection, which may come anywhere in a flush, is accepted,
  and no other receive is outstanding on its socket. -/
  starts : (∀ op data error, e = .complete op data error → ¬ Receives w op) →
    ∀ id s accepted,
      .receiveFrom s accepted ∈ newNotes (link w id) (link (step os config w e) id) →
      accepted = true ∧ ∀ op, Receives w op → op.socket ≠ s

/-- The handler gets what fits into the buffer. -/
theorem step_completed (owned : Owned w []) {op : Operation} {type : OvType}
    (armed : op ∈ armed w op.pov.1 type) (receives : type.receives = true) (data : Bytes)
    (error : Nat) : ∃ buffer, w.ovData op.pov = some ⟨op.pov.1, type, buffer⟩ ∧
      step os config w (.complete op data error) =
        handled os config w op ⟨op.pov.1, type, buffer⟩ (transferred w op data) error := by
  obtain ⟨pending, _, direct, typed⟩ := mem_armed.mp armed
  obtain ⟨⟨id, type', buffer⟩, stored, same⟩ := Option.map_eq_some_iff.mp typed
  obtain rfl : id = op.pov.1 := owned.named op.pov _ stored
  obtain rfl : type' = type := same
  have stored' : (w.removePending op).ovData op.pov = some ⟨op.pov.1, type', buffer⟩ := stored
  have brought : transferred w op data = data.take buffer.length := by
    rw [transferred, stored]
    rfl
  refine ⟨buffer, stored, ?_⟩
  simp only [step, complete, if_pos pending, dispatch, stored', direct, receives, handled, brought,
    Bool.false_eq_true, if_false, if_true]

/-- A receive that completes is noted with what it brings. -/
theorem notes_completed (owned : Owned w []) {op : Operation} {type : OvType}
    (armed : op ∈ armed w op.pov.1 type) (receives : type.receives = true) (data : Bytes)
    (error : Nat) : ∃ more, (link (step os config w (.complete op data error)) op.pov.1).notes =
      (link w op.pov.1).notes ++ .received type (transferred w op data) :: more := by
  obtain ⟨buffer, _, completed⟩ := @step_completed os config w owned op type armed receives data
    error
  let ov : OvData := ⟨op.pov.1, type, overwrite buffer (transferred w op data)⟩
  obtain ⟨more, grown⟩ := grows_onComplete os config
    (((w.removePending op).setOv op.pov (some ov)).record op.pov.1
      (.received type (transferred w op data)))
    op.socket (transferred w op data).length op.pov ov error
  refine ⟨(atIndex op.pov.1 more).filterMap note, ?_⟩
  have log : (step os config w (.complete op data error)).log =
      w.log ++ (op.pov.1, .received type (transferred w op data)) :: more := by
    rw [completed, handled, ← grown]
    exact List.append_assoc ..
  simp only [link, notes, view, World.history, log, atIndex_append, atIndex_cons_self,
    List.filterMap_append]
  rfl

/-- A receive that is noted to have ended has brought nothing. -/
theorem transferred_ended (owned : Owned w []) {op : Operation} {type : OvType}
    (armed : op ∈ armed w op.pov.1 type) (receives : type.receives = true) {data : Bytes}
    {error : Nat} (ended : (link (step os config w (.complete op data error)) op.pov.1).notes =
      (link w op.pov.1).notes ++ [.received type []]) : transferred w op data = [] := by
  obtain ⟨more, brought⟩ := @notes_completed os config w owned op _ armed receives data error
  rw [ended] at brought
  have first := List.append_cancel_left brought
  simp only [List.cons.injEq, Note.received.injEq, true_and] at first
  exact first.1.symm

theorem grows_rearmed (os : Os) (w : World) (socket : Socket) (id : EndpointId) (pov : Pov)
    (ov : OvData) : Grows (invoke os w id (.wsaRecvFrom socket)).1
      (rearmUdpReceive os w socket id pov ov) := by
  simp only [rearmUdpReceive]
  split
  · exact .refl _
  · exact grows_postClosed os _ socket pov ov

/-- A relay receive that brings something is issued again. -/
theorem step_rearmed (owned : Owned w []) {op : Operation}
    (armed : op ∈ armed w op.pov.1 .ovtUdpReceive) {data : Bytes}
    (brings : transferred w op data ≠ []) (error : Nat) :
    ∃ w₁ ov, step os config w (.complete op data error) =
        rearmUdpReceive os w₁ op.socket op.pov.1 op.pov ov ∧
      w₁.history op.pov.1 = historyAt w op data := by
  obtain ⟨buffer, stored, completed⟩ := @step_completed os config w owned op _ armed rfl data error
  let brought := transferred w op data
  let ov : OvData := ⟨op.pov.1, .ovtUdpReceive, overwrite buffer brought⟩
  let w₀ := ((w.removePending op).setOv op.pov (some ov)).record op.pov.1
    (.received .ovtUdpReceive brought)
  have nonempty : (transferred w op data).length ≠ 0 :=
    fun none => brings (List.length_eq_zero_iff.mp none)
  obtain ⟨w₁, rearmed, log⟩ : ∃ w₁, step os config w (.complete op data error) =
        rearmUdpReceive os w₁ op.socket op.pov.1 op.pov ov ∧
      w₁.log = w.log ++ (.received .ovtUdpReceive brought ::
        (relayedDatagram ov.buffer brought.length).toList.map .onUdpReceiveComplete).map
          (Prod.mk op.pov.1) := by
    rw [completed]
    simp only [handled, onComplete, onUdpReceiveComplete, if_neg nonempty]
    cases relayedDatagram ov.buffer brought.length with
    | none => exact ⟨w₀, rfl, rfl⟩
    | some d => exact ⟨w₀.record op.pov.1 (.onUdpReceiveComplete d), rfl, List.append_assoc ..⟩
  refine ⟨w₁, ov, rearmed, ?_⟩
  simp only [World.history, log, atIndex_append, atIndex_map_self, historyAt, stored]
  rfl

/-- The answer that a relay receive gets when it is issued again. -/
theorem notes_rearmed (owned : Owned w []) {op : Operation}
    (armed : op ∈ armed w op.pov.1 .ovtUdpReceive) {data : Bytes}
    (brings : transferred w op data ≠ []) (error : Nat) :
    ∃ more, (link (step os config w (.complete op data error)) op.pov.1).notes =
      (link w op.pov.1).notes ++ .received .ovtUdpReceive (transferred w op data) ::
        .receiveFrom op.socket
          (os.accepts op.pov.1 (historyAt w op data) (.wsaRecvFrom op.socket)) :: more := by
  obtain ⟨w₁, ov, rearmed, history⟩ := @step_rearmed os config w owned op armed data brings error
  obtain ⟨more, grown⟩ := grows_rearmed os w₁ op.socket op.pov.1 op.pov ov
  have after : (step os config w (.complete op data error)).history op.pov.1 =
      historyAt w op data ++ .call (.wsaRecvFrom op.socket)
        (os.accepts op.pov.1 (historyAt w op data) (.wsaRecvFrom op.socket)) ::
          atIndex op.pov.1 more := by
    rw [rearmed, World.history, ← grown, invoke, history, World.record, atIndex_append,
      atIndex_append, atIndex_cons_self, atIndex_nil, ← history, World.history, List.append_assoc]
    rfl
  refine ⟨(atIndex op.pov.1 more).filterMap note, ?_⟩
  have hidden : ∀ d : Option Delivery,
      (d.toList.map Action.onUdpReceiveComplete).filterMap note = [] := by
    rintro (_ | _) <;> rfl
  simp only [link, notes, view, after]
  simp only [historyAt, List.filterMap_append, List.filterMap_cons, note, hidden, List.append_assoc]
  rfl

/-- The receives of all endpoints after a step, from those of its own endpoint. -/
theorem receives_step (owned : Owned w []) {e : Event} {op : Operation} :
    Receives (step os config w e) op ↔
      if op.pov.1 = endpoint e then op ∈ (link (step os config w e) (endpoint e)).relays
      else Receives w op := by
  split
  · rename_i own
    rw [receives_iff, own]
  · rename_i other
    rw [receives_iff, receives_iff, link_elsewhere os config owned (Ne.symm other)]

/-- What holds of the entries after a step: the endpoint's own may have changed. -/
theorem entry_step (owned : Owned w []) {e : Event} {j : EndpointId} {pd : ProxyData}
    (found : (step os config w e).socketMap j = some pd) :
    (j = endpoint e ∧ (link (step os config w e) (endpoint e)).entry = some pd) ∨
      (j ≠ endpoint e ∧ w.socketMap j = some pd) := by
  by_cases own : j = endpoint e
  · exact Or.inl ⟨own, own ▸ found⟩
  · have same : (link (step os config w e) j).entry = (link w j).entry :=
      congrArg Link.entry (link_elsewhere os config owned (Ne.symm own))
    exact Or.inr ⟨own, same.symm.trans found⟩

/-- A receive on a socket that nobody listens on may go. -/
theorem LoopAlive.removed {op : Operation} (alive : LoopAlive w)
    (entries : ∀ j pd, w'.socketMap j = some pd → w.socketMap j = some pd)
    (receives : ∀ op', Receives w' op' ↔ Receives w op' ∧ op' ≠ op)
    (deaf : ¬ Listening w op.socket) : LoopAlive w' := by
  intro j pd found started
  obtain ⟨op₀, ⟨receiving, socket⟩, unique⟩ := alive j pd (entries j pd found) started
  have other : op₀ ≠ op := by
    rintro rfl
    exact deaf ⟨j, pd, entries j pd found, started, socket.symm⟩
  refine ⟨op₀, ⟨(receives op₀).mpr ⟨receiving, other⟩, socket⟩, ?_⟩
  rintro op' ⟨receiving', socket'⟩
  exact unique op' ⟨((receives op').mp receiving').1, socket'⟩

/-- The receives stay as they are, and nobody starts to listen. -/
theorem LoopAlive.same (alive : LoopAlive w)
    (entries : ∀ j pd', w'.socketMap j = some pd' → pd'.udpRecvStarted = true →
      ∃ pd, w.socketMap j = some pd ∧ pd.udpRecvStarted = true ∧ pd.udpSocket = pd'.udpSocket)
    (receives : ∀ op, Receives w' op ↔ Receives w op) : LoopAlive w' := by
  intro j pd' found started
  obtain ⟨pd, before, started', socket⟩ := entries j pd' found started
  obtain ⟨op, ⟨receiving, on⟩, unique⟩ := alive j pd before started'
  refine ⟨op, ⟨(receives op).mpr receiving, on.trans socket⟩, ?_⟩
  rintro op' ⟨receiving', on'⟩
  exact unique op' ⟨(receives op').mp receiving', on'.trans socket.symm⟩

theorem receives_erased (owned : Owned w []) {e : Event} {op : Operation}
    (armed : op ∈ (link w (endpoint e)).relays)
    (relays : (link (step os config w e) (endpoint e)).relays =
      (link w (endpoint e)).relays.erase op) (op' : Operation) :
    Receives (step os config w e) op' ↔ Receives w op' ∧ op' ≠ op := by
  rw [receives_step owned, relays]
  split
  · rename_i own
    rw [receives_iff, own, (relays_nodup owned (endpoint e)).mem_erase_iff, and_comm]
  · rename_i elsewhere
    rw [iff_self_and]
    rintro _ rfl
    exact elsewhere (own_of_armed armed)

theorem loopAlive_step (owned : Owned w []) (alive : LoopAlive w) {e : Event}
    (goes : GoesOn os config w e) : LoopAlive (step os config w e) := by
  have unchanged : (link (step os config w e) (endpoint e)).entry = (link w (endpoint e)).entry →
      ∀ j pd, (step os config w e).socketMap j = some pd → w.socketMap j = some pd := by
    intro same j pd found
    obtain ⟨rfl, own⟩ | ⟨_, before⟩ := entry_step owned found
    · exact same.symm.trans own
    · exact before
  cases receiveChange (apart_link w (endpoint e)) (link_step os config owned e (endpoint e)) with
  | kept relays entries other =>
    refine alive.same ?_ fun op => ?_
    · intro j pd' found started
      obtain ⟨rfl, own⟩ | ⟨_, before⟩ := entry_step owned found
      · exact entries pd' own started
      · exact ⟨pd', before, started, rfl⟩
    · rw [receives_step owned, relays]
      split
      · rename_i own
        rw [receives_iff, own]
      · exact Iff.rfl
  | started pd pd' entry op accepted op_starts entry' socket relays noted other =>
    have silent : ∀ op data error, e = .complete op data error → ¬ Receives w op := by
      rintro op data error rfl
      exact other op data error rfl
    obtain ⟨rfl, free⟩ := goes.starts silent (endpoint e) pd.udpSocket accepted noted
    have receives : ∀ op', Receives (step os config w e) op' ↔ Receives w op' ∨ op' = op := by
      intro op'
      rw [receives_step owned, relays, if_pos rfl]
      split
      · rename_i own
        rw [receives_iff, own, List.mem_append, List.mem_singleton]
      · rename_i elsewhere
        rw [or_iff_left]
        rintro rfl
        exact elsewhere op_starts.own
    intro j pd'' found started
    obtain ⟨rfl, own⟩ | ⟨_, before⟩ := entry_step owned found
    · obtain rfl := Option.some_inj.mp (entry'.symm.trans own)
      refine ⟨op, ⟨(receives op).mpr (Or.inr rfl), op_starts.socket.trans socket.symm⟩, ?_⟩
      rintro op' ⟨receiving, on⟩
      rcases (receives op').mp receiving with old | new
      · exact absurd (on.trans socket) (free op' old)
      · exact new
    · obtain ⟨op₀, ⟨receiving₀, on₀⟩, unique⟩ := alive j pd'' before started
      refine ⟨op₀, ⟨(receives op₀).mpr (Or.inl receiving₀), on₀⟩, ?_⟩
      rintro op' ⟨receiving, on⟩
      rcases (receives op').mp receiving with old | rfl
      · exact unique op' ⟨old, on⟩
      · exact absurd (on₀.trans (on.symm.trans op_starts.socket)) (free op₀ receiving₀)
  | ended op data error event armed entries relays noted =>
    have own := own_of_armed armed
    have receiving : Receives w op := by rw [receives_iff, own]; exact armed
    refine alive.removed (unchanged entries) (receives_erased owned armed relays) ?_
    intro listening
    obtain ⟨brings, _⟩ := goes.completes op data error event receiving listening
    rw [← own, event] at noted
    exact brings (transferred_ended owned receiving rfl noted)
  | rearmed op data error event armed entries reply accepted relays noted =>
    have own := own_of_armed armed
    have receiving : Receives w op := by rw [receives_iff, own]; exact armed
    cases accepted with
    | true =>
      refine alive.same (fun j pd found started => ?_) fun op' => ?_
      · exact ⟨pd, unchanged entries j pd found, started, rfl⟩
      · rw [receives_step owned, relays, if_pos rfl]
        split
        · rename_i own'
          have nodup := relays_nodup owned (endpoint e)
          rw [receives_iff, own', List.mem_append, nodup.mem_erase_iff, List.mem_singleton]
          constructor
          · rintro (⟨_, old⟩ | rfl)
            · exact old
            · exact armed
          · intro old
            by_cases same : op' = op
            · exact Or.inr same
            · exact Or.inl ⟨same, old⟩
        · exact Iff.rfl
    | false =>
      refine alive.removed (unchanged entries) (receives_erased owned armed relays) ?_
      intro listening
      obtain ⟨brings, accepts⟩ := goes.completes op data error event receiving listening
      obtain ⟨more, answered⟩ := @notes_rearmed os config w owned op receiving data brings error
      rw [accepts, own, ← event, noted] at answered
      have answers := List.append_cancel_left answered
      simp at answers

end Step

section Runs
variable (os : Os) (config : Config)

variable {os config}

/-- In every run whose steps let the receives go on, every loop is alive all the time. -/
theorem loopAlive_run {evs : List Event}
    (goes : (machine os config).Throughout (GoesOn os config) World.initial evs) :
    ∀ front back, evs = front ++ back →
      LoopAlive ((machine os config).run World.initial front) := by
  intro front back split
  have preserves : ∀ w e, Owned w [] ∧ LoopAlive w → GoesOn os config w e →
      Owned (step os config w e) [] ∧ LoopAlive (step os config w e) :=
    fun w e inv goes => ⟨owned_step os config inv.1 e, loopAlive_step inv.1 inv.2 goes⟩
  have initial : Owned World.initial [] ∧ LoopAlive World.initial :=
    ⟨Owned.initial, fun _ _ => nofun⟩
  exact (goes.invariant (I := fun w => Owned w [] ∧ LoopAlive w) preserves initial split).2

/-- A step before any receive was issued, which issues one at most. -/
theorem goesOn_of_quiet {w w' : World} {e : Event} (owned : Owned w [])
    (after : step os config w e = w')
    (quiet : w.pending.filter (fun op => op.queued = false ∧
      (w.ovData op.pov).map OvData.type = some .ovtUdpReceive) = [])
    (news : List Note) (noted : newNotes (link w (endpoint e)) (link w' (endpoint e)) = news)
    (accepts : ∀ s, .receiveFrom s false ∉ news) : GoesOn os config w e := by
  subst after noted
  have none : ∀ op, ¬ Receives w op := by
    intro op receiving
    obtain ⟨pending, _, direct, typed⟩ := mem_armed.mp receiving
    exact List.filter_eq_nil_iff.mp quiet op pending (decide_eq_true ⟨direct, typed⟩)
  refine ⟨fun op data error _ receiving => absurd receiving (none op), ?_⟩
  intro _ id s accepted noted
  refine ⟨?_, fun op receiving => absurd receiving (none op)⟩
  by_cases own : endpoint e = id
  · subst own
    cases accepted with
    | true => rfl
    | false => exact absurd noted (accepts s)
  · rw [link_elsewhere os config owned own, newNotes_append (List.append_nil _).symm] at noted
    exact absurd noted List.not_mem_nil

end Runs

section EmptyDatagram

/-- A client without a user name. -/
def anonymousConfig : Config := ⟨Address.zero, 16, [], []⟩

/-- Port 53 of 8.8.8.8. -/
def destination : Address := Address.zero.write [2, 0, 0, 53, 8, 8, 8, 8]

def methodNone : Bytes := [socks5, s5amNone]

/-- The relay listens on port 0x1234. -/
def relayOpened : Bytes :=
  [socks5, 0, 0, socks5AddrIpv4] ++ [0, 0, 0, 0] ++ [0x12, 0x34]

def selectedRun : List Event :=
  Handshake.greetedRun ++ [.complete ⟨(7, 2), 0, false⟩ methodNone 0]

/-- The handshake of endpoint 7. -/
def establishingRun : List Event := selectedRun ++ [.complete ⟨(7, 2), 0, false⟩ relayOpened 0]

/-- After the first datagram the relay replies with one that has no byte. -/
def emptyDatagramRun : List Event :=
  establishingRun ++ [.udpSend 7 [1] destination 16] ++ [.complete ⟨(7, 5), 1, false⟩ [] 0]

def greetedWorld : World :=
  (machine acceptingOs anonymousConfig).run World.initial Handshake.greetedRun

def freshOv (type : OvType) : OvData := ⟨7, type, List.replicate packetSize 0⟩

def selectedWorld : World :=
  handled acceptingOs anonymousConfig greetedWorld ⟨(7, 2), 0, false⟩ (freshOv .ovtTcpReceive)
    methodNone 0

def selectedOv : OvData :=
  { freshOv .ovtTcpReceive with buffer := overwrite (freshOv .ovtTcpReceive).buffer methodNone }

def establishedWorld : World :=
  handled acceptingOs anonymousConfig selectedWorld ⟨(7, 2), 0, false⟩ selectedOv relayOpened 0

def listeningWorld : World :=
  step acceptingOs anonymousConfig establishedWorld (.udpSend 7 [1] destination 16)

def deafWorld : World :=
  handled acceptingOs anonymousConfig listeningWorld ⟨(7, 5), 1, false⟩ (freshOv .ovtUdpReceive)
    [] 0

theorem freshOv_length (type : OvType) : (freshOv type).buffer.length = packetSize :=
  List.length_replicate

theorem selectedOv_length : selectedOv.buffer.length = packetSize := by
  have room : methodNone.length ≤ (freshOv .ovtTcpReceive).buffer.length := by
    rw [freshOv_length]
    exact (show 2 ≤ 65536 by omega)
  exact (overwrite_length room).trans (freshOv_length .ovtTcpReceive)

theorem methodNone_selects :
    step acceptingOs anonymousConfig greetedWorld (.complete ⟨(7, 2), 0, false⟩ methodNone 0) =
      selectedWorld := by
  have armed : (⟨(7, 2), 0, false⟩ : Operation) ∈ greetedWorld.pending := by decide +kernel
  have room : methodNone.length ≤ (freshOv .ovtTcpReceive).buffer.length := by
    rw [freshOv_length]
    exact (show 2 ≤ 65536 by omega)
  exact step_receive acceptingOs anonymousConfig armed rfl rfl rfl room 0

theorem relayOpened_establishes :
    step acceptingOs anonymousConfig selectedWorld (.complete ⟨(7, 2), 0, false⟩ relayOpened 0) =
      establishedWorld := by
  have rearmed : (⟨(7, 2), 0, false⟩ : Operation) ∈ selectedWorld.pending := by decide +kernel
  have room' : relayOpened.length ≤ selectedOv.buffer.length := by
    rw [selectedOv_length]
    exact (show 10 ≤ 65536 by omega)
  exact step_receive acceptingOs anonymousConfig rearmed rfl rfl rfl room' 0

theorem run_selected :
    (machine acceptingOs anonymousConfig).run World.initial selectedRun = selectedWorld := by
  rw [selectedRun, Handshake.run_concat]
  exact methodNone_selects

theorem run_establishing :
    (machine acceptingOs anonymousConfig).run World.initial establishingRun = establishedWorld := by
  rw [establishingRun, Handshake.run_concat, run_selected]
  exact relayOpened_establishes

theorem run_emptyDatagram :
    (machine acceptingOs anonymousConfig).run World.initial emptyDatagramRun = deafWorld := by
  have armed : (⟨(7, 5), 1, false⟩ : Operation) ∈ listeningWorld.pending := by decide +kernel
  have heard : step acceptingOs anonymousConfig listeningWorld
      (.complete ⟨(7, 5), 1, false⟩ [] 0) = deafWorld :=
    step_receive acceptingOs anonymousConfig armed rfl rfl rfl (Nat.zero_le _) 0
  rw [emptyDatagramRun, Handshake.run_concat, Handshake.run_concat, run_establishing]
  exact heard

/-- A datagram without bytes ends the receive of a connection that goes on sending. -/
theorem empty_datagram_deafens :
    ¬ LoopAlive ((machine acceptingOs anonymousConfig).run World.initial emptyDatagramRun) := by
  rw [run_emptyDatagram]
  intro alive
  have entry : (deafWorld.socketMap 7).map ProxyData.udpRecvStarted = some true := by
    decide +kernel
  obtain ⟨pd, found, started⟩ := Option.map_eq_some_iff.mp entry
  obtain ⟨op, ⟨receiving, _⟩, _⟩ := alive 7 pd found started
  obtain ⟨pending, _, direct, typed⟩ := mem_armed.mp receiving
  have none : deafWorld.pending.filter (fun op => op.queued = false ∧
      (deafWorld.ovData op.pov).map OvData.type = some .ovtUdpReceive) = [] := by decide +kernel
  have present := List.filter_eq_nil_iff.mp none op pending
  exact present (decide_eq_true ⟨direct, typed⟩)

def Goes (evs : List Event) : Prop :=
  (machine acceptingOs anonymousConfig).Throughout (GoesOn acceptingOs anonymousConfig)
    World.initial evs

/-- The handshake and the first datagram let the receive go on. -/
theorem listening_alive :
    LoopAlive ((machine acceptingOs anonymousConfig).run World.initial
      (establishingRun ++ [.udpSend 7 [1] destination 16])) := by
  have owned := owned_run acceptingOs anonymousConfig
  have none : Goes [] := .nil _ _
  have created : Goes [.createProxyConnection 7] :=
    none.concat (goesOn_of_quiet (owned []) rfl rfl [.created] (by decide +kernel) (by simp))
  have greeted : Goes Handshake.greetedRun :=
    created.concat (goesOn_of_quiet (owned _) rfl (by decide +kernel)
      [.sent (socks5AuthRequest s5amNone) true, .receive 0 true] (by decide +kernel) (by simp))
  have selected : Goes selectedRun :=
    greeted.concat (goesOn_of_quiet (owned _) methodNone_selects (by decide +kernel)
      [.received .ovtTcpReceive methodNone, .sent udpAssociateRequest true, .receive 0 true]
      (by decide +kernel) (by simp))
  have established : Goes establishingRun := by
    refine selected.concat ?_
    have owned' := owned selectedRun
    rw [run_selected] at owned' ⊢
    exact goesOn_of_quiet owned' relayOpened_establishes (by decide +kernel)
      [.received .ovtTcpReceive relayOpened, .receive 0 true] (by decide +kernel) (by simp)
  have listening : Goes (establishingRun ++ [.udpSend 7 [1] destination 16]) := by
    refine established.concat ?_
    have owned' := owned establishingRun
    rw [run_establishing] at owned' ⊢
    exact goesOn_of_quiet owned' rfl (by decide +kernel)
      [.datagram (encapsulate [1] destination) true, .receiveFrom 1 true] (by decide +kernel)
      (by simp)
  exact loopAlive_run listening _ [] (List.append_nil _).symm

end EmptyDatagram

end ReceiveLoop
