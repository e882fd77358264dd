import QvNetfilter.ControlChannel
import QvNetfilter.ControlReceive
import QvNetfilter.Endpoints

/-!
# One endpoint's connection

The link of an endpoint is its entry in `m_socketMap`, its armed operations and
the calls that decide its course. A step of the proxy can change a link in a few
ways only; they are listed once, in `LinkStep`, and the invariants of the
connections are derived from that list.
-/

namespace Links

open Memory Socks Mealy UdpProxy UdpHistory Ownership Endpoints ControlChannel ControlReceive

/-- The actions of an endpoint that its course depends on. -/
inductive Note where
  | created
  | received (type : OvType) (data : Bytes)
  | sent (message : Bytes) (accepted : Bool)
  | datagram (bytes : Bytes) (accepted : Bool)
  | receive (s : Socket) (accepted : Bool)
  | receiveFrom (s : Socket) (accepted : Bool)
deriving DecidableEq

def note : Action → Option Note
  | .created => some .created
  | .received type data => some (.received type data)
  | .call (.wsaSend _ buf) accepted => some (.sent buf accepted)
  | .call (.wsaSendTo _ buf _ _) accepted => some (.datagram buf accepted)
  | .call (.wsaRecv s) accepted => some (.receive s accepted)
  | .call (.wsaRecvFrom s) accepted => some (.receiveFrom s accepted)
  | _ => none

def notes (w : World) (id : EndpointId) : List Note := view note w id

/-- The outstanding operations of an endpoint with an `OV_DATA` of one type; a posted
completion is none. -/
def armed (w : World) (id : EndpointId) (type : OvType) : List Operation :=
  w.pending.filter fun op =>
    op.pov.1 = id ∧ op.queued = false ∧ (w.ovData op.pov).map OvData.type = some type

@[ext] structure Link where
  notes : List Note
  entry : Option ProxyData
  connects : List Operation
  controls : List Operation
  relays : List Operation

def link (w : World) (id : EndpointId) : Link where
  notes := notes w id
  entry := w.socketMap id
  connects := armed w id .ovtConnect
  controls := armed w id .ovtTcpReceive
  relays := armed w id .ovtUdpReceive

namespace Link

def note (l : Link) (n : Note) : Link := { l with notes := l.notes ++ [n] }

def setEntry (l : Link) (entry : Option ProxyData) : Link := { l with entry := entry }

/-- The operation completes. -/
def disarm (l : Link) (op : Operation) : Link :=
  { l with
    connects := l.connects.erase op
    controls := l.controls.erase op
    relays := l.relays.erase op }

/-- The operation is pending on an `OV_DATA` of the type; sends are not followed. -/
def arm (l : Link) (type : OvType) (op : Operation) : Link :=
  match type with
  | .ovtConnect => { l with connects := l.connects ++ [op] }
  | .ovtTcpReceive => { l with controls := l.controls ++ [op] }
  | .ovtUdpReceive => { l with relays := l.relays ++ [op] }
  | _ => l

/-- `startTcpReceive` on the operation's socket. -/
def receive (l : Link) (op : Operation) (accepted : Bool) : Link :=
  { l with
    notes := l.notes ++ [.receive op.socket accepted]
    controls := if accepted then l.controls ++ [op] else l.controls }

/-- `startUdpReceive` on the operation's socket. -/
def receiveFrom (l : Link) (op : Operation) (accepted : Bool) : Link :=
  { l with
    notes := l.notes ++ [.receiveFrom op.socket accepted]
    relays := if accepted then l.relays ++ [op] else l.relays }

/-- A message on the control connection, which moves the state if it is accepted. -/
def answer (l : Link) (pd : ProxyData) (message : Bytes) (next : ProxyState) (accepted : Bool) :
    Link :=
  { l with
    notes := l.notes ++ [.sent message accepted]
    entry := some (if accepted then { pd with proxyState := next } else pd) }

end Link

/-- An operation that is new at the endpoint. -/
structure Starts (id : EndpointId) (socket : Socket) (op : Operation) : Prop where
  own : op.pov.1 = id
  socket : op.socket = socket
  direct : op.queued = false

section Attempts

/-- One `WSASendTo` on the relay socket, with the answer that `udpSend` gives. -/
inductive Attempt (id : EndpointId) (pd : ProxyData) (bytes : Bytes) (l : Link) :
    Bool → Link → Prop where
  | refused : Attempt id pd bytes l false (l.note (.datagram bytes false))
  | sent (started : pd.udpRecvStarted = true) :
      Attempt id pd bytes l true (l.note (.datagram bytes true))
  | first (notStarted : pd.udpRecvStarted = false) (op : Operation) (accepted : Bool)
      (starts : Starts id pd.udpSocket op) :
      Attempt id pd bytes l true (((l.note (.datagram bytes true)).setEntry
        (some { pd with udpRecvStarted := true })).receiveFrom op accepted)

/-- The flush of the queue: one attempt for each packet, in order. -/
inductive Flushed (id : EndpointId) : Link → Link → Prop where
  | done {l : Link} {pd : ProxyData} (entry : l.entry = some pd)
      (empty : pd.udpSendPackets = []) : Flushed id l l
  | next {l l₁ l₂ : Link} {pd pd₁ : ProxyData} {p : UdpPacket} {rest : List UdpPacket}
      {sent : Bool} (entry : l.entry = some pd) (queue : pd.udpSendPackets = p :: rest)
      (attempt : Attempt id pd (encapsulate p.buffer p.remoteAddress) l sent l₁)
      (left : l₁.entry = some pd₁)
      (flushed : Flushed id (l₁.setEntry (some { pd₁ with udpSendPackets := rest })) l₂) :
      Flushed id l l₂

/-- A note of the relay side. -/
def Note.relays : Note → Bool
  | .datagram _ _ => true
  | .receiveFrom _ _ => true
  | _ => false

/-- Nothing but the relay side of the connection has moved. -/
structure RelayOnly (l l' : Link) : Prop where
  connects : l'.connects = l.connects
  controls : l'.controls = l.controls
  notes : ∃ news, l'.notes = l.notes ++ news ∧ ∀ n ∈ news, n.relays = true

theorem RelayOnly.trans {l l₁ l₂ : Link} (first : RelayOnly l l₁) (second : RelayOnly l₁ l₂) :
    RelayOnly l l₂ := by
  obtain ⟨news, hnews, relays⟩ := first.notes
  obtain ⟨news', hnews', relays'⟩ := second.notes
  refine ⟨second.connects.trans first.connects, second.controls.trans first.controls,
    news ++ news', ?_, ?_⟩
  · rw [hnews', hnews, List.append_assoc]
  · intro n hn
    rcases List.mem_append.mp hn with h | h
    · exact relays n h
    · exact relays' n h

variable {id : EndpointId} {pd : ProxyData} {l l' : Link}

/-- An attempt leaves an entry that differs in `udpRecvStarted` only. -/
theorem Attempt.entry {bytes : Bytes} {sent : Bool} (attempt : Attempt id pd bytes l sent l')
    (entry : l.entry = some pd) :
    ∃ started, l'.entry = some { pd with udpRecvStarted := started } := by
  cases attempt with
  | refused => exact ⟨pd.udpRecvStarted, entry⟩
  | sent started => exact ⟨pd.udpRecvStarted, entry⟩
  | first notStarted op accepted starts => exact ⟨true, rfl⟩

theorem Attempt.relayOnly {bytes : Bytes} {sent : Bool} (attempt : Attempt id pd bytes l sent l') :
    RelayOnly l l' := by
  cases attempt with
  | refused => exact ⟨rfl, rfl, _, rfl, by simp [Note.relays]⟩
  | sent started => exact ⟨rfl, rfl, _, rfl, by simp [Note.relays]⟩
  | first notStarted op accepted starts =>
    exact ⟨rfl, rfl, [.datagram bytes true, .receiveFrom op.socket accepted],
      List.append_assoc _ _ _, by simp [Note.relays]⟩

/-- The flush empties the queue of the entry. -/
theorem Flushed.entry (flushed : Flushed id l l') (entry : l.entry = some pd) :
    ∃ started, l'.entry = some { pd with udpSendPackets := [], udpRecvStarted := started } := by
  induction flushed generalizing pd with
  | done entry' empty =>
    obtain rfl := Option.some_inj.mp (entry.symm.trans entry')
    exact ⟨pd.udpRecvStarted, by rw [← empty]; exact entry⟩
  | next entry' queue attempt left flushed ih =>
    obtain rfl := Option.some_inj.mp (entry.symm.trans entry')
    obtain ⟨started, left'⟩ := attempt.entry entry
    obtain rfl := Option.some_inj.mp (left.symm.trans left')
    obtain ⟨started', emptied⟩ := ih rfl
    exact ⟨started', emptied⟩

theorem Flushed.relayOnly (flushed : Flushed id l l') : RelayOnly l l' := by
  induction flushed with
  | done entry empty => exact ⟨rfl, rfl, [], (List.append_nil _).symm, by simp⟩
  | next entry queue attempt left flushed ih =>
    exact attempt.relayOnly.trans ⟨ih.connects, ih.controls, ih.notes⟩

/-- What the switch of `onTcpReceiveComplete` makes of a reply. -/
inductive Switch (config : Config) (id : EndpointId) (reply : Bytes) (l : Link) :
    Link → Prop where
  | silent : Switch config id reply l l
  | answered {pd : ProxyData} {message : Bytes} {next : ProxyState} (entry : l.entry = some pd)
      (answer : controlAnswer (core pd) reply = some (message, next)) (accepted : Bool) :
      Switch config id reply l (l.answer pd message next accepted)
  | connected {pd : ProxyData} {buffer addr : Bytes} {l' : Link} (entry : l.entry = some pd)
      (waiting : pd.proxyState = .psUdpAssoc)
      (relay : udpAssocReply config buffer reply.length = some addr)
      (flushed : Flushed id (l.setEntry (some { pd with
        remoteAddress := pd.remoteAddress.write addr
        remoteAddressLen := addr.length
        proxyState := .psConnected })) l') :
      Switch config id reply l l'

/-- A datagram that is queued changes the queue only. -/
theorem enqueue_packets (pd : ProxyData) (buf : Bytes) (remoteAddress : Address)
    (remoteAddressLen : Nat) :
    ∃ packets, enqueue pd buf remoteAddress remoteAddressLen =
      { pd with udpSendPackets := packets } := by
  simp only [enqueue]
  split
  · exact ⟨pd.udpSendPackets, rfl⟩
  · exact ⟨_, rfl⟩

/-- Everything that a step can do to an endpoint's link. -/
inductive LinkStep (config : Config) (id : EndpointId) (l : Link) : Event → Link → Prop where
  | elsewhere {e : Event} (other : endpoint e ≠ id) : LinkStep config id l e l
  | unarmed {op : Operation} {data : Bytes} {error : Nat} (connects : op ∉ l.connects)
      (controls : op ∉ l.controls) (relays : op ∉ l.relays) :
      LinkStep config id l (.complete op data error) l
  | notOpened : LinkStep config id l (.createProxyConnection id) l
  | notConnected :
      LinkStep config id l (.createProxyConnection id) ((l.note .created).setEntry none)
  | created (tcpSocket udpSocket : Socket) (op : Operation) (starts : Starts id tcpSocket op) :
      LinkStep config id l (.createProxyConnection id) (((l.note .created).setEntry
        (some (ProxyData.new config tcpSocket udpSocket))).arm .ovtConnect op)
  | deleted : LinkStep config id l (.deleteProxyConnection id) (l.setEntry none)
  | unknown {buf : Bytes} {addr : Address} {len : Nat} (entry : l.entry = none) :
      LinkStep config id l (.udpSend id buf addr len) l
  | queued {buf : Bytes} {addr : Address} {len : Nat} {pd : ProxyData} (entry : l.entry = some pd)
      (waiting : pd.proxyState ≠ .psConnected) :
      LinkStep config id l (.udpSend id buf addr len) (l.setEntry (some (enqueue pd buf addr len)))
  | attempted {buf : Bytes} {addr : Address} {len : Nat} {pd : ProxyData} {sent : Bool} {l' : Link}
      (entry : l.entry = some pd) (established : pd.proxyState = .psConnected)
      (attempt : Attempt id pd (encapsulate buf addr) l sent l') :
      LinkStep config id l (.udpSend id buf addr len) l'
  | connectFailed {op : Operation} {data : Bytes} {error : Nat} (armed : op ∈ l.connects)
      (failed : error ≠ 0) :
      LinkStep config id l (.complete op data error) ((l.disarm op).setEntry none)
  | connectIgnored {op : Operation} {data : Bytes} (armed : op ∈ l.connects)
      (entry : l.entry = none) : LinkStep config id l (.complete op data 0) (l.disarm op)
  | greeted {op : Operation} {data : Bytes} {pd : ProxyData} (armed : op ∈ l.connects)
      (entry : l.entry = some pd) (sent accepted : Bool) (op' : Operation)
      (starts : Starts id pd.tcpSocket op') :
      LinkStep config id l (.complete op data 0) (((l.disarm op).answer pd
        (socks5AuthRequest (offeredMethod pd.userName)) .psAuth sent).receive op' accepted)
  | controlEnded {op : Operation} {data : Bytes} {error : Nat} (armed : op ∈ l.controls) :
      LinkStep config id l (.complete op data error)
        ((l.disarm op).note (.received .ovtTcpReceive []))
  | controlData {op : Operation} {data reply : Bytes} {error : Nat} {l' : Link}
      (armed : op ∈ l.controls) (nonempty : reply ≠ [])
      (switch : Switch config id reply ((l.disarm op).note (.received .ovtTcpReceive reply)) l')
      (accepted : Bool) :
      LinkStep config id l (.complete op data error) (l'.receive op accepted)
  | relayEnded {op : Operation} {data : Bytes} {error : Nat} (armed : op ∈ l.relays) :
      LinkStep config id l (.complete op data error)
        ((l.disarm op).note (.received .ovtUdpReceive []))
  | relayData {op : Operation} {data reply : Bytes} {error : Nat} (armed : op ∈ l.relays)
      (nonempty : reply ≠ []) (accepted : Bool) :
      LinkStep config id l (.complete op data error)
        (((l.disarm op).note (.received .ovtUdpReceive reply)).receiveFrom op accepted)

/-- What was noted stays noted. -/
theorem LinkStep.notes_prefix {config : Config} {e : Event} (step : LinkStep config id l e l') :
    l.notes <+: l'.notes := by
  cases step with
  | elsewhere | unarmed | notOpened | unknown | deleted | queued | connectFailed
  | connectIgnored => exact List.prefix_refl _
  | notConnected | created | controlEnded | relayEnded => exact List.prefix_append _ _
  | attempted entry established attempt =>
    obtain ⟨news, added, _⟩ := attempt.relayOnly.notes
    exact ⟨news, added.symm⟩
  | greeted | relayData => exact (List.prefix_append _ _).trans (List.prefix_append _ _)
  | @controlData op data reply error l' armed nonempty switch accepted =>
    have received : l.notes <+: l.notes ++ [.received .ovtTcpReceive reply] :=
      List.prefix_append _ _
    cases switch with
    | silent => exact received.trans (List.prefix_append _ _)
    | answered =>
      exact (received.trans (List.prefix_append _ _)).trans (List.prefix_append _ _)
    | connected entry waiting relay flushed =>
      obtain ⟨news, added, _⟩ := flushed.relayOnly.notes
      have sent : l.notes ++ [.received .ovtTcpReceive reply] <+: l'.notes := ⟨news, added.symm⟩
      exact (received.trans sent).trans (List.prefix_append _ _)

/-- What two links of an endpoint, one step apart, have noted in between. -/
def newNotes (l l' : Link) : List Note := l'.notes.drop l.notes.length

theorem newNotes_append {news : List Note} (added : l'.notes = l.notes ++ news) :
    newNotes l l' = news := by
  rw [newNotes, added, List.drop_left]

theorem newNotes_within {l₁ l₂ : Link} {n : Note} (first : l.notes <+: l₁.notes)
    (last : l₂.notes <+: l'.notes) (noted : n ∈ newNotes l₁ l₂) (middle : l₁.notes <+: l₂.notes) :
    n ∈ newNotes l l' := by
  obtain ⟨before, hbefore⟩ := first
  obtain ⟨news, hnews⟩ := middle
  obtain ⟨after, hafter⟩ := last
  rw [newNotes_append hnews.symm] at noted
  have all : l'.notes = l.notes ++ (before ++ news ++ after) := by
    rw [← hafter, ← hnews, ← hbefore]
    simp only [List.append_assoc]
  rw [newNotes_append all]
  exact List.mem_append_left _ (List.mem_append_right _ noted)

end Attempts

section Gains

/-- The control and relay receives that a link has gained are on the sockets of its entry. -/
structure Gains (l l' : Link) : Prop where
  controls : ∀ op ∈ l'.controls, op ∈ l.controls ∨
    ∃ pd, l'.entry = some pd ∧ op.socket = pd.tcpSocket
  relays : ∀ op ∈ l'.relays, op ∈ l.relays ∨
    ∃ pd, l'.entry = some pd ∧ op.socket = pd.udpSocket

variable {config : Config} {id : EndpointId} {l l' : Link} {pd : ProxyData}

theorem Gains.none (controls : ∀ op ∈ l'.controls, op ∈ l.controls)
    (relays : ∀ op ∈ l'.relays, op ∈ l.relays) : Gains l l' where
  controls := fun op mem => Or.inl (controls op mem)
  relays := fun op mem => Or.inl (relays op mem)

theorem Gains.refl (l : Link) : Gains l l := .none (fun _ mem => mem) (fun _ mem => mem)

/-- What was under way before a receive completed may have been the receive itself. -/
theorem Gains.after_disarm {op : Operation} {n : Note} (gains : Gains ((l.disarm op).note n) l') :
    Gains l l' where
  controls := fun op' mem => (gains.controls op' mem).imp_left List.mem_of_mem_erase
  relays := fun op' mem => (gains.relays op' mem).imp_left List.mem_of_mem_erase

/-- A receive that is armed again is one that was under way. -/
theorem Gains.receive (gains : Gains l l') {op : Operation} (armed : op ∈ l.controls)
    (accepted : Bool) : Gains l (l'.receive op accepted) where
  controls := by
    intro op' mem
    cases accepted with
    | false => exact gains.controls op' mem
    | true =>
      rcases List.mem_append.mp mem with before | again
      · exact gains.controls op' before
      · exact Or.inl (List.mem_singleton.mp again ▸ armed)
  relays := gains.relays

theorem Attempt.gains {bytes : Bytes} {sent : Bool} (attempt : Attempt id pd bytes l sent l') :
    Gains l l' := by
  cases attempt with
  | refused | sent => exact .none (fun _ mem => mem) (fun _ mem => mem)
  | first notStarted op accepted starts =>
    refine ⟨fun _ mem => Or.inl mem, fun op' mem => ?_⟩
    cases accepted with
    | false => exact Or.inl mem
    | true =>
      rcases List.mem_append.mp mem with before | new
      · exact Or.inl before
      · exact Or.inr ⟨_, rfl, List.mem_singleton.mp new ▸ starts.socket⟩

/-- The relay receives that a flush has started are on the relay socket. -/
theorem Flushed.gained (flushed : Flushed id l l') (entry : l.entry = some pd) :
    ∀ op ∈ l'.relays, op ∈ l.relays ∨ op.socket = pd.udpSocket := by
  induction flushed generalizing pd with
  | done entry' empty => exact fun op mem => Or.inl mem
  | next entry' queue attempt left flushed ih =>
    obtain rfl := Option.some_inj.mp (entry.symm.trans entry')
    obtain ⟨started, left'⟩ := attempt.entry entry
    obtain rfl := Option.some_inj.mp (left.symm.trans left')
    intro op mem
    rcases ih rfl op mem with before | socket
    · rcases attempt.gains.relays op before with earlier | ⟨pd', found, socket⟩
      · exact Or.inl earlier
      · obtain rfl := Option.some_inj.mp (left'.symm.trans found)
        exact Or.inr socket
    · exact Or.inr socket

theorem Switch.gains {reply : Bytes} (switch : Switch config id reply l l') : Gains l l' := by
  cases switch with
  | silent => exact .refl l
  | answered entry answer accepted => exact .none (fun _ mem => mem) (fun _ mem => mem)
  | connected entry waiting relay flushed =>
    obtain ⟨started, left⟩ := flushed.entry rfl
    refine ⟨fun op mem => Or.inl (flushed.relayOnly.controls ▸ mem), fun op mem => ?_⟩
    rcases flushed.gained rfl op mem with before | socket
    · exact Or.inl before
    · exact Or.inr ⟨_, left, socket⟩

/-- A step arms receives on the sockets of the entry only. -/
theorem LinkStep.gains {e : Event} (step : LinkStep config id l e l') : Gains l l' := by
  cases step with
  | elsewhere | unarmed | notOpened | unknown => exact .refl l
  | notConnected | created | deleted | queued => exact .none (fun _ mem => mem) (fun _ mem => mem)
  | attempted entry established attempt => exact attempt.gains
  | connectFailed | connectIgnored | controlEnded | relayEnded =>
    exact .none (fun _ mem => List.mem_of_mem_erase mem) (fun _ mem => List.mem_of_mem_erase mem)
  | greeted armed entry sent accepted op' starts =>
    refine ⟨fun op mem => ?_, fun op mem => Or.inl (List.mem_of_mem_erase mem)⟩
    cases accepted with
    | false => exact Or.inl (List.mem_of_mem_erase mem)
    | true =>
      rcases List.mem_append.mp mem with before | new
      · exact Or.inl (List.mem_of_mem_erase before)
      · refine Or.inr ⟨_, rfl, ?_⟩
        rw [List.mem_singleton.mp new, starts.socket]
        split <;> rfl
  | controlData armed nonempty switch accepted =>
    exact switch.gains.after_disarm.receive armed accepted
  | relayData armed nonempty accepted =>
    refine ⟨fun op mem => Or.inl (List.mem_of_mem_erase mem), fun op mem => Or.inl ?_⟩
    cases accepted with
    | false => exact List.mem_of_mem_erase mem
    | true =>
      rcases List.mem_append.mp mem with before | again
      · exact List.mem_of_mem_erase before
      · exact List.mem_singleton.mp again ▸ armed

end Gains

section Worlds
variable {w : World} {held : List Pov} {id : EndpointId}

theorem armed_congr {w' : World} (pending : w'.pending = w.pending)
    (same : ∀ op ∈ w.pending, w'.ovData op.pov = w.ovData op.pov) (id : EndpointId)
    (type : OvType) : armed w' id type = armed w id type := by
  simp only [armed, pending]
  apply List.filter_congr
  intro op hop
  rw [same op hop]

theorem link_congr {w' : World} (pending : w'.pending = w.pending)
    (same : ∀ op ∈ w.pending, w'.ovData op.pov = w.ovData op.pov)
    (entry : w'.socketMap id = w.socketMap id) (history : notes w' id = notes w id) :
    link w' id = link w id := by
  simp only [link, entry, history, armed_congr pending same]

theorem link_record (id : EndpointId) {a : Action} {n : Note} (noted : note a = some n) :
    link (w.record id a) id = (link w id).note n := by
  have more : notes (w.record id a) id = notes w id ++ [n] := by
    rw [notes, view_record, shown_self, noted]
    rfl
  simp only [link, Link.note, more]
  rfl

theorem link_record_hidden (id : EndpointId) {a : Action} (hidden : note a = none) :
    link (w.record id a) id = link w id := by
  refine link_congr rfl (fun _ _ => rfl) rfl ?_
  rw [notes, view_record, shown_none hidden, List.append_nil]
  rfl

theorem link_setEntry (entry : Option ProxyData) :
    link (w.setEntry id entry) id = (link w id).setEntry entry := by
  simp [link, Link.setEntry, World.setEntry, armed, notes, view, World.history]

theorem link_setOv (owned : Owned w held) {pov : Pov} (holds : pov ∈ held) (ov : Option OvData) :
    link (w.setOv pov ov) id = link w id :=
  link_congr rfl (fun _ hop => Function.update_of_ne (owned.pov_ne_held holds hop) _ _) rfl rfl

theorem link_deleteOvData {pov : Pov} (owned : Owned w (pov :: held)) :
    link (w.deleteOvData pov) id = link w id :=
  link_setOv owned List.mem_cons_self none

theorem link_newOvData (owned : Owned w held) (ov : OvData) :
    link (w.newOvData ov).1 id = link w id := by
  refine link_congr rfl (fun op hop => Function.update_of_ne ?_ _ _) rfl rfl
  have present : op.pov ∈ held ++ outstanding w :=
    List.mem_append_right _ (List.mem_map_of_mem hop)
  intro same
  rw [same] at present
  exact owned.fresh ov present

theorem link_removePending (op : Operation) :
    link (w.removePending op) id = (link w id).disarm op := by
  simp only [link, Link.disarm, armed, List.erase_filter]
  rfl

theorem armed_addPending (op : Operation) (type : OvType) :
    armed (w.addPending op) id type = armed w id type ++
      if op.pov.1 = id ∧ op.queued = false ∧ (w.ovData op.pov).map OvData.type = some type
      then [op] else [] := by
  simp only [armed, World.addPending, List.filter_append]
  split <;> simp_all

/-- A posted completion arms nothing. -/
theorem link_post {op : Operation} (posted : op.queued = true) :
    link (w.addPending op) id = link w id := by
  have none : ∀ type, armed (w.addPending op) id type = armed w id type := by
    intro type
    rw [armed_addPending, if_neg (by simp [posted]), List.append_nil]
  simp only [link, none]
  rfl

theorem link_addPending {op : Operation} {ov : OvData} (own : op.pov.1 = id)
    (direct : op.queued = false) (hov : w.ovData op.pov = some ov) :
    link (w.addPending op) id = (link w id).arm ov.type op := by
  have added : ∀ type, armed (w.addPending op) id type =
      armed w id type ++ if ov.type = type then [op] else [] := by
    intro type
    rw [armed_addPending]
    simp [own, direct, hov]
  simp only [link, added]
  cases ov.type <;> simp [Link.arm, notes, view, World.history, World.addPending]

end Worlds

section Starts
variable (os : Os) {w : World} {held : List Pov} {id : EndpointId}

theorem link_invoke (w : World) (id : EndpointId) {c : Call} {n : Note}
    (noted : note (.call c (invoke os w id c).2) = some n) :
    link (invoke os w id c).1 id = (link w id).note n :=
  link_record id noted

theorem link_invoke_hidden (w : World) (id : EndpointId) {c : Call} (hidden : Hidden note c) :
    link (invoke os w id c).1 id = link w id :=
  link_record_hidden id (hidden _)

theorem link_postClosed {pov : Pov} (owned : Owned w (pov :: held)) (socket : Socket) {ov : OvData}
    (own : ov.id = pov.1) : link (postClosed os w socket pov ov) ov.id = link w ov.id := by
  have stored : link (w.setOv pov (some ov)) ov.id = link w ov.id :=
    link_setOv owned List.mem_cons_self _
  have asked := (link_invoke_hidden os (w.setOv pov (some ov)) ov.id
    (c := .postCompletion socket pov) (fun _ => rfl)).trans stored
  have owned' := (owned.setOv List.mem_cons_self own).invoke os ov.id (.postCompletion socket pov)
  simp only [postClosed]
  split
  · exact (link_post rfl).trans asked
  · exact (link_deleteOvData owned').trans asked

theorem link_rearmTcpReceive {pov : Pov} (ov : OvData) {stored : OvData}
    (owned : Owned w (pov :: held)) (own : ov.id = pov.1) (hov : w.ovData pov = some stored)
    (type : stored.type = .ovtTcpReceive) (socket : Socket) :
    ∃ accepted, link (rearmTcpReceive os w socket ov.id pov ov) ov.id =
      (link w ov.id).receive ⟨pov, socket, false⟩ accepted := by
  have asked := link_invoke os w ov.id (c := .wsaRecv socket) rfl
  have owned' := owned.invoke os ov.id (.wsaRecv socket)
  refine ⟨(invoke os w ov.id (.wsaRecv socket)).2, ?_⟩
  simp only [rearmTcpReceive]
  split
  · rename_i accepted
    have added : link ((invoke os w ov.id (.wsaRecv socket)).1.addPending ⟨pov, socket, false⟩)
        ov.id = _ := link_addPending own.symm rfl hov
    rw [asked, type] at added
    rw [added, accepted]
    rfl
  · rename_i refused
    rw [link_postClosed os owned' socket own, asked, Bool.eq_false_iff.mpr refused]
    rfl

theorem link_startTcpReceive (owned : Owned w held) (socket : Socket) (id : EndpointId) :
    ∃ accepted op, Starts id socket op ∧
      link (startTcpReceive os w socket id) id = (link w id).receive op accepted := by
  let ov : OvData := ⟨id, .ovtTcpReceive, List.replicate packetSize 0⟩
  have new : (w.newOvData ov).1.ovData (w.newOvData ov).2 = some ov := Function.update_self ..
  obtain ⟨accepted, started⟩ := link_rearmTcpReceive os ov (owned.newOvData ov) rfl new rfl socket
  rw [link_newOvData owned ov] at started
  exact ⟨accepted, _, ⟨rfl, rfl, rfl⟩, started⟩

theorem link_rearmUdpReceive {pov : Pov} (ov : OvData) {stored : OvData}
    (owned : Owned w (pov :: held)) (own : ov.id = pov.1) (hov : w.ovData pov = some stored)
    (type : stored.type = .ovtUdpReceive) (socket : Socket) :
    ∃ accepted, link (rearmUdpReceive os w socket ov.id pov ov) ov.id =
      (link w ov.id).receiveFrom ⟨pov, socket, false⟩ accepted := by
  have asked := link_invoke os w ov.id (c := .wsaRecvFrom socket) rfl
  have owned' := owned.invoke os ov.id (.wsaRecvFrom socket)
  refine ⟨(invoke os w ov.id (.wsaRecvFrom socket)).2, ?_⟩
  simp only [rearmUdpReceive]
  split
  · rename_i accepted
    have added : link ((invoke os w ov.id (.wsaRecvFrom socket)).1.addPending
        ⟨pov, socket, false⟩) ov.id = _ := link_addPending own.symm rfl hov
    rw [asked, type] at added
    rw [added, accepted]
    rfl
  · rename_i refused
    rw [link_postClosed os owned' socket own, asked, Bool.eq_false_iff.mpr refused]
    rfl

theorem link_startUdpReceive (owned : Owned w held) (socket : Socket) (id : EndpointId) :
    ∃ accepted op, Starts id socket op ∧
      link (startUdpReceive os w socket id) id = (link w id).receiveFrom op accepted := by
  let ov : OvData := ⟨id, .ovtUdpReceive, List.replicate packetSize 0⟩
  have new : (w.newOvData ov).1.ovData (w.newOvData ov).2 = some ov := Function.update_self ..
  obtain ⟨accepted, started⟩ := link_rearmUdpReceive os ov (owned.newOvData ov) rfl new rfl socket
  rw [link_newOvData owned ov] at started
  exact ⟨accepted, _, ⟨rfl, rfl, rfl⟩, started⟩

/-- A send on the control connection is noted with the answer that it returns. -/
theorem link_startTcpSend (owned : Owned w held) (socket : Socket) (buf : Bytes)
    (id : EndpointId) :
    link (startTcpSend os w socket buf id).1 id =
      (link w id).note (.sent buf (startTcpSend os w socket buf id).2) := by
  let ov : OvData := ⟨id, .ovtTcpSend, buf⟩
  have new : (w.newOvData ov).1.ovData (w.newOvData ov).2 = some ov := Function.update_self ..
  have asked := link_invoke os (w.newOvData ov).1 id (c := .wsaSend socket buf) rfl
  rw [link_newOvData owned ov] at asked
  have owned' := (owned.newOvData ov).invoke os id (.wsaSend socket buf)
  simp only [startTcpSend]
  split
  · rename_i accepted
    have added : link ((invoke os (w.newOvData ov).1 id (.wsaSend socket buf)).1.addPending
        ⟨(w.newOvData ov).2, socket, false⟩) id = _ :=
      link_addPending rfl rfl new
    rw [asked, accepted] at added
    exact added
  · rename_i refused
    have closed : link (postClosed os _ socket (w.newOvData ov).2 ⟨id, .ovtTcpReceive, []⟩) id =
      _ := link_postClosed os owned' socket rfl
    rw [asked, Bool.eq_false_iff.mpr refused] at closed
    exact closed

theorem link_startConnect (owned : Owned w held) (socket : Socket) (pAddr : Address)
    (addrLen : Nat) (id : EndpointId) :
    (startConnect os w socket pAddr addrLen id).2 = true ∧
        (∃ op, Starts id socket op ∧ link (startConnect os w socket pAddr addrLen id).1 id =
          (link w id).arm .ovtConnect op) ∨
      (startConnect os w socket pAddr addrLen id).2 = false ∧
        link (startConnect os w socket pAddr addrLen id).1 id = link w id := by
  let ov : OvData := ⟨id, .ovtConnect, []⟩
  have new : (w.newOvData ov).1.ovData (w.newOvData ov).2 = some ov := Function.update_self ..
  have asked := link_invoke_hidden os (w.newOvData ov).1 id
    (c := .connectEx socket pAddr addrLen) (fun _ => rfl)
  rw [link_newOvData owned ov] at asked
  have owned' := (owned.newOvData ov).invoke os id (.connectEx socket pAddr addrLen)
  simp only [startConnect]
  split
  · have added : link ((invoke os (w.newOvData ov).1 id
        (.connectEx socket pAddr addrLen)).1.addPending ⟨(w.newOvData ov).2, socket, false⟩) id = _ :=
      link_addPending rfl rfl new
    rw [asked] at added
    exact Or.inl ⟨rfl, _, ⟨rfl, rfl, rfl⟩, added⟩
  · exact Or.inr ⟨rfl, (link_deleteOvData owned').trans asked⟩

end Starts

section Datagrams
variable (os : Os) {w : World} {held : List Pov} {id : EndpointId} {pd : ProxyData}

theorem attempt_sendDatagram (owned : Owned w held) (id : EndpointId) (pd : ProxyData)
    (buf : Bytes) (remoteAddress : Address) :
    Attempt id pd (encapsulate buf remoteAddress) (link w id)
      (sendDatagram os w id pd buf remoteAddress).2
      (link (sendDatagram os w id pd buf remoteAddress).1 id) := by
  let ov : OvData := ⟨id, .ovtUdpSend, encapsulate buf remoteAddress⟩
  let c : Call := .wsaSendTo pd.udpSocket (encapsulate buf remoteAddress) pd.remoteAddress
    pd.remoteAddressLen
  have new : (w.newOvData ov).1.ovData (w.newOvData ov).2 = some ov := Function.update_self ..
  have asked := link_invoke os (w.newOvData ov).1 id (c := c) rfl
  rw [link_newOvData owned ov] at asked
  have owned' := (owned.newOvData ov).invoke os id c
  simp only [sendDatagram]
  split
  · rename_i accepted
    have added : link ((invoke os (w.newOvData ov).1 id c).1.addPending
        ⟨(w.newOvData ov).2, pd.udpSocket, false⟩) id = _ :=
      link_addPending rfl rfl new
    rw [asked, accepted] at added
    have added' : link ((invoke os (w.newOvData ov).1 id c).1.addPending
        ⟨(w.newOvData ov).2, pd.udpSocket, false⟩) id =
        (link w id).note (.datagram (encapsulate buf remoteAddress) true) := added
    split
    · rename_i notStarted
      have handed := owned'.addDirect pd.udpSocket
      obtain ⟨accepted', op, starts, started⟩ := link_startUdpReceive os
        (handed.setEntry id (some { pd with udpRecvStarted := true })) pd.udpSocket id
      rw [link_setEntry, added'] at started
      rw [started]
      exact .first (by simpa using notStarted) op accepted' starts
    · rename_i started
      rw [added']
      exact .sent (by simpa using started)
  · rename_i refused
    have closed : link (postClosed os _ pd.udpSocket (w.newOvData ov).2 ⟨id, .ovtUdpReceive, []⟩)
      id = _ := link_postClosed os owned' pd.udpSocket rfl
    rw [asked, Bool.eq_false_iff.mpr refused] at closed
    rw [closed]
    exact .refused

theorem flushed_flushPackets (owned : Owned w held) (entry : w.socketMap id = some pd)
    (established : pd.proxyState = .psConnected) :
    Flushed id (link w id) (link (flushPackets os w id pd.udpSendPackets.length) id) := by
  generalize hqueue : pd.udpSendPackets = queue
  induction queue generalizing w pd with
  | nil => exact .done entry hqueue
  | cons p rest ih =>
    have attempt := attempt_sendDatagram os owned id pd p.buffer p.remoteAddress
    have owned' := owned_sendDatagram os owned id pd p.buffer p.remoteAddress
    obtain ⟨started, left⟩ := attempt.entry entry
    have left' : (sendDatagram os w id pd p.buffer p.remoteAddress).1.socketMap id =
        some { pd with udpRecvStarted := started } := left
    have hsend : udpSend os w id p.buffer p.remoteAddress p.remoteAddressLen =
        sendDatagram os w id pd p.buffer p.remoteAddress := by
      simp [udpSend, entry, established]
    have round : flushPackets os w id (rest.length + 1) = flushPackets os
        ((sendDatagram os w id pd p.buffer p.remoteAddress).1.setEntry id
          (some { pd with udpRecvStarted := started, udpSendPackets := rest })) id
        rest.length := by
      simp only [flushPackets, entry, hqueue, hsend, erasePacket, left', List.tail_cons]
    let popped : ProxyData := { pd with udpRecvStarted := started, udpSendPackets := rest }
    have popping : ((sendDatagram os w id pd p.buffer p.remoteAddress).1.setEntry id
        (some popped)).socketMap id = some popped := Function.update_self ..
    have later := ih (owned'.setEntry id (some popped)) popping established rfl
    rw [link_setEntry] at later
    rw [List.length_cons, round]
    exact .next entry hqueue attempt left later

end Datagrams

end Links
