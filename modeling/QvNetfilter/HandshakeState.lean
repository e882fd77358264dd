import QvNetfilter.Handshake
import QvNetfilter.LinkSteps

/-!
# State and transcript of the handshake

The state of a connection says which control messages the system has accepted
since the connection was created, whether its queue may hold datagrams, and
whether the relay may have seen any. It only moves forward, and the relay's
address is fixed once the connection is established.
-/

namespace HandshakeState

open Memory Socks Mealy UdpProxy UdpHistory Ownership Endpoints ControlChannel Links LinkSteps

section Agreement

/-- What was noted since the connection was created. -/
def sinceCreated (ns : List Note) : List Note := ns.rtakeWhile fun n => n ≠ .created

/-- The control messages that `startTcpSend` got accepted. -/
def messages (ns : List Note) : List Bytes :=
  ns.filterMap fun n => match n with
    | .sent message true => some message
    | _ => none

/-- The datagrams handed to the relay socket, accepted or not. -/
def datagrams (ns : List Note) : List Bytes :=
  ns.filterMap fun n => match n with
    | .datagram bytes _ => some bytes
    | _ => none

def greeting (pd : ProxyData) : Bytes := socks5AuthRequest (offeredMethod pd.userName)

def userPassword (pd : ProxyData) : Bytes := userPassRequest pd.userName pd.userPassword

/-- The messages that belong to each state. -/
def Exchanged (pd : ProxyData) (ms : List Bytes) : Prop :=
  match pd.proxyState with
  | .psNone => ms = []
  | .psAuth => ms = [greeting pd]
  | .psAuthNegotiation => ms = [greeting pd, userPassword pd]
  | .psUdpAssoc | .psConnected => ms = [greeting pd, udpAssociateRequest] ∨
      ms = [greeting pd, userPassword pd, udpAssociateRequest]
  | .psClosed => False

/-- An entry agrees with what has passed on its connection. -/
structure Agrees (ns : List Note) (pd : ProxyData) : Prop where
  exchanged : Exchanged pd (messages ns)
  unused : pd.proxyState ≠ .psConnected → datagrams ns = [] ∧ pd.udpRecvStarted = false
  established : pd.proxyState = .psConnected →
    pd.udpSendPackets = [] ∧ pd.remoteAddressLen ≠ 0 ∧ pd.remoteAddress ≠ Address.zero

def rank : ProxyState → Nat
  | .psNone => 0
  | .psAuth => 1
  | .psAuthNegotiation => 2
  | .psUdpAssoc => 3
  | .psConnected => 4
  | .psClosed => 5

/-- The same connection, later: its state has not moved back, and an established one
keeps its relay address. -/
structure Ahead (pd pd' : ProxyData) : Prop where
  forward : rank pd.proxyState ≤ rank pd'.proxyState
  settled : pd.proxyState = .psConnected → pd'.proxyState = .psConnected ∧
    pd'.remoteAddress = pd.remoteAddress ∧ pd'.remoteAddressLen = pd.remoteAddressLen

theorem Ahead.refl (pd : ProxyData) : Ahead pd pd := ⟨Nat.le_refl _, fun h => ⟨h, rfl, rfl⟩⟩

theorem Ahead.trans {pd₁ pd₂ pd₃ : ProxyData} (first : Ahead pd₁ pd₂) (second : Ahead pd₂ pd₃) :
    Ahead pd₁ pd₃ := by
  refine ⟨Nat.le_trans first.forward second.forward, fun h => ?_⟩
  obtain ⟨still, address, len⟩ := first.settled h
  obtain ⟨still', address', len'⟩ := second.settled still
  exact ⟨still', address'.trans address, len'.trans len⟩

theorem sinceCreated_append {ns news : List Note} (none : .created ∉ news) :
    sinceCreated (ns ++ news) = sinceCreated ns ++ news := by
  apply rtakeWhile_append
  intro n hn
  exact decide_eq_true (fun h => none (h ▸ hn))

theorem sinceCreated_created (ns : List Note) : sinceCreated (ns ++ [.created]) = [] := by
  simp [sinceCreated]

end Agreement

section Invariant

/-- What holds of an endpoint's link, given that no connection is created while work for
the endpoint is outstanding. -/
structure LinkInv (l : Link) : Prop where
  agrees : ∀ pd, l.entry = some pd → Agrees (sinceCreated l.notes) pd
  single : l.connects.length ≤ 1
  waiting : ∀ op ∈ l.connects, ∀ pd, l.entry = some pd → pd.proxyState = .psNone

variable {config : Config} {id : EndpointId} {l l' : Link} {pd pd' : ProxyData}
  {ns news : List Note}

/-- Notes that are neither messages nor datagrams do not matter. -/
theorem Agrees.ignore (agrees : Agrees ns pd) (news : List Note) (silent : messages news = [])
    (unused : datagrams news = []) : Agrees (ns ++ news) pd := by
  have hmessages : messages (ns ++ news) = messages ns := by
    rw [messages, List.filterMap_append, ← messages, ← messages, silent, List.append_nil]
  have hdatagrams : datagrams (ns ++ news) = datagrams ns := by
    rw [datagrams, List.filterMap_append, ← datagrams, ← datagrams, unused, List.append_nil]
  exact ⟨hmessages ▸ agrees.exchanged, fun h => hdatagrams ▸ agrees.unused h,
    agrees.established⟩

theorem messages_append (ns news : List Note) :
    messages (ns ++ news) = messages ns ++ messages news :=
  List.filterMap_append

theorem datagrams_append (ns news : List Note) :
    datagrams (ns ++ news) = datagrams ns ++ datagrams news :=
  List.filterMap_append

/-- The relay side sends no control message. -/
theorem messages_relays (relays : ∀ n ∈ news, n.relays = true) : messages news = [] := by
  rw [messages, List.filterMap_eq_nil_iff]
  intro n hn
  have relay := relays n hn
  cases n with
  | datagram | receiveFrom => rfl
  | created | received | sent | receive => exact absurd relay Bool.false_ne_true

theorem created_not_relays (relays : ∀ n ∈ news, n.relays = true) : .created ∉ news :=
  fun h => absurd (relays _ h) Bool.false_ne_true

/-- A message that is accepted takes a waiting connection to the state it leads to. -/
theorem Agrees.message (agrees : Agrees ns pd) (message : Bytes) (next : ProxyState)
    (waiting : pd.proxyState ≠ .psConnected) (later : next ≠ .psConnected)
    (reached : Exchanged { pd with proxyState := next } (messages ns ++ [message]))
    (accepted : Bool) :
    Agrees (ns ++ [.sent message accepted])
      (if accepted then { pd with proxyState := next } else pd) := by
  cases accepted with
  | false => exact agrees.ignore _ rfl rfl
  | true =>
    obtain ⟨none, stopped⟩ := agrees.unused waiting
    refine ⟨?_, fun _ => ⟨?_, stopped⟩, fun h => absurd h later⟩
    · rw [messages_append]
      exact reached
    · rw [datagrams_append, none]
      rfl

/-- An answer to a reply continues the exchange. -/
theorem Agrees.answered (agrees : Agrees ns pd) {reply message : Bytes} {next : ProxyState}
    (answer : controlAnswer (core pd) reply = some (message, next)) (accepted : Bool) :
    Agrees (ns ++ [.sent message accepted])
        (if accepted then { pd with proxyState := next } else pd) ∧
      rank pd.proxyState ≤ rank next ∧ pd.proxyState ≠ .psNone ∧ pd.proxyState ≠ .psConnected := by
  have exchanged := agrees.exchanged
  cases Handshake.answered_of_controlAnswer answer with
  | credentials waiting named selected =>
    have state : pd.proxyState = .psAuth := waiting
    simp only [Exchanged, state] at exchanged
    rw [state]
    refine ⟨agrees.message _ .psAuthNegotiation (by simp [state]) (by decide) ?_ accepted,
      Nat.le_succ 1, by decide, by decide⟩
    rw [exchanged]
    exact rfl
  | otherMethod waiting selected other =>
    have state : pd.proxyState = .psAuth := waiting
    simp only [Exchanged, state] at exchanged
    rw [state]
    refine ⟨agrees.message _ .psUdpAssoc (by simp [state]) (by decide) ?_ accepted, ?_,
      by decide, by decide⟩
    · rw [exchanged]
      exact Or.inl rfl
    · exact (show 1 ≤ 3 by omega)
  | accepted waiting status =>
    have state : pd.proxyState = .psAuthNegotiation := waiting
    simp only [Exchanged, state] at exchanged
    rw [state]
    refine ⟨agrees.message _ .psUdpAssoc (by simp [state]) (by decide) ?_ accepted,
      Nat.le_succ 2, by decide, by decide⟩
    rw [exchanged]
    exact Or.inr rfl

/-- The address that an ASSOCIATE reply gives is one of the two `sockaddr` layouts. -/
theorem udpAssocReply_family {buffer addr : Bytes} {dwTransferred : Nat}
    (relay : udpAssocReply config buffer dwTransferred = some addr) :
    addr ≠ [] ∧ byteAt addr 0 ≠ 0 := by
  simp only [udpAssocReply] at relay
  split_ifs at relay
  · cases relay
    exact ⟨nofun, show (2 : UInt8) ≠ 0 by decide⟩
  · cases relay
    exact ⟨nofun, show (23 : UInt8) ≠ 0 by decide⟩

theorem write_ne_zero {a : Address} {addr : Bytes} (nonempty : addr ≠ [])
    (first : byteAt addr 0 ≠ 0) : a.write addr ≠ Address.zero := by
  intro same
  obtain ⟨b, rest, rfl⟩ := List.exists_cons_of_ne_nil nonempty
  have front := congrArg (fun a : Address => byteAt a.bytes 0) same
  exact first front

/-- The reply to ASSOCIATE establishes the connection with an empty queue. -/
theorem Agrees.connected (agrees : Agrees ns pd) (waiting : pd.proxyState = .psUdpAssoc)
    {buffer addr : Bytes} {dwTransferred : Nat} (started : Bool)
    (relay : udpAssocReply config buffer dwTransferred = some addr)
    (relays : ∀ n ∈ news, n.relays = true) :
    Agrees (ns ++ news) { pd with
      remoteAddress := pd.remoteAddress.write addr
      remoteAddressLen := addr.length
      proxyState := .psConnected
      udpSendPackets := []
      udpRecvStarted := started } := by
  obtain ⟨nonempty, family⟩ := udpAssocReply_family relay
  refine ⟨?_, fun h => absurd rfl h, fun _ => ⟨rfl, ?_, write_ne_zero nonempty family⟩⟩
  · have exchanged := agrees.exchanged
    simp only [Exchanged, waiting] at exchanged
    rw [messages_append, messages_relays relays, List.append_nil]
    exact exchanged
  · exact fun h => nonempty (List.length_eq_zero_iff.mp h)

/-- What is still the same connection has only moved forward. -/
def Advances (l l' : Link) : Prop :=
  ∀ pd', l'.entry = some pd' → l'.notes.count .created = l.notes.count .created →
    ∃ pd, l.entry = some pd ∧ Ahead pd pd'

theorem LinkInv.removed (inv : LinkInv l) (gone : l'.entry = none)
    (fewer : l'.connects.Sublist l.connects) : LinkInv l' ∧ Advances l l' := by
  have never : ∀ pd, l'.entry ≠ some pd := fun pd entry => absurd (gone.symm.trans entry) nofun
  exact ⟨⟨fun pd entry => absurd entry (never pd), Nat.le_trans fewer.length_le inv.single,
    fun _ _ pd entry => absurd entry (never pd)⟩, fun pd entry => absurd entry (never pd)⟩

theorem LinkInv.moved (inv : LinkInv l) (entry : l.entry = some pd) (entry' : l'.entry = some pd')
    (fewer : l'.connects.Sublist l.connects) (agrees : Agrees (sinceCreated l'.notes) pd')
    (ahead : Ahead pd pd') (waiting : ∀ op ∈ l'.connects, pd'.proxyState = .psNone) :
    LinkInv l' ∧ Advances l l' := by
  refine ⟨⟨fun pd'' found => ?_, Nat.le_trans fewer.length_le inv.single,
    fun op hop pd'' found => ?_⟩, fun pd'' found _ => ?_⟩
  all_goals obtain rfl := Option.some_inj.mp (entry'.symm.trans found)
  · exact agrees
  · exact waiting op hop
  · exact ⟨pd, entry, ahead⟩

/-- A step that adds notes without messages or datagrams and leaves the entry. -/
theorem LinkInv.kept (inv : LinkInv l) (news : List Note) (same : l'.entry = l.entry)
    (fewer : l'.connects.Sublist l.connects) (added : l'.notes = l.notes ++ news)
    (old : .created ∉ news) (silent : messages news = []) (unused : datagrams news = []) :
    LinkInv l' ∧ Advances l l' := by
  cases entry : l.entry with
  | none => exact inv.removed (same.trans entry) fewer
  | some pd =>
    refine inv.moved entry (same.trans entry) fewer ?_ (Ahead.refl pd)
      (fun op hop => inv.waiting op (fewer.subset hop) pd entry)
    rw [added, sinceCreated_append old]
    exact (inv.agrees pd entry).ignore news silent unused

/-- No connect is outstanding once the connection has left `PS_NONE`. -/
theorem LinkInv.no_connects (inv : LinkInv l) (entry : l.entry = some pd)
    (left : pd.proxyState ≠ .psNone) (op : Operation) : op ∉ l.connects :=
  fun hop => left (inv.waiting op hop pd entry)

theorem LinkInv.switch {op : Operation} {reply : Bytes} {accepted : Bool} (inv : LinkInv l)
    (switch : Switch config id reply ((l.disarm op).note (.received .ovtTcpReceive reply)) l') :
    LinkInv (l'.receive op accepted) ∧ Advances l (l'.receive op accepted) := by
  have fewer : (l.connects.erase op).Sublist l.connects := List.erase_sublist
  cases switch with
  | silent =>
    exact inv.kept [.received .ovtTcpReceive reply, .receive op.socket accepted] rfl
      fewer (List.append_assoc ..) (by simp) rfl rfl
  | @answered pd message next entry answer sent =>
    have entry' : l.entry = some pd := entry
    obtain ⟨agrees, forward, started, waiting⟩ :=
      ((inv.agrees pd entry').ignore [.received .ovtTcpReceive reply] rfl rfl).answered answer sent
    have none := inv.no_connects entry' started
    refine inv.moved entry' rfl fewer ?_ ?_ (fun op' hop => absurd (fewer.subset hop) (none op'))
    · have all : (l.notes ++ [.received .ovtTcpReceive reply]) ++ [.sent message sent] ++
          [.receive op.socket accepted] = l.notes ++ ([.received .ovtTcpReceive reply] ++
            [.sent message sent] ++ [.receive op.socket accepted]) := by
        simp only [List.append_assoc]
      have since : sinceCreated (((l.disarm op).note (.received .ovtTcpReceive reply)).answer pd
          message next sent |>.receive op accepted).notes = sinceCreated l.notes ++
            ([.received .ovtTcpReceive reply] ++ [.sent message sent] ++
              [.receive op.socket accepted]) :=
        (congrArg sinceCreated all).trans (sinceCreated_append (by simp))
      rw [since, ← List.append_assoc, ← List.append_assoc]
      exact agrees.ignore _ rfl rfl
    · cases sent with
      | true => exact ⟨forward, fun h => absurd h waiting⟩
      | false => exact Ahead.refl pd
  | @connected pd buffer addr _ entry waiting relay flushed =>
    have entry' : l.entry = some pd := entry
    obtain ⟨started, flushedEntry⟩ := flushed.entry rfl
    obtain ⟨news, added, relays⟩ := flushed.relayOnly.notes
    have connects : l'.connects = l.connects.erase op := flushed.relayOnly.connects
    have none := inv.no_connects entry' (by simp [waiting])
    refine inv.moved entry' flushedEntry (connects ▸ fewer) ?_ ⟨?_, ?_⟩ ?_
    · have agrees := (inv.agrees pd entry').ignore [.received .ovtTcpReceive reply] rfl rfl
      have later := (agrees.connected waiting started relay relays).ignore
        [.receive op.socket accepted] rfl rfl
      have all : l'.notes ++ [.receive op.socket accepted] = l.notes ++
          ([.received .ovtTcpReceive reply] ++ news ++ [.receive op.socket accepted]) := by
        rw [added]
        simp only [Link.setEntry, Link.note, Link.disarm, List.append_assoc]
      have old : Note.created ∉ [.received .ovtTcpReceive reply] ++ news ++
          [.receive op.socket accepted] := by
        have := created_not_relays relays
        simp [this]
      have since : sinceCreated (l'.receive op accepted).notes = sinceCreated l.notes ++
          ([.received .ovtTcpReceive reply] ++ news ++ [.receive op.socket accepted]) :=
        (congrArg sinceCreated all).trans (sinceCreated_append old)
      rw [since, ← List.append_assoc, ← List.append_assoc]
      exact later
    · rw [waiting]
      exact Nat.le_succ 3
    · intro h
      cases waiting.symm.trans h
    · exact fun op' hop => absurd (fewer.subset (connects ▸ hop)) (none op')

/-- Every step keeps the invariant. -/
theorem LinkInv.step {e : Event} (inv : LinkInv l) (step : LinkStep config id l e l')
    (fresh : e = .createProxyConnection id → l.connects = []) : LinkInv l' ∧ Advances l l' := by
  have same : Advances l l := fun pd' entry _ => ⟨pd', entry, Ahead.refl pd'⟩
  cases step with
  | elsewhere | unarmed | notOpened | unknown => exact ⟨inv, same⟩
  | notConnected => exact inv.removed rfl (List.Sublist.refl _)
  | created tcpSocket udpSocket op starts =>
    have idle := fresh rfl
    refine ⟨⟨?_, ?_, ?_⟩, fun pd' _ count => ?_⟩
    · rintro pd ⟨⟩
      have new : sinceCreated (l.notes ++ [.created]) = [] := sinceCreated_created _
      simp only [Link.arm, Link.setEntry, Link.note, new]
      refine ⟨rfl, fun _ => ⟨rfl, rfl⟩, fun h => ?_⟩
      cases h
    · simp [Link.arm, Link.setEntry, Link.note, idle]
    · rintro op' - pd ⟨⟩
      rfl
    · simp [Link.arm, Link.setEntry, Link.note] at count
  | deleted => exact inv.removed rfl (List.Sublist.refl _)
  | @queued buf addr len pd entry waiting =>
    have agrees := inv.agrees pd entry
    obtain ⟨packets, queued⟩ := enqueue_packets pd buf addr len
    rw [queued]
    have queueing : Agrees (sinceCreated l.notes) { pd with udpSendPackets := packets } :=
      ⟨agrees.exchanged, agrees.unused, fun h => absurd h waiting⟩
    exact inv.moved entry rfl (List.Sublist.refl _) queueing
      ⟨Nat.le_refl _, fun h => absurd h waiting⟩ (fun op hop => inv.waiting op hop pd entry)
  | @attempted buf addr len pd sent _ entry established attempt =>
    obtain ⟨started, left⟩ := attempt.entry entry
    obtain ⟨news, added, relays⟩ := attempt.relayOnly.notes
    have connects := attempt.relayOnly.connects
    have agrees := inv.agrees pd entry
    refine inv.moved entry left (connects ▸ List.Sublist.refl _) ?_
      ⟨Nat.le_refl _, fun h => ⟨h, rfl, rfl⟩⟩
      (fun op hop => inv.waiting op (connects ▸ hop) pd entry)
    rw [added, sinceCreated_append (created_not_relays relays)]
    refine ⟨?_, fun h => absurd established h, agrees.established⟩
    rw [messages_append, messages_relays relays, List.append_nil]
    exact agrees.exchanged
  | connectFailed armed failed => exact inv.removed rfl List.erase_sublist
  | connectIgnored armed entry => exact inv.removed entry List.erase_sublist
  | @greeted op data pd armed entry sent accepted op' starts =>
    have state := inv.waiting op armed pd entry
    have agrees := inv.agrees pd entry
    have exchanged := agrees.exchanged
    simp only [Exchanged, state] at exchanged
    -- The one connect is the one that has completed.
    have none : l.connects.erase op = [] := by
      have size := List.length_erase_of_mem armed
      exact List.length_eq_zero_iff.mp (by have := inv.single; omega)
    refine inv.moved entry rfl List.erase_sublist ?_ ?_ ?_
    · have since : sinceCreated (l.notes ++ [.sent (greeting pd) sent] ++
          [.receive op'.socket accepted]) = sinceCreated l.notes ++ [.sent (greeting pd) sent] ++
            [.receive op'.socket accepted] := by
        rw [sinceCreated_append (by simp), sinceCreated_append (by simp)]
      have moved := agrees.message (greeting pd) .psAuth (by simp [state]) (by decide)
        (by rw [exchanged]; exact rfl) sent
      have later := moved.ignore [.receive op'.socket accepted] rfl rfl
      exact since ▸ later
    · cases sent with
      | true =>
        refine ⟨by simp [rank, state], fun h => ?_⟩
        cases state.symm.trans h
      | false => exact Ahead.refl pd
    · intro op'' hop
      have hop' : op'' ∈ l.connects.erase op := hop
      rw [none] at hop'
      exact absurd hop' List.not_mem_nil
  | @controlEnded op data error armed =>
    exact inv.kept [.received .ovtTcpReceive []] rfl List.erase_sublist rfl (by simp)
      rfl rfl
  | controlData armed nonempty switch accepted => exact inv.switch switch
  | @relayEnded op data error armed =>
    exact inv.kept [.received .ovtUdpReceive []] rfl List.erase_sublist rfl (by simp)
      rfl rfl
  | @relayData op data reply error armed nonempty accepted =>
    exact inv.kept [.received .ovtUdpReceive reply, .receiveFrom op.socket accepted] rfl
      List.erase_sublist (List.append_assoc ..) (by simp) rfl rfl

end Invariant

section Runs
variable (os : Os) (config : Config)

/-- No connection is created while work for an earlier one of its endpoint is
outstanding. -/
def NoReuse (evs : List Event) : Prop :=
  ∀ before id after, evs = before ++ .createProxyConnection id :: after →
    ∀ op ∈ ((machine os config).run World.initial before).pending, op.pov.1 ≠ id

variable {os config}

theorem NoReuse.front {front back : List Event} (fresh : NoReuse os config (front ++ back)) :
    NoReuse os config front := by
  rintro before id after rfl
  exact fresh before id (after ++ back) (by simp)

variable (os config)

def linkOf (evs : List Event) (id : EndpointId) : Link :=
  link ((machine os config).run World.initial evs) id

variable {os config}

/-- The last step of a run. -/
theorem linkInv_concat {evs : List Event} {e : Event}
    (fresh : NoReuse os config (evs ++ [e])) {id : EndpointId}
    (inv : LinkInv (linkOf os config evs id)) :
    LinkInv (linkOf os config (evs ++ [e]) id) ∧
      Advances (linkOf os config evs id) (linkOf os config (evs ++ [e]) id) := by
  have step := link_step os config (owned_run os config evs) e id
  have idle : e = .createProxyConnection id → (linkOf os config evs id).connects = [] := by
    rintro rfl
    apply List.filter_eq_nil_iff.mpr
    intro op hop own
    exact fresh evs id [] rfl op hop (of_decide_eq_true own).1
  rw [linkOf, Handshake.run_concat]
  exact inv.step step idle

theorem linkInv_run {evs : List Event} (fresh : NoReuse os config evs) (id : EndpointId) :
    LinkInv (linkOf os config evs id) := by
  induction evs using List.reverseRecOn with
  | nil => exact ⟨nofun, Nat.zero_le 1, fun _ _ _ => nofun⟩
  | append_singleton evs e ih => exact (linkInv_concat fresh (ih fresh.front)).1

/-- What is still the same connection at the end of a run has only moved forward. -/
theorem advances_run {before after : List Event} (fresh : NoReuse os config (before ++ after))
    (id : EndpointId) :
    (linkOf os config before id).notes.count .created ≤
        (linkOf os config (before ++ after) id).notes.count .created ∧
      Advances (linkOf os config before id) (linkOf os config (before ++ after) id) := by
  induction after using List.reverseRecOn with
  | nil =>
    rw [List.append_nil]
    exact ⟨Nat.le_refl _, fun pd entry _ => ⟨pd, entry, Ahead.refl pd⟩⟩
  | append_singleton after e ih =>
    rw [← List.append_assoc] at fresh ⊢
    obtain ⟨fewer, ahead⟩ := ih fresh.front
    have step := link_step os config (owned_run os config (before ++ after)) e id
    rw [← Handshake.run_concat] at step
    have last : (linkOf os config (before ++ after) id).notes.count .created ≤
      (linkOf os config (before ++ after ++ [e]) id).notes.count .created :=
        step.notes_prefix.sublist.count_le .created
    refine ⟨Nat.le_trans fewer last, fun pd' entry' same => ?_⟩
    -- Nothing was created in between, so the connection was there before the last step.
    obtain ⟨pd₁, entry₁, ahead₁⟩ := (linkInv_concat fresh (linkInv_run fresh.front id)).2 pd' entry'
      (by omega)
    obtain ⟨pd, entry, ahead⟩ := ahead pd₁ entry₁ (by omega)
    exact ⟨pd, entry, ahead.trans ahead₁⟩

/-- In every reachable state each entry agrees with the transcript of its connection, and
as long as no other connection is created for the endpoint its state moves forward only. -/
theorem handshake_agrees {evs : List Event} (fresh : NoReuse os config evs) :
    (∀ id pd, (linkOf os config evs id).entry = some pd →
      Agrees (sinceCreated (linkOf os config evs id).notes) pd) ∧
    ∀ before after id pd pd', evs = before ++ after →
      (linkOf os config before id).entry = some pd → (linkOf os config evs id).entry = some pd' →
      (linkOf os config evs id).notes.count .created =
        (linkOf os config before id).notes.count .created → Ahead pd pd' := by
  refine ⟨fun id => (linkInv_run fresh id).agrees, ?_⟩
  rintro before after id pd pd' rfl entry entry' same
  obtain ⟨pd₁, entry₁, ahead⟩ := (advances_run fresh id).2 pd' entry' same
  obtain rfl := Option.some_inj.mp (entry.symm.trans entry₁)
  exact ahead

/-- A run that creates one connection, at its beginning, reuses no endpoint. -/
theorem noReuse_single {id : EndpointId} {rest : List Event}
    (once : ∀ id', .createProxyConnection id' ∉ rest) :
    NoReuse os config (.createProxyConnection id :: rest) := by
  intro before id' after split op hop
  cases before with
  | nil => exact absurd hop List.not_mem_nil
  | cons e before =>
    obtain ⟨_, rfl⟩ := List.cons_eq_cons.mp split
    exact absurd (List.mem_append_right before List.mem_cons_self) (once id')

/-- A connection that has been greeted. -/
theorem handshake_agrees_greeted :
    ∃ pd, (linkOf acceptingOs Handshake.credentialsConfig Handshake.greetedRun 7).entry = some pd ∧
      pd.proxyState = .psAuth ∧ Agrees (sinceCreated
        (linkOf acceptingOs Handshake.credentialsConfig Handshake.greetedRun 7).notes) pd := by
  have fresh : NoReuse acceptingOs Handshake.credentialsConfig Handshake.greetedRun :=
    noReuse_single (by simp)
  exact ⟨_, rfl, rfl, (handshake_agrees fresh).1 7 _ rfl⟩

end Runs

end HandshakeState
