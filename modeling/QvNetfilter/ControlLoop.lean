import QvNetfilter.ReceiveLoop

/-!
# The end of a control connection

An entry whose handshake goes on has its connect or its control receive
outstanding, so that something can still complete or remove it. A failed connect
removes the entry; every other end of the control connection leaves it in the
table, where it goes on accepting datagrams.
-/

namespace ControlLoop

open Memory Socks Mealy UdpProxy UdpHistory Ownership Endpoints Links LinkSteps ReceiveLoop

/-- The connect or the control receive of the connection. -/
def Serves (l : Link) (pd : ProxyData) (op : Operation) : Prop :=
  (op ∈ l.connects ∨ op ∈ l.controls) ∧ op.socket = pd.tcpSocket

/-- The control connection has not ended. -/
def Served (l : Link) : Prop := ∀ pd, l.entry = some pd → ∃ op, Serves l pd op

/-- A connection with a queue can still be completed or removed, and one whose control
connection has ended accepts no datagram. -/
def NotStuck (os : Os) (w : World) : Prop :=
  ∀ id pd, w.socketMap id = some pd →
    (pd.proxyState ≠ .psConnected → pd.udpSendPackets ≠ [] → ∃ op, Serves (link w id) pd op) ∧
    ((¬ ∃ op, Serves (link w id) pd op) → ∀ buf remoteAddress remoteAddressLen,
      (udpSend os w id buf remoteAddress remoteAddressLen).2 = false)

/-- The completion of the last operation of a control connection neither ends it nor has the
receive refused that follows. -/
def StaysOpen (l : Link) (e : Event) (l' : Link) : Prop :=
  ∀ op data error pd, e = .complete op data error → l.entry = some pd → Serves l pd op →
    (∀ op', Serves l pd op' → op' = op) →
    (op ∈ l.controls → l'.notes ≠ l.notes ++ [.received .ovtTcpReceive []]) ∧
      ∀ s, .receive s false ∉ newNotes l l'

section Step
variable {config : Config} {id : EndpointId} {l l' : Link} {e : Event} {pd pd' : ProxyData}

/-- An operation that has not completed goes on serving. -/
theorem served_of_other {op op' : Operation} (serves : Serves l pd op') (other : op' ≠ op)
    (connects : l'.connects = l.connects.erase op)
    (controls : ∀ o ∈ l.controls.erase op, o ∈ l'.controls) (socket : pd'.tcpSocket = pd.tcpSocket)
    (entry : l'.entry = some pd') : Served l' := by
  intro pd'' found
  obtain rfl := Option.some_inj.mp (entry.symm.trans found)
  refine ⟨op', ?_, serves.2.trans socket.symm⟩
  rcases serves.1 with connect | control
  · exact Or.inl (connects ▸ (List.mem_erase_of_ne other).mpr connect)
  · exact Or.inr (controls op' ((List.mem_erase_of_ne other).mpr control))

/-- The control connection is served by its operation that completes, or by another one. -/
theorem serves_cases (served : Served l) (entry : l.entry = some pd) (op : Operation) :
    (∃ op', Serves l pd op' ∧ op' ≠ op) ∨
      (Serves l pd op ∧ ∀ op', Serves l pd op' → op' = op) := by
  obtain ⟨op₀, serves⟩ := served pd entry
  by_cases last : ∀ op', Serves l pd op' → op' = op
  · obtain rfl := last op₀ serves
    exact Or.inr ⟨serves, last⟩
  · obtain ⟨op', hop'⟩ := not_forall.mp last
    obtain ⟨serves', other⟩ := Classical.not_imp.mp hop'
    exact Or.inl ⟨op', serves', other⟩

theorem served_none (gone : l'.entry = none) : Served l' :=
  fun _ entry => absurd (gone.symm.trans entry) nofun

theorem served_same (served : Served l) (entry : l.entry = some pd) (entry' : l'.entry = some pd')
    (socket : pd'.tcpSocket = pd.tcpSocket) (connects : l'.connects = l.connects)
    (controls : l'.controls = l.controls) : Served l' := by
  intro pd'' found
  obtain rfl := Option.some_inj.mp (entry'.symm.trans found)
  obtain ⟨op, member, on⟩ := served pd entry
  exact ⟨op, by rwa [connects, controls], on.trans socket.symm⟩

/-- What the switch of the handler leaves of the connection. -/
theorem switch_entry {reply : Bytes} (switch : Switch config id reply l l')
    (entry : l.entry = some pd) :
    (∃ pd', l'.entry = some pd' ∧ pd'.tcpSocket = pd.tcpSocket) ∧
      l'.connects = l.connects ∧ l'.controls = l.controls ∧ l.notes <+: l'.notes := by
  cases switch with
  | silent => exact ⟨⟨pd, entry, rfl⟩, rfl, rfl, List.prefix_refl _⟩
  | @answered pd₀ message next entry₀ answer accepted =>
    obtain rfl := Option.some_inj.mp (entry₀.symm.trans entry)
    refine ⟨⟨_, rfl, ?_⟩, rfl, rfl, List.prefix_append _ _⟩
    cases accepted with
    | true => rfl
    | false => rfl
  | @connected pd₀ buffer addr _ entry₀ waiting relay flushed =>
    obtain rfl := Option.some_inj.mp (entry₀.symm.trans entry)
    obtain ⟨started, flushedEntry⟩ := flushed.entry rfl
    obtain ⟨news, added, _⟩ := flushed.relayOnly.notes
    exact ⟨⟨_, flushedEntry, rfl⟩, flushed.relayOnly.connects, flushed.relayOnly.controls,
      news, added.symm⟩

theorem last_noted {l₁ : Link} {n : Note} (before : l.notes <+: l₁.notes)
    (added : l'.notes = l₁.notes ++ [n]) : n ∈ newNotes l l' := by
  obtain ⟨news, hnews⟩ := before
  have all : l'.notes = l.notes ++ (news ++ [n]) := by
    rw [added, ← hnews, List.append_assoc]
  rw [newNotes_append all]
  exact List.mem_append_right _ List.mem_cons_self

/-- A completion on the relay socket leaves the control connection alone. -/
theorem served_relay {op : Operation} (served : Served l) (apart : Apart id l)
    (armed : op ∈ l.relays) (entry : l'.entry = l.entry)
    (connects : l'.connects = l.connects.erase op) (controls : l'.controls = l.controls.erase op) :
    Served l' := by
  rw [List.erase_of_not_mem (apart.connects op armed)] at connects
  rw [List.erase_of_not_mem (apart.controls op armed)] at controls
  cases found : l.entry with
  | none => exact served_none (entry.trans found)
  | some pd => exact served_same served found (entry.trans found) rfl connects controls

theorem served_step (served : Served l) (apart : Apart id l) (step : LinkStep config id l e l')
    (stays : StaysOpen l e l') : Served l' := by
  cases step with
  | elsewhere | unarmed | notOpened | unknown => exact served
  | notConnected | deleted | connectFailed => exact served_none rfl
  | created tcpSocket udpSocket op starts =>
    rintro pd ⟨⟩
    exact ⟨op, Or.inl (List.mem_append_right _ List.mem_cons_self), starts.socket⟩
  | @queued buf addr len pd entry waiting =>
    obtain ⟨packets, queued⟩ := enqueue_packets pd buf addr len
    rw [queued]
    exact served_same served entry rfl rfl rfl rfl
  | attempted entry established attempt =>
    obtain ⟨started, left⟩ := attempt.entry entry
    exact served_same served entry left rfl attempt.relayOnly.connects attempt.relayOnly.controls
  | connectIgnored armed entry => exact served_none entry
  | @greeted op data pd armed entry sent accepted op' starts =>
    have socket : (if sent then { pd with proxyState := .psAuth } else pd).tcpSocket =
        pd.tcpSocket := by
      cases sent with
      | true => rfl
      | false => rfl
    cases accepted with
    | true =>
      rintro pd' ⟨⟩
      exact ⟨op', Or.inr (List.mem_append_right _ List.mem_cons_self),
        starts.socket.trans socket.symm⟩
    | false =>
      obtain ⟨op₀, serves, other⟩ | ⟨serves, last⟩ := serves_cases served entry op
      · exact served_of_other serves other rfl (fun o ho => ho) socket rfl
      · have noted : Note.receive op'.socket false ∈ newNotes l (((l.disarm op).answer pd
            (socks5AuthRequest (offeredMethod pd.userName)) .psAuth sent).receive op' false) := by
          have before : l.notes <+: ((l.disarm op).answer pd
              (socks5AuthRequest (offeredMethod pd.userName)) .psAuth sent).notes :=
            List.prefix_append _ _
          exact last_noted before rfl
        exact absurd noted ((stays op data 0 pd rfl entry serves last).2 op'.socket)
  | @controlEnded op data error armed =>
    cases entry : l.entry with
    | none => exact served_none entry
    | some pd =>
      obtain ⟨op₀, serves, other⟩ | ⟨serves, last⟩ := serves_cases served entry op
      · exact served_of_other serves other rfl (fun o ho => ho) rfl entry
      · exact absurd rfl ((stays op data error pd rfl entry serves last).1 armed)
  | @controlData op data reply error l₁ armed nonempty switch accepted =>
    cases entry : l.entry with
    | none =>
      cases switch with
      | silent => exact served_none entry
      | answered entry' => exact absurd (entry.symm.trans entry') nofun
      | connected entry' => exact absurd (entry.symm.trans entry') nofun
    | some pd =>
      obtain ⟨⟨pd₁, entry₁, socket⟩, connects, controls, noted⟩ := switch_entry switch entry
      cases accepted with
      | true =>
        have member : ∀ o ∈ l.controls.erase op, o ∈ (l₁.receive op true).controls := by
          intro o ho
          exact List.mem_append_left _ (controls ▸ ho)
        obtain ⟨op₀, serves, other⟩ | ⟨serves, last⟩ := serves_cases served entry op
        · exact served_of_other serves other connects member socket entry₁
        · intro pd' found
          obtain rfl := Option.some_inj.mp (entry₁.symm.trans found)
          exact ⟨op, Or.inr (List.mem_append_right _ List.mem_cons_self),
            serves.2.trans socket.symm⟩
      | false =>
        obtain ⟨op₀, serves, other⟩ | ⟨serves, last⟩ := serves_cases served entry op
        · exact served_of_other serves other connects (fun o ho => controls ▸ ho) socket entry₁
        · have before : l.notes <+: l₁.notes :=
            (List.prefix_append l.notes [.received .ovtTcpReceive reply]).trans noted
          have refused : Note.receive op.socket false ∈ newNotes l (l₁.receive op false) :=
            last_noted before rfl
          exact absurd refused ((stays op data error pd rfl entry serves last).2 op.socket)
  | relayEnded armed => exact served_relay served apart armed rfl rfl rfl
  | relayData armed nonempty accepted => exact served_relay served apart armed rfl rfl rfl

end Step

section Runs
variable {os : Os} {config : Config}

theorem notStuck_of_served {w : World} (served : ∀ id, Served (link w id)) : NotStuck os w :=
  fun id pd entry => ⟨fun _ _ => served id pd entry, fun ended => absurd (served id pd entry) ended⟩

/-- When the last operation of a control connection completes, a receive brings at least one
byte, and the `WSARecv` with which the handler goes on is accepted. -/
def AllStayOpen (os : Os) (config : Config) (w : World) (e : Event) : Prop :=
  ∀ op data error pd, e = .complete op data error → w.socketMap op.pov.1 = some pd →
    Serves (link w op.pov.1) pd op → (∀ op', Serves (link w op.pov.1) pd op' → op' = op) →
    (op ∈ (link w op.pov.1).controls → transferred w op data ≠ []) ∧
      ∀ s, .receive s false ∉
        newNotes (link w op.pov.1) (link (step os config w e) op.pov.1)

/-- Every control connection goes on after such a step. -/
theorem AllStayOpen.staysOpen {w : World} {e : Event} (owned : Owned w [])
    (stays : AllStayOpen os config w e) (id : EndpointId) :
    StaysOpen (link w id) e (link (step os config w e) id) := by
  rintro op data error pd rfl entry serves last
  obtain rfl : op.pov.1 = id := serves.1.elim own_of_armed own_of_armed
  obtain ⟨brings, accepts⟩ := stays op data error pd rfl entry serves last
  constructor
  · intro armed ended
    exact brings armed (transferred_ended owned armed rfl ended)
  · exact accepts

/-- A step that notes no end and no refusal. -/
theorem allStayOpen_of_notes {w w' : World} {e : Event} (owned : Owned w [])
    (after : step os config w e = w') (news : List Note)
    (noted : newNotes (link w (endpoint e)) (link w' (endpoint e)) = news)
    (data : .received .ovtTcpReceive [] ∉ news) (accepts : ∀ s, .receive s false ∉ news) :
    AllStayOpen os config w e := by
  subst after noted
  rintro op bytes error pd rfl entry serves last
  constructor
  · intro armed none
    obtain ⟨more, brought⟩ := @notes_completed os config w owned op _ armed rfl bytes error
    apply data
    rw [endpoint, newNotes_append brought, none]
    exact List.mem_cons_self
  · exact accepts

/-- In every run whose steps leave the control connections open, no connection is ever
stuck. -/
theorem notStuck_run {evs : List Event}
    (stays : (machine os config).Throughout (AllStayOpen os config) World.initial evs) :
    ∀ front back, evs = front ++ back →
      NotStuck os ((machine os config).run World.initial front) := by
  intro front back split
  have preserves : ∀ w e, (Owned w [] ∧ ∀ id, Served (link w id)) → AllStayOpen os config w e →
      Owned (step os config w e) [] ∧ ∀ id, Served (link (step os config w e) id) :=
    fun w e inv stays => ⟨owned_step os config inv.1 e, fun id =>
      served_step (inv.2 id) (apart_link w id) (link_step os config inv.1 e id)
        (stays.staysOpen inv.1 id)⟩
  have initial : Owned World.initial [] ∧ ∀ id, Served (link World.initial id) :=
    ⟨Owned.initial, fun _ _ => nofun⟩
  have reached := stays.invariant (I := fun w => Owned w [] ∧ ∀ id, Served (link w id))
    preserves initial split
  exact notStuck_of_served reached.2

end Runs

section ServerCloses

/-- The server closes the control connection while a datagram is queued. -/
def serverClosesRun : List Event :=
  Handshake.greetedRun ++ [.udpSend 7 [1] destination 16] ++
    [.complete ⟨(7, 2), 0, false⟩ [] 0]

def queuedWorld : World :=
  step acceptingOs anonymousConfig greetedWorld (.udpSend 7 [1] destination 16)

def closedWorld : World :=
  handled acceptingOs anonymousConfig queuedWorld ⟨(7, 2), 0, false⟩ (freshOv .ovtTcpReceive) [] 0

theorem run_serverCloses :
    (machine acceptingOs anonymousConfig).run World.initial serverClosesRun = closedWorld := by
  have armed : (⟨(7, 2), 0, false⟩ : Operation) ∈ queuedWorld.pending := by decide +kernel
  have closes : step acceptingOs anonymousConfig queuedWorld
      (.complete ⟨(7, 2), 0, false⟩ [] 0) = closedWorld :=
    step_receive acceptingOs anonymousConfig armed rfl rfl rfl (Nat.zero_le _) 0
  rw [serverClosesRun, Handshake.run_concat, Handshake.run_concat]
  exact closes

/-- The entry keeps its queue, and nothing is left that could complete or remove it. -/
theorem server_closes_stuck :
    ¬ NotStuck acceptingOs
      ((machine acceptingOs anonymousConfig).run World.initial serverClosesRun) := by
  rw [run_serverCloses]
  intro open_
  have entry : (closedWorld.socketMap 7).map (fun pd => (pd.proxyState, pd.udpSendPackets.length))
      = some (.psAuth, 1) := by decide +kernel
  obtain ⟨pd, found, stuck⟩ := Option.map_eq_some_iff.mp entry
  obtain ⟨state, queue⟩ := Prod.mk.inj stuck
  have waiting : pd.proxyState ≠ .psConnected := by simp [state]
  have nonempty : pd.udpSendPackets ≠ [] := by
    intro empty
    rw [empty] at queue
    exact absurd queue (by simp)
  obtain ⟨op, member, _⟩ := (open_ 7 pd found).1 waiting nonempty
  have connects : (link closedWorld 7).connects = [] := by decide +kernel
  have controls : (link closedWorld 7).controls = [] := by decide +kernel
  rw [connects, controls] at member
  exact absurd member (by simp)

def Stays (evs : List Event) : Prop :=
  (machine acceptingOs anonymousConfig).Throughout (AllStayOpen acceptingOs anonymousConfig)
    World.initial evs

/-- Up to the datagram that is queued the control connection stays open. -/
theorem queued_not_stuck :
    NotStuck acceptingOs ((machine acceptingOs anonymousConfig).run World.initial
      (Handshake.greetedRun ++ [.udpSend 7 [1] destination 16])) := by
  have owned := owned_run acceptingOs anonymousConfig
  have none : Stays [] := .nil _ _
  have created : Stays [.createProxyConnection 7] :=
    none.concat (allStayOpen_of_notes (owned []) rfl [.created] (by decide +kernel) (by simp)
      (by simp))
  have greeted : Stays Handshake.greetedRun :=
    created.concat (allStayOpen_of_notes (owned _) rfl
      [.sent (socks5AuthRequest s5amNone) true, .receive 0 true] (by decide +kernel) (by simp)
      (by simp))
  have queued : Stays (Handshake.greetedRun ++ [.udpSend 7 [1] destination 16]) :=
    greeted.concat (allStayOpen_of_notes (owned _) rfl [] (by decide +kernel) (by simp) (by simp))
  exact notStuck_run queued _ [] (List.append_nil _).symm

end ServerCloses

end ControlLoop
