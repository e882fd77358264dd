import QvNetfilter.Isolation

/-!
# The sockets of armed receives

A receive is armed on a socket of the entry that its endpoint has in
`m_socketMap` at that time. It keeps belonging to the connection until an event
severs the connection; such events, and what receives under way at that time
bring, decide whether every receive is issued on a socket that its connection
still has.
-/

namespace Rearm

open Memory Socks Mealy UdpProxy UdpHistory Ownership Endpoints ControlReceive Links LinkSteps Sockets
open ReceiveLoop (anonymousConfig methodNone freshOv freshOv_length)
open Isolation (held owned_completeUntilRearm owned_issue untouched_issue)

section Sockets

/-- The connection of the endpoint has the socket for receives of this type. -/
def OwnsSocket (w : World) (id : EndpointId) (type : OvType) (socket : Socket) : Prop :=
  ∃ pd, w.socketMap id = some pd ∧
    socket = if type = .ovtTcpReceive then pd.tcpSocket else pd.udpSocket

def Owns (w : World) (r : Pending) : Prop := OwnsSocket w r.ov.id r.ov.type r.socket

variable {os : Os} {config : Config} {w w' : World} {id : EndpointId} {type : OvType}

theorem OwnsSocket.congr {socket : Socket} (owns : OwnsSocket w id type socket)
    (same : sockets w' id = sockets w id) : OwnsSocket w' id type socket := by
  obtain ⟨pd, entry, rfl⟩ := owns
  rw [sockets, sockets, entry, Option.map_some, Option.map_eq_some_iff] at same
  obtain ⟨pd', entry', same⟩ := same
  obtain ⟨tcp, udp⟩ := Prod.mk.inj same
  exact ⟨pd', entry', by rw [tcp, udp]⟩

theorem armed_of_link (same : link w' id = link w id) (receives : type.receives = true) :
    armed w' id type = armed w id type := by
  cases type with
  | ovtTcpReceive => exact congrArg Link.controls same
  | ovtUdpReceive => exact congrArg Link.relays same
  | ovtConnect | ovtTcpSend | ovtUdpSend => exact absurd receives Bool.false_ne_true

/-- An armed receive that a step has added is on a socket of the connection. -/
theorem armed_gained (gains : Gains (link w id) (link w' id)) (receives : type.receives = true)
    {op : Operation} (mem : op ∈ armed w' id type) :
    op ∈ armed w id type ∨ OwnsSocket w' id type op.socket := by
  cases type with
  | ovtTcpReceive => exact gains.controls op mem
  | ovtUdpReceive => exact gains.relays op mem
  | ovtConnect | ovtTcpSend | ovtUdpSend => exact absurd receives Bool.false_ne_true

theorem armed_eq {l : Link} (same : link w id = l) :
    armed w id .ovtTcpReceive = l.controls ∧ armed w id .ovtUdpReceive = l.relays := by
  constructor
  · exact congrArg Link.controls same
  · exact congrArg Link.relays same

/-- The receive that is issued is the only one that becomes armed. -/
structure Issued (w w' : World) (r : Pending) (accepted : Bool) : Prop where
  own : ∀ type, type.receives = true → ∀ op, op ∈ armed w' r.ov.id type ↔
    op ∈ armed w r.ov.id type ∨
      accepted = true ∧ r.ov.type = type ∧ op = ⟨r.pov, r.socket, false⟩
  others : ∀ id, r.ov.id ≠ id → link w' id = link w id

theorem Issued.more {r : Pending} {accepted : Bool} (issued : Issued w w' r accepted)
    (receives : type.receives = true) {op : Operation} (mem : op ∈ armed w id type) :
    op ∈ armed w' id type := by
  by_cases own : r.ov.id = id
  · subst own
    exact (issued.own type receives op).mpr (Or.inl mem)
  · rw [armed_of_link (issued.others id own) receives]
    exact mem

theorem mem_taken {ops : List Operation} {op op' : Operation} (accepted : Bool) :
    op ∈ (if accepted then ops ++ [op'] else ops) ↔ op ∈ ops ∨ accepted = true ∧ op = op' := by
  cases accepted <;> simp

theorem issued (os : Os) {r : Pending} (owned : Owned w [r.pov]) (own : r.ov.id = r.pov.1)
    {stored : OvData} (hov : w.ovData r.pov = some stored) (type : stored.type = r.ov.type)
    (receives : r.ov.type.receives = true) :
    ∃ accepted, Issued w (issue os w r) r accepted := by
  have others : ∀ id, r.ov.id ≠ id → link (issue os w r) id = link w id :=
    fun id other => link_untouched (untouched_issue os (own ▸ other) own)
  unfold issue at others ⊢
  cases hr : r.ov.type with
  | ovtTcpReceive =>
    simp only [hr] at others ⊢
    obtain ⟨accepted, rearmed⟩ :=
      link_rearmTcpReceive os r.ov owned own hov (type.trans hr) r.socket
    obtain ⟨controls, relays⟩ := armed_eq rearmed
    refine ⟨accepted, fun type receives op => ?_, others⟩
    cases type with
    | ovtTcpReceive =>
      rw [controls]
      simp only [hr, eq_self, true_and]
      exact mem_taken accepted
    | ovtUdpReceive =>
      rw [relays]
      simp [hr, Link.receive, link]
    | ovtConnect | ovtTcpSend | ovtUdpSend => exact absurd receives Bool.false_ne_true
  | ovtUdpReceive =>
    simp only [hr] at others ⊢
    obtain ⟨accepted, rearmed⟩ :=
      link_rearmUdpReceive os r.ov owned own hov (type.trans hr) r.socket
    obtain ⟨controls, relays⟩ := armed_eq rearmed
    refine ⟨accepted, fun type receives op => ?_, others⟩
    cases type with
    | ovtTcpReceive =>
      rw [controls]
      simp [hr, Link.receiveFrom, link]
    | ovtUdpReceive =>
      rw [relays]
      simp only [hr, eq_self, true_and]
      exact mem_taken accepted
    | ovtConnect | ovtTcpSend | ovtUdpSend => exact absurd receives Bool.false_ne_true
  | ovtConnect | ovtTcpSend | ovtUdpSend =>
    rw [hr] at receives
    exact absurd receives Bool.false_ne_true

theorem sockets_issue (w : World) (r : Pending) : sockets (issue os w r) = sockets w := by
  unfold issue
  split
  · exact sockets_rearmTcpReceive os w _ _ _ _
  · exact sockets_rearmUdpReceive os w _ _ _ _

end Sockets

section Handled
variable {os : Os} {config : Config}

/-- The first part of a handler leaves the connections their sockets and its record as it is. -/
theorem onCompleteUntilRearm_pending {w : World} {socket : Socket} {dwTransferred : Nat} {pov : Pov}
    {ov : OvData} {error : Nat} {r : Pending}
    (left : (onCompleteUntilRearm os config w socket dwTransferred pov ov error).2 = some r) :
    dwTransferred ≠ 0 ∧ ov.type.receives = true ∧ r = ⟨socket, pov, ov⟩ ∧
      sockets (onCompleteUntilRearm os config w socket dwTransferred pov ov error).1 =
        sockets w ∧
      Keeps pov w (onCompleteUntilRearm os config w socket dwTransferred pov ov error).1 := by
  simp only [onCompleteUntilRearm] at left ⊢
  cases type : ov.type with
  | ovtUdpReceive =>
    simp only [type] at left ⊢
    split at left
    · cases left
    · rename_i nonzero
      rw [if_neg nonzero]
      refine ⟨nonzero, rfl, (Option.some_inj.mp left).symm, ?_⟩
      cases relayedDatagram ov.buffer dwTransferred with
      | none => exact ⟨rfl, .refl w⟩
      | some d => exact ⟨rfl, .refl w⟩
  | ovtTcpReceive =>
    simp only [type] at left ⊢
    split at left
    · cases left
    · rename_i nonzero
      rw [if_neg nonzero]
      exact ⟨nonzero, rfl, (Option.some_inj.mp left).symm, sockets_onControlData os config w _ _ _,
        keeps_onControlData os config w _ _ _⟩
  | ovtConnect | ovtTcpSend | ovtUdpSend =>
    simp only [type] at left
    cases left

/-- A completion that leaves a receive to issue was one of an armed receive, with data. -/
theorem completeUntilRearm_pending {w : World} (owned : Owned w []) {op : Operation} {data : Bytes}
    {error : Nat} {r : Pending}
    (left : (completeUntilRearm os config w op data error).2 = some r) :
    data ≠ [] ∧ r.socket = op.socket ∧ op ∈ armed w r.ov.id r.ov.type ∧
      sockets (completeUntilRearm os config w op data error).1 = sockets w ∧
      ∃ stored, (completeUntilRearm os config w op data error).1.ovData r.pov = some stored ∧
        stored.type = r.ov.type := by
  simp only [completeUntilRearm] at left ⊢
  by_cases pending : op ∈ w.pending
  · rw [if_pos pending] at left ⊢
    simp only [dispatchUntilRearm] at left ⊢
    have same : (w.removePending op).ovData op.pov = w.ovData op.pov := rfl
    rw [same] at left ⊢
    cases hov : w.ovData op.pov with
    | none =>
      rw [hov] at left
      cases left
    | some ov =>
      simp only [hov] at left ⊢
      have own := owned.named op.pov ov hov
      have allocated := owned.allocated op.pov (by simp [hov])
      by_cases queued : op.queued = true
      · rw [if_pos queued] at left
        exact absurd rfl (onCompleteUntilRearm_pending left).1
      · rw [if_neg queued] at left ⊢
        by_cases receives : ov.type.receives = true
        · rw [if_pos receives] at left ⊢
          obtain ⟨nonzero, _, rfl, kept, keeps⟩ := onCompleteUntilRearm_pending left
          obtain ⟨_, stored⟩ := keeps allocated
          refine ⟨?_, rfl, mem_armed.mpr ⟨pending, own.symm, Bool.eq_false_iff.mpr queued, ?_⟩,
            kept, _, stored.trans (Function.update_self ..), rfl⟩
          · rintro rfl
            exact nonzero (by simp)
          · rw [hov]
            rfl
        · rw [if_neg receives] at left
          exact absurd (onCompleteUntilRearm_pending left).2.1 receives
  · rw [if_neg pending] at left
    cases left

/-- A completion that leaves nothing to issue is the step of the proxy. -/
theorem completeUntilRearm_done {w : World} {op : Operation} {data : Bytes} {error : Nat}
    (left : (completeUntilRearm os config w op data error).2 = none) :
    (completeUntilRearm os config w op data error).1 = complete os config w op data error := by
  have whole := finish_complete os config w op data error
  generalize completeUntilRearm os config w op data error = result at left whole ⊢
  obtain ⟨w', r⟩ := result
  obtain rfl : r = none := left
  exact whole

end Handled

section Kept
variable (os : Os) (config : Config) {pov : Pov}

theorem keeps_deleteProxyConnection (w : World) (id : EndpointId) :
    Keeps pov w (w.deleteProxyConnection id) := by
  simp only [World.deleteProxyConnection]
  split
  · exact .refl w
  · exact .refl w

theorem keeps_startConnect (w : World) (socket : Socket) (pAddr : Address) (addrLen : Nat)
    (id : EndpointId) : Keeps pov w (startConnect os w socket pAddr addrLen id).1 := by
  intro allocated
  have other := newOvData_ne allocated ⟨id, .ovtConnect, []⟩
  have asked : Keeps pov w _ := (keeps_newOvData w ⟨id, .ovtConnect, []⟩).trans
    (keeps_invoke os _ id (.connectEx socket pAddr addrLen))
  simp only [startConnect]
  split
  · exact asked allocated
  · exact asked.trans (keeps_setOv _ other none) allocated

theorem keeps_registerAndConnect (w : World) (id : EndpointId) (tcpSocket udpSocket : Socket) :
    Keeps pov w (registerAndConnect os config w id tcpSocket udpSocket).1 := by
  have first : Keeps pov w _ := keeps_invoke os w id (.registerSocket tcpSocket)
  have second : Keeps pov w _ := first.trans (keeps_invoke os _ id (.registerSocket udpSocket))
  simp only [registerAndConnect]
  split
  · exact first
  · split
    · exact second
    · exact second.trans
        (keeps_startConnect os _ tcpSocket config.proxyAddress config.proxyAddressLen id)

theorem keeps_createProxyConnection (w : World) (id : EndpointId) :
    Keeps pov w (createProxyConnection os config w id).1 := by
  unfold createProxyConnection
  split
  · exact .refl w
  · rename_i tcpSocket _
    simp only
    split
    · exact .refl w
    · rename_i udpSocket _
      let stored := (((w.record id (.opened .stream (some tcpSocket))).record id
        (.opened .dgram (some udpSocket))).setEntry id
          (some (ProxyData.new config tcpSocket udpSocket))).record id .created
      have connecting : Keeps pov stored _ :=
        keeps_registerAndConnect os config stored id tcpSocket udpSocket
      split
      · exact connecting
      · exact connecting.trans (keeps_deleteProxyConnection _ id)

end Kept

section Steps
variable {os : Os} {config : Config}

/-- Every record has one owner, and the worker thread holds that of the receive that it is
to issue. -/
structure Sound (s : State) : Prop where
  owned : Owned s.world (held s.pending)
  named : ∀ r, s.pending = some r → r.ov.id = r.pov.1 ∧ r.ov.type.receives = true
  stored : ∀ r, s.pending = some r →
    ∃ ov, s.world.ovData r.pov = some ov ∧ ov.type = r.ov.type

theorem Sound.initial : Sound State.initial := ⟨Owned.initial, nofun, nofun⟩

/-- What the driver's thread does leaves the record that the worker thread holds. -/
theorem Sound.driver {s : State} (sound : Sound s) {w : World}
    (owned : Owned w (held s.pending)) (keeps : ∀ pov, Keeps pov s.world w) :
    Sound { s with world := w } where
  owned := owned
  named := sound.named
  stored := by
    intro r left
    obtain ⟨ov, hov, type⟩ := sound.stored r left
    obtain ⟨_, kept⟩ := keeps r.pov (sound.owned.allocated r.pov (by simp [hov]))
    exact ⟨ov, kept.trans hov, type⟩

theorem sound_step {s : State} (sound : Sound s) (e : Event) : Sound (step os config s e) := by
  cases e with
  | createProxyConnection id =>
    exact sound.driver (owned_createProxyConnection os config sound.owned id)
      fun _ => keeps_createProxyConnection os config s.world id
  | deleteProxyConnection id =>
    exact sound.driver (owned_deleteProxyConnection sound.owned id)
      fun _ => keeps_deleteProxyConnection s.world id
  | udpSend id buf remoteAddress remoteAddressLen =>
    exact sound.driver (owned_udpSend os sound.owned id buf remoteAddress remoteAddressLen)
      fun _ => keeps_udpSend os s.world id buf remoteAddress remoteAddressLen
  | complete op data error =>
    cases busy : s.pending with
    | some r =>
      simp only [step, busy]
      exact sound
    | none =>
      have owned := sound.owned
      rw [busy] at owned
      obtain ⟨owned', named⟩ := owned_completeUntilRearm os config owned op data error
      simp only [step, busy]
      refine ⟨owned', fun r left => ?_, fun r left => ?_⟩
      · obtain ⟨pov, own, receives⟩ := named r left
        exact ⟨own.trans (congrArg Prod.fst pov).symm, receives⟩
      · exact (completeUntilRearm_pending owned left).2.2.2.2
  | rearm =>
    cases busy : s.pending with
    | none =>
      simp only [step, busy]
      exact sound
    | some r =>
      obtain ⟨own, receives⟩ := sound.named r busy
      have owned := sound.owned
      rw [busy] at owned
      simp only [step, busy]
      exact ⟨owned_issue os owned own receives, nofun, nofun⟩

/-- The event closes the connection of the endpoint or puts another one in its place. A
connection that cannot have its sockets replaces none. -/
def Severs (os : Os) (s : State) (id : EndpointId) : Event → Prop
  | .createProxyConnection j => j = id ∧ (UdpHandler.openSockets os s.world id).2 ≠ none
  | .deleteProxyConnection j => j = id
  | .complete op _ error => s.pending = none ∧ op ∈ armed s.world id .ovtConnect ∧ error ≠ 0
  | .udpSend _ _ _ _ => False
  | .rearm => False

/-- What does not sever a connection leaves it its sockets. -/
theorem sockets_step {s : State} (sound : Sound s) {e : Event} {id : EndpointId}
    (spared : ¬ Severs os s id e) : sockets (step os config s e).world id = sockets s.world id := by
  cases e with
  | createProxyConnection j =>
    by_cases own : j = id
    · subst own
      have failed : (UdpHandler.openSockets os s.world j).2 = none :=
        not_not.mp fun opened => spared ⟨rfl, opened⟩
      have same : (UdpHandler.openSockets os s.world j).1.socketMap = s.world.socketMap := by
        unfold UdpHandler.openSockets
        split
        · rfl
        · simp only
          split <;> rfl
      simp only [step, ← UdpHandler.createAtOnce_eq, UdpHandler.createAtOnce]
      generalize UdpHandler.openSockets os s.world j = result at failed same ⊢
      obtain ⟨w, opened⟩ := result
      obtain rfl : opened = none := failed
      exact congrFun (sockets_congr same) j
    · exact sockets_createProxyConnection s.world (Ne.symm own)
  | deleteProxyConnection j =>
    exact sockets_deleteProxyConnection s.world (fun own => spared own.symm)
  | udpSend j buf remoteAddress remoteAddressLen =>
    exact congrFun (sockets_udpSend os s.world j buf remoteAddress remoteAddressLen) id
  | complete op data error =>
    cases busy : s.pending with
    | some r => simp only [step, busy]
    | none =>
      have owned := sound.owned
      rw [busy] at owned
      simp only [step, busy]
      cases left : (completeUntilRearm os config s.world op data error).2 with
      | some r =>
        obtain ⟨_, _, _, same, _⟩ := completeUntilRearm_pending owned left
        exact congrFun same id
      | none =>
        rw [completeUntilRearm_done left]
        rcases sockets_complete os config s.world op data error id with same | ⟨failed, _⟩
        · exact same
        · obtain ⟨ov, hov, type, own⟩ := failed.ovData
          have armed : op ∈ armed s.world id .ovtConnect := by
            refine mem_armed.mpr ⟨failed.pending, ?_, failed.direct, ?_⟩
            · exact (owned.named op.pov ov hov).symm.trans own
            · rw [hov, Option.map_some, type]
          exact absurd ⟨busy, armed, failed.failed⟩ spared
  | rearm =>
    cases busy : s.pending with
    | none => simp only [step, busy]
    | some r =>
      simp only [step, busy]
      exact congrFun (sockets_issue s.world r) id

/-- The receive that the worker thread is to issue goes to a socket of its connection. -/
def PendingOwned (s : State) : Prop := ∀ r, s.pending = some r → Owns s.world r

/-- What a completion leaves armed is armed after the receive has been issued as well. -/
theorem armed_complete {w : World} (owned : Owned w []) {op op' : Operation} {data : Bytes}
    {error : Nat} {id : EndpointId} {type : OvType} (receives : type.receives = true)
    (mem : op' ∈ armed (completeUntilRearm os config w op data error).1 id type) :
    op' ∈ armed (complete os config w op data error) id type := by
  cases left : (completeUntilRearm os config w op data error).2 with
  | none => exact completeUntilRearm_done left ▸ mem
  | some r =>
    obtain ⟨_, _, _, _, stored, hov, htype⟩ := completeUntilRearm_pending owned left
    obtain ⟨owned', named⟩ := owned_completeUntilRearm os config owned op data error
    obtain ⟨pov, own, receives'⟩ := named r left
    have whole := finish_complete os config w op data error
    generalize completeUntilRearm os config w op data error = result at left whole mem hov owned'
    obtain ⟨w', rest⟩ := result
    obtain rfl : rest = some r := left
    obtain ⟨accepted, rearmed⟩ := issued os owned' (own.trans (congrArg Prod.fst pov).symm) hov
      htype receives'
    have whole' : issue os w' r = complete os config w op data error := whole
    rw [← whole']
    exact rearmed.more receives mem

theorem sockets_completeUntilRearm (w : World) (op : Operation) (data : Bytes) (error : Nat) :
    sockets (completeUntilRearm os config w op data error).1 =
      sockets (complete os config w op data error) := by
  rw [← finish_complete]
  generalize completeUntilRearm os config w op data error = result
  obtain ⟨w', _ | r⟩ := result
  · rfl
  · exact (sockets_issue w' r).symm

/-- A step arms receives on the sockets of their connections only. -/
theorem armed_step {s : State} (sound : Sound s) (pending : PendingOwned s) (e : Event)
    {id : EndpointId} {type : OvType} (receives : type.receives = true) {op : Operation}
    (mem : op ∈ armed (step os config s e).world id type) :
    op ∈ armed s.world id type ∨ OwnsSocket (step os config s e).world id type op.socket := by
  cases e with
  | createProxyConnection j =>
    by_cases own : j = id
    · subst own
      exact armed_gained (linkStep_createProxyConnection os config sound.owned j).gains receives mem
    · have same := untouched_createProxyConnection os config (.refl id s.world) own
      exact Or.inl (armed_of_link (link_untouched same) receives ▸ mem)
  | deleteProxyConnection j =>
    by_cases own : j = id
    · subst own
      have gone : LinkStep config j (link s.world j) (.deleteProxyConnection j) _ := .deleted
      rw [← link_deleteProxyConnection] at gone
      exact armed_gained gone.gains receives mem
    · have same := untouched_deleteProxyConnection (.refl id s.world) own
      exact Or.inl (armed_of_link (link_untouched same) receives ▸ mem)
  | udpSend j buf remoteAddress remoteAddressLen =>
    by_cases own : j = id
    · subst own
      have sent : LinkStep config j _ _ _ :=
        linkStep_udpSend os config sound.owned buf remoteAddress remoteAddressLen
      exact armed_gained sent.gains receives mem
    · have same := untouched_udpSend os (.refl id s.world) own buf remoteAddress remoteAddressLen
      exact Or.inl (armed_of_link (link_untouched same) receives ▸ mem)
  | complete op' data error =>
    cases busy : s.pending with
    | some r =>
      simp only [step, busy] at mem ⊢
      exact Or.inl mem
    | none =>
      have owned := sound.owned
      rw [busy] at owned
      simp only [step, busy] at mem ⊢
      have moved := link_step os config owned (.complete op' data error) id
      rcases armed_gained moved.gains receives (armed_complete owned receives mem) with before | owns
      · exact Or.inl before
      · exact Or.inr (owns.congr (congrFun (sockets_completeUntilRearm ..) id))
  | rearm =>
    cases busy : s.pending with
    | none =>
      simp only [step, busy] at mem ⊢
      exact Or.inl mem
    | some r =>
      have owned := sound.owned
      rw [busy] at owned
      obtain ⟨named, receives'⟩ := sound.named r busy
      obtain ⟨stored, hov, htype⟩ := sound.stored r busy
      obtain ⟨accepted, rearmed⟩ := issued os owned named hov htype receives'
      simp only [step, busy] at mem ⊢
      by_cases own : r.ov.id = id
      · subst own
        rcases (rearmed.own type receives op).mp mem with before | ⟨_, htype', rfl⟩
        · exact Or.inl before
        · subst htype'
          exact Or.inr ((pending r busy).congr (congrFun (sockets_issue s.world r) _))
      · exact Or.inl (armed_of_link (rearmed.others id own) receives ▸ mem)

end Steps

section Runs
variable (os : Os) (config : Config)

def run (evs : List Event) : State := (machine os config).run State.initial evs

theorem run_concat (evs : List Event) (e : Event) :
    run os config (evs ++ [e]) = step os config (run os config evs) e :=
  (machine os config).run_append ..

/-- The receives that the endpoint has under way. -/
def receives (w : World) (id : EndpointId) : List Operation :=
  armed w id .ovtTcpReceive ++ armed w id .ovtUdpReceive

/-- No connection is severed while the worker thread has a receive of it to issue, and the
receives that are under way when it is severed complete with zero bytes, if they do. -/
def Undisturbed (evs : List Event) : Prop :=
  ∀ front e back id, evs = front ++ e :: back → Severs os (run os config front) id e →
    (∀ r, (run os config front).pending = some r → r.ov.id ≠ id) ∧
      ∀ op ∈ receives (run os config front).world id, ∀ between data error rest,
        back = between ++ .complete op data error :: rest →
        (run os config (front ++ e :: between)).pending = none →
        op ∈ (run os config (front ++ e :: between)).world.pending → data = []

/-- Every receive is issued on a socket that its connection has at that time. -/
def RearmsOwned (evs : List Event) : Prop :=
  ∀ before after r, evs = before ++ .rearm :: after →
    (run os config before).pending = some r → Owns (run os config before).world r

/-- The connection was severed while the operation was one of its receives. -/
def Cut (evs : List Event) (op : Operation) : Prop :=
  ∃ front e back id, evs = front ++ e :: back ∧ Severs os (run os config front) id e ∧
    op ∈ receives (run os config front).world id

/-- A receive that was armed and never cut is on a socket of its connection. -/
structure Kept (evs : List Event) : Prop where
  sound : Sound (run os config evs)
  pending : PendingOwned (run os config evs)
  armed : ∀ id type, type.receives = true → ∀ op ∈ armed (run os config evs).world id type,
    OwnsSocket (run os config evs).world id type op.socket ∨ Cut os config evs op

variable {os config} {evs : List Event} {e : Event} {op : Operation}

theorem Undisturbed.front {more : List Event} (undisturbed : Undisturbed os config (evs ++ more)) :
    Undisturbed os config evs := by
  rintro front e back id rfl severs
  obtain ⟨clear, empty⟩ := undisturbed front e (back ++ more) id (by simp) severs
  refine ⟨clear, fun op mem between data error rest split => ?_⟩
  exact empty op mem between data error (rest ++ more) (by simp [split])

theorem Undisturbed.clear (undisturbed : Undisturbed os config (evs ++ [e])) {id : EndpointId}
    (severs : Severs os (run os config evs) id e) {r : Pending}
    (left : (run os config evs).pending = some r) : r.ov.id ≠ id :=
  (undisturbed evs e [] id rfl severs).1 r left

theorem Undisturbed.empty {data : Bytes} {error : Nat}
    (undisturbed : Undisturbed os config (evs ++ [.complete op data error]))
    (cut : Cut os config evs op) (idle : (run os config evs).pending = none)
    (pending : op ∈ (run os config evs).world.pending) : data = [] := by
  obtain ⟨front, e, back, id, rfl, severs, mem⟩ := cut
  have split : front ++ e :: back ++ [.complete op data error] =
      front ++ e :: (back ++ [.complete op data error]) := by simp
  exact (undisturbed front e _ id split severs).2 op mem back data error [] rfl idle pending

theorem Cut.concat (cut : Cut os config evs op) (e : Event) : Cut os config (evs ++ [e]) op := by
  obtain ⟨front, e', back, id, rfl, severs, mem⟩ := cut
  exact ⟨front, e', back ++ [e], id, by simp, severs, mem⟩

theorem mem_receives {w : World} {id : EndpointId} {type : OvType}
    (known : type.receives = true) (mem : op ∈ armed w id type) : op ∈ receives w id := by
  cases type with
  | ovtTcpReceive => exact List.mem_append_left _ mem
  | ovtUdpReceive => exact List.mem_append_right _ mem
  | ovtConnect | ovtTcpSend | ovtUdpSend => exact absurd known Bool.false_ne_true

theorem Kept.pending_step (kept : Kept os config evs)
    (undisturbed : Undisturbed os config (evs ++ [e])) :
    PendingOwned (step os config (run os config evs) e) := by
  -- a receive that stays to be issued is not that of a severed connection
  have stays : ∀ r, (run os config evs).pending = some r →
      Owns (step os config (run os config evs) e).world r := by
    intro r left
    have spared : ¬ Severs os (run os config evs) r.ov.id e :=
      fun severs => undisturbed.clear severs left rfl
    exact (kept.pending r left).congr (sockets_step kept.sound spared)
  intro r left
  cases e with
  | createProxyConnection id | deleteProxyConnection id | udpSend id buf addr len =>
    exact stays r left
  | complete op data error =>
    cases busy : (run os config evs).pending with
    | some r' =>
      have same : (step os config (run os config evs) (.complete op data error)).pending =
          some r' := by simp only [step, busy]
      obtain rfl := Option.some_inj.mp (same.symm.trans left)
      exact stays r' busy
    | none =>
      have owned := kept.sound.owned
      rw [busy] at owned
      simp only [step, busy] at left ⊢
      obtain ⟨nonempty, socket, mem, same, _⟩ := completeUntilRearm_pending owned left
      obtain ⟨_, named⟩ := owned_completeUntilRearm os config owned op data error
      obtain ⟨_, _, known⟩ := named r left
      rcases kept.armed r.ov.id r.ov.type known op mem with owns | cut
      · rw [← socket] at owns
        exact owns.congr (congrFun same _)
      · exact absurd (undisturbed.empty cut busy (mem_armed.mp mem).1) nonempty
  | rearm =>
    cases busy : (run os config evs).pending with
    | some r' =>
      simp only [step, busy] at left
      cases left
    | none =>
      simp only [step, busy] at left
      cases left

theorem Kept.armed_concat (kept : Kept os config evs) (e : Event) {id : EndpointId}
    {type : OvType} (known : type.receives = true)
    (mem : op ∈ Links.armed (step os config (run os config evs) e).world id type) :
    OwnsSocket (step os config (run os config evs) e).world id type op.socket ∨
      Cut os config (evs ++ [e]) op := by
  rcases armed_step kept.sound kept.pending e known mem with before | new
  · rcases kept.armed id type known op before with owns | cut
    · by_cases severs : Severs os (run os config evs) id e
      · exact Or.inr ⟨evs, e, [], id, rfl, severs, mem_receives known before⟩
      · exact Or.inl (owns.congr (sockets_step kept.sound severs))
    · exact Or.inr (cut.concat e)
  · exact Or.inl new

theorem kept_run (undisturbed : Undisturbed os config evs) : Kept os config evs := by
  induction evs using List.reverseRecOn with
  | nil =>
    refine ⟨.initial, fun r left => ?_, fun id type _ op mem => ?_⟩
    · cases left
    · cases mem
  | append_singleton evs e ih =>
    have kept := ih undisturbed.front
    have sound := @sound_step os config _ kept.sound e
    have pending := kept.pending_step undisturbed
    rw [← run_concat] at sound pending
    refine ⟨sound, pending, fun id type known op mem => ?_⟩
    rw [run_concat] at mem ⊢
    exact kept.armed_concat e known mem

/-- In every run in which no connection is severed under a receive that then gets data, every
receive is issued on a socket that its connection still has. -/
theorem rearm_owned (undisturbed : Undisturbed os config evs) : RearmsOwned os config evs := by
  rintro before after r rfl left
  exact (kept_run undisturbed.front).pending r left

end Runs

section Stale
variable {os : Os} {config : Config}

/-- A receive that got no more than fits into its buffer. -/
theorem step_receive {s : State} (idle : s.pending = none) {op : Operation} {ov : OvData}
    (pending : op ∈ s.world.pending) (direct : op.queued = false)
    (hov : s.world.ovData op.pov = some ov) (receives : ov.type.receives = true) {data : Bytes}
    (fits : data.length ≤ ov.buffer.length) (error : Nat) :
    step os config s (.complete op data error) =
      receivedState os config s.world op ov data error := by
  have hov' : (s.world.removePending op).ovData op.pov = some ov := hov
  simp only [step, idle, completeUntilRearm, if_pos pending, dispatchUntilRearm, hov', direct,
    receives, receivedState, List.take_of_length_le fits, Bool.false_eq_true, if_false, if_true]

def greeting : List Event :=
  [.createProxyConnection 7, .complete ⟨(7, 0), 0, false⟩ [] 0]

/-- The endpoint is closed while the receive of its greeting is under way. -/
def closing : List Event := greeting ++ [.deleteProxyConnection 7]

def answerEvent : Event := .complete ⟨(7, 2), 0, false⟩ methodNone 0

/-- The answer of the server is handled in this state. -/
def answered (s : State) : State :=
  receivedState acceptingOs anonymousConfig s.world ⟨(7, 2), 0, false⟩
    (freshOv .ovtTcpReceive) methodNone 0

theorem methodNone_fits : methodNone.length ≤ (freshOv .ovtTcpReceive).buffer.length := by
  rw [freshOv_length]
  exact (show 2 ≤ 65536 by omega)

theorem run_closing :
    run acceptingOs anonymousConfig (closing ++ [answerEvent]) =
      answered (run acceptingOs anonymousConfig closing) := by
  have armed : (⟨(7, 2), 0, false⟩ : Operation) ∈
      (run acceptingOs anonymousConfig closing).world.pending := by decide +kernel
  rw [run_concat]
  exact step_receive rfl armed rfl rfl rfl methodNone_fits 0

theorem run_greeting :
    run acceptingOs anonymousConfig (greeting ++ [answerEvent]) =
      answered (run acceptingOs anonymousConfig greeting) := by
  have armed : (⟨(7, 2), 0, false⟩ : Operation) ∈
      (run acceptingOs anonymousConfig greeting).world.pending := by decide +kernel
  rw [run_concat]
  exact step_receive rfl armed rfl rfl rfl methodNone_fits 0

/-- While the connection stays, its receive is issued on the socket it came from. -/
theorem answer_rearmed :
    ∃ r, (run acceptingOs anonymousConfig (greeting ++ [answerEvent])).pending = some r ∧
      Owns (run acceptingOs anonymousConfig (greeting ++ [answerEvent])).world r := by
  have undisturbed : Undisturbed acceptingOs anonymousConfig
      (greeting ++ [answerEvent] ++ [.rearm]) := by
    intro front e back id split severs
    cases front with
    | nil =>
      -- nothing is under way when the connection is created
      refine ⟨fun r left => ?_, fun op mem => ?_⟩
      · cases left
      · cases mem
    | cons first front =>
      have rest : [.complete ⟨(7, 0), 0, false⟩ [] 0, answerEvent, .rearm] = front ++ e :: back :=
        (List.cons.inj split).2
      have later : e ∈ [.complete ⟨(7, 0), 0, false⟩ [] 0, answerEvent, .rearm] := by
        rw [rest]
        exact List.mem_append_right _ List.mem_cons_self
      simp only [List.mem_cons, List.not_mem_nil, or_false] at later
      rcases later with rfl | rfl | rfl
      · exact absurd rfl severs.2.2
      · exact absurd rfl severs.2.2
      · exact absurd severs not_false
  have left : (answered (run acceptingOs anonymousConfig greeting)).pending.map
      (fun r => r.ov.id) = some 7 := by decide +kernel
  rw [← run_greeting] at left
  obtain ⟨r, pending, -⟩ := Option.map_eq_some_iff.mp left
  exact ⟨r, pending, rearm_owned undisturbed _ [] r rfl pending⟩

/-- The handler issues a receive on a socket that `deleteProxyConnection` has closed. -/
theorem closed_socket_rearmed :
    ¬ RearmsOwned acceptingOs anonymousConfig (closing ++ [answerEvent] ++ [.rearm]) := by
  intro all
  have left : (answered (run acceptingOs anonymousConfig closing)).pending.map
      (fun r => r.ov.id) = some 7 := by decide +kernel
  have gone : (answered (run acceptingOs anonymousConfig closing)).world.socketMap 7 = none := by
    decide +kernel
  rw [← run_closing] at left gone
  obtain ⟨r, pending, own⟩ := Option.map_eq_some_iff.mp left
  obtain ⟨_, found, _⟩ := all (closing ++ [answerEvent]) [] r rfl pending
  rw [own, gone] at found
  cases found

end Stale

end Rearm
