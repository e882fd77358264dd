import QvNetfilter.Sockets
import QvNetfilter.UdpHandler

/-!
# The two tables

`EventHandler` has a context for an endpoint and `UDPProxy` has a connection for
it. The tables belong to two objects with a lock each. What keeps them together is
one inclusion: when nobody holds the lock of `EventHandler`, every endpoint with a
connection has a context.
-/

namespace Tables

open Memory Socks Mealy UdpHistory Sockets UdpHandler
open UdpProxy hiding Event step machine udpSend complete

section Effects
variable {os : Os} {config : Config}

theorem sockets_eq_none {w : World} {id : EndpointId} :
    sockets w id = none ↔ w.socketMap id = none := by
  rw [sockets, Option.map_eq_none_iff]

theorem openSockets_socketMap (os : Os) (w : World) (id : EndpointId) :
    (openSockets os w id).1.socketMap = w.socketMap := by
  unfold openSockets
  split
  · rfl
  · simp only
    split <;> rfl

/-- Only the section that stores the entry writes to the table. -/
theorem advance_socketMap {w w' : World} {id : EndpointId} {tcpSocket udpSocket : Socket}
    {stage stage' : Creating} (later : stage ≠ .opened)
    (result : advance os config w id tcpSocket udpSocket stage = (w', stage')) :
    w'.socketMap = w.socketMap := by
  have same : (advance os config w id tcpSocket udpSocket stage).1.socketMap = w.socketMap := by
    cases stage with
    | opened => exact absurd rfl later
    | udpRegistered => exact startConnect_socketMap os w id ..
    | stored | tcpRegistered | connecting | failed => rfl
  rw [result] at same
  exact same

theorem storeEntry_socketMap (config : Config) (w : World) (id : EndpointId)
    (tcpSocket udpSocket : Socket) :
    (storeEntry config w id tcpSocket udpSocket).socketMap =
      Function.update w.socketMap id (some (ProxyData.new config tcpSocket udpSocket)) := rfl

/-- The stage after the first has not got back to it. -/
theorem advance_stage {w w' : World} {id : EndpointId} {tcpSocket udpSocket : Socket}
    {stage stage' : Creating}
    (result : advance os config w id tcpSocket udpSocket stage = (w', stage')) :
    stage' ≠ .opened := by
  have moved : (advance os config w id tcpSocket udpSocket stage).2 ≠ .opened := by
    cases stage with
    | opened | connecting | failed =>
      intro opened
      cases opened
    | stored | tcpRegistered | udpRegistered =>
      simp only [advance]
      split <;> decide
  rw [result] at moved
  exact moved

/-- After the port has been closed no socket is registered. -/
theorem advance_closedPort {w w' : World} {id : EndpointId} {tcpSocket udpSocket : Socket}
    {stage' : Creating}
    (result : advance (closedPort os) config w id tcpSocket udpSocket .stored = (w', stage')) :
    stage' = .failed :=
  (congrArg Prod.snd result).symm

end Effects

section Invariant

/-- The entry for the endpoint is in the table while `createProxyConnection` goes on. -/
def Stored (s : State) (id : EndpointId) : Prop :=
  ∃ d stage tcpSocket udpSocket, s.place = .creating id d stage tcpSocket udpSocket ∧
    stage ≠ .opened

/-- Its registration is going to fail, or has failed. -/
def Doomed (s : State) (id : EndpointId) : Prop :=
  ∃ d stage tcpSocket udpSocket, s.place = .creating id d stage tcpSocket udpSocket ∧
    (stage = .stored ∨ stage = .failed)

structure Consistent (s : State) : Prop where
  keys : ∀ id, s.proxy.socketMap id ≠ none → s.udpCtxMap id ≠ none ∨ Stored s id
  unknown : ∀ id d stage tcpSocket udpSocket,
    s.place = .creating id d stage tcpSocket udpSocket → s.udpCtxMap id = none
  closing : ∀ id, s.place = .closing id → s.proxy.socketMap id = none
  cleared : s.freeing = .tablesCleared ∨ s.freeing = .freed →
    ∀ id, s.proxy.socketMap id ≠ none → Doomed s id

theorem Consistent.initial : Consistent State.initial where
  keys := fun _ present => absurd rfl present
  unknown := fun _ _ _ _ _ => nofun
  closing := fun _ => nofun
  cleared := fun _ _ present => absurd rfl present

variable {os : Os} {config : Config} {s s' : State}

theorem Stored.doomed_stage {id : EndpointId} (doomed : Doomed s id) : Stored s id := by
  obtain ⟨d, stage, tcpSocket, udpSocket, there, early⟩ := doomed
  refine ⟨d, stage, tcpSocket, udpSocket, there, ?_⟩
  rintro rfl
  simp at early

/-- Where the lock is free, no entry is on its way. -/
theorem Stored.locked {id : EndpointId} (stored : Stored s id) : s.place.holdsLock = true := by
  obtain ⟨d, stage, tcpSocket, udpSocket, there, _⟩ := stored
  rw [there]
  rfl

/-- The entry that `createProxyConnection` is about to store does not exist yet. -/
theorem Consistent.vacant (consistent : Consistent s) {id : EndpointId} {d : Datagram}
    {tcpSocket udpSocket : Socket} (there : s.place = .creating id d .opened tcpSocket udpSocket) :
    s.proxy.socketMap id = none := by
  by_contra present
  rcases consistent.keys id present with context | ⟨d', stage, t, u, there', later⟩
  · exact context (consistent.unknown id d _ _ _ there)
  · rw [there] at there'
    injection there' with _ _ same
    exact later same.symm

/-- A step that leaves the driver's thread where it is and takes no context away. -/
theorem Consistent.shrink (consistent : Consistent s) {w : World}
    (fewer : ∀ id, w.socketMap id ≠ none → s.proxy.socketMap id ≠ none) :
    Consistent { s with proxy := w } where
  keys := fun id present => consistent.keys id (fewer id present)
  unknown := consistent.unknown
  closing := fun id there => by
    by_contra present
    exact fewer id present (consistent.closing id there)
  cleared := fun late id present => consistent.cleared late id (fewer id present)

theorem fewer_complete (w : World) (op : Operation) (data : Bytes) (error : Nat)
    (id : EndpointId) (present : (UdpProxy.complete os config w op data error).socketMap id ≠ none) :
    w.socketMap id ≠ none := by
  intro absent
  apply present
  rw [← sockets_eq_none] at absent ⊢
  rcases sockets_complete os config w op data error id with same | ⟨_, gone⟩
  · rw [same, absent]
  · exact gone

theorem fewer_deleteProxyConnection (w : World) (id j : EndpointId)
    (present : (w.deleteProxyConnection id).socketMap j ≠ none) :
    j ≠ id ∧ w.socketMap j ≠ none := by
  rw [deleteProxyConnection_socketMap] at present
  by_cases own : j = id
  · subst own
    rw [Function.update_self] at present
    exact absurd rfl present
  · rw [Function.update_of_ne own] at present
    exact ⟨own, present⟩

/-- Outside of `createProxyConnection` the contexts cover the table. -/
theorem Consistent.covered (consistent : Consistent s) (unlocked : s.place.holdsLock = false)
    {id : EndpointId} (present : s.proxy.socketMap id ≠ none) : s.udpCtxMap id ≠ none := by
  rcases consistent.keys id present with context | stored
  · exact context
  · exact absurd stored.locked (by simp [unlocked])

/-- The driver's thread leaves for a place without the lock, with no entry on its way. -/
theorem Consistent.leave (consistent : Consistent s) {w : World} {place : Place}
    (unlocked : s.place.holdsLock = false) (outside : place.holdsLock = false)
    (closing : ∀ id, place = .closing id → w.socketMap id = none)
    (fewer : ∀ id, w.socketMap id ≠ none → s.proxy.socketMap id ≠ none) :
    Consistent { s with proxy := w, place := place } where
  keys := fun id present => Or.inl (consistent.covered unlocked (fewer id present))
  unknown := by
    rintro id d stage tcpSocket udpSocket there
    rw [show place = _ from there] at outside
    exact absurd outside nofun
  closing := closing
  cleared := fun late id present => by
    have locked := (Stored.doomed_stage (consistent.cleared late id (fewer id present))).locked
    exact absurd locked (by simp [unlocked])

/-- The only entry that can be on its way is the one of the call. -/
theorem consistent_here {id : EndpointId} {d : Datagram} {stage : Creating}
    {tcpSocket udpSocket : Socket} (there : s.place = .creating id d stage tcpSocket udpSocket)
    (j : EndpointId) (stored : Stored s j) : j = id := by
  obtain ⟨d', stage', t, u, there', _⟩ := stored
  rw [there] at there'
  injection there' with own
  exact own.symm

theorem fewer_udpSend {w w' : World} {id : EndpointId} {buf : Bytes} {remoteAddress : Address}
    {remoteAddressLen : Nat} {sent : Bool}
    (result : UdpProxy.udpSend os w id buf remoteAddress remoteAddressLen = (w', sent))
    (j : EndpointId) (present : w'.socketMap j ≠ none) : w.socketMap j ≠ none := by
  have same := sockets_udpSend os w id buf remoteAddress remoteAddressLen
  rw [result] at same
  rwa [ne_eq, ← sockets_eq_none, ← same, sockets_eq_none]

theorem consistent_advanced (consistent : Consistent s) {id : EndpointId} {d : Datagram}
    {stage stage' : Creating} {w : World} {tcpSocket udpSocket : Socket}
    (there : s.place = .creating id d stage tcpSocket udpSocket)
    (result : advance (currentOs os s.freeing) config s.proxy id tcpSocket udpSocket stage =
      (w, stage')) :
    Consistent { s with proxy := w, place := .creating id d stage' tcpSocket udpSocket } := by
  have moved := advance_stage result
  have here : ∀ j, Stored s j → j = id := consistent_here there
  have unknown := consistent.unknown id d stage tcpSocket udpSocket there
  have known : ∀ j d' stage t u,
      Place.creating id d stage' tcpSocket udpSocket = .creating j d' stage t u →
      s.udpCtxMap j = none := by
    intro j d' stage t u there'
    injection there' with own
    rw [← own]
    exact unknown
  by_cases first : stage = .opened
  · subst first
    obtain ⟨rfl, rfl⟩ : storeEntry config s.proxy id tcpSocket udpSocket = w ∧ .stored = stage' :=
      Prod.mk.inj result
    have stores := storeEntry_socketMap config s.proxy id tcpSocket udpSocket
    refine ⟨?_, known, fun _ => nofun, ?_⟩
    · intro j present
      by_cases own : j = id
      · subst own
        exact Or.inr ⟨d, .stored, tcpSocket, udpSocket, rfl, nofun⟩
      · rw [stores, Function.update_of_ne own] at present
        rcases consistent.keys j present with context | stored
        · exact Or.inl context
        · exact absurd (here j stored) own
    · intro late j present
      by_cases own : j = id
      · subst own
        exact ⟨d, .stored, tcpSocket, udpSocket, rfl, Or.inl rfl⟩
      · rw [stores, Function.update_of_ne own] at present
        exact absurd (here j (Stored.doomed_stage (consistent.cleared late j present))) own
  · have same := advance_socketMap first result
    refine ⟨?_, known, fun _ => nofun, ?_⟩
    · intro j present
      rw [same] at present
      rcases consistent.keys j present with context | stored
      · exact Or.inl context
      · obtain rfl := here j stored
        exact Or.inr ⟨d, stage', tcpSocket, udpSocket, rfl, moved⟩
    · intro late j present
      rw [same] at present
      obtain ⟨d', stage₀, t, u, there', early⟩ := consistent.cleared late j present
      rw [there] at there'
      injection there' with own _ sameStage
      subst own sameStage
      refine ⟨d, stage', tcpSocket, udpSocket, rfl, Or.inr ?_⟩
      rcases early with rfl | rfl
      · have shut : currentOs os s.freeing = closedPort os := by
          rcases late with late | late <;> rw [late] <;> rfl
        rw [shut] at result
        exact advance_closedPort result
      · exact (congrArg Prod.snd result).symm

theorem consistent_step (consistent : Consistent s) (e : Event) :
    Consistent (step os config s e).1 := by
  have same : ∀ {w : World}, w.socketMap = s.proxy.socketMap →
      ∀ id, w.socketMap id ≠ none → s.proxy.socketMap id ≠ none := by
    intro w equal id present
    rwa [equal] at present
  generalize stepped : step os config s e = result
  have cases_ := handlerStep os config s e
  rw [stepped] at cases_
  obtain ⟨s', outs⟩ := result
  show Consistent s'
  cases cases_ with
  | ignored | received => exact consistent
  | known idle context =>
    exact consistent.leave (by rw [idle]; rfl) rfl (fun _ => nofun) fun _ present => present
  | @notOpened id d w idle unknown failed =>
    have kept := openSockets_socketMap (currentOs os s.freeing) s.proxy id
    rw [failed] at kept
    exact consistent.shrink (same kept)
  | @opened id d w tcpSocket udpSocket idle unknown opened =>
    have kept := openSockets_socketMap (currentOs os s.freeing) s.proxy id
    rw [opened] at kept
    have unlocked : s.place.holdsLock = false := by rw [idle]; rfl
    refine ⟨fun j present => Or.inl (consistent.covered unlocked (same kept j present)), ?_,
      fun _ => nofun, ?_⟩
    · rintro j _ _ _ _ ⟨⟩
      exact unknown
    · intro late j present
      have doomed := consistent.cleared late j (same kept j present)
      exact absurd (Stored.doomed_stage doomed).locked (by simp [unlocked])
  | advanced there notConnecting notFailed result =>
    exact consistent_advanced consistent there result
  | @gaveUp id d tcpSocket udpSocket there =>
    have here : ∀ j, Stored s j → j = id := consistent_here there
    refine ⟨?_, fun _ _ _ _ _ => nofun, fun _ => nofun, ?_⟩
    · intro j present
      obtain ⟨other, present'⟩ := fewer_deleteProxyConnection s.proxy id j present
      rcases consistent.keys j present' with context | stored
      · exact Or.inl context
      · exact absurd (here j stored) other
    · intro late j present
      obtain ⟨other, present'⟩ := fewer_deleteProxyConnection s.proxy id j present
      exact absurd (here j (Stored.doomed_stage (consistent.cleared late j present'))) other
  | @created id d tcpSocket udpSocket there =>
    have here : ∀ j, Stored s j → j = id := consistent_here there
    refine ⟨?_, fun _ _ _ _ _ => nofun, fun _ => nofun, ?_⟩
    · intro j present
      refine Or.inl ?_
      by_cases own : j = id
      · simp [own]
      · simp only [Function.update_of_ne own]
        rcases consistent.keys j present with context | stored
        · exact context
        · exact absurd (here j stored) own
    · intro late j present
      obtain ⟨d', stage, t, u, there', early⟩ := consistent.cleared late j present
      rw [there] at there'
      injection there' with _ _ sameStage
      subst sameStage
      simp at early
  | @sent id d w there result =>
    exact consistent.leave (by rw [there]; rfl) rfl (fun _ => nofun)
      fun j => fewer_udpSend result j
  | @posted id d w there result =>
    exact consistent.leave (by rw [there]; rfl) rfl (fun _ => nofun)
      fun j => fewer_udpSend result j
  | @closes id idle =>
    refine consistent.leave (by rw [idle]; rfl) rfl ?_ fun j present =>
      (fewer_deleteProxyConnection s.proxy id j present).2
    rintro j ⟨⟩
    simp
  | @closed id there =>
    have unlocked : s.place.holdsLock = false := by rw [there]; rfl
    have gone := consistent.closing id there
    refine ⟨fun j present => Or.inl ?_, fun _ _ _ _ _ => nofun, fun _ => nofun, ?_⟩
    · have other : j ≠ id := by
        rintro rfl
        exact present gone
      simp only [Function.update_of_ne other]
      exact consistent.covered unlocked present
    · intro late j present
      have doomed := consistent.cleared late j present
      exact absurd (Stored.doomed_stage doomed).locked (by simp [unlocked])
  | completed running =>
    exact consistent.shrink fun id => fewer_complete s.proxy _ _ _ id
  | serviceFreed running =>
    refine ⟨consistent.keys, consistent.unknown, consistent.closing, fun late => ?_⟩
    simp at late
  | tablesCleared stopped =>
    exact ⟨fun _ present => absurd rfl present, consistent.unknown, fun _ _ => rfl,
      fun _ _ present => absurd rfl present⟩
  | contextsCleared cleared unlocked =>
    have none : ∀ id, s.proxy.socketMap id = none := by
      intro id
      by_contra present
      have doomed := consistent.cleared (Or.inl cleared) id present
      exact absurd (Stored.doomed_stage doomed).locked (by simp [unlocked])
    exact ⟨fun id present => absurd (none id) present, fun _ _ _ _ _ _ => rfl,
      consistent.closing, fun _ id present => absurd (none id) present⟩

end Invariant

section Runs
variable (os : Os) (config : Config)

def run (evs : List Event) : State := (machine os config).run State.initial evs

theorem run_concat (evs : List Event) (e : Event) :
    run os config (evs ++ [e]) = (step os config (run os config evs) e).1 :=
  (machine os config).run_append ..

theorem consistent_run (evs : List Event) : Consistent (run os config evs) := by
  have kept : ∀ s e, Consistent s → True → Consistent (step os config s e).1 :=
    fun _ e consistent _ => consistent_step consistent e
  exact (machine os config).run_invariant kept .initial (fun _ _ => trivial)

/-- `createProxyConnection` is called for the endpoint after `before`, and returns false
with the last event of `mid`. -/
structure FailedCreate (before : List Event) (id : EndpointId) (d : Datagram)
    (mid : List Event) : Prop where
  idle : (run os config before).place = .idle
  unknown : (run os config before).udpCtxMap id = none
  during : ∀ front e back, mid = front ++ e :: back →
    (run os config (before ++ .udpSend id d :: front)).place.holdsLock = true
  returned : (run os config (before ++ .udpSend id d :: mid)).place = .idle

/-- The endpoint has lost its connection to the failure of its connect. -/
structure Removed (before mid : List Event) (s : State) (j : EndpointId) : Prop where
  gone : sockets s.proxy j = none
  failure : ∃ front op data error back, mid = front ++ .complete op data error :: back ∧
    ConnectFailed (run os config (before ++ front)).proxy op error j

/-- What `createProxyConnection` leaves of the table that it found. -/
structure Creates (before : List Event) (id : EndpointId) (mid : List Event) (s : State) :
    Prop where
  others : ∀ j, j ≠ id → sockets s.proxy j = sockets (run os config before).proxy j ∨
    Removed os config before mid s j
  own : sockets (run os config before).proxy id = none
  call : (∃ d stage tcpSocket udpSocket, s.place = .creating id d stage tcpSocket udpSocket) ∨
    (s.place = .idle ∧ sockets s.proxy id = none)

variable {os config}

theorem Removed.later {before mid : List Event} {s s' : State} {j : EndpointId}
    (removed : Removed os config before mid s j) (gone : sockets s'.proxy j = none)
    (e : Event) : Removed os config before (mid ++ [e]) s' j := by
  obtain ⟨front, op, data, error, back, split, failed⟩ := removed.failure
  exact ⟨gone, front, op, data, error, back ++ [e], by simp [split], failed⟩

/-- While `createProxyConnection` goes on for one endpoint, the others lose at most the
connections whose connects fail. -/
theorem create_step (os : Os) (config : Config) {s : State} {id : EndpointId} {d : Datagram}
    {stage : Creating} {tcpSocket udpSocket : Socket}
    (there : s.place = .creating id d stage tcpSocket udpSocket)
    {e : Event} (notFree : e ≠ .free) :
    (∀ j, j ≠ id → sockets (step os config s e).1.proxy j = sockets s.proxy j ∨
      (sockets (step os config s e).1.proxy j = none ∧
        ∃ op data error, e = .complete op data error ∧ ConnectFailed s.proxy op error j)) ∧
    ((∃ d stage t u, (step os config s e).1.place = .creating id d stage t u) ∨
      ((step os config s e).1.place = .idle ∧ sockets (step os config s e).1.proxy id = none) ∨
      (step os config s e).1.place = .sending id d) := by
  have cases_ := handlerStep os config s e
  generalize step os config s e = result at cases_ ⊢
  obtain ⟨s', outs⟩ := result
  have same : ∀ {w : World}, w.socketMap = s.proxy.socketMap → ∀ j, sockets w j = sockets s.proxy j :=
    fun equal j => congrFun (sockets_congr equal) j
  cases cases_ with
  | ignored => exact ⟨fun _ _ => Or.inl rfl, Or.inl ⟨d, stage, tcpSocket, udpSocket, there⟩⟩
  | received idle | known idle | notOpened idle | opened idle | closes idle =>
    exact absurd (there.symm.trans idle) nofun
  | sent there' | posted there' | closed there' => exact absurd (there.symm.trans there') nofun
  | serviceFreed | tablesCleared | contextsCleared => exact absurd rfl notFree
  | @advanced id' d' stage₁ stage' w t u there' notConnecting notFailed result =>
    rw [there] at there'
    injection there' with sameId _ sameStage sameTcp sameUdp
    subst sameId sameStage sameTcp sameUdp
    refine ⟨fun j other => Or.inl ?_, Or.inl ⟨_, _, _, _, rfl⟩⟩
    by_cases first : stage = .opened
    · subst first
      obtain ⟨rfl, _⟩ : storeEntry config s.proxy id tcpSocket udpSocket = w ∧ _ :=
        Prod.mk.inj result
      simp only [sockets, storeEntry_socketMap, Function.update_of_ne other]
    · exact same (advance_socketMap first result) j
  | @gaveUp id' d' t u there' =>
    rw [there] at there'
    injection there' with sameId
    subst sameId
    refine ⟨fun j other => Or.inl (sockets_deleteProxyConnection s.proxy other),
      Or.inr (Or.inl ⟨rfl, ?_⟩)⟩
    rw [sockets_eq_none, deleteProxyConnection_socketMap, Function.update_self]
  | @created id' d' t u there' =>
    rw [there] at there'
    injection there' with sameId sameD
    subst sameId sameD
    exact ⟨fun _ _ => Or.inl rfl, Or.inr (Or.inr rfl)⟩
  | @completed op data error running =>
    refine ⟨fun j _ => ?_, Or.inl ⟨d, stage, tcpSocket, udpSocket, there⟩⟩
    rcases sockets_complete os config s.proxy op data error j with kept | ⟨failed, gone⟩
    · exact Or.inl kept
    · exact Or.inr ⟨gone, op, data, error, rfl, failed⟩

theorem Creates.step {before mid : List Event} {id : EndpointId} {s : State}
    (creates : Creates os config before id mid s) (locked : s.place.holdsLock = true)
    (reached : s = run os config (before ++ mid)) {e : Event} (notFree : e ≠ .free)
    (continues : ∀ d, (UdpHandler.step os config s e).1.place ≠ .sending id d) :
    Creates os config before id (mid ++ [e]) (UdpHandler.step os config s e).1 := by
  rcases creates.call with ⟨d, stage, t, u, there⟩ | ⟨idle, _⟩
  · obtain ⟨others, call⟩ := create_step os config there notFree
    refine ⟨fun j other => ?_, creates.own, ?_⟩
    · rcases others j other with kept | ⟨gone, op, data, error, rfl, failed⟩
      · rcases creates.others j other with same | removed
        · exact Or.inl (kept.trans same)
        · exact Or.inr (removed.later (kept.trans removed.gone) e)
      · subst reached
        exact Or.inr ⟨gone, mid, op, data, error, [], rfl, failed⟩
    · rcases call with goes | returned | sending
      · exact Or.inl goes
      · exact Or.inr returned
      · exact absurd sending (continues d)
  · rw [idle] at locked
    exact absurd locked nofun

/-- The call has begun: its sockets are open, or it has returned already. -/
theorem creates_begun {before : List Event} {id : EndpointId} {d : Datagram}
    (idle : (run os config before).place = .idle)
    (unknown : (run os config before).udpCtxMap id = none) :
    Creates os config before id [.udpSend id d] (run os config (before ++ [.udpSend id d])) := by
  have consistent := consistent_run os config before
  have none : sockets (run os config before).proxy id = none := by
    rw [sockets_eq_none]
    by_contra present
    exact consistent.covered (by rw [idle]; rfl) present unknown
  rw [run_concat]
  have cases_ := handlerStep os config (run os config before) (.udpSend id d)
  generalize step os config (run os config before) (.udpSend id d) = result at cases_ ⊢
  obtain ⟨s', outs⟩ := result
  have same : ∀ {w : World}, w.socketMap = (run os config before).proxy.socketMap →
      ∀ j, sockets w j = sockets (run os config before).proxy j :=
    fun equal j => congrFun (sockets_congr equal) j
  cases cases_ with
  | ignored => exact ⟨fun _ _ => Or.inl rfl, none, Or.inr ⟨idle, none⟩⟩
  | known _ context => exact absurd (unknown.symm.trans context) nofun
  | @notOpened _ _ w _ _ failed =>
    have kept := openSockets_socketMap (currentOs os (run os config before).freeing)
      (run os config before).proxy id
    rw [failed] at kept
    exact ⟨fun j _ => Or.inl (same kept j), none, Or.inr ⟨idle, (same kept id).trans none⟩⟩
  | @opened _ _ w t u _ _ opened =>
    have kept := openSockets_socketMap (currentOs os (run os config before).freeing)
      (run os config before).proxy id
    rw [opened] at kept
    exact ⟨fun j _ => Or.inl (same kept j), none, Or.inl ⟨_, _, _, _, rfl⟩⟩

theorem FailedCreate.creates {before mid : List Event} {id : EndpointId} {d : Datagram}
    (failed : FailedCreate os config before id d mid) (noFree : .free ∉ mid)
    (front back : List Event) (split : mid = front ++ back) :
    Creates os config before id (.udpSend id d :: front)
      (run os config (before ++ .udpSend id d :: front)) := by
  induction front using List.reverseRecOn generalizing back with
  | nil => exact creates_begun failed.idle failed.unknown
  | append_singleton front e ih =>
    have split' : mid = front ++ e :: back := by simp [split]
    have notFree : e ≠ .free := by
      rintro rfl
      exact noFree (by simp [split'])
    have assoc : before ++ .udpSend id d :: (front ++ [e]) =
        (before ++ .udpSend id d :: front) ++ [e] := by simp
    have continues : ∀ d', (run os config (before ++ .udpSend id d :: (front ++ [e]))).place ≠
        .sending id d' := by
      intro d' sending
      cases back with
      | nil =>
        have returned := failed.returned
        rw [split', sending] at returned
        exact absurd returned nofun
      | cons e' back =>
        have locked := failed.during (front ++ [e]) e' back (by simp [split'])
        rw [sending] at locked
        exact absurd locked nofun
    have before_ := ih (e :: back) split'
    rw [assoc, run_concat] at continues ⊢
    exact before_.step (failed.during front e back split') rfl notFree continues

/-- A call that has failed leaves the table as it was, up to other connections that their
own connect failures have removed. -/
theorem FailedCreate.leaves {before mid : List Event} {id : EndpointId} {d : Datagram}
    (failed : FailedCreate os config before id d mid) (noFree : .free ∉ mid) (j : EndpointId) :
    sockets (run os config (before ++ .udpSend id d :: mid)).proxy j =
        sockets (run os config before).proxy j ∨
      (j ≠ id ∧ Removed os config before (.udpSend id d :: mid)
        (run os config (before ++ .udpSend id d :: mid)) j) := by
  have creates := failed.creates noFree mid [] (List.append_nil mid).symm
  by_cases own : j = id
  · subst own
    left
    rcases creates.call with ⟨_, _, _, _, there⟩ | ⟨_, gone⟩
    · rw [failed.returned] at there
      exact absurd there nofun
    · rw [gone, creates.own]
  · rcases creates.others j own with same | removed
    · exact Or.inl same
    · exact Or.inr ⟨own, removed⟩

/-- The endpoint is closed, or its context is all that is left to erase. -/
structure Closed (s : State) (id : EndpointId) : Prop where
  entry : s.proxy.socketMap id = none
  context : s.place ≠ .closing id → s.udpCtxMap id = none
  place : s.place.endpoint = some id → s.place = .closing id

theorem Closed.shrink {s : State} {id : EndpointId} (closed : Closed s id) {w : World}
    {place : Place}
    (fewer : w.socketMap id ≠ none → s.proxy.socketMap id ≠ none)
    (context : place ≠ .closing id → s.udpCtxMap id = none)
    (elsewhere : place.endpoint = some id → place = .closing id) :
    Closed { s with proxy := w, place := place } id where
  entry := by
    by_contra present
    exact fewer present closed.entry
  context := context
  place := elsewhere

theorem closed_step {s : State} {id : EndpointId} (closed : Closed s id) {e : Event}
    (notSent : ∀ d, e ≠ .udpSend id d) : Closed (step os config s e).1 id := by
  have cases_ := handlerStep os config s e
  generalize step os config s e = result at cases_ ⊢
  obtain ⟨s', outs⟩ := result
  have same : ∀ {w : World}, w.socketMap = s.proxy.socketMap →
      (w.socketMap id ≠ none → s.proxy.socketMap id ≠ none) := by
    intro w equal present
    rwa [equal] at present
  have outside : ∀ {place : Place}, s.place = place → place ≠ .closing id →
      s.udpCtxMap id = none := by
    rintro place rfl other
    exact closed.context other
  cases cases_ with
  | ignored | received => exact closed
  | @known j d options idle context =>
    have other : j ≠ id := by
      rintro rfl
      exact notSent d rfl
    refine closed.shrink (fun present => present) (fun _ => outside idle nofun) fun here => ?_
    exact absurd (Option.some_inj.mp here) other
  | @notOpened j d w idle unknown failed =>
    have kept := openSockets_socketMap (currentOs os s.freeing) s.proxy j
    rw [failed] at kept
    exact closed.shrink (same kept) closed.context closed.place
  | @opened j d w t u idle unknown opened =>
    have kept := openSockets_socketMap (currentOs os s.freeing) s.proxy j
    rw [opened] at kept
    have other : j ≠ id := by
      rintro rfl
      exact notSent d rfl
    refine closed.shrink (same kept) (fun _ => outside idle nofun) fun here => ?_
    exact absurd (Option.some_inj.mp here) other
  | @advanced j d stage stage' w t u there notConnecting notFailed result =>
    have other : j ≠ id := by
      rintro rfl
      have here := closed.place (by rw [there]; rfl)
      exact absurd (there.symm.trans here) nofun
    have fewer : w.socketMap id ≠ none → s.proxy.socketMap id ≠ none := by
      by_cases first : stage = .opened
      · subst first
        obtain ⟨rfl, _⟩ : storeEntry config s.proxy j t u = w ∧ _ := Prod.mk.inj result
        rw [storeEntry_socketMap, Function.update_of_ne (Ne.symm other)]
        exact fun present => present
      · exact same (advance_socketMap first result)
    refine closed.shrink fewer (fun _ => outside there nofun) fun here => ?_
    exact absurd (Option.some_inj.mp here) other
  | @gaveUp j d t u there =>
    exact closed.shrink (fun present => (fewer_deleteProxyConnection s.proxy j id present).2)
      (fun _ => outside there nofun) nofun
  | @created j d t u there =>
    have other : id ≠ j := by
      rintro rfl
      have here := closed.place (by rw [there]; rfl)
      exact absurd (there.symm.trans here) nofun
    refine ⟨closed.entry, fun _ => ?_, fun here => absurd (Option.some_inj.mp here) other.symm⟩
    simp only [Function.update_of_ne other]
    exact outside there nofun
  | @sent j d w there result =>
    exact closed.shrink (fewer_udpSend result id) (fun _ => outside there nofun) nofun
  | @posted j d w there result =>
    exact closed.shrink (fewer_udpSend result id) (fun _ => outside there nofun) nofun
  | @closes j idle =>
    refine closed.shrink (fun present => (fewer_deleteProxyConnection s.proxy j id present).2)
      (fun _ => outside idle nofun) fun here => ?_
    rw [Option.some_inj.mp here]
  | @closed j there =>
    refine ⟨closed.entry, fun _ => ?_, nofun⟩
    by_cases own : id = j
    · simp [own]
    · simp only [Function.update_of_ne own]
      exact closed.context (by rw [there]; rintro ⟨⟩; exact own rfl)
  | completed =>
    exact closed.shrink (fewer_complete s.proxy _ _ _ id) closed.context closed.place
  | serviceFreed => exact ⟨closed.entry, closed.context, closed.place⟩
  | tablesCleared => exact ⟨rfl, closed.context, closed.place⟩
  | contextsCleared => exact ⟨closed.entry, fun _ => rfl, closed.place⟩

theorem closed_run {before after : List Event} {id : EndpointId}
    (idle : (run os config before).place = .idle) (notSent : ∀ d, .udpSend id d ∉ after) :
    Closed (run os config (before ++ .udpClosed id :: after)) id := by
  induction after using List.reverseRecOn with
  | nil =>
    rw [run_concat]
    have closing : step os config (run os config before) (.udpClosed id) =
        udpClosed (run os config before) id := if_pos idle
    rw [closing]
    exact ⟨by simp [udpClosed], fun elsewhere => absurd rfl elsewhere, fun _ => rfl⟩
  | append_singleton after e ih =>
    have assoc : before ++ .udpClosed id :: (after ++ [e]) =
        (before ++ .udpClosed id :: after) ++ [e] := by simp
    rw [assoc, run_concat]
    refine closed_step (ih fun d sent => notSent d (List.mem_append_left _ sent)) ?_
    rintro d rfl
    exact notSent d (by simp)

variable (os config)

/-- While nobody holds the lock of `EventHandler`, every connection has a context; so no
entry is overwritten, a failed `createProxyConnection` leaves the table as it was, and a
closed endpoint is in neither table until its next `udpSend`. -/
theorem tables_consistent (evs : List Event) :
    ((run os config evs).place.holdsLock = false →
      ∀ id, (run os config evs).proxy.socketMap id ≠ none →
        (run os config evs).udpCtxMap id ≠ none) ∧
    (∀ id d tcpSocket udpSocket,
      (run os config evs).place = .creating id d .opened tcpSocket udpSocket →
        (run os config evs).proxy.socketMap id = none) ∧
    (∀ before id d mid, evs = before ++ .udpSend id d :: mid →
      FailedCreate os config before id d mid → .free ∉ mid →
        ∀ j, sockets (run os config evs).proxy j = sockets (run os config before).proxy j ∨
          (j ≠ id ∧ Removed os config before (.udpSend id d :: mid) (run os config evs) j)) ∧
    (∀ before id after, evs = before ++ .udpClosed id :: after →
      (run os config before).place = .idle → (∀ d, .udpSend id d ∉ after) →
        (run os config evs).proxy.socketMap id = none ∧
          ((run os config evs).place ≠ .closing id → (run os config evs).udpCtxMap id = none)) := by
  have consistent := consistent_run os config evs
  refine ⟨fun unlocked id present => consistent.covered unlocked present,
    fun id d t u there => consistent.vacant there, ?_, ?_⟩
  · rintro before id d mid rfl failed noFree j
    exact failed.leaves noFree j
  · rintro before id after rfl idle notSent
    have closed := closed_run idle notSent
    exact ⟨closed.entry, closed.context⟩

end Runs

section RefusedConnect

/-- A system that opens and registers every socket and connects none. -/
def unreachableOs : Os where
  socket := fun _ history _ => some history.length
  accepts := fun _ _ c =>
    match c with
    | .connectEx _ _ _ => false
    | _ => true

def proxyConfig : Config := ⟨Address.zero, 16, [], []⟩

/-- One byte for port 53 of 8.8.8.8. -/
def query : Datagram := ⟨Address.zero.write [2, 0, 0, 53, 8, 8, 8, 8], [1], none⟩

/-- The thread goes on until `createProxyConnection` has returned. -/
def refusal : List Event := List.replicate 5 (.driver 7)

theorem refusal_fails : FailedCreate unreachableOs proxyConfig [] 7 query refusal where
  idle := rfl
  unknown := rfl
  during := by
    intro front e back split
    have locked : ∀ n < 5, (run unreachableOs proxyConfig
        (.udpSend 7 query :: List.replicate n (.driver 7))).place.holdsLock = true := by
      decide +kernel
    have front_ : front = List.replicate front.length (.driver 7) :=
      List.eq_replicate_of_mem fun e' he => List.eq_of_mem_replicate (n := 5) (by
        rw [← refusal, split]
        exact List.mem_append_left _ he)
    have short : front.length < 5 := by
      have size := congrArg List.length split
      simp [refusal] at size
      omega
    rw [front_]
    exact locked front.length short
  returned := by decide +kernel

/-- The endpoint whose connect was refused is in no table, nor is any other; closing it
changes nothing. -/
theorem refused_connect_leaves :
    (∀ j, sockets (run unreachableOs proxyConfig (.udpSend 7 query :: refusal)).proxy j = none ∨
      j ≠ 7 ∧ Removed unreachableOs proxyConfig [] (.udpSend 7 query :: refusal)
        (run unreachableOs proxyConfig (.udpSend 7 query :: refusal)) j) ∧
    (run unreachableOs proxyConfig
      (.udpSend 7 query :: refusal ++ [.udpClosed 7, .driver 7])).proxy.socketMap 7 = none := by
  obtain ⟨_, _, create, _⟩ := tables_consistent unreachableOs proxyConfig
    (.udpSend 7 query :: refusal)
  obtain ⟨_, _, _, close⟩ := tables_consistent unreachableOs proxyConfig
    (.udpSend 7 query :: refusal ++ [.udpClosed 7, .driver 7])
  have ended := close (.udpSend 7 query :: refusal) 7 [.driver 7] rfl (by decide +kernel)
    (by simp)
  exact ⟨create [] 7 query refusal rfl refusal_fails (by decide), ended.1⟩

end RefusedConnect

end Tables
