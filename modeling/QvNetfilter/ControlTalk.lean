import QvNetfilter.Confinement

/-!
# The client of one control connection

The handler is cut down to what happens on the control connection of one endpoint: its
state, and what it has said and heard since the connection was stored. Every run of the
handler is a run of this client for every endpoint.
-/

namespace ControlTalk

open Memory Socks Mealy Course ControlChannel Segmentation Confinement
open UdpProxy hiding Event step machine

section Client
variable (config : Config)

/-- What an endpoint's connection has said and heard since it was stored. -/
def talk (log : List (EndpointId × Action)) (id : EndpointId) : List Control :=
  (current (atIndex id log)).filterMap control

def coreSeen (s : Sight) (id : EndpointId) : Option Core := (s.socketMap id).map core

/-- One step of the client at one endpoint. -/
inductive TalkStep : Option Core × List Control → Option Core × List Control → Prop where
  | still (c : Option Core) (t : List Control) : TalkStep (c, t) (c, t)
  | removed (c : Option Core) (t : List Control) : TalkStep (c, t) (none, t)
  | stored (c : Option Core) (t : List Control) :
      TalkStep (c, t) (some ⟨.psNone, config.userName, config.userPassword⟩, [])
  | greeted (k : Core) (t : List Control) (accepted : Bool) :
      TalkStep (some k, t) (some (k.moved .psAuth accepted),
        t ++ [.sent (socks5AuthRequest (offeredMethod k.userName)) accepted])
  | ignored (c : Option Core) (t : List Control) {reply : Bytes}
      (silent : ∀ k ∈ c, controlAnswer k reply = none ∧
        (k.proxyState = .psUdpAssoc → ¬ Passes reply)) :
      TalkStep (c, t) (c, t ++ [.received reply])
  | answered (k : Core) (t : List Control) {reply message : Bytes} {next : ProxyState}
      (answer : controlAnswer k reply = some (message, next)) (accepted : Bool) :
      TalkStep (some k, t) (some (k.moved next accepted),
        t ++ [.received reply] ++ [.sent message accepted])
  | associated (k : Core) (t : List Control) {reply : Bytes}
      (waiting : k.proxyState = .psUdpAssoc) (passes : Passes reply) :
      TalkStep (some k, t) (some { k with proxyState := .psConnected },
        t ++ [.received reply])

end Client

section Abstraction
variable {config : Config} {s : Sight} {id : EndpointId}

theorem talk_record (log : List (EndpointId × Action)) {a : Action} (same : a ≠ .created) :
    talk (log ++ [(id, a)]) id = talk log id ++ (control a).toList := by
  rw [talk, atIndex_append, atIndex_cons_self, atIndex_nil, current_concat same,
    List.filterMap_append, talk]
  cases hcontrol : control a <;> simp [hcontrol]

theorem talk_ne {j : EndpointId} (other : id ≠ j) (log : List (EndpointId × Action))
    (a : Action) : talk (log ++ [(id, a)]) j = talk log j := by
  rw [talk, atIndex_append, atIndex_cons_ne other, atIndex_nil, List.append_nil, talk]

theorem talk_created (log : List (EndpointId × Action)) :
    talk (log ++ [(id, .created)]) id = [] := by
  simp [talk, current, atIndex_append, List.rtakeWhile_concat_neg]

/-- An action that is none of the control connection's. -/
theorem talk_hidden (log : List (EndpointId × Action)) {a : Action} (hidden : control a = none)
    (j : EndpointId) : talk (log ++ [(id, a)]) j = talk log j := by
  by_cases own : id = j
  · subst own
    have same : a ≠ .created := by
      rintro rfl
      exact absurd hidden nofun
    rw [talk_record log same, hidden]
    exact List.append_nil _
  · exact talk_ne own log a

theorem coreSeen_setEntry (entry : Option ProxyData) :
    coreSeen (s.setEntry id entry) id = entry.map core := by
  simp [coreSeen, Sight.setEntry]

theorem coreSeen_setEntry_ne {j : EndpointId} (other : id ≠ j) (entry : Option ProxyData) :
    coreSeen (s.setEntry id entry) j = coreSeen s j := by
  simp [coreSeen, Sight.setEntry, Function.update_of_ne (Ne.symm other)]

/-- The message was sent, and the core of the entry says so. -/
theorem coreSeen_moved {pd : ProxyData} (entry : s.socketMap id = some pd) (next : ProxyState)
    (sent : Bool) : coreSeen (s.moved id pd next sent) id = some ((core pd).moved next sent) := by
  cases sent with
  | false => simp [Sight.moved, coreSeen, entry, Core.moved]
  | true =>
    simp only [Sight.moved, if_true, coreSeen_setEntry]
    rfl

theorem coreSeen_moved_ne {j : EndpointId} (other : id ≠ j) (pd : ProxyData) (next : ProxyState)
    (sent : Bool) : coreSeen (s.moved id pd next sent) j = coreSeen s j := by
  cases sent with
  | false => rfl
  | true => exact coreSeen_setEntry_ne other _

/-- What an endpoint has of its control connection. -/
def side (s : Sight) (id : EndpointId) : Option Core × List Control := (coreSeen s id, talk s.log id)

theorem side_record {a : Action} (hidden : control a = none) (j : EndpointId) :
    side (s.record id a) j = side s j :=
  Prod.ext rfl (talk_hidden s.log hidden j)

theorem passes_iff (buffer reply : Bytes) :
    udpAssocReply config (overwrite buffer reply) reply.length = none ↔ ¬ Passes reply := by
  rw [udpAssocReply_overwrite]
  split
  · rename_i passes
    exact iff_of_false nofun (not_not.mpr passes)
  · rename_i refused
    exact iff_of_true rfl refused

/-- At every endpoint a deed is one step of the client, or none. -/
theorem talkStep_deed {given : EndpointId → Bytes → Prop} {s' : Sight}
    (deed : Deed config given id s s') (j : EndpointId) :
    TalkStep config (side s j) (side s' j) := by
  have still : ∀ {s' : Sight}, side s' j = side s j → TalkStep config (side s j) (side s' j) := by
    intro s' same
    rw [same]
    exact .still _ _
  have mine : ∀ {pd : ProxyData}, s.socketMap id = some pd → side s id =
      (some (core pd), talk s.log id) := by
    intro pd entry
    simp only [side, coreSeen, entry]
    rfl
  have heard : ∀ reply, talk (s.record id (.received .ovtTcpReceive reply)).log id =
      talk s.log id ++ [.received reply] := fun reply => talk_record s.log nofun
  cases deed with
  | @asked c plain accepted =>
    apply still
    apply side_record
    cases c with
    | connectEx | wsaSend | wsaSendTo => exact absurd plain not_false
    | _ => rfl
  | connects | sends | drops | notOpened => exact still (side_record rfl j)
  | @delivers buffer data d room parsed =>
    apply still
    rw [side_record (s := s.record id (.received .ovtUdpReceive data)) rfl]
    exact side_record rfl j
  | @opens type turn socket =>
    have same := @side_record s id (.opened type (some socket)) rfl j
    exact still same
  | @gives socket hand =>
    have same := @side_record s id (.closed socket) rfl j
    exact still same
  | @keeps pd entry queue supplied started =>
    apply still
    by_cases own : id = j
    · subst own
      rw [mine entry]
      exact Prod.ext (coreSeen_setEntry _) rfl
    · exact Prod.ext (coreSeen_setEntry_ne own _) rfl
  | @deletes pd entry =>
    have logs := (@talk_hidden id (s.record id (.closed pd.tcpSocket)).log
      (.closed pd.udpSocket) rfl j).trans (@talk_hidden id s.log (.closed pd.tcpSocket) rfl j)
    by_cases own : id = j
    · subst own
      have after : side (((s.record id (.closed pd.tcpSocket)).record id
          (.closed pd.udpSocket)).setEntry id none) id = (none, talk s.log id) :=
        Prod.ext (coreSeen_setEntry _) logs
      rw [after]
      exact .removed _ _
    · exact still (Prod.ext (coreSeen_setEntry_ne own _) logs)
  | @stores tcpSocket udpSocket hand vacant =>
    by_cases own : id = j
    · subst own
      have after : side ((s.setEntry id (some (ProxyData.new config tcpSocket udpSocket))).record
          id .created).drop id = (some ⟨.psNone, config.userName, config.userPassword⟩, []) :=
        Prod.ext (coreSeen_setEntry _) (talk_created s.log)
      rw [after]
      exact .stored _ _
    · exact still (Prod.ext (coreSeen_setEntry_ne own _) (talk_ne own s.log .created))
  | @ignores buffer reply silent =>
    by_cases own : id = j
    · subst own
      have after : side (s.record id (.received .ovtTcpReceive reply)) id =
          (coreSeen s id, talk s.log id ++ [.received reply]) := Prod.ext rfl (heard reply)
      rw [after]
      refine .ignored _ _ fun k present => ?_
      obtain ⟨pd, entry, rfl⟩ := Option.map_eq_some_iff.mp present
      obtain ⟨none, refused⟩ := silent pd entry
      exact ⟨none, fun waiting => (passes_iff buffer reply).mp (refused waiting)⟩
    · exact still (Prod.ext rfl (talk_ne own s.log _))
  | @greets pd entry accepted =>
    by_cases own : id = j
    · subst own
      rw [mine entry]
      have same : (s.record id (.call (.wsaSend pd.tcpSocket
          (socks5AuthRequest (offeredMethod pd.userName))) accepted)).socketMap id = some pd := entry
      have after : side _ id = (_, _) := Prod.ext (coreSeen_moved same .psAuth accepted)
        ((congrArg (talk · id) (moved_log _ id pd .psAuth accepted)).trans
          (talk_record s.log nofun))
      rw [after]
      exact .greeted (core pd) _ accepted
    · refine still (Prod.ext (coreSeen_moved_ne own _ _ _) ?_)
      exact (congrArg (talk · j) (moved_log _ id pd .psAuth accepted)).trans (talk_ne own _ _)
  | @answers pd reply message next entry answer accepted =>
    by_cases own : id = j
    · subst own
      rw [mine entry]
      have same : ((s.record id (.received .ovtTcpReceive reply)).record id
          (.call (.wsaSend pd.tcpSocket message) accepted)).socketMap id = some pd := entry
      have said : talk ((s.record id (.received .ovtTcpReceive reply)).record id
          (.call (.wsaSend pd.tcpSocket message) accepted)).log id =
          talk s.log id ++ [.received reply] ++ [.sent message accepted] := by
        rw [← heard]
        exact talk_record _ nofun
      have after : side _ id = (_, _) := Prod.ext (coreSeen_moved same next accepted)
        ((congrArg (talk · id) (moved_log _ id pd next accepted)).trans said)
      rw [after]
      exact .answered (core pd) _ answer accepted
    · refine still (Prod.ext (coreSeen_moved_ne own _ _ _) ?_)
      exact (congrArg (talk · j) (moved_log _ id pd next accepted)).trans
        ((talk_ne own _ _).trans (talk_ne own s.log _))
  | @associates pd buffer reply addr entry waiting relay =>
    by_cases own : id = j
    · subst own
      rw [mine entry]
      have passes : Passes reply := by
        by_contra refused
        have none := (@passes_iff config buffer reply).mpr refused
        exact absurd (none.symm.trans relay) nofun
      have after : side ((s.record id (.received .ovtTcpReceive reply)).setEntry id (some { pd with
          remoteAddress := pd.remoteAddress.write addr
          remoteAddressLen := addr.length
          proxyState := .psConnected })) id =
          (some { core pd with proxyState := .psConnected },
            talk s.log id ++ [.received reply]) :=
        Prod.ext (coreSeen_setEntry _) (heard reply)
      rw [after]
      exact .associated (core pd) _ waiting passes
    · exact still (Prod.ext (coreSeen_setEntry_ne own _) (talk_ne own s.log _))

/-- What every step of the client keeps holds at every endpoint after every run. -/
theorem side_invariant {I : Option Core × List Control → Prop} (start : I (none, []))
    (keeps : ∀ {x y}, TalkStep config x y → I x → I y) (os : Os) (evs : List Isolation.Event)
    (id : EndpointId) : I (side (seen os config evs) id) := by
  have runs := runs_run os config evs
  generalize seen os config evs = s at runs ⊢
  induction runs with
  | refl => exact start
  | tail _ deed ih =>
    obtain ⟨j, deed⟩ := deed
    exact keeps (talkStep_deed deed id) ih

end Abstraction

end ControlTalk
