import Mathlib.Data.List.DropRight
import QvNetfilter.ControlChannel

/-!
# Authentication before UDP ASSOCIATE

The client offers one method: none without a user name, user/password with one.
The ASSOCIATE request should go out only in response to the server's acceptance
of that method. The state of a connection records how far the exchange has come;
what has passed since the connection was created must agree with it.
-/

namespace Handshake

open Memory Socks Mealy UdpProxy UdpHistory ControlChannel

section Exchange

/-- The transcript of the connection that was created last. -/
def sinceCreated (t : List Control) : List Control := t.rtakeWhile (fun a => a ≠ .created)

def lastReply (t : List Control) : Option Bytes := (t.filterMap Control.reply).getLast?

/-- A method selection in version 5 that selects `method`. -/
def MethodReply (method : UInt8) (reply : Bytes) : Prop :=
  sizeofSock5AuthResponse ≤ reply.length ∧ byteAt reply 0 = socks5 ∧ byteAt reply 1 = method

/-- A user/password reply of version 1 with status 0. -/
def StatusReply (reply : Bytes) : Prop :=
  sizeofSock5AuthResponse ≤ reply.length ∧ byteAt reply 0 = 1 ∧ byteAt reply 1 = 0

/-- The user/password message went out in answer to the selection of that method;
`back` is what has passed since. -/
def Presented (userName userPassword : Bytes) (t back : List Control) : Prop :=
  userName ≠ [] ∧ ∃ front reply,
    t = front ++ .sent (userPassRequest userName userPassword) true :: back ∧
    lastReply front = some reply ∧ MethodReply s5amUnpw reply

/-- The server has accepted what the client offered, and said so last. -/
def Justified (userName userPassword : Bytes) (t : List Control) : Prop :=
  (userName = [] ∧ ∃ reply, lastReply t = some reply ∧ MethodReply s5amNone reply) ∨
  ∃ back status, Presented userName userPassword t back ∧
    lastReply back = some status ∧ StatusReply status

/-- Whenever ASSOCIATE was sent, the exchange up to then justified it. -/
def AuthSound (userName userPassword : Bytes) (t : List Control) : Prop :=
  ∀ front accepted back, t = front ++ .sent udpAssociateRequest accepted :: back →
    Justified userName userPassword (sinceCreated front)

theorem sinceCreated_append {t news : List Control} (none : .created ∉ news) :
    sinceCreated (t ++ news) = sinceCreated t ++ news := by
  apply rtakeWhile_append
  intro a ha
  exact decide_eq_true (fun h => none (h ▸ ha))

theorem lastReply_received (t : List Control) (reply : Bytes) :
    lastReply (t ++ [.received reply]) = some reply := by
  simp [lastReply, Control.reply]

/-- The last reply of the later part is the last reply of all. -/
theorem lastReply_append {front back : List Control} {reply : Bytes}
    (last : lastReply back = some reply) : lastReply (front ++ back) = some reply := by
  rw [lastReply, List.filterMap_append, List.getLast?_append, ← lastReply, ← lastReply, last]
  rfl

theorem Presented.lastReply_eq {userName userPassword : Bytes} {t back : List Control}
    {reply : Bytes} (presented : Presented userName userPassword t back)
    (last : lastReply back = some reply) : lastReply t = some reply := by
  obtain ⟨_, front, _, rfl, _, _⟩ := presented
  have sentFirst : ∀ sent, lastReply ([sent] ++ back) = some reply :=
    fun _ => lastReply_append last
  exact lastReply_append (sentFirst _)

theorem Presented.append {userName userPassword : Bytes} {t back : List Control}
    (presented : Presented userName userPassword t back) (news : List Control) :
    Presented userName userPassword (t ++ news) (back ++ news) := by
  obtain ⟨named, front, reply, rfl, last, selected⟩ := presented
  exact ⟨named, front, reply, by simp, last, selected⟩

/-- A method selection that comes last justifies ASSOCIATE only if it selects the
method on offer. -/
theorem offered_of_justified {userName userPassword : Bytes} {t : List Control} {reply : Bytes}
    (justified : Justified userName userPassword (t ++ [.received reply]))
    (version : byteAt reply 0 = socks5) : byteAt reply 1 = offeredMethod userName := by
  rcases justified with ⟨noName, last, hlast, selected⟩ | ⟨back, status, presented, hlast, accepts⟩
  · rw [lastReply_received, Option.some_inj] at hlast
    subst hlast
    rw [offeredMethod, if_pos noName]
    exact selected.2.2
  · -- The last reply would be the user/password reply, which has another version.
    have whole := presented.lastReply_eq hlast
    rw [lastReply_received, Option.some_inj] at whole
    subst whole
    have clash : (1 : UInt8) = socks5 := accepts.2.1.symm.trans version
    exact absurd clash (by decide)

theorem AuthSound.left {userName userPassword : Bytes} {t news : List Control}
    (sound : AuthSound userName userPassword (t ++ news)) : AuthSound userName userPassword t := by
  rintro front accepted back rfl
  exact sound front accepted (back ++ news) (by simp)

/-- What a step adds has to justify only the requests that it sends itself. -/
theorem AuthSound.append {userName userPassword : Bytes} {t news : List Control}
    (sound : AuthSound userName userPassword t)
    (justified : ∀ xs accepted ys, news = xs ++ .sent udpAssociateRequest accepted :: ys →
      Justified userName userPassword (sinceCreated (t ++ xs))) :
    AuthSound userName userPassword (t ++ news) := by
  intro front accepted back split
  rcases List.append_eq_append_iff.mp split with ⟨mid, rfl, hnews⟩ | ⟨mid, ht, hrest⟩
  · exact justified mid accepted back hnews
  · cases mid with
    | nil =>
      obtain rfl : t = front := by simpa using ht
      simpa using justified [] accepted back hrest.symm
    | cons a mid =>
      obtain ⟨rfl, _⟩ := List.cons_eq_cons.mp hrest
      exact sound front accepted mid ht

end Exchange

section Answers

/-- In `PS_AUTH` every method selection in version 5 is answered. -/
theorem authReply_some {userName userPassword reply message : Bytes} {next : ProxyState}
    (answered : authReply userName userPassword reply reply.length = some (message, next)) :
    MethodReply (byteAt reply 1) reply ∧
      ((byteAt reply 1 = s5amUnpw ∧ userName ≠ [] ∧
          message = userPassRequest userName userPassword ∧ next = .psAuthNegotiation) ∨
        (¬ (byteAt reply 1 = s5amUnpw ∧ userName ≠ []) ∧
          message = udpAssociateRequest ∧ next = .psUdpAssoc)) := by
  simp only [authReply] at answered
  split_ifs at answered with short version unpw
  all_goals
    have hversion : byteAt reply 0 = socks5 := not_not.mp version
    refine ⟨⟨Nat.le_of_not_lt short, hversion, rfl⟩, ?_⟩
    cases answered
  · exact Or.inl ⟨unpw.1, unpw.2, rfl, rfl⟩
  · exact Or.inr ⟨unpw, rfl, rfl⟩

theorem authReply_of_methodReply {userName userPassword reply : Bytes} {method : UInt8}
    (selected : MethodReply method reply) :
    authReply userName userPassword reply reply.length ≠ none := by
  obtain ⟨size, version, _⟩ := selected
  simp only [authReply]
  rw [if_neg (Nat.not_lt.mpr size), if_neg (not_not.mpr version)]
  split <;> exact Option.some_ne_none _

theorem authNegotiationReply_some {reply message : Bytes} {next : ProxyState}
    (answered : authNegotiationReply reply reply.length = some (message, next)) :
    StatusReply reply ∧ message = udpAssociateRequest ∧ next = .psUdpAssoc := by
  simp only [authNegotiationReply] at answered
  split_ifs at answered with short status
  obtain ⟨version, zero⟩ := not_or.mp status
  cases answered
  exact ⟨⟨Nat.le_of_not_lt short, not_not.mp version, not_not.mp zero⟩, rfl, rfl⟩

/-- The answers to a reply: to a method selection the credentials or ASSOCIATE, to an
accepted user/password message ASSOCIATE. -/
inductive Answered (k : Core) (reply : Bytes) : Bytes → ProxyState → Prop where
  | credentials (waiting : k.proxyState = .psAuth) (named : k.userName ≠ [])
      (selected : MethodReply s5amUnpw reply) :
      Answered k reply (userPassRequest k.userName k.userPassword) .psAuthNegotiation
  | otherMethod (waiting : k.proxyState = .psAuth) (selected : MethodReply (byteAt reply 1) reply)
      (other : ¬ (byteAt reply 1 = s5amUnpw ∧ k.userName ≠ [])) :
      Answered k reply udpAssociateRequest .psUdpAssoc
  | accepted (waiting : k.proxyState = .psAuthNegotiation) (status : StatusReply reply) :
      Answered k reply udpAssociateRequest .psUdpAssoc

theorem answered_of_controlAnswer {k : Core} {reply message : Bytes} {next : ProxyState}
    (answer : controlAnswer k reply = some (message, next)) : Answered k reply message next := by
  cases state : k.proxyState with
  | psAuth =>
    rw [controlAnswer, state] at answer
    obtain ⟨selected, ⟨unpw, named, rfl, rfl⟩ | ⟨other, rfl, rfl⟩⟩ := authReply_some answer
    · exact .credentials state named (unpw ▸ selected)
    · exact .otherMethod state selected other
  | psAuthNegotiation =>
    rw [controlAnswer, state] at answer
    obtain ⟨status, rfl, rfl⟩ := authNegotiationReply_some answer
    exact .accepted state status
  | psNone | psUdpAssoc | psConnected | psClosed =>
    rw [controlAnswer, state] at answer
    cases answer

theorem userPassRequest_ne (userName userPassword : Bytes) :
    userPassRequest userName userPassword ≠ udpAssociateRequest := by
  intro same
  have version : (1 : UInt8) = socks5 := congrArg (byteAt · 0) same
  exact absurd version (by decide)

theorem socks5AuthRequest_ne (method : UInt8) :
    socks5AuthRequest method ≠ udpAssociateRequest := by
  intro same
  have size : 3 = 10 := congrArg List.length same
  exact absurd size (by decide)

end Answers

section Invariant
variable (config : Config)

/-- Every entry holds the configured credentials. -/
def Credentials (c : Option Core) : Prop :=
  ∀ k, c = some k → k.userName = config.userName ∧ k.userPassword = config.userPassword

/-- A connection whose transcript is `t`. -/
structure EndpointInv (c : Option Core) (t : List Control) : Prop where
  credentials : Credentials config c
  negotiating : ∀ k, c = some k → k.proxyState = .psAuthNegotiation →
    ∃ back, Presented config.userName config.userPassword (sinceCreated t) back
  sound : AuthSound config.userName config.userPassword t

variable {config}

theorem Credentials.moved {k : Core} (credentials : Credentials config (some k))
    (next : ProxyState) (accepted : Bool) :
    Credentials config (some (k.moved next accepted)) := by
  rintro k' ⟨⟩
  cases accepted <;> exact credentials k rfl

theorem credentials_of_controlStep {c c' : Option Core} {news : List Control}
    (step : ControlStep config c news c') (credentials : Credentials config c) :
    Credentials config c' := by
  cases step with
  | keep | ignored => exact credentials
  | removed | notCreated => exact nofun
  | created =>
    rintro k ⟨⟩
    exact ⟨rfl, rfl⟩
  | greeted k accepted => exact credentials.moved .psAuth accepted
  | answered k reply message next accepted answer => exact credentials.moved next accepted
  | connected k reply waiting =>
    rintro k' ⟨⟩
    exact credentials k rfl

/-- A step that sends no ASSOCIATE and enters no negotiation. -/
theorem EndpointInv.extend {c c' : Option Core} {t news : List Control}
    (inv : EndpointInv config c t) (credentials : Credentials config c')
    (silent : ∀ accepted, .sent udpAssociateRequest accepted ∉ news)
    (stays : ∀ k', c' = some k' → k'.proxyState = .psAuthNegotiation →
      .created ∉ news ∧ ∃ k, c = some k ∧ k.proxyState = .psAuthNegotiation) :
    EndpointInv config c' (t ++ news) := by
  refine ⟨credentials, fun k' hk' state => ?_, inv.sound.append ?_⟩
  · obtain ⟨open_, k, hk, before⟩ := stays k' hk' state
    obtain ⟨back, presented⟩ := inv.negotiating k hk before
    rw [sinceCreated_append open_]
    exact ⟨back ++ news, presented.append news⟩
  · rintro xs accepted ys rfl
    exact absurd (List.mem_append_right xs List.mem_cons_self) (silent accepted)

/-- A step that sends ASSOCIATE in answer to a reply that justifies it. -/
theorem EndpointInv.associate {k : Core} {t : List Control} {reply : Bytes} {accepted : Bool}
    (inv : EndpointInv config (some k) t)
    (justified : Justified config.userName config.userPassword
      (sinceCreated t ++ [.received reply])) :
    EndpointInv config (some (k.moved .psUdpAssoc accepted))
      (t ++ [.received reply, .sent udpAssociateRequest accepted]) := by
  refine ⟨inv.credentials.moved _ _, fun k' hk' state => ?_, inv.sound.append ?_⟩
  · obtain rfl : k.moved .psUdpAssoc accepted = k' := Option.some_inj.mp hk'
    cases accepted with
    | true => exact absurd state nofun
    | false =>
      obtain ⟨back, presented⟩ := inv.negotiating k rfl state
      rw [sinceCreated_append (by simp)]
      exact ⟨_, presented.append _⟩
  · intro xs accepted' ys split
    have hxs : xs = [.received reply] := by
      rcases xs with _ | ⟨a, _ | ⟨b, xs⟩⟩
      · exact absurd (List.cons_eq_cons.mp split).1 nofun
      · rw [(List.cons_eq_cons.mp split).1]
      · have size := congrArg List.length split
        simp at size
    rw [hxs, sinceCreated_append (by simp)]
    exact justified

/-- The message with the credentials was sent in answer to the selection of user/password. -/
theorem EndpointInv.present {k : Core} {t : List Control} {reply : Bytes} {accepted : Bool}
    (inv : EndpointInv config (some k) t) (waiting : k.proxyState = .psAuth)
    (named : config.userName ≠ []) (selected : MethodReply s5amUnpw reply) :
    EndpointInv config (some (k.moved .psAuthNegotiation accepted)) (t ++ [.received reply,
      .sent (userPassRequest config.userName config.userPassword) accepted]) := by
  refine ⟨inv.credentials.moved _ _, fun k' hk' state => ?_, inv.sound.append ?_⟩
  · obtain rfl : k.moved .psAuthNegotiation accepted = k' := Option.some_inj.mp hk'
    cases accepted with
    | true =>
      rw [sinceCreated_append (by simp)]
      exact ⟨[], named, sinceCreated t ++ [.received reply], reply, by simp,
        lastReply_received _ _, selected⟩
    | false =>
      have still : k.proxyState = .psAuthNegotiation := state
      rw [waiting] at still
      exact absurd still nofun
  · intro xs accepted' ys split
    have sent : Control.sent udpAssociateRequest accepted' ∈
        [.received reply, .sent (userPassRequest config.userName config.userPassword) accepted] :=
      split ▸ List.mem_append_right xs List.mem_cons_self
    simp [Ne.symm (userPassRequest_ne config.userName config.userPassword)] at sent

/-- Every control step keeps the invariant, given that a method selection selects the
method on offer. -/
theorem EndpointInv.step {c c' : Option Core} {t news : List Control}
    (inv : EndpointInv config c t) (step : ControlStep config c news c')
    (offered : ∀ k reply, c = some k → k.proxyState = .psAuth → .received reply ∈ news →
      MethodReply (byteAt reply 1) reply → byteAt reply 1 = offeredMethod config.userName) :
    EndpointInv config c' (t ++ news) := by
  have credentials := credentials_of_controlStep step inv.credentials
  cases step with
  | keep => exact inv.extend credentials (by simp) (fun k' hk' state => ⟨by simp, k', hk', state⟩)
  | ignored =>
    exact inv.extend credentials (by simp) (fun k' hk' state => ⟨by simp, k', hk', state⟩)
  | removed | notCreated => exact inv.extend credentials (by simp) (by simp)
  | created =>
    refine inv.extend credentials (by simp) ?_
    rintro k' ⟨⟩ state
    cases state
  | greeted k accepted =>
    refine inv.extend credentials ?_ ?_
    · intro accepted'
      simp [Ne.symm (socks5AuthRequest_ne (offeredMethod k.userName))]
    · rintro k' ⟨⟩ state
      cases accepted with
      | true => cases state
      | false => exact ⟨by simp, k, rfl, state⟩
  | connected k reply waiting =>
    refine inv.extend credentials (by simp) ?_
    rintro k' ⟨⟩ state
    cases state
  | answered k reply message next accepted answer =>
    obtain ⟨hname, hpassword⟩ := inv.credentials k rfl
    cases answered_of_controlAnswer answer with
    | credentials waiting named selected =>
      rw [hname, hpassword]
      exact inv.present waiting (hname ▸ named) selected
    | otherMethod waiting selected other =>
      -- Every other selection falls through to ASSOCIATE; the offer leaves only "none".
      have hmethod := offered k reply rfl waiting List.mem_cons_self selected
      rw [hname] at other
      have noName : config.userName = [] := by
        by_contra named
        rw [offeredMethod, if_neg named] at hmethod
        exact other ⟨hmethod, named⟩
      rw [offeredMethod, if_pos noName] at hmethod
      exact inv.associate (Or.inl ⟨noName, reply, lastReply_received _ _, hmethod ▸ selected⟩)
    | accepted waiting status =>
      obtain ⟨back, presented⟩ := inv.negotiating k rfl waiting
      exact inv.associate (Or.inr ⟨back ++ [.received reply], reply, presented.append _,
        lastReply_received _ _, status⟩)

end Invariant

section Runs
variable (os : Os) (config : Config)

/-- The method on offer is selected whenever a connection that waits for the selection
gets one in version 5. -/
def MethodOffered (w : World) (e : Event) : Prop :=
  ∀ id k reply, coreAt w id = some k → k.proxyState = .psAuth →
    controlReply w e id = some reply → sizeofSock5AuthResponse ≤ reply.length →
    byteAt reply 0 = socks5 → byteAt reply 1 = offeredMethod config.userName

/-- The same at every step of a run. -/
def AllOffered (evs : List Event) : Prop :=
  ∀ before e after, evs = before ++ e :: after →
    MethodOffered config ((machine os config).run World.initial before) e

def transcriptOf (evs : List Event) (id : EndpointId) : List Control :=
  transcript ((machine os config).run World.initial evs) id

def coreOf (evs : List Event) (id : EndpointId) : Option Core :=
  coreAt ((machine os config).run World.initial evs) id

theorem run_concat (w : World) (evs : List Event) (e : Event) :
    (machine os config).run w (evs ++ [e]) = step os config ((machine os config).run w evs) e :=
  (machine os config).run_append w evs [e]

/-- The last step of a run, as its endpoint sees it. -/
theorem stepOf (evs : List Event) (e : Event) (id : EndpointId) :
    ∃ news, transcriptOf os config (evs ++ [e]) id = transcriptOf os config evs id ++ news ∧
      news.filterMap Control.reply =
        (controlReply ((machine os config).run World.initial evs) e id).toList ∧
      ControlStep config (coreOf os config evs id) news (coreOf os config (evs ++ [e]) id) := by
  simp only [transcriptOf, coreOf, run_concat]
  exact control_step os ((machine os config).run World.initial evs) e id

theorem transcriptOf_append (evs later : List Event) (id : EndpointId) :
    ∃ news, transcriptOf os config (evs ++ later) id = transcriptOf os config evs id ++ news := by
  induction later using List.reverseRecOn with
  | nil => exact ⟨[], by rw [List.append_nil, List.append_nil]⟩
  | append_singleton later e ih =>
    obtain ⟨news, ih⟩ := ih
    obtain ⟨news', step, _⟩ := stepOf os config (evs ++ later) e id
    exact ⟨news ++ news', by rw [← List.append_assoc, step, ih, List.append_assoc]⟩

theorem credentials_run (evs : List Event) (id : EndpointId) :
    Credentials config (coreOf os config evs id) := by
  have kept : ∀ w e, (∀ j, Credentials config (coreAt w j)) → True →
      ∀ j, Credentials config (coreAt ((machine os config).step w e).1 j) := by
    intro w e before _ j
    obtain ⟨news, _, _, step⟩ := control_step os w e j
    exact credentials_of_controlStep step (before j)
  have fresh : ∀ j, Credentials config (coreAt World.initial j) :=
    fun j k entry => absurd entry (Option.some_ne_none k).symm
  exact (machine os config).run_invariant kept fresh (fun _ _ => trivial) id

theorem AllOffered.front {evs : List Event} {e : Event}
    (offered : AllOffered os config (evs ++ [e])) :
    AllOffered os config evs ∧
      MethodOffered config ((machine os config).run World.initial evs) e := by
  refine ⟨?_, offered evs e [] rfl⟩
  rintro before e' after rfl
  exact offered before e' (after ++ [e]) (by simp)

theorem endpointInv_run {evs : List Event} (offered : AllOffered os config evs)
    (id : EndpointId) :
    EndpointInv config (coreOf os config evs id) (transcriptOf os config evs id) := by
  induction evs using List.reverseRecOn with
  | nil =>
    refine ⟨nofun, nofun, ?_⟩
    intro front accepted back split
    exact absurd split (by simp [transcriptOf, transcript, view, World.history, World.initial])
  | append_singleton evs e ih =>
    obtain ⟨before, last⟩ := AllOffered.front os config offered
    obtain ⟨news, htranscript, hreplies, step⟩ := stepOf os config evs e id
    rw [htranscript]
    refine (ih before).step step ?_
    intro k reply hk waiting hreply selected
    have handed : reply ∈ (controlReply ((machine os config).run World.initial evs) e id).toList :=
      hreplies ▸ List.mem_filterMap.mpr ⟨_, hreply, rfl⟩
    exact last id k reply hk waiting (Option.mem_toList.mp handed) selected.1 selected.2.1

/-- A connection that waits for the method selection answers every one in version 5. -/
theorem selection_answered {k : Core} {c' : Option Core} {news : List Control}
    {reply : Bytes} (step : ControlStep config (some k) news c')
    (handed : news.filterMap Control.reply = [reply]) (waiting : k.proxyState = .psAuth)
    (selected : MethodReply (byteAt reply 1) reply) :
    ∃ message next accepted, news = [.received reply, .sent message accepted] ∧
      Answered k reply message next := by
  cases step with
  | keep | removed | created | notCreated | greeted => cases handed
  | connected _ _ assoc => cases waiting.symm.trans assoc
  | ignored _ r silent =>
    obtain rfl : r = reply := (List.cons_eq_cons.mp handed).1
    have none := silent k rfl
    rw [controlAnswer, waiting] at none
    exact absurd none (authReply_of_methodReply selected)
  | answered _ r message next accepted answer =>
    obtain rfl : r = reply := (List.cons_eq_cons.mp handed).1
    exact ⟨message, next, accepted, rfl, answered_of_controlAnswer answer⟩

/-- It goes on to ASSOCIATE, unless the method is the one on offer. -/
theorem associate_of_selection {k : Core} {c' : Option Core} {news : List Control}
    {reply : Bytes} (step : ControlStep config (some k) news c')
    (handed : news.filterMap Control.reply = [reply]) (waiting : k.proxyState = .psAuth)
    (selected : MethodReply (byteAt reply 1) reply) :
    byteAt reply 1 = offeredMethod k.userName ∨
      ∃ accepted, news = [.received reply, .sent udpAssociateRequest accepted] := by
  obtain ⟨message, next, accepted, rfl, answered⟩ :=
    selection_answered config step handed waiting selected
  cases answered with
  | credentials _ named unpw =>
    rw [offeredMethod, if_neg named]
    exact Or.inl unpw.2.2
  | otherMethod | accepted => exact Or.inr ⟨accepted, rfl⟩

/-- A step after which every ASSOCIATE is justified was handed no other method. -/
theorem methodOffered_of_sound {evs : List Event} {e : Event}
    (sound : ∀ id, AuthSound config.userName config.userPassword
      (transcriptOf os config (evs ++ [e]) id)) :
    MethodOffered config ((machine os config).run World.initial evs) e := by
  intro id k reply hk waiting handed size version
  obtain ⟨news, htranscript, hreplies, step⟩ := stepOf os config evs e id
  have here := htranscript ▸ sound id
  rw [coreOf, hk] at step
  rw [handed] at hreplies
  obtain ⟨hname, _⟩ := credentials_run os config evs id k hk
  rcases associate_of_selection config step hreplies waiting ⟨size, version, rfl⟩ with
    offered | ⟨accepted, rfl⟩
  · exact hname ▸ offered
  · have justified := here (transcriptOf os config evs id ++ [.received reply]) accepted []
      (by simp)
    rw [sinceCreated_append (by simp)] at justified
    exact offered_of_justified justified version

/-- Every ASSOCIATE request of a run is justified exactly when every method selection of
the run selects the method on offer. -/
theorem associate_justified_iff (evs : List Event) :
    (∀ id, AuthSound config.userName config.userPassword (transcriptOf os config evs id)) ↔
      AllOffered os config evs := by
  constructor
  · rintro sound before e after rfl
    apply methodOffered_of_sound
    intro id
    obtain ⟨later, hlater⟩ := transcriptOf_append os config (before ++ [e]) after id
    rw [List.append_assoc, List.singleton_append] at hlater
    exact AuthSound.left (hlater ▸ sound id)
  · exact fun offered id => (endpointInv_run os config offered id).sound

end Runs

section NoAcceptableMethod

/-- A client with user name "u" and password "p". -/
def credentialsConfig : Config := ⟨Address.zero, 16, [0x75], [0x70]⟩

/-- The connection is made and offers user/password. -/
def greetedRun : List Event :=
  [.createProxyConnection 7, .complete ⟨(7, 0), 0, false⟩ [] 0]

/-- The server finds no method acceptable. -/
def noAcceptableMethod : Event := .complete ⟨(7, 2), 0, false⟩ [socks5, 0xff] 0

theorem controlReply_noAcceptableMethod :
    controlReply ((machine acceptingOs credentialsConfig).run World.initial greetedRun)
      noAcceptableMethod 7 = some [socks5, 0xff] := by
  have whole : [socks5, 0xff].take (List.replicate packetSize (0 : UInt8)).length =
      [socks5, 0xff] := by
    rw [List.length_replicate]
    rfl
  exact congrArg some whole

/-- After 0xFF the client goes on with ASSOCIATE. -/
theorem no_acceptable_method_associates :
    ¬ ∀ id, AuthSound credentialsConfig.userName credentialsConfig.userPassword
      (transcriptOf acceptingOs credentialsConfig (greetedRun ++ [noAcceptableMethod]) id) := by
  intro sound
  have offered := methodOffered_of_sound acceptingOs credentialsConfig sound
  have selected := offered 7 ⟨.psAuth, [0x75], [0x70]⟩ [socks5, 0xff] rfl rfl
    controlReply_noAcceptableMethod (by decide) rfl
  exact absurd selected (by decide)

end NoAcceptableMethod

end Handshake
