import QvNetfilter.ArmedReceives
import QvNetfilter.ControlTalk
import QvNetfilter.Socks5Server

/-!
# Both ends of the handshake

Against a server that reads the client's messages off the stream and gives one whole reply
to each, the two ends agree on the outcome, and the handshake does not stop half-way.
-/

namespace ServedHandshake

open Memory Socks Mealy Chronicle Course ControlChannel Handshake Segmentation Encapsulation
  RelayAddress Confinement ControlTalk Socks5Server UserPassword Dialogue
open UdpProxy hiding Event step machine

section Conversation

/-- The messages that the system took, in order. -/
def said (t : List Control) : List Bytes :=
  t.filterMap fun c => match c with
    | .sent message true => some message
    | _ => none

def heard (t : List Control) : List Bytes := t.filterMap Control.reply

/-- A reply is the next one that the server gives to what it has been sent. -/
def Served (policy : Policy) (front : List Control) : Control → Prop
  | .received reply => heard front ++ [reply] <+: (serve policy (said front).flatten).1
  | _ => True

instance (policy : Policy) (front : List Control) (c : Control) :
    Decidable (Served policy front c) :=
  match c with
  | .created => isTrue trivial
  | .received reply => inferInstanceAs (Decidable
      (heard front ++ [reply] <+: (serve policy (said front).flatten).1))
  | .sent _ _ => isTrue trivial

variable {policy : Policy} {t : List Control} {reply message : Bytes}

theorem said_append (t more : List Control) : said (t ++ more) = said t ++ said more :=
  List.filterMap_append ..

theorem said_received (t : List Control) (reply : Bytes) :
    said (t ++ [.received reply]) = said t := by
  rw [said_append]
  exact List.append_nil _

theorem said_sent (t : List Control) (message : Bytes) :
    said (t ++ [.sent message true]) = said t ++ [message] := said_append ..

theorem said_refused (t : List Control) (message : Bytes) :
    said (t ++ [.sent message false]) = said t := by
  rw [said_append]
  exact List.append_nil _

theorem heard_append (t more : List Control) : heard (t ++ more) = heard t ++ heard more :=
  List.filterMap_append ..

theorem heard_received (t : List Control) (reply : Bytes) :
    heard (t ++ [.received reply]) = heard t ++ [reply] := heard_append ..

theorem heard_sent (t : List Control) (message : Bytes) (accepted : Bool) :
    heard (t ++ [.sent message accepted]) = heard t := by
  rw [heard_append]
  exact List.append_nil _

/-- What a served connection has heard, the server has said to it by now. -/
theorem served_reply (served : Preceded (Served policy) t) (present : .received reply ∈ t) :
    reply ∈ (serve policy (said t).flatten).1 := by
  obtain ⟨front, back, split⟩ := List.append_of_mem present
  have given : heard front ++ [reply] <+: (serve policy (said front).flatten).1 :=
    served front _ back split
  have more : (said t).flatten = (said front).flatten ++ (said (.received reply :: back)).flatten := by
    rw [split, said_append, List.flatten_append]
  rw [more]
  have grown := (server policy).serve_grows .greeting (said front).flatten
    (said (.received reply :: back)).flatten
  exact grown.subset (given.subset (by simp))

end Conversation

section Agreement
variable (config : Config)

def greeting : Bytes := socks5AuthRequest (offeredMethod config.userName)

def credentials : Bytes := userPassRequest config.userName config.userPassword

/-- The client says nothing before its greeting, and only what it has to say. -/
structure Spoken (x : Option Core × List Control) : Prop where
  named : ∀ k ∈ x.1, k.userName = config.userName ∧ k.userPassword = config.userPassword
  opening : ∀ k ∈ x.1, (k.proxyState = .psNone ∧ said x.2 = []) ∨
    ∃ rest, said x.2 = greeting config :: rest
  words : ∀ m ∈ said x.2, m = greeting config ∨ m = udpAssociateRequest ∨ m = credentials config

theorem Spoken.initial : Spoken config (none, []) where
  named := fun _ => nofun
  opening := fun _ => nofun
  words := fun _ => nofun

variable {config}

theorem moved_named (k : Core) (next : ProxyState) (accepted : Bool) :
    (k.moved next accepted).userName = k.userName ∧
      (k.moved next accepted).userPassword = k.userPassword := by
  cases accepted <;> exact ⟨rfl, rfl⟩

theorem spoken_step {x y : Option Core × List Control} (step : TalkStep config x y)
    (spoken : Spoken config x) : Spoken config y := by
  have moved : ∀ {k k' : Core}, k' ∈ some k → k' = k := by
    intro k k' present
    exact (Option.some_inj.mp present).symm
  cases step with
  | still => exact spoken
  | removed c t => exact ⟨fun _ => nofun, fun _ => nofun, spoken.words⟩
  | stored c t =>
    refine ⟨fun k present => ?_, fun k present => ?_, fun _ => nofun⟩
    · obtain rfl := moved present
      exact ⟨rfl, rfl⟩
    · obtain rfl := moved present
      exact Or.inl ⟨rfl, rfl⟩
  | ignored c t silent =>
    refine ⟨spoken.named, ?_, ?_⟩
    · simpa only [said_received] using spoken.opening
    · simpa only [said_received] using spoken.words
  | associated k t waiting passes =>
    have spoke := spoken.opening k rfl
    refine ⟨fun k' present => ?_, fun k' present => ?_, ?_⟩
    · obtain rfl := moved present
      exact spoken.named k rfl
    · obtain rfl := moved present
      rw [waiting] at spoke
      simp only [said_received]
      exact Or.inr (spoke.resolve_left fun silent => absurd silent.1 nofun)
    · simpa only [said_received] using spoken.words
  | greeted k t accepted =>
    obtain ⟨name, password⟩ := spoken.named k rfl
    obtain ⟨name', password'⟩ := moved_named k .psAuth accepted
    have same : socks5AuthRequest (offeredMethod k.userName) = greeting config := by
      rw [greeting, name]
    rw [same]
    refine ⟨fun k' present => ?_, fun k' present => ?_, ?_⟩
    · obtain rfl := moved present
      exact ⟨name'.trans name, password'.trans password⟩
    · obtain rfl := moved present
      cases accepted with
      | false =>
        simp only [said_refused]
        exact spoken.opening k rfl
      | true =>
        simp only [said_sent]
        rcases spoken.opening k rfl with ⟨_, silent⟩ | ⟨rest, first⟩
        · exact Or.inr ⟨[], by rw [silent]; rfl⟩
        · exact Or.inr ⟨rest ++ [greeting config], by rw [first]; rfl⟩
    · cases accepted with
      | false => simpa only [said_refused] using spoken.words
      | true =>
        intro m present
        rw [said_sent] at present
        rcases List.mem_append.mp present with before | last
        · exact spoken.words m before
        · exact Or.inl (List.mem_singleton.mp last)
  | @answered k t reply message next answer accepted =>
    obtain ⟨name, password⟩ := spoken.named k rfl
    obtain ⟨name', password'⟩ := moved_named k next accepted
    have word : k.proxyState ≠ .psNone ∧
        (message = udpAssociateRequest ∨ message = credentials config) := by
      cases answered_of_controlAnswer answer with
      | credentials waiting =>
        rw [name, password]
        exact ⟨waiting ▸ nofun, Or.inr rfl⟩
      | otherMethod waiting | accepted waiting => exact ⟨waiting ▸ nofun, Or.inl rfl⟩
    obtain ⟨rest, first⟩ := (spoken.opening k rfl).resolve_left fun silent => word.1 silent.1
    refine ⟨fun k' present => ?_, fun k' present => ?_, ?_⟩
    · obtain rfl := moved present
      exact ⟨name'.trans name, password'.trans password⟩
    · obtain rfl := moved present
      right
      cases accepted with
      | false => exact ⟨rest, by rw [said_refused, said_received, first]⟩
      | true => exact ⟨rest ++ [message], by rw [said_sent, said_received, first]; rfl⟩
    · cases accepted with
      | false => simpa only [said_refused, said_received] using spoken.words
      | true =>
        intro m present
        rw [said_sent, said_received] at present
        rcases List.mem_append.mp present with before | last
        · exact spoken.words m before
        · rw [List.mem_singleton.mp last]
          exact Or.inr word.2

theorem spoken_run (os : Os) (evs : List Isolation.Event) (id : EndpointId) :
    Spoken config (side (seen os config evs) id) :=
  side_invariant (.initial config) spoken_step os evs id

theorem frame_greeting (method : UInt8) (more : Bytes) :
    frame .greeting (socks5AuthRequest method ++ more) = some (.greeting [method], more) := by
  simp [socks5AuthRequest, frame, readField]

theorem frame_credentials {name password : Bytes} (shortName : name.length < 256)
    (shortPassword : password.length < 256) (more : Bytes) :
    frame .credentials (userPassRequest name password ++ more) =
      some (.credentials name password, more) := by
  have first := readField_append shortName (UInt8.ofNat password.length :: (password ++ more))
  have second := readField_append shortPassword more
  have fields : userPassRequest name password ++ more = 1 :: UInt8.ofNat name.length ::
      (name ++ (UInt8.ofNat password.length :: (password ++ more))) := by
    simp [userPassRequest]
  rw [fields]
  simp only [frame, ne_eq, not_true_eq_false, if_false, first, Option.bind_some, second]
  rfl

/-- The other two messages do not pass for credentials. -/
theorem frame_malformed {message : Bytes} (version : ∃ rest, message = socks5 :: rest)
    (more : Bytes) : ∃ rest, frame .credentials (message ++ more) = some (.malformed, rest) := by
  obtain ⟨rest, rfl⟩ := version
  exact ⟨rest ++ more, rfl⟩

theorem select_one (policy : Policy) (method : UInt8) :
    policy.select [method] = method ∨ policy.select [method] = noMethod := by
  rcases policy.offered [method] with offered | none
  · exact Or.inl (List.mem_singleton.mp offered)
  · exact Or.inr none

/-- A server that has opened a relay for a named client has admitted its credentials. -/
theorem admitted {policy : Policy} {x : Option Core × List Control} (spoken : Spoken config x)
    (entry : x.1 ≠ none) (named : config.userName ≠ []) (shortName : config.userName.length < 256)
    (shortPassword : config.userPassword.length < 256)
    (associated : (serve policy (said x.2).flatten).2 = .associated) :
    policy.admits config.userName config.userPassword = true := by
  obtain ⟨k, present⟩ := Option.ne_none_iff_exists'.mp entry
  obtain ⟨methods, rest, framed, selected⟩ := associated_exchange policy associated
  rcases spoken.opening k present with ⟨_, silent⟩ | ⟨more, first⟩
  · rw [silent] at framed
    cases framed
  · rw [first, List.flatten_cons, greeting, frame_greeting] at framed
    obtain ⟨same, rfl⟩ := Prod.mk.inj (Option.some_inj.mp framed)
    obtain rfl := Message.greeting.inj same
    rw [offeredMethod, if_neg named] at selected
    rcases selected with none | ⟨_, name, password, rest', framed', admits⟩
    · rcases select_one policy s5amUnpw with other | other
      · exact absurd (other.symm.trans none) (by decide)
      · exact absurd (other.symm.trans none) (by decide)
    · cases more with
      | nil => cases framed'
      | cons second more =>
        have word := spoken.words second (by rw [first]; simp)
        have other : (∃ rest, second = socks5 :: rest) → False := by
          intro version
          obtain ⟨rest, malformed⟩ := frame_malformed version more.flatten
          rw [List.flatten_cons] at framed'
          cases malformed.symm.trans framed'
        rcases word with rfl | rfl | rfl
        · exact absurd ⟨_, rfl⟩ other
        · exact absurd ⟨_, rfl⟩ other
        · rw [List.flatten_cons, credentials,
            frame_credentials shortName shortPassword] at framed'
          obtain ⟨same, _⟩ := Prod.mk.inj (Option.some_inj.mp framed')
          obtain ⟨rfl, rfl⟩ := Message.credentials.inj same
          exact admits

/-- The port at the end of the address that the server has bound. -/
def boundPort (policy : Policy) : Bytes := policy.bound.drop (policy.bound.length - 2)

/-- Where the connection sends to. The client takes no IP address from the reply, so that
only in the proxy's own family is the address that of the proxy. -/
structure Relayed (config : Config) (policy : Policy) (a : Address) : Prop where
  family : a.saFamily = if policy.type = socks5AddrIpv4 then afInet else afInet6
  port : a.sinPort = boundPort policy
  host : a.saFamily = config.proxyAddress.saFamily → ipAddress a = ipAddress config.proxyAddress

/-- The granting reply is whole, and it ends with the port. -/
theorem replyPort_granted (policy : Policy) :
    portOffset (byteAt (granted policy) 3) + 2 = (granted policy).length ∧
      replyPort (granted policy) = boundPort policy := by
  have bound : 2 ≤ policy.bound.length := by
    rcases policy.size with ⟨_, size⟩ | ⟨_, size⟩ <;> omega
  have whole : (granted policy).length = 4 + policy.bound.length := List.length_append ..
  have ends : portOffset (byteAt (granted policy) 3) + 2 = (granted policy).length := by
    have type : byteAt (granted policy) 3 = policy.type := rfl
    rw [type, whole]
    rcases policy.size with ⟨ipv4, size⟩ | ⟨ipv6, size⟩
    · rw [ipv4, size]
      rfl
    · rw [ipv6, size]
      rfl
  refine ⟨ends, ?_⟩
  have two : (boundPort policy).length = 2 := by
    rw [boundPort, List.length_drop]
    omega
  let front : Bytes :=
    [socks5, 0, 0, policy.type] ++ policy.bound.take (policy.bound.length - 2)
  have split : granted policy = front ++ boundPort policy ++ [] := by
    rw [List.append_nil, List.append_assoc, boundPort, List.take_append_drop]
    rfl
  have before : front.length = portOffset (byteAt (granted policy) 3) := by
    have sizes := congrArg List.length split
    rw [List.append_nil, List.length_append, two] at sizes
    omega
  have read := readBytes_append front (boundPort policy) []
  rw [before, two, ← split] at read
  exact read

end Agreement

section Progress
variable (config : Config) (policy : Policy)

/-- The server takes the method that the client offers, and its credentials. -/
structure Agreeable : Prop where
  method : policy.select [offeredMethod config.userName] = offeredMethod config.userName
  admits : config.userName ≠ [] → policy.admits config.userName config.userPassword = true
  shortName : config.userName.length < 256
  shortPassword : config.userPassword.length < 256

/-- How far the conversation has come in each state. -/
def Halfway (t : List Control) : ProxyState → Prop
  | .psNone => said t = [] ∧ heard t = []
  | .psAuth => said t = [greeting config] ∧ heard t = []
  | .psAuthNegotiation => config.userName ≠ [] ∧ said t = [greeting config, credentials config] ∧
      heard t = [[socks5, s5amUnpw]]
  | .psUdpAssoc =>
    (config.userName = [] ∧ said t = [greeting config, udpAssociateRequest] ∧
      heard t = [[socks5, s5amNone]]) ∨
    (config.userName ≠ [] ∧
      said t = [greeting config, credentials config, udpAssociateRequest] ∧
      heard t = [[socks5, s5amUnpw], [1, 0]])
  | .psConnected => greeting config ∈ said t
  | .psClosed => False

/-- Nothing goes wrong: the server answers, the system takes every message, and the
connection is greeted once. -/
structure Smooth (t : List Control) : Prop where
  served : Preceded (Served policy) t
  taken : ∀ message, .sent message false ∉ t
  once : (said t).count (greeting config) ≤ 1

/-- While nothing goes wrong, the connection is somewhere on its way. -/
def OnWay (x : Option Core × List Control) : Prop :=
  Smooth config policy x.2 → ∀ k ∈ x.1, Halfway config x.2 k.proxyState

variable {config policy}

theorem OnWay.initial : OnWay config policy (none, []) := fun _ _ => nofun

theorem Smooth.front {t more : List Control} (smooth : Smooth config policy (t ++ more)) :
    Smooth config policy t where
  served := smooth.served.front
  taken := fun message present => smooth.taken message (List.mem_append_left _ present)
  once := by
    have once := smooth.once
    rw [said_append, List.count_append] at once
    omega

theorem frame_associate : frame .request udpAssociateRequest = some (.request s5cUdpAssociate, []) :=
  rfl

theorem serve_request : (server policy).serve .request udpAssociateRequest =
    ([granted policy], .associated) := by
  have reads : (server policy).serve .request udpAssociateRequest = _ :=
    Party.serve_reads frame_associate
  rw [reads]
  rfl

section Script
variable (agreeable : Agreeable config policy)
include agreeable

/-- The server's replies at every stage of the conversation. -/
theorem serve_greeting : serve policy (greeting config) =
    ([[socks5, offeredMethod config.userName]], .afterMethod (offeredMethod config.userName)) := by
  have framed := frame_greeting (offeredMethod config.userName) []
  rw [List.append_nil] at framed
  have reads : serve policy (greeting config) = _ := Party.serve_reads framed
  have waits : ∀ phase, (server policy).serve phase [] = ([], phase) := by
    intro phase
    apply Party.serve_waits
    cases phase <;> rfl
  rw [reads, waits]
  simp [server, reply, agreeable.method]

theorem serve_after (s : Bytes) : serve policy (greeting config ++ s) =
    ([socks5, offeredMethod config.userName] ::
      ((server policy).serve (.afterMethod (offeredMethod config.userName)) s).1,
      ((server policy).serve (.afterMethod (offeredMethod config.userName)) s).2) := by
  have reads : serve policy (greeting config ++ s) = _ :=
    Party.serve_reads (frame_greeting (offeredMethod config.userName) s)
  rw [reads]
  simp [server, reply, agreeable.method]

theorem serve_credentials (named : config.userName ≠ []) (s : Bytes) :
    (server policy).serve .credentials (credentials config ++ s) =
      ([1, 0] :: ((server policy).serve .request s).1, ((server policy).serve .request s).2) := by
  have framed := frame_credentials agreeable.shortName agreeable.shortPassword s
  have reads : (server policy).serve .credentials (credentials config ++ s) = _ :=
    Party.serve_reads framed
  rw [reads]
  simp [server, reply, agreeable.admits named]

/-- All that the server replies to a client that has said so much. -/
theorem replies_halfway {t : List Control} :
    (said t = [greeting config] →
      (serve policy (said t).flatten).1 = [[socks5, offeredMethod config.userName]]) ∧
    (config.userName ≠ [] → said t = [greeting config, credentials config] →
      (serve policy (said t).flatten).1 = [[socks5, s5amUnpw], [1, 0]]) ∧
    (config.userName = [] → said t = [greeting config, udpAssociateRequest] →
      (serve policy (said t).flatten).1 = [[socks5, s5amNone], granted policy]) ∧
    (config.userName ≠ [] →
      said t = [greeting config, credentials config, udpAssociateRequest] →
      (serve policy (said t).flatten).1 = [[socks5, s5amUnpw], [1, 0], granted policy]) := by
  have none : config.userName = [] → offeredMethod config.userName = s5amNone :=
    fun unnamed => if_pos unnamed
  have unpw : config.userName ≠ [] → offeredMethod config.userName = s5amUnpw :=
    fun named => if_neg named
  have credentialsPhase : Phase.afterMethod s5amUnpw = .credentials := rfl
  have requestPhase : Phase.afterMethod s5amNone = .request := rfl
  have waits : (server policy).serve .request [] = ([], .request) := Party.serve_waits rfl
  refine ⟨fun words => ?_, fun named words => ?_, fun unnamed words => ?_, fun named words => ?_⟩
  · rw [words, List.flatten_singleton, serve_greeting agreeable]
  · have second := serve_credentials agreeable named []
    rw [waits, List.append_nil] at second
    rw [words, List.flatten_cons, List.flatten_singleton, serve_after agreeable, unpw named,
      credentialsPhase, second]
  · rw [words, List.flatten_cons, List.flatten_singleton, serve_after agreeable, none unnamed,
      requestPhase, serve_request]
  · rw [words, List.flatten_cons, List.flatten_cons, List.flatten_singleton, serve_after agreeable,
      unpw named, credentialsPhase, serve_credentials agreeable named, serve_request]

/-- The one reply that can come next in each state. -/
inductive Next (config : Config) (policy : Policy) (state : ProxyState) : Bytes → Prop where
  | method (waiting : state = .psAuth) : Next config policy state
      [socks5, offeredMethod config.userName]
  | status (waiting : state = .psAuthNegotiation) : Next config policy state [1, 0]
  | relay (waiting : state = .psUdpAssoc) : Next config policy state (granted policy)
  | later (connected : state = .psConnected) (reply : Bytes) : Next config policy state reply

theorem next_reply {t : List Control} {state : ProxyState} {r : Bytes}
    (halfway : Halfway config t state)
    (given : heard t ++ [r] <+: (serve policy (said t).flatten).1) : Next config policy state r := by
  obtain ⟨greeted, negotiating, anonymous, authorized⟩ := replies_halfway agreeable (t := t)
  obtain ⟨more, all⟩ := given
  cases state with
  | psNone =>
    obtain ⟨silent, unheard⟩ := halfway
    have waits : serve policy [] = ([], .greeting) := Party.serve_waits rfl
    rw [silent, unheard, List.flatten_nil, waits] at all
    exact absurd all (by simp)
  | psAuth =>
    obtain ⟨words, unheard⟩ := halfway
    rw [greeted words, unheard] at all
    obtain ⟨rfl, _⟩ := List.cons.inj all
    exact .method rfl
  | psAuthNegotiation =>
    obtain ⟨named, words, heard_⟩ := halfway
    rw [negotiating named words, heard_] at all
    obtain ⟨rfl, _⟩ := List.cons.inj (List.cons.inj all).2
    exact .status rfl
  | psUdpAssoc =>
    rcases halfway with ⟨unnamed, words, heard_⟩ | ⟨named, words, heard_⟩
    · rw [anonymous unnamed words, heard_] at all
      obtain ⟨rfl, _⟩ := List.cons.inj (List.cons.inj all).2
      exact .relay rfl
    · rw [authorized named words, heard_] at all
      obtain ⟨rfl, _⟩ := List.cons.inj (List.cons.inj (List.cons.inj all).2).2
      exact .relay rfl
  | psConnected => exact .later rfl r
  | psClosed => exact absurd halfway not_false

end Script

theorem halfway_greeted {t : List Control} {state : ProxyState} (halfway : Halfway config t state)
    (begun : state ≠ .psNone) : greeting config ∈ said t := by
  cases state with
  | psNone => exact absurd rfl begun
  | psAuth =>
    rw [halfway.1]
    exact List.mem_cons_self
  | psAuthNegotiation =>
    rw [halfway.2.1]
    exact List.mem_cons_self
  | psUdpAssoc =>
    rcases halfway with ⟨_, words, _⟩ | ⟨_, words, _⟩
    · rw [words]
      exact List.mem_cons_self
    · rw [words]
      exact List.mem_cons_self
  | psConnected => exact halfway
  | psClosed => exact absurd halfway not_false

theorem passes_granted (policy : Policy) : Passes (granted policy) := by
  have long : 5 ≤ (granted policy).length := by
    rw [granted, List.length_append]
    rcases policy.size with ⟨_, size⟩ | ⟨_, size⟩
    · rw [size]
      exact (by decide : 5 ≤ 4 + 6)
    · rw [size]
      exact (by decide : 5 ≤ 4 + 18)
  refine ⟨long, rfl, rfl, ?_⟩
  rcases policy.size with ⟨type, _⟩ | ⟨type, _⟩
  · exact Or.inl type
  · exact Or.inr type

/-- The reply that comes next is never ignored. -/
theorem next_handled {k : Core} {r : Bytes} (next : Next config policy k.proxyState r)
    (waiting : k.proxyState ≠ .psConnected) (silent : controlAnswer k r = none ∧
      (k.proxyState = .psUdpAssoc → ¬ Passes r)) : False := by
  obtain ⟨none, refused⟩ := silent
  cases next with
  | method state =>
    simp only [controlAnswer, state, authReply] at none
    split at none
    · rename_i short
      exact absurd short (by decide : ¬ 2 < 2)
    · split at none
      · rename_i version
        exact version rfl
      · split at none <;> cases none
  | status state =>
    rw [controlAnswer, state] at none
    cases none
  | relay state => exact refused state (passes_granted policy)
  | later connected => exact waiting connected

theorem onWay_step (agreeable : Agreeable config policy) {x y : Option Core × List Control}
    (step : TalkStep config x y) (spoken : Spoken config x) (onWay : OnWay config policy x) :
    OnWay config policy y := by
  have state : ∀ {k k' : Core}, k' ∈ some k → k' = k :=
    fun present => (Option.some_inj.mp present).symm
  cases step with
  | still => exact onWay
  | removed => exact fun _ _ => nofun
  | stored c t =>
    intro _ k present
    obtain rfl := state present
    exact ⟨rfl, rfl⟩
  | greeted k t accepted =>
    intro smooth k' present
    have before := onWay smooth.front k rfl
    cases accepted with
    | false => exact absurd (List.mem_append_right _ List.mem_cons_self) (smooth.taken _)
    | true =>
      obtain rfl := state present
      have same : socks5AuthRequest (offeredMethod k.userName) = greeting config := by
        rw [greeting, (spoken.named k rfl).1]
      have once := smooth.once
      rw [said_sent, same, List.count_append, List.count_singleton_self] at once
      have unsaid : greeting config ∉ said t := List.count_eq_zero.mp (by omega)
      have fresh : k.proxyState = .psNone := by
        by_contra begun
        exact unsaid (halfway_greeted before begun)
      rw [fresh] at before
      exact ⟨by rw [said_sent, before.1, same]; rfl, by rw [heard_sent, before.2]⟩
  | @ignored c t r silent =>
    intro smooth k present
    have before := onWay smooth.front k present
    have next := next_reply agreeable before smooth.served.last
    have connected : k.proxyState = .psConnected := by
      by_contra waiting
      exact next_handled next waiting (silent k present)
    rw [connected] at before ⊢
    simp only [Halfway, said_received]
    exact before
  | @associated k t r waiting passes =>
    intro smooth k' present
    obtain rfl := state present
    have before := onWay smooth.front k rfl
    have greeted := halfway_greeted before (waiting ▸ nofun)
    simp only [Halfway, said_received]
    exact greeted
  | @answered k t r message next' answer accepted =>
    intro smooth k' present
    have before := onWay smooth.front.front k rfl
    have next := next_reply agreeable before smooth.front.served.last
    obtain ⟨name, password⟩ := spoken.named k rfl
    cases accepted with
    | false => exact absurd (List.mem_append_right _ List.mem_cons_self) (smooth.taken message)
    | true =>
      obtain rfl := state present
      have words : said (t ++ [.received r] ++ [.sent message true]) = said t ++ [message] := by
        rw [said_sent, said_received]
      have replies : heard (t ++ [.received r] ++ [.sent message true]) = heard t ++ [r] := by
        rw [heard_sent, heard_received]
      show Halfway config (t ++ [.received r] ++ [.sent message true]) next'
      cases answered_of_controlAnswer answer with
      | credentials waiting named selected =>
        rw [waiting] at before next
        cases next with
        | later clash | status clash | relay clash => exact absurd clash (by decide)
        | method _ =>
          have named' : config.userName ≠ [] := name ▸ named
          refine ⟨named', ?_, ?_⟩
          · rw [words, before.1, name, password]
            rfl
          · rw [replies, before.2, offeredMethod, if_neg named']
            rfl
      | otherMethod waiting selected other =>
        rw [waiting] at before next
        cases next with
        | later clash | status clash | relay clash => exact absurd clash (by decide)
        | method _ =>
          have unnamed : config.userName = [] := by
            by_contra named
            have method : byteAt [socks5, offeredMethod config.userName] 1 = s5amUnpw := if_neg named
            exact other ⟨method, name ▸ named⟩
          refine Or.inl ⟨unnamed, ?_, ?_⟩
          · rw [words, before.1]
            rfl
          · rw [replies, before.2, offeredMethod, if_pos unnamed]
            rfl
      | accepted waiting status =>
        rw [waiting] at before next
        cases next with
        | later clash | method clash | relay clash => exact absurd clash (by decide)
        | status _ =>
          obtain ⟨named, words', replies'⟩ := before
          refine Or.inr ⟨named, ?_, ?_⟩
          · rw [words, words']
            rfl
          · rw [replies, replies']
            rfl

end Progress

section LocalServer

/-- A server at the local proxy that asks for no password; its relay has port 0x1234. -/
def openPolicy : Policy where
  select := fun methods => if s5amNone ∈ methods then s5amNone else noMethod
  admits := fun _ _ => false
  type := socks5AddrIpv4
  bound := [0, 0, 0, 0, 0x12, 0x34]
  offered := fun methods => by
    by_cases offers : s5amNone ∈ methods
    · exact Or.inl (by rwa [if_pos offers])
    · exact Or.inr (if_neg offers)
  size := Or.inl ⟨rfl, rfl⟩

def localRun : List Isolation.Event :=
  Isolation.queried 7 0 ++ [.complete ⟨(7, 2), 0, false⟩ ReceiveLoop.methodNone 0, .rearm 7,
    .complete ⟨(7, 2), 0, false⟩ ReceiveLoop.relayOpened 0]

def queriedState : Isolation.State :=
  (Isolation.machine acceptingOs localConfig).run (.initial localConfig) (Isolation.queried 7 0)

def answeredState : Isolation.State :=
  receivedState acceptingOs localConfig queriedState ⟨(7, 2), 0, false⟩
    (ReceiveLoop.freshOv .ovtTcpReceive) ReceiveLoop.methodNone 0

def selectedState : Isolation.State :=
  (Isolation.step acceptingOs localConfig answeredState (.rearm 7)).1

def localState : Isolation.State :=
  receivedState acceptingOs localConfig selectedState ⟨(7, 2), 0, false⟩ ReceiveLoop.selectedOv
    ReceiveLoop.relayOpened 0

theorem run_local :
    (Isolation.machine acceptingOs localConfig).run (.initial localConfig) localRun =
      localState := by
  let M := Isolation.machine acceptingOs localConfig
  have queried : M.run (.initial localConfig) (Isolation.queried 7 0) = queriedState := rfl
  have armed : (⟨(7, 2), 0, false⟩ : Operation) ∈ queriedState.udp.proxy.pending := by
    decide +kernel
  have selected : (M.step queriedState (.complete ⟨(7, 2), 0, false⟩
      ReceiveLoop.methodNone 0)).1 = answeredState :=
    step_receive acceptingOs localConfig armed rfl rfl rfl Rearm.methodNone_fits 0
  have issued : (M.step answeredState (.rearm 7)).1 = selectedState := rfl
  have rearmed : (⟨(7, 2), 0, false⟩ : Operation) ∈ selectedState.udp.proxy.pending := by
    decide +kernel
  have room : ReceiveLoop.relayOpened.length ≤ ReceiveLoop.selectedOv.buffer.length := by
    rw [ReceiveLoop.selectedOv_length]
    exact (show 10 ≤ 65536 by omega)
  have opened : (M.step selectedState (.complete ⟨(7, 2), 0, false⟩
      ReceiveLoop.relayOpened 0)).1 = localState :=
    step_receive acceptingOs localConfig rearmed rfl rfl rfl room 0
  rw [localRun, Machine.run_append, queried, Machine.run_cons, selected, Machine.run_cons, issued,
    Machine.run_cons, opened, Machine.run_nil]

theorem seen_local : seen acceptingOs localConfig localRun = udpSight localState.udp := by
  rw [seen, run_local]

theorem local_served :
    Preceded (Served openPolicy) (talk (seen acceptingOs localConfig localRun).log 7) := by
  rw [seen_local]
  decide +kernel

theorem local_agreeable : Agreeable localConfig openPolicy where
  method := by decide
  admits := fun named => absurd rfl named
  shortName := by decide
  shortPassword := by decide

/-- A message that the system did not take. -/
def refused : Control → Bool
  | .sent _ accepted => !accepted
  | _ => false

end LocalServer

end ServedHandshake
