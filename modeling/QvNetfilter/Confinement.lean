import QvNetfilter.Chronicle
import QvNetfilter.Course
import QvNetfilter.FilterPolicy
import QvNetfilter.RelayAddress

/-!
# Where the proxy sends, and what it says about itself

Everything that the UDP half sends goes to the proxy: the control connections to its
address, the datagrams to its host, as far as a reply of its own family grants a relay
there. The user name and password go out in one message only, on the control connection
and only to a server that has just asked for them; the relay socket carries what the
driver gave for the endpoint. The rule list of the driver is in front of this traffic,
too, which has to let it pass.
-/

namespace Confinement

open Memory Socks Mealy Chronicle Course ControlChannel Handshake Segmentation Encapsulation
  RelayAddress
open UdpProxy hiding Event step machine
open Relation (ReflTransGen)

section Conditions
variable (config : Config)

/-- What has happened at an endpoint since its connection was stored. -/
def current (history : List Action) : List Action := history.rtakeWhile fun a => a ≠ .created

/-- What the client makes of a reply to ASSOCIATE. The family is that of the reply; the IP
address is read from the proxy's `sockaddr` as one of this family, so that it is the proxy's
own if the families agree. A reply that ends before its port leaves the port open. -/
structure Granted (reply : Bytes) (a : Address) (len : Nat) : Prop where
  family : (byteAt reply 3 = socks5AddrIpv4 ∧ a.saFamily = afInet ∧ len = sizeofSockaddrIn) ∨
    (byteAt reply 3 = socks5AddrIpv6 ∧ a.saFamily = afInet6 ∧ len = sizeofSockaddrIn6)
  host : ipAddress a =
    if a.saFamily = afInet then config.proxyAddress.sinAddr else config.proxyAddress.sin6Addr
  port : portOffset (byteAt reply 3) + 2 ≤ reply.length → a.sinPort = replyPort reply

/-- A reply of the history has granted a relay at this address. -/
def Relay (history : List Action) (a : Address) (len : Nat) : Prop :=
  ∃ reply, .received .ovtTcpReceive reply ∈ history ∧ Passes reply ∧ Granted config reply a len

/-- A connect goes to the proxy, a datagram to a relay that it has granted. -/
def Confined (front : List (EndpointId × Action)) : EndpointId × Action → Prop
  | (_, .call (.connectEx _ a len) _) =>
    a = config.proxyAddress ∧ len = config.proxyAddressLen
  | (id, .call (.wsaSendTo _ _ a len) _) => Relay config (current (atIndex id front)) a len
  | _ => True

/-- The server has asked for the user name and password with the last thing that happened. -/
def Asked (history : List Action) : Prop :=
  ∃ reply, history.getLast? = some (.received .ovtTcpReceive reply) ∧
    MethodReply s5amUnpw reply

def openedAs (type : SocketType) : Action → Option Socket
  | .opened type' (some socket) => if type' = type then some socket else none
  | _ => none

/-- The socket of this type that was opened last. -/
def lastOpened (type : SocketType) (history : List Action) : Option Socket :=
  (history.filterMap (openedAs type)).getLast?

/-- The socket of this type with which the endpoint's present connection was stored. -/
def connectionSocket (type : SocketType) (history : List Action) : Option Socket :=
  lastOpened type (history.rdropWhile fun a => a ≠ .created)

/-- The control connection carries the greeting, the request for a relay, and the user/password
message that the server has asked for; the relay socket carries payloads that the driver gave
for the endpoint. -/
def Discreet (given : EndpointId → Bytes → Prop) (front : List (EndpointId × Action)) :
    EndpointId × Action → Prop
  | (id, .call (.wsaSend socket message) _) =>
    connectionSocket .stream (atIndex id front) = some socket ∧
      (message = socks5AuthRequest (offeredMethod config.userName) ∨
        message = udpAssociateRequest ∨
        message = userPassRequest config.userName config.userPassword ∧ config.userName ≠ [] ∧
          Asked (atIndex id front))
  | (id, .call (.wsaSendTo socket bytes _ _) _) =>
    connectionSocket .dgram (atIndex id front) = some socket ∧
      ∃ buf remoteAddress, given id buf ∧ bytes = encapsulate buf remoteAddress
  | _ => True

/-- The sockets that `createProxyConnection` has at hand are the last that it opened. -/
def AtHand (s : Sight) : Prop :=
  match s.hand with
  | [] => True
  | [(id, tcpSocket)] => lastOpened .stream (atIndex id s.log) = some tcpSocket
  | [(id, tcpSocket), (j, udpSocket)] => j = id ∧
    lastOpened .stream (atIndex id s.log) = some tcpSocket ∧
    lastOpened .dgram (atIndex id s.log) = some udpSocket
  | _ => False

/-- What an entry of an endpoint with this history rests on. -/
structure Rests (given : EndpointId → Bytes → Prop) (id : EndpointId) (history : List Action)
    (pd : ProxyData) : Prop where
  named : pd.userName = config.userName ∧ pd.userPassword = config.userPassword
  tcpSocket : connectionSocket .stream history = some pd.tcpSocket
  udpSocket : connectionSocket .dgram history = some pd.udpSocket
  queue : ∀ p ∈ pd.udpSendPackets, given id p.buffer
  relay : pd.proxyState = .psConnected →
    Relay config (current history) pd.remoteAddress pd.remoteAddressLen

structure Backed (given : EndpointId → Bytes → Prop) (s : Sight) : Prop where
  rests : ∀ id pd, s.socketMap id = some pd → Rests config given id (atIndex id s.log) pd
  hand : AtHand s
  confined : Preceded (Confined config) s.log
  discreet : Preceded (Discreet config given) s.log

theorem Backed.initial (given : EndpointId → Bytes → Prop) :
    Backed config given Sight.initial where
  rests := fun _ _ entry => by cases entry
  hand := trivial
  confined := .nil _
  discreet := .nil _

end Conditions

section Histories
variable {config : Config} {history : List Action} {type : SocketType}

theorem lastOpened_opened (type : SocketType) (history : List Action) (socket : Socket) :
    lastOpened type (history ++ [.opened type (some socket)]) = some socket := by
  simp [lastOpened, openedAs, List.filterMap_append]

theorem lastOpened_other {a : Action} (other : openedAs type a = none) :
    lastOpened type (history ++ [a]) = lastOpened type history := by
  simp [lastOpened, List.filterMap_append, other]

/-- The connection has been stored with the sockets that were opened last. -/
theorem connectionSocket_created : connectionSocket type (history ++ [.created]) =
    lastOpened type history := by
  rw [connectionSocket, List.rdropWhile_concat_neg _ _ _ (by simp)]
  exact lastOpened_other rfl

theorem connectionSocket_concat {a : Action} (same : a ≠ .created) :
    connectionSocket type (history ++ [a]) = connectionSocket type history := by
  rw [connectionSocket, List.rdropWhile_concat_pos _ _ _ (by simpa using same), connectionSocket]

theorem current_concat {a : Action} (same : a ≠ .created) :
    current (history ++ [a]) = current history ++ [a] := by
  apply rtakeWhile_append
  intro b present
  obtain rfl := List.mem_singleton.mp present
  exact decide_eq_true same

theorem Relay.mono {more : List Action} {a : Address} {len : Nat}
    (relay : Relay config history a len) (kept : ∀ b ∈ history, b ∈ more) :
    Relay config more a len := by
  obtain ⟨reply, received, passes, granted⟩ := relay
  exact ⟨reply, kept _ received, passes, granted⟩

theorem Rests.concat {given : EndpointId → Bytes → Prop} {id : EndpointId} {pd : ProxyData}
    (rests : Rests config given id history pd) {a : Action} (same : a ≠ .created) :
    Rests config given id (history ++ [a]) pd where
  named := rests.named
  tcpSocket := (connectionSocket_concat same).trans rests.tcpSocket
  udpSocket := (connectionSocket_concat same).trans rests.udpSocket
  queue := rests.queue
  relay := by
    intro established
    rw [current_concat same]
    exact (rests.relay established).mono fun b present => List.mem_append_left _ present

/-- What an accepted answer changes. -/
theorem Rests.moved {given : EndpointId → Bytes → Prop} {id : EndpointId} {pd : ProxyData}
    (rests : Rests config given id history pd) {next : ProxyState}
    (unconnected : next ≠ .psConnected) :
    Rests config given id history { pd with proxyState := next } :=
  ⟨rests.named, rests.tcpSocket, rests.udpSocket, rests.queue,
    fun connected => absurd connected unconnected⟩

end Histories

section Steps
variable {config : Config} {given : EndpointId → Bytes → Prop} {s : Sight} {id : EndpointId}

theorem atIndex_record (s : Sight) (id : EndpointId) (a : Action) :
    atIndex id (s.record id a).log = atIndex id s.log ++ [a] := by
  rw [Sight.record, atIndex_append, atIndex_cons_self, atIndex_nil]

theorem atIndex_record_ne (s : Sight) {j : EndpointId} (other : id ≠ j) (a : Action) :
    atIndex j (s.record id a).log = atIndex j s.log := by
  rw [Sight.record, atIndex_append, atIndex_cons_ne other, atIndex_nil, List.append_nil]

theorem rests_record (backed : Backed config given s) {a : Action} (same : a ≠ .created)
    {j : EndpointId} {pd : ProxyData} (entry : s.socketMap j = some pd) :
    Rests config given j (atIndex j (s.record id a).log) pd := by
  by_cases own : id = j
  · subst own
    rw [atIndex_record]
    exact (backed.rests id pd entry).concat same
  · rw [atIndex_record_ne s own]
    exact backed.rests j pd entry

theorem lastOpened_record {a : Action} {type : SocketType} (other : openedAs type a = none)
    (j : EndpointId) :
    lastOpened type (atIndex j (s.record id a).log) = lastOpened type (atIndex j s.log) := by
  by_cases own : id = j
  · subst own
    rw [atIndex_record]
    exact lastOpened_other other
  · rw [atIndex_record_ne s own]

theorem AtHand.record (atHand : AtHand s) {a : Action}
    (other : ∀ type, openedAs type a = none) : AtHand (s.record id a) := by
  have same : ∀ type j, lastOpened type (atIndex j (s.record id a).log) =
      lastOpened type (atIndex j s.log) := fun type j => lastOpened_record (other type) j
  have hand : (s.record id a).hand = s.hand := rfl
  simp only [AtHand, hand, same] at atHand ⊢
  exact atHand

/-- An action may be recorded that meets the conditions itself. -/
theorem Backed.record (backed : Backed config given s) {a : Action} (same : a ≠ .created)
    (other : ∀ type, openedAs type a = none) (confined : Confined config s.log (id, a))
    (discreet : Discreet config given s.log (id, a)) : Backed config given (s.record id a) where
  rests := fun _ _ entry => rests_record backed same entry
  hand := backed.hand.record other
  confined := backed.confined.concat confined
  discreet := backed.discreet.concat discreet

theorem Backed.setEntry (backed : Backed config given s) {pd : ProxyData}
    (rests : Rests config given id (atIndex id s.log) pd) :
    Backed config given (s.setEntry id (some pd)) := by
  refine ⟨fun j pd' entry => ?_, backed.hand, backed.confined, backed.discreet⟩
  by_cases own : j = id
  · subst own
    simp only [Sight.setEntry, Function.update_self] at entry
    obtain rfl := Option.some_inj.mp entry
    exact rests
  · simp only [Sight.setEntry, Function.update_of_ne own] at entry
    exact backed.rests j pd' entry

theorem Backed.moved (backed : Backed config given s) {pd : ProxyData} {next : ProxyState}
    (entry : s.socketMap id = some pd) (unconnected : next ≠ .psConnected) (sent : Bool) :
    Backed config given (s.moved id pd next sent) := by
  cases sent with
  | false => exact backed
  | true => exact backed.setEntry ((backed.rests id pd entry).moved unconnected)

theorem Backed.clearEntry (backed : Backed config given s) :
    Backed config given (s.setEntry id none) := by
  refine ⟨fun j pd entry => ?_, backed.hand, backed.confined, backed.discreet⟩
  by_cases own : j = id
  · subst own
    simp only [Sight.setEntry, Function.update_self] at entry
    cases entry
  · simp only [Sight.setEntry, Function.update_of_ne own] at entry
    exact backed.rests j pd entry

/-- The driver's thread has nothing at hand any more. -/
theorem Backed.drop (backed : Backed config given s) : Backed config given s.drop :=
  ⟨backed.rests, trivial, backed.confined, backed.discreet⟩

theorem Backed.opens (backed : Backed config given s) {type : SocketType}
    (turn : Turn id s.hand type) (socket : Socket) :
    Backed config given ((s.record id (.opened type (some socket))).take id socket) := by
  refine ⟨fun _ _ entry => rests_record backed (by simp) entry, ?_,
    backed.confined.concat trivial, backed.discreet.concat trivial⟩
  have last : lastOpened type (atIndex id (s.record id (.opened type (some socket))).log) =
      some socket := by
    rw [atIndex_record]
    exact lastOpened_opened type _ socket
  have hand := backed.hand
  obtain ⟨socketMap, log, opened⟩ := s
  cases type with
  | stream =>
    rcases opened with _ | ⟨_, _ | _⟩
    · exact last
    · exact absurd turn not_false
    · exact absurd turn not_false
  | dgram =>
    rcases opened with _ | ⟨⟨j, tcpSocket⟩, _ | _⟩
    · exact absurd turn not_false
    · obtain rfl : j = id := turn
      have first : lastOpened .stream (atIndex j (Sight.record ⟨socketMap, log, [(j, tcpSocket)]⟩ j
          (.opened .dgram (some socket))).log) = lastOpened .stream (atIndex j log) :=
        lastOpened_record rfl j
      exact ⟨rfl, first.trans hand, last⟩
    · exact absurd turn not_false

/-- A new connection has the sockets that were opened for it, and no relay yet. -/
theorem Backed.stores (backed : Backed config given s) {tcpSocket udpSocket : Socket}
    (hand : s.hand = [(id, tcpSocket), (id, udpSocket)]) :
    Backed config given ((s.setEntry id (some (ProxyData.new config tcpSocket udpSocket))).record
      id .created).drop := by
  have atHand := backed.hand
  simp only [AtHand, hand] at atHand
  obtain ⟨_, tcp, udp⟩ := atHand
  refine ⟨fun j pd entry => ?_, trivial, backed.confined.concat trivial,
    backed.discreet.concat trivial⟩
  have log : (((s.setEntry id (some (ProxyData.new config tcpSocket udpSocket))).record id
      .created).drop).log = (s.record id .created).log := rfl
  rw [log]
  by_cases own : id = j
  · subst own
    simp only [Sight.drop, Sight.record, Sight.setEntry, Function.update_self] at entry
    obtain rfl := Option.some_inj.mp entry
    rw [atIndex_record]
    exact ⟨⟨rfl, rfl⟩, connectionSocket_created.trans tcp, connectionSocket_created.trans udp,
      by simp [ProxyData.new], fun established => by cases established⟩
  · simp only [Sight.drop, Sight.record, Sight.setEntry,
      Function.update_of_ne (Ne.symm own)] at entry
    rw [atIndex_record_ne s own]
    exact backed.rests j pd entry

/-- A reply that is answered calls for the credentials or for the request. -/
theorem discreet_answer {pd : ProxyData}
    (named : pd.userName = config.userName ∧ pd.userPassword = config.userPassword)
    {reply message : Bytes} {next : ProxyState}
    (answer : controlAnswer (core pd) reply = some (message, next)) :
    (message = socks5AuthRequest (offeredMethod config.userName) ∨
      message = udpAssociateRequest ∨
      message = userPassRequest config.userName config.userPassword ∧ config.userName ≠ [] ∧
        MethodReply s5amUnpw reply) ∧ next ≠ .psConnected := by
  have name : (core pd).userName = config.userName := named.1
  have password : (core pd).userPassword = config.userPassword := named.2
  cases answered_of_controlAnswer answer with
  | credentials waiting named' selected =>
    rw [name, password]
    exact ⟨Or.inr (Or.inr ⟨rfl, name ▸ named', selected⟩), by simp⟩
  | otherMethod | accepted => exact ⟨Or.inr (Or.inl rfl), by simp⟩

theorem portField_whole {reply : Bytes} (whole : portOffset (byteAt reply 3) + 2 ≤ reply.length)
    (buffer : Bytes) : portField (overwrite buffer reply) (byteAt reply 3) = replyPort reply := by
  apply readBytes_congr
  intro i _ below
  apply byteAt_overwrite_of_lt
  omega

/-- The reply that grants a relay gives its address. -/
theorem reply_granted {buffer reply addr : Bytes} (old : Address)
    (relay : udpAssocReply config (overwrite buffer reply) reply.length = some addr) :
    Passes reply ∧ Granted config reply (old.write addr) addr.length := by
  rw [udpAssocReply_overwrite] at relay
  split_ifs at relay with passes
  obtain rfl := Option.some_inj.mp relay
  have port := fun whole => @portField_whole reply whole buffer
  have two : (portField (overwrite buffer reply) (byteAt reply 3)).length = 2 :=
    portField_length ..
  have four : config.proxyAddress.sinAddr.length = 4 := readBytes_length ..
  have sixteen : config.proxyAddress.sin6Addr.length = 16 := readBytes_length ..
  refine ⟨passes, ?_⟩
  generalize portField (overwrite buffer reply) (byteAt reply 3) = port' at port two ⊢
  rcases passes.2.2.2 with type | type
  · have endpoint : ipEndpoint (old.write (relayEndpoint config (byteAt reply 3) port')) =
        (afInet, config.proxyAddress.sinAddr, port') := by
      rw [relayEndpoint, if_pos type]
      exact ipEndpoint_sockaddrIn old four two
    obtain ⟨family, host, read⟩ := Prod.mk.inj endpoint |>.imp_right Prod.mk.inj
    refine ⟨Or.inl ⟨type, family, ?_⟩, ?_, fun whole => read.trans (port whole)⟩
    · rw [relayEndpoint, if_pos type]
      exact sockaddrIn_length four two
    · rw [if_pos family, host]
  · have other : byteAt reply 3 ≠ socks5AddrIpv4 := by
      rw [type]
      decide
    have endpoint : ipEndpoint (old.write (relayEndpoint config (byteAt reply 3) port')) =
        (afInet6, config.proxyAddress.sin6Addr, port') := by
      rw [relayEndpoint, if_neg other]
      exact ipEndpoint_sockaddrIn6 old sixteen two
    obtain ⟨family, host, read⟩ := Prod.mk.inj endpoint |>.imp_right Prod.mk.inj
    refine ⟨Or.inr ⟨type, family, ?_⟩, ?_, fun whole => read.trans (port whole)⟩
    · rw [relayEndpoint, if_neg other]
      exact sockaddrIn6_length sixteen two
    · rw [if_neg (by rw [family]; decide), host]

theorem backed_deed {s' : Sight} (deed : Deed config given id s s')
    (backed : Backed config given s) : Backed config given s' := by
  have received : ∀ type data, Backed config given (s.record id (.received type data)) :=
    fun type data => backed.record (by simp) (fun _ => rfl) trivial trivial
  cases deed with
  | @asked c plain accepted =>
    cases c with
    | connectEx | wsaSend | wsaSendTo => exact absurd plain not_false
    | _ => exact backed.record (by simp) (fun _ => rfl) trivial trivial
  | connects socket accepted => exact backed.record (by simp) (fun _ => rfl) ⟨rfl, rfl⟩ trivial
  | @greets pd entry accepted =>
    have rests := backed.rests id pd entry
    have greeted : Backed config given (s.record id (.call (.wsaSend pd.tcpSocket
        (socks5AuthRequest (offeredMethod pd.userName))) accepted)) :=
      backed.record (by simp) (fun _ => rfl) trivial
        ⟨rests.tcpSocket, Or.inl (by rw [rests.named.1])⟩
    exact greeted.moved entry (show ProxyState.psAuth ≠ .psConnected by decide) accepted
  | ignores silent => exact received _ _
  | drops none => exact received _ _
  | @answers pd reply message next entry answer accepted =>
    have heard := received .ovtTcpReceive reply
    have rests := heard.rests id pd entry
    obtain ⟨message', unconnected⟩ := discreet_answer rests.named answer
    have last : (atIndex id (s.record id (.received .ovtTcpReceive reply)).log).getLast? =
        some (.received .ovtTcpReceive reply) := by
      rw [atIndex_record, List.getLast?_concat]
    have asked : MethodReply s5amUnpw reply →
        Asked (atIndex id (s.record id (.received .ovtTcpReceive reply)).log) :=
      fun selected => ⟨reply, last, selected⟩
    have discreet : Discreet config given (s.record id (.received .ovtTcpReceive reply)).log
        (id, .call (.wsaSend pd.tcpSocket message) accepted) := by
      refine ⟨rests.tcpSocket, message'.imp_right (Or.imp_right ?_)⟩
      rintro ⟨same, named, selected⟩
      exact ⟨same, named, asked selected⟩
    have answered : Backed config given ((s.record id (.received .ovtTcpReceive reply)).record id
        (.call (.wsaSend pd.tcpSocket message) accepted)) :=
      heard.record (by simp) (fun _ => rfl) trivial discreet
    exact answered.moved entry unconnected accepted
  | @associates pd buffer reply addr entry waiting relay =>
    have heard := received .ovtTcpReceive reply
    have rests := heard.rests id pd entry
    obtain ⟨passes, granted⟩ := reply_granted pd.remoteAddress relay
    refine heard.setEntry ⟨rests.named, rests.tcpSocket, rests.udpSocket, rests.queue, fun _ => ?_⟩
    refine ⟨reply, ?_, passes, granted⟩
    rw [atIndex_record, current_concat (by simp)]
    exact List.mem_append_right _ List.mem_cons_self
  | @sends pd entry established buf supplied remoteAddress accepted =>
    have rests := backed.rests id pd entry
    have given' : given id buf := by
      rcases supplied with now | ⟨p, queued, rfl⟩
      · exact now
      · exact rests.queue p queued
    exact backed.record (by simp) (fun _ => rfl) (rests.relay established)
      ⟨rests.udpSocket, buf, remoteAddress, given', rfl⟩
  | @keeps pd entry queue supplied started =>
    have rests := backed.rests id pd entry
    refine backed.setEntry ⟨rests.named, rests.tcpSocket, rests.udpSocket, fun p present => ?_,
      rests.relay⟩
    rcases supplied p present with now | ⟨q, queued, same⟩
    · exact now
    · exact same ▸ rests.queue q queued
  | delivers room parsed => exact (received _ _).record (by simp) (fun _ => rfl) trivial trivial
  | notOpened type => exact backed.record (by simp) (fun _ => rfl) trivial trivial
  | opens turn socket => exact backed.opens turn socket
  | @gives socket hand =>
    have closed : Backed config given (s.record id (.closed socket)) :=
      backed.record (by simp) (fun _ => rfl) trivial trivial
    exact closed.drop
  | stores hand vacant => exact backed.stores hand
  | @deletes pd entry =>
    have first : Backed config given (s.record id (.closed pd.tcpSocket)) :=
      backed.record (by simp) (fun _ => rfl) trivial trivial
    have second : Backed config given ((s.record id (.closed pd.tcpSocket)).record id
      (.closed pd.udpSocket)) := first.record (by simp) (fun _ => rfl) trivial trivial
    exact second.clearEntry

end Steps

section Runs
variable (os : Os) (config : Config)

theorem backed_run (evs : List Isolation.Event) :
    Backed config (Given evs) (seen os config evs) := by
  have runs := runs_run os config evs
  generalize seen os config evs = s at runs ⊢
  induction runs with
  | refl => exact .initial config (Given evs)
  | tail _ deed ih =>
    obtain ⟨id, deed⟩ := deed
    exact backed_deed deed ih

end Runs

section OwnTraffic
open FilterRules FilterPolicy

/-- The address of a `sockaddr`, as the driver compares it. -/
def remoteOf (a : Address) : IpAddress :=
  if a.saFamily = afInet then
    .ipv4 (byteAt a.sinAddr 0) (byteAt a.sinAddr 1) (byteAt a.sinAddr 2) (byteAt a.sinAddr 3)
  else .ipv6 a.sin6Addr (readBytes_length ..)

/-- Where a call sends to. -/
def destination : Call → Option Address
  | .connectEx _ a _ => some a
  | .wsaSendTo _ _ a _ => some a
  | _ => none

theorem destination_confined {config : Config} {front : List (EndpointId × Action)}
    {id : EndpointId} {c : Call} {accepted : Bool} {a : Address}
    (confined : Confined config front (id, .call c accepted)) (goes : destination c = some a)
    (ipv4 : config.proxyAddress.saFamily = afInet) :
    a.saFamily = afInet ∧ a.sinAddr = config.proxyAddress.sinAddr ∨ a.saFamily = afInet6 := by
  cases c with
  | connectEx socket b len =>
    obtain rfl := Option.some_inj.mp goes
    obtain ⟨rfl, _⟩ := confined
    exact Or.inl ⟨ipv4, rfl⟩
  | wsaSendTo socket buf b len =>
    obtain rfl := Option.some_inj.mp goes
    obtain ⟨reply, _, _, granted⟩ := confined
    rcases granted.family with ⟨_, family, _⟩ | ⟨_, family, _⟩
    · have host := granted.host
      rw [ipAddress, if_pos family, if_pos family] at host
      exact Or.inl ⟨family, host⟩
    · exact Or.inr family
  | _ => cases goes

/-- The flow is covered by a user's rule, or goes to a host that is private, or to an IPv6
address. -/
def Exempt (config : Config) (nameMatches : List UInt16 → List UInt16 → Bool)
    (rules : List FilterRule) (flow : Flow) (a : Address) : Prop :=
  (∃ rule ∈ rules, Covers nameMatches rule flow) ∨
    PrivateIpv4 (byteAt config.proxyAddress.sinAddr 0) (byteAt config.proxyAddress.sinAddr 1) ∨
    a.saFamily = afInet6

/-- With a proxy at an IPv4 address, the driver lets the proxy's own traffic pass exactly
where a user's rule covers it, the proxy's host is private, or the relay is an IPv6 one. All
other traffic of its own is decided by the rule for its protocol at the end of the list. -/
theorem own_traffic_allowed_iff (os : Os) {config : Config}
    (nameMatches : List UInt16 → List UInt16 → Bool) {rules : List FilterRule}
    (wellFormed : ∀ rule ∈ rules, WellFormed rule)
    (ipv4 : config.proxyAddress.saFamily = afInet) {evs : List Isolation.Event}
    {front back : List (EndpointId × Action)} {id : EndpointId} {c : Call} {accepted : Bool}
    (split : (seen os config evs).log = front ++ (id, .call c accepted) :: back) {a : Address}
    (goes : destination c = some a) {flow : Flow} (remote : flow.remoteAddress = remoteOf a) :
    ((decidingRule nameMatches (startRules rules) flow).map (·.filteringFlag) = some nfAllow ↔
        Exempt config nameMatches rules flow a) ∧
      (¬ Exempt config nameMatches rules flow a →
        decidingRule nameMatches (startRules rules) flow = some (catchAll flow.protocol)) := by
  have confined := (backed_run os config evs).confined front _ back split
  obtain ⟨allows, proxies⟩ := start_decides nameMatches wellFormed flow
  have privately : (∃ rule ∈ privateRules, ruleMatches nameMatches rule flow = true) ↔
      PrivateIpv4 (byteAt config.proxyAddress.sinAddr 0)
        (byteAt config.proxyAddress.sinAddr 1) ∨ a.saFamily = afInet6 := by
    rcases destination_confined confined goes ipv4 with ⟨family, host⟩ | family
    · have other : a.saFamily ≠ afInet6 := by
        rw [family]
        decide
      rw [remoteOf, if_pos family, host] at remote
      rw [privateRules_ipv4 nameMatches remote, or_iff_left other]
    · have sixth : flow.remoteAddress.family = afInet6 := by
        rw [remote, remoteOf, if_neg (by rw [family]; decide)]
        rfl
      exact iff_of_true ⟨_, by simp [privateRules], ipv6MappedLoopback_matches nameMatches sixth⟩
        (Or.inr family)
  have decided : ¬ Exempt config nameMatches rules flow a →
      decidingRule nameMatches (startRules rules) flow = some (catchAll flow.protocol) := by
    intro neither
    rw [Exempt, ← privately, not_or] at neither
    exact proxies neither.1 neither.2
  refine ⟨?_, decided⟩
  constructor
  · intro allowed
    by_contra neither
    rw [decided neither] at allowed
    exact catchAll_proxies _ (Option.some.inj allowed)
  · intro exempt
    rw [Exempt, ← privately] at exempt
    exact allows exempt

/-- A proxy at 127.0.0.1:1080. -/
def localConfig : Config := ⟨Address.zero.write (sockaddrIn [127, 0, 0, 1] [4, 56]), 16, [], []⟩

/-- The driver sees a connection to this address and port 1080. -/
def proxyFlow (a : Address) : Flow where
  protocol := .tcp
  processId := 4711
  localPort := 50000
  remotePort := 1080
  localAddress := .ipv4 127 0 0 1
  remoteAddress := remoteOf a
  processName := []

def queriedLog : List (EndpointId × Action) :=
  (seen acceptingOs localConfig (Isolation.queried 7 0)).log

theorem own_connect_allowed :
    ((decidingRule tailMatches (startRules [ntpRule])
        (proxyFlow localConfig.proxyAddress)).map (·.filteringFlag) = some nfAllow ↔
        Exempt localConfig tailMatches [ntpRule] (proxyFlow localConfig.proxyAddress)
          localConfig.proxyAddress) ∧
      (¬ Exempt localConfig tailMatches [ntpRule] (proxyFlow localConfig.proxyAddress)
          localConfig.proxyAddress →
        decidingRule tailMatches (startRules [ntpRule]) (proxyFlow localConfig.proxyAddress) =
          some (catchAll (proxyFlow localConfig.proxyAddress).protocol)) := by
  have wellFormed : ∀ rule ∈ [ntpRule], WellFormed rule := by
    intro rule hmem
    obtain rfl := List.mem_singleton.mp hmem
    exact ⟨by decide, by decide, by decide⟩
  have split : queriedLog = queriedLog.take 5 ++ (7, .call (.connectEx 0 localConfig.proxyAddress
      localConfig.proxyAddressLen) true) :: queriedLog.drop 6 := by
    decide +kernel
  exact own_traffic_allowed_iff acceptingOs tailMatches wellFormed rfl split rfl rfl

end OwnTraffic

end Confinement
