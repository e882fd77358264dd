import Mathlib.Logic.Relation
import QvNetfilter.Buffers
import QvNetfilter.ControlChannel
import QvNetfilter.Isolation

/-!
# The course of a run

What the threads do is cut into deeds: one call and its effect on the table, or one
piece of data and what is done with it at once. Whatever the functions are called for
and however the threads take turns, a run is a list of deeds. A property of the log is
then shown deed by deed, without a look at the functions.
-/

namespace Course

open Memory Socks Mealy UdpHistory ControlChannel Buffers
open UdpProxy hiding Event step machine
open UdpHandler (openSockets advance storeEntry currentOs closedPort)
open Relation (ReflTransGen)

/-- What a deed may look at: the table, the log, and the sockets that were opened for
an entry which is not stored yet. -/
structure Sight where
  socketMap : EndpointId → Option ProxyData
  log : List (EndpointId × Action)
  hand : List (EndpointId × Socket)

namespace Sight

def initial : Sight := ⟨fun _ => none, [], []⟩

def record (s : Sight) (id : EndpointId) (a : Action) : Sight :=
  { s with log := s.log ++ [(id, a)] }

def setEntry (s : Sight) (id : EndpointId) (entry : Option ProxyData) : Sight :=
  { s with socketMap := Function.update s.socketMap id entry }

def take (s : Sight) (id : EndpointId) (socket : Socket) : Sight :=
  { s with hand := s.hand ++ [(id, socket)] }

def drop (s : Sight) : Sight := { s with hand := [] }

/-- The connection enters the next state once its message was sent. -/
def moved (s : Sight) (id : EndpointId) (pd : ProxyData) (next : ProxyState) (sent : Bool) :
    Sight :=
  if sent then s.setEntry id (some { pd with proxyState := next }) else s

end Sight

/-- A call that sends nothing and connects nothing. -/
def Plain : Call → Prop
  | .connectEx _ _ _ => False
  | .wsaSend _ _ => False
  | .wsaSendTo _ _ _ _ => False
  | _ => True

/-- Nobody on the connection has an answer to this reply. -/
def Silent (config : Config) (buffer reply : Bytes) (pd : ProxyData) : Prop :=
  controlAnswer (core pd) reply = none ∧ (pd.proxyState = .psUdpAssoc →
    udpAssocReply config (overwrite buffer reply) reply.length = none)

/-- `createProxyConnection` opens the control socket, and then the relay socket. -/
def Turn (id : EndpointId) : List (EndpointId × Socket) → SocketType → Prop
  | [], .stream => True
  | [(j, _)], .dgram => j = id
  | _, _ => False

/-- A payload that the driver gave, or one that waits in the queue. -/
def Supplied (given : EndpointId → Bytes → Prop) (id : EndpointId) (pd : ProxyData)
    (buf : Bytes) : Prop :=
  given id buf ∨ ∃ p ∈ pd.udpSendPackets, p.buffer = buf

/-- One thing that is done for an endpoint, when these are the payloads that the driver gives. -/
inductive Deed (config : Config) (given : EndpointId → Bytes → Prop) (id : EndpointId)
    (s : Sight) : Sight → Prop where
  | asked {c : Call} (plain : Plain c) (accepted : Bool) :
      Deed config given id s (s.record id (.call c accepted))
  | connects (socket : Socket) (accepted : Bool) :
      Deed config given id s (s.record id
        (.call (.connectEx socket config.proxyAddress config.proxyAddressLen) accepted))
  | greets {pd : ProxyData} (entry : s.socketMap id = some pd) (accepted : Bool) :
      Deed config given id s ((s.record id (.call (.wsaSend pd.tcpSocket
        (socks5AuthRequest (offeredMethod pd.userName))) accepted)).moved id pd .psAuth accepted)
  | ignores {buffer reply : Bytes}
      (silent : ∀ pd, s.socketMap id = some pd → Silent config buffer reply pd) :
      Deed config given id s (s.record id (.received .ovtTcpReceive reply))
  | answers {pd : ProxyData} {reply message : Bytes} {next : ProxyState}
      (entry : s.socketMap id = some pd)
      (answer : controlAnswer (core pd) reply = some (message, next)) (accepted : Bool) :
      Deed config given id s (((s.record id (.received .ovtTcpReceive reply)).record id
        (.call (.wsaSend pd.tcpSocket message) accepted)).moved id pd next accepted)
  | associates {pd : ProxyData} {buffer reply addr : Bytes} (entry : s.socketMap id = some pd)
      (waiting : pd.proxyState = .psUdpAssoc)
      (relay : udpAssocReply config (overwrite buffer reply) reply.length = some addr) :
      Deed config given id s ((s.record id (.received .ovtTcpReceive reply)).setEntry id
        (some { pd with
          remoteAddress := pd.remoteAddress.write addr
          remoteAddressLen := addr.length
          proxyState := .psConnected }))
  | sends {pd : ProxyData} (entry : s.socketMap id = some pd)
      (established : pd.proxyState = .psConnected) {buf : Bytes}
      (supplied : Supplied given id pd buf) (remoteAddress : Address) (accepted : Bool) :
      Deed config given id s (s.record id (.call (.wsaSendTo pd.udpSocket
        (encapsulate buf remoteAddress) pd.remoteAddress pd.remoteAddressLen) accepted))
  | keeps {pd : ProxyData} (entry : s.socketMap id = some pd) {queue : List UdpPacket}
      (supplied : ∀ p ∈ queue, Supplied given id pd p.buffer) (started : Bool) :
      Deed config given id s (s.setEntry id
        (some { pd with udpSendPackets := queue, udpRecvStarted := started }))
  | drops {buffer data : Bytes} (none : relayedDatagram (overwrite buffer data) data.length = none) :
      Deed config given id s (s.record id (.received .ovtUdpReceive data))
  | delivers {buffer data : Bytes} {d : Delivery} (room : data.length ≤ packetSize)
      (parsed : relayedDatagram (overwrite buffer data) data.length = some d) :
      Deed config given id s ((s.record id (.received .ovtUdpReceive data)).record id
        (.onUdpReceiveComplete d))
  | notOpened (type : SocketType) : Deed config given id s (s.record id (.opened type none))
  | opens {type : SocketType} (turn : Turn id s.hand type) (socket : Socket) :
      Deed config given id s ((s.record id (.opened type (some socket))).take id socket)
  | gives {socket : Socket} (hand : s.hand = [(id, socket)]) :
      Deed config given id s (s.record id (.closed socket)).drop
  | stores {tcpSocket udpSocket : Socket} (hand : s.hand = [(id, tcpSocket), (id, udpSocket)])
      (vacant : s.socketMap id = none) :
      Deed config given id s ((s.setEntry id
        (some (ProxyData.new config tcpSocket udpSocket))).record id .created).drop
  | deletes {pd : ProxyData} (entry : s.socketMap id = some pd) :
      Deed config given id s (((s.record id (.closed pd.tcpSocket)).record id
        (.closed pd.udpSocket)).setEntry id none)

/-- Any number of deeds for one endpoint. -/
abbrev Deeds (config : Config) (given : EndpointId → Bytes → Prop) (id : EndpointId) :
    Sight → Sight → Prop :=
  ReflTransGen (Deed config given id)

/-- Any number of deeds for any endpoints. -/
abbrev Runs (config : Config) (given : EndpointId → Bytes → Prop) : Sight → Sight → Prop :=
  ReflTransGen fun s s' => ∃ id, Deed config given id s s'

theorem Deeds.runs {config : Config} {given : EndpointId → Bytes → Prop} {id : EndpointId}
    {s s' : Sight} (deeds : Deeds config given id s s') : Runs config given s s' :=
  ReflTransGen.mono (fun _ _ deed => ⟨id, deed⟩) _ _ deeds

@[simp] theorem moved_log (s : Sight) (id : EndpointId) (pd : ProxyData) (next : ProxyState)
    (sent : Bool) : (s.moved id pd next sent).log = s.log := by
  cases sent <;> rfl

/-- A deed adds to the log and takes nothing away. -/
theorem Deed.grows {config : Config} {given : EndpointId → Bytes → Prop} {id : EndpointId}
    {s s' : Sight} (deed : Deed config given id s s') : s.log <+: s'.log := by
  cases deed with
  | asked | connects | ignores | sends | drops | notOpened | opens | gives | stores | associates =>
    exact List.prefix_append _ _
  | greets =>
    rw [moved_log]
    exact List.prefix_append _ _
  | answers =>
    rw [moved_log]
    exact (List.prefix_append _ _).trans (List.prefix_append _ _)
  | delivers | deletes => exact (List.prefix_append _ _).trans (List.prefix_append _ _)
  | keeps => exact List.prefix_refl _

def sight (w : World) (hand : List (EndpointId × Socket)) : Sight := ⟨w.socketMap, w.log, hand⟩

section Calls
variable (os : Os) {config : Config} {given : EndpointId → Bytes → Prop} (w : World)
  (hand : List (EndpointId × Socket))

theorem deeds_invoke (id : EndpointId) {c : Call} (plain : Plain c) :
    Deeds config given id (sight w hand) (sight (invoke os w id c).1 hand) :=
  .single (.asked plain _)

theorem deeds_postClosed (socket : Socket) (pov : Pov) (ov : OvData) :
    Deeds config given ov.id (sight w hand) (sight (postClosed os w socket pov ov) hand) := by
  have asked : Deeds config given ov.id (sight w hand) (sight (invoke os (w.setOv pov (some ov)) ov.id
      (.postCompletion socket pov)).1 hand) :=
    deeds_invoke os (w.setOv pov (some ov)) hand ov.id trivial
  simp only [postClosed]
  split
  · exact asked
  · exact asked

theorem deeds_startConnect (socket : Socket) (id : EndpointId) :
    Deeds config given id (sight w hand)
      (sight (startConnect os w socket config.proxyAddress config.proxyAddressLen id).1 hand) := by
  simp only [startConnect]
  split
  · exact .single (.connects socket _)
  · exact .single (.connects socket _)

theorem deeds_rearmUdpReceive (socket : Socket) {id : EndpointId} (pov : Pov) {ov : OvData}
    (own : ov.id = id) :
    Deeds config given id (sight w hand) (sight (rearmUdpReceive os w socket id pov ov) hand) := by
  subst own
  have asked : Deeds config given ov.id (sight w hand)
      (sight (invoke os w ov.id (.wsaRecvFrom socket)).1 hand) := deeds_invoke os w hand _ trivial
  simp only [rearmUdpReceive]
  split
  · exact asked
  · exact asked.trans (deeds_postClosed os _ hand socket pov ov)

theorem deeds_rearmTcpReceive (socket : Socket) {id : EndpointId} (pov : Pov) {ov : OvData}
    (own : ov.id = id) :
    Deeds config given id (sight w hand) (sight (rearmTcpReceive os w socket id pov ov) hand) := by
  subst own
  have asked : Deeds config given ov.id (sight w hand)
      (sight (invoke os w ov.id (.wsaRecv socket)).1 hand) := deeds_invoke os w hand _ trivial
  simp only [rearmTcpReceive]
  split
  · exact asked
  · exact asked.trans (deeds_postClosed os _ hand socket pov ov)

theorem deeds_startUdpReceive (socket : Socket) (id : EndpointId) :
    Deeds config given id (sight w hand) (sight (startUdpReceive os w socket id) hand) :=
  deeds_rearmUdpReceive os (w.newOvData _).1 hand socket _ rfl

theorem deeds_startTcpReceive (socket : Socket) (id : EndpointId) :
    Deeds config given id (sight w hand) (sight (startTcpReceive os w socket id) hand) :=
  deeds_rearmTcpReceive os (w.newOvData _).1 hand socket _ rfl

/-- A message on the control connection. The send and the new state are one deed, which may
begin with the reply that is answered. -/
theorem deeds_answer {s : Sight} {id : EndpointId} {pd : ProxyData} {message : Bytes}
    {next : ProxyState}
    (sends : ∀ accepted, Deed config given id s (((sight w hand).record id
      (.call (.wsaSend pd.tcpSocket message) accepted)).moved id pd next accepted)) :
    Deeds config given id s (sight (answer os w id pd (some (message, next))) hand) := by
  have called : ∀ sent, (invoke os (w.newOvData ⟨id, .ovtTcpSend, message⟩).1 id
      (.wsaSend pd.tcpSocket message)).2 = sent →
      (sight w hand).record id (.call (.wsaSend pd.tcpSocket message) sent) = sight (invoke os
        (w.newOvData ⟨id, .ovtTcpSend, message⟩).1 id (.wsaSend pd.tcpSocket message)).1 hand := by
    rintro _ rfl
    rfl
  simp only [answer, startTcpSend]
  by_cases accepted : (invoke os (w.newOvData ⟨id, .ovtTcpSend, message⟩).1 id
      (.wsaSend pd.tcpSocket message)).2 = true
  · have sent := sends true
    rw [called true accepted] at sent
    simp only [accepted, if_true]
    exact .single sent
  · have refused := Bool.eq_false_iff.mpr accepted
    have sent := sends false
    rw [called false refused] at sent
    simp only [refused, Bool.false_eq_true, if_false]
    exact (ReflTransGen.single sent).trans
      (deeds_postClosed os _ hand pd.tcpSocket _ ⟨id, .ovtTcpReceive, []⟩)

theorem deeds_deleteProxyConnection (id : EndpointId) :
    Deeds config given id (sight w hand) (sight (w.deleteProxyConnection id) hand) := by
  simp only [World.deleteProxyConnection]
  split
  · exact .refl
  · rename_i pd entry
    exact .single (.deletes entry)

end Calls

section Datagrams
variable (os : Os) {config : Config} {given : EndpointId → Bytes → Prop} (w : World)
  (hand : List (EndpointId × Socket))

theorem Supplied.queued {id : EndpointId} {pd : ProxyData} {p : UdpPacket}
    (present : p ∈ pd.udpSendPackets) : Supplied given id pd p.buffer := Or.inr ⟨p, present, rfl⟩

theorem supplied_enqueue {id : EndpointId} {pd : ProxyData} {buf : Bytes}
    (supplied : Supplied given id pd buf) (remoteAddress : Address) (remoteAddressLen : Nat) :
    ∀ p ∈ (enqueue pd buf remoteAddress remoteAddressLen).udpSendPackets,
      Supplied given id pd p.buffer := by
  intro p present
  simp only [enqueue] at present
  split at present
  · exact .queued present
  · rcases List.mem_append.mp present with old | new
    · exact .queued old
    · obtain rfl := List.mem_singleton.mp new
      exact supplied

theorem deeds_sendDatagram {id : EndpointId} {pd : ProxyData} (entry : w.socketMap id = some pd)
    (established : pd.proxyState = .psConnected) {buf : Bytes}
    (supplied : Supplied given id pd buf) (remoteAddress : Address) :
    Deeds config given id (sight w hand) (sight (sendDatagram os w id pd buf remoteAddress).1 hand) := by
  have sent : Deeds config given id (sight w hand) (sight (invoke os
      (w.newOvData ⟨id, .ovtUdpSend, encapsulate buf remoteAddress⟩).1 id (.wsaSendTo pd.udpSocket
        (encapsulate buf remoteAddress) pd.remoteAddress pd.remoteAddressLen)).1 hand) :=
    .single (.sends entry established supplied remoteAddress _)
  simp only [sendDatagram]
  split
  · split
    · refine (sent.trans ?_).trans (deeds_startUdpReceive os _ hand pd.udpSocket id)
      exact .single (.keeps entry (fun _ => .queued) true)
    · exact sent
  · exact sent.trans (deeds_postClosed os _ hand pd.udpSocket _ ⟨id, .ovtUdpReceive, []⟩)

theorem deeds_udpSend (id : EndpointId) {buf : Bytes}
    (supplied : ∀ pd, w.socketMap id = some pd → Supplied given id pd buf)
    (remoteAddress : Address) (remoteAddressLen : Nat) :
    Deeds config given id (sight w hand)
      (sight (udpSend os w id buf remoteAddress remoteAddressLen).1 hand) := by
  unfold udpSend
  split
  · exact .refl
  · rename_i pd entry
    split
    · have kept : enqueue pd buf remoteAddress remoteAddressLen = { pd with
          udpSendPackets := (enqueue pd buf remoteAddress remoteAddressLen).udpSendPackets
          udpRecvStarted := pd.udpRecvStarted } := by
        simp only [enqueue]
        split <;> rfl
      rw [kept]
      exact .single (.keeps entry
        (supplied_enqueue (supplied pd entry) remoteAddress remoteAddressLen) pd.udpRecvStarted)
    · rename_i established
      exact deeds_sendDatagram os w hand entry (not_not.mp established) (supplied pd entry)
        remoteAddress

theorem deeds_erasePacket (id : EndpointId) :
    Deeds config given id (sight w hand) (sight (erasePacket w id) hand) := by
  simp only [erasePacket]
  split
  · exact .refl
  · rename_i pd entry
    exact .single (.keeps entry (fun _ present => .queued (List.mem_of_mem_tail present))
      pd.udpRecvStarted)

theorem deeds_flushPackets (id : EndpointId) (fuel : Nat) :
    Deeds config given id (sight w hand) (sight (flushPackets os w id fuel) hand) := by
  induction fuel generalizing w with
  | zero => exact .refl
  | succ fuel ih =>
    rw [flushPackets]
    split
    · exact .refl
    · rename_i pd entry
      split
      · exact .refl
      · rename_i p rest queue
        have supplied : ∀ pd', w.socketMap id = some pd' → Supplied given id pd' p.buffer := by
          intro pd' entry'
          obtain rfl := Option.some_inj.mp (entry.symm.trans entry')
          exact .queued (queue ▸ List.mem_cons_self)
        have sent : Deeds config given id (sight w hand) _ :=
          deeds_udpSend os w hand id supplied p.remoteAddress p.remoteAddressLen
        exact (sent.trans (deeds_erasePacket _ hand id)).trans (ih _)

end Datagrams

section Creation
variable (os : Os) (config : Config) {given : EndpointId → Bytes → Prop} (w : World)

/-- The driver's thread holds what it has opened. -/
def inHand (id : EndpointId) : Option (Socket × Socket) → List (EndpointId × Socket)
  | none => []
  | some (tcpSocket, udpSocket) => [(id, tcpSocket), (id, udpSocket)]

theorem deeds_openSockets (id : EndpointId) :
    Deeds config given id (sight w [])
      (sight (openSockets os w id).1 (inHand id (openSockets os w id).2)) := by
  simp only [openSockets]
  split
  · exact .single (.notOpened .stream)
  · rename_i tcpSocket _
    have tcpTurn : Turn id (sight w []).hand .stream := trivial
    have first : Deed config given id (sight w [])
        (sight (w.record id (.opened .stream (some tcpSocket))) [(id, tcpSocket)]) :=
      .opens tcpTurn tcpSocket
    split
    · exact ((ReflTransGen.single first).tail (.notOpened .dgram)).tail (.gives rfl)
    · rename_i udpSocket _
      have udpTurn : Turn id
          (sight (w.record id (.opened .stream (some tcpSocket))) [(id, tcpSocket)]).hand .dgram :=
        rfl
      exact (ReflTransGen.single first).tail (.opens udpTurn udpSocket)

theorem deeds_storeEntry {id : EndpointId} (vacant : w.socketMap id = none)
    (tcpSocket udpSocket : Socket) :
    Deeds config given id (sight w [(id, tcpSocket), (id, udpSocket)])
      (sight (storeEntry config w id tcpSocket udpSocket) []) :=
  .single (.stores rfl vacant)

theorem deeds_advance (id : EndpointId) (tcpSocket udpSocket : Socket)
    {stage : UdpHandler.Creating} (later : stage ≠ .opened) :
    Deeds config given id (sight w [])
      (sight (advance os config w id tcpSocket udpSocket stage).1 []) := by
  cases stage with
  | opened => exact absurd rfl later
  | stored => exact deeds_invoke os w [] id trivial
  | tcpRegistered => exact deeds_invoke os w [] id trivial
  | udpRegistered => exact deeds_startConnect os w [] tcpSocket id
  | connecting => exact .refl
  | failed => exact .refl

end Creation

section Completions
variable (os : Os) {config : Config} {given : EndpointId → Bytes → Prop} (w : World)
  (hand : List (EndpointId × Socket))

theorem silent_empty (buffer : Bytes) (pd : ProxyData) : Silent config buffer [] pd := by
  constructor
  · simp only [controlAnswer]
    cases (core pd).proxyState with
    | psAuth | psAuthNegotiation => rfl
    | _ => rfl
  · exact fun _ => rfl

/-- A reply is written to the front of the buffer and handed to the switch. -/
theorem deeds_onControlData (id : EndpointId) (buffer reply : Bytes) :
    Deeds config given id (sight w hand) (sight (onControlData os config
      (w.record id (.received .ovtTcpReceive reply)) id (overwrite buffer reply) reply.length)
      hand) := by
  have ignored : (∀ pd, w.socketMap id = some pd → Silent config buffer reply pd) →
      Deeds config given id (sight w hand)
        (sight (w.record id (.received .ovtTcpReceive reply)) hand) :=
    fun silent => .single (.ignores silent)
  have plain : ∀ pd, w.socketMap id = some pd → controlAnswer (core pd) reply = none →
      pd.proxyState ≠ .psUdpAssoc →
      ∀ pd', w.socketMap id = some pd' → Silent config buffer reply pd' := by
    intro pd entry none other pd' entry'
    obtain rfl := Option.some_inj.mp (entry.symm.trans entry')
    exact ⟨none, fun waiting => absurd waiting other⟩
  have replies : ∀ pd, w.socketMap id = some pd → pd.proxyState ≠ .psUdpAssoc →
      Deeds config given id (sight w hand) (sight (answer os
        (w.record id (.received .ovtTcpReceive reply)) id pd (controlAnswer (core pd) reply))
        hand) := by
    intro pd entry other
    cases called : controlAnswer (core pd) reply with
    | none => exact ignored (plain pd entry called other)
    | some reply' =>
      obtain ⟨message, next⟩ := reply'
      exact deeds_answer os _ hand fun accepted => .answers entry called accepted
  simp only [onControlData]
  have same : (w.record id (.received .ovtTcpReceive reply)).socketMap id = w.socketMap id := rfl
  rw [same]
  cases entry : w.socketMap id with
  | none =>
    refine ignored fun pd found => ?_
    rw [entry] at found
    cases found
  | some pd =>
    cases state : pd.proxyState with
    | psNone | psConnected | psClosed =>
      have none : controlAnswer (core pd) reply = none := by
        simp only [controlAnswer, core, state]
      simp only [state]
      refine ignored (plain pd entry none ?_)
      rw [state]
      decide
    | psAuth =>
      have called := replies pd entry (by rw [state]; decide)
      simp only [controlAnswer, core, state] at called
      rw [← authReply_overwrite _ _ buffer] at called
      simp only [state]
      exact called
    | psAuthNegotiation =>
      have called := replies pd entry (by rw [state]; decide)
      simp only [controlAnswer, core, state] at called
      rw [← authNegotiationReply_overwrite buffer] at called
      simp only [state]
      exact called
    | psUdpAssoc =>
      simp only [state]
      cases relay : udpAssocReply config (overwrite buffer reply) reply.length with
      | none =>
        refine ignored fun pd' found => ?_
        obtain rfl := Option.some_inj.mp (entry.symm.trans found)
        refine ⟨?_, fun _ => relay⟩
        simp only [controlAnswer, core, state]
      | some addr =>
        exact (ReflTransGen.single (.associates entry state relay)).trans
          (deeds_flushPackets os _ hand id _)

theorem deeds_onConnectComplete (pov : Pov) (ov : OvData) (error : Nat) :
    Deeds config given ov.id (sight w hand) (sight (onConnectComplete os w pov ov error) hand) := by
  simp only [onConnectComplete]
  split
  · exact deeds_deleteProxyConnection w hand ov.id
  · split
    · exact .refl
    · rename_i pd entry
      have greeted : Deeds config given ov.id (sight w hand) (sight (answer os w ov.id pd
          (some (socks5AuthRequest (offeredMethod pd.userName), .psAuth))) hand) :=
        deeds_answer os w hand fun accepted => .greets entry accepted
      exact greeted.trans (deeds_startTcpReceive os _ hand pd.tcpSocket ov.id)

/-- A completion that brings no data. -/
theorem deeds_onCompleteUntilRearm (socket : Socket) {dwTransferred : Nat} (pov : Pov)
    {ov : OvData} (nothing : ov.type.receives = true → dwTransferred = 0) (error : Nat) :
    Deeds config given ov.id (sight w hand) (sight
      (Rearm.onCompleteUntilRearm os config w socket dwTransferred pov ov error).1 hand) := by
  simp only [Rearm.onCompleteUntilRearm, onComplete]
  cases type : ov.type with
  | ovtTcpReceive | ovtUdpReceive =>
    rw [type] at nothing
    simp only [nothing rfl, if_true]
    exact .refl
  | ovtTcpSend | ovtUdpSend => exact .refl
  | ovtConnect => exact deeds_onConnectComplete os w hand pov ov error

/-- A receive writes what it got to the front of the buffer; then its handler runs. -/
theorem deeds_received (socket : Socket) (pov : Pov) {ov : OvData}
    (receives : ov.type.receives = true) {data : Bytes} (room : data.length ≤ packetSize)
    (error : Nat) :
    Deeds config given ov.id (sight w hand) (sight
      (Rearm.onCompleteUntilRearm os config (w.record ov.id (.received ov.type data)) socket
        data.length pov { ov with buffer := overwrite ov.buffer data } error).1 hand) := by
  obtain ⟨id, type, buffer⟩ := ov
  simp only [Rearm.onCompleteUntilRearm]
  cases type with
  | ovtConnect | ovtTcpSend | ovtUdpSend => cases receives
  | ovtTcpReceive =>
    simp only
    split
    · rename_i empty
      obtain rfl := List.length_eq_zero_iff.mp empty
      exact .single (.ignores fun pd _ => silent_empty buffer pd)
    · exact deeds_onControlData os w hand id buffer data
  | ovtUdpReceive =>
    simp only
    split
    · rename_i empty
      obtain rfl := List.length_eq_zero_iff.mp empty
      exact .single (@Deed.drops _ _ _ _ buffer _ rfl)
    · cases parsed : relayedDatagram (overwrite buffer data) data.length with
      | none => exact .single (.drops parsed)
      | some d => exact .single (.delivers room parsed)

theorem runs_completeUntilRearm (sized : Sized w) (op : Operation) (data : Bytes) (error : Nat) :
    Runs config given (sight w hand)
      (sight (Rearm.completeUntilRearm os config w op data error).1 hand) := by
  simp only [Rearm.completeUntilRearm]
  split
  · simp only [Rearm.dispatchUntilRearm]
    cases hov : (w.removePending op).ovData op.pov with
    | none => exact .refl
    | some ov =>
      simp only
      split
      · exact (deeds_onCompleteUntilRearm os (w.removePending op) hand op.socket op.pov
          (fun _ => rfl) 0).runs
      · split
        · rename_i receives
          let taken := data.take ov.buffer.length
          have room : taken.length ≤ packetSize :=
            Nat.le_trans (List.length_take_le ..) (sized op.pov ov hov receives)
          exact (deeds_received os ((w.removePending op).setOv op.pov (some { ov with
            buffer := overwrite ov.buffer taken })) hand op.socket op.pov receives room error).runs
        · rename_i other
          exact (deeds_onCompleteUntilRearm os (w.removePending op) hand op.socket op.pov
            (fun receives => absurd receives other) error).runs
  · exact .refl

theorem runs_issue (r : Rearm.Pending) :
    Runs config given (sight w hand) (sight (Rearm.issue os w r) hand) := by
  simp only [Rearm.issue]
  split
  · exact (deeds_rearmTcpReceive os w hand r.socket r.pov rfl).runs
  · exact (deeds_rearmUdpReceive os w hand r.socket r.pov rfl).runs

end Completions

section Handler
variable (os : Os) (config : Config) {given : EndpointId → Bytes → Prop}

/-- The sockets that `createProxyConnection` has not stored yet. -/
def handAt : UdpHandler.Place → List (EndpointId × Socket)
  | .creating id _ .opened tcpSocket udpSocket => [(id, tcpSocket), (id, udpSocket)]
  | _ => []

def udpSight (s : UdpHandler.State) : Sight := sight s.proxy (handAt s.place)

theorem handAt_later {id : EndpointId} {d : UdpHandler.Datagram} {stage : UdpHandler.Creating}
    (later : stage ≠ .opened) (tcpSocket udpSocket : Socket) :
    handAt (.creating id d stage tcpSocket udpSocket) = [] := by
  cases stage with
  | opened => exact absurd rfl later
  | _ => rfl

theorem issue_socketMap (w : World) (r : Rearm.Pending) :
    (Rearm.issue os w r).socketMap = w.socketMap := by
  simp only [Rearm.issue]
  split
  · exact rearmTcpReceive_socketMap os w r.ov.id r.socket r.pov r.ov
  · exact rearmUdpReceive_socketMap os w r.ov.id r.socket r.pov r.ov

theorem finish_socketMap (left : World × Option Rearm.Pending) :
    (Rearm.finish os left).socketMap = left.1.socketMap := by
  obtain ⟨w, r⟩ := left
  cases r with
  | none => rfl
  | some r => exact issue_socketMap os w r

/-- The datagram that the driver's thread has at hand was given. -/
def Handed (given : EndpointId → Bytes → Prop) : UdpHandler.Place → Prop
  | .creating id d _ _ _ => given id d.buf
  | .sending id d => given id d.buf
  | _ => True

/-- The driver's thread goes from section to section in deeds. -/
theorem runs_drive {s : UdpHandler.State} (consistent : Tables.Consistent s)
    (handed : Handed given s.place) {e : UdpHandler.Event} (ofDriver : Isolation.OfDriver e) :
    Runs config given (udpSight s) (udpSight (UdpHandler.step os config s e).1) := by
  have cases_ := UdpHandler.handlerStep os config s e
  generalize UdpHandler.step os config s e = result at cases_ ⊢
  obtain ⟨s', outs⟩ := result
  cases cases_ with
  | ignored | received => exact .refl
  | known idle =>
    simp only [udpSight, idle]
    exact .refl
  | @notOpened id d w idle unknown failed =>
    have opened : Deeds config given id _ _ :=
      deeds_openSockets (currentOs os s.freeing) config s.proxy id
    rw [failed] at opened
    simp only [udpSight, idle]
    exact opened.runs
  | @opened id d w t u idle unknown result =>
    have opened : Deeds config given id _ _ :=
      deeds_openSockets (currentOs os s.freeing) config s.proxy id
    rw [result] at opened
    simp only [udpSight, idle]
    exact opened.runs
  | @advanced id d stage stage' w t u there notConnecting notFailed result =>
    have later := Tables.advance_stage result
    have left : handAt (.creating id d stage' t u) = [] := handAt_later later t u
    simp only [udpSight, there, left]
    by_cases first : stage = .opened
    · subst first
      obtain ⟨rfl, _⟩ : storeEntry config s.proxy id t u = w ∧ _ := Prod.mk.inj result
      exact (deeds_storeEntry config s.proxy (consistent.vacant there) t u).runs
    · have advanced : Deeds config given id _ _ := deeds_advance (currentOs os s.freeing) config s.proxy id t u first
      rw [result] at advanced
      rw [handAt_later first]
      exact advanced.runs
  | @gaveUp id d t u there =>
    simp only [udpSight, there]
    exact (deeds_deleteProxyConnection s.proxy [] id).runs
  | created there =>
    simp only [udpSight, there]
    exact .refl
  | @sent id d w there result | @posted id d w there result =>
    rw [there] at handed
    have sent : Deeds config given id (sight s.proxy []) _ := deeds_udpSend (currentOs os s.freeing)
      s.proxy [] id (fun _ _ => Or.inl handed) d.remoteAddress
      (UdpHandler.sendAddrLen d.remoteAddress)
    rw [result] at sent
    simp only [udpSight, there]
    exact sent.runs
  | @closes id idle =>
    simp only [udpSight, idle]
    exact (deeds_deleteProxyConnection s.proxy [] id).runs
  | closed there =>
    simp only [udpSight, there]
    exact .refl
  | completed | serviceFreed | tablesCleared | contextsCleared => exact absurd ofDriver not_false

/-- The driver's thread takes a datagram from its event and keeps it up to the last section. -/
theorem handed_drive {s : UdpHandler.State} (handed : Handed given s.place)
    {e : UdpHandler.Event} (gives : ∀ id d, e = .udpSend id d → given id d.buf) :
    Handed given (UdpHandler.step os config s e).1.place := by
  have cases_ := UdpHandler.handlerStep os config s e
  generalize UdpHandler.step os config s e = result at cases_ ⊢
  obtain ⟨s', outs⟩ := result
  cases cases_ with
  | ignored | received | notOpened | completed | serviceFreed | tablesCleared
  | contextsCleared => exact handed
  | known | opened => exact gives _ _ rfl
  | advanced there | created there =>
    rw [there] at handed
    exact handed
  | gaveUp | sent | posted | closes | closed => exact trivial

theorem consistent_step {s : Isolation.State} (consistent : Tables.Consistent s.udp)
    (e : Isolation.Event) : Tables.Consistent (Isolation.step os config s e).1.udp := by
  cases e with
  | tcp id e => exact consistent
  | udpSend id d => exact @Tables.consistent_step os config _ consistent (.udpSend id d)
  | udpReceive id d => exact @Tables.consistent_step os config _ consistent (.udpReceive id d)
  | udpClosed id => exact @Tables.consistent_step os config _ consistent (.udpClosed id)
  | driver id => exact @Tables.consistent_step os config _ consistent (.driver id)
  | complete op data error =>
    apply consistent.shrink
    intro id present
    apply @Tables.fewer_complete os config s.udp.proxy op data error id
    rw [← Rearm.finish_complete, finish_socketMap]
    exact present
  | rearm id =>
    simp only [Isolation.step, Isolation.rearm]
    split
    · exact consistent
    · rename_i r _
      apply consistent.shrink
      intro id present
      rwa [issue_socketMap] at present

theorem handed_step {s : Isolation.State} (handed : Handed given s.udp.place)
    {e : Isolation.Event} (gives : ∀ id d, e = .udpSend id d → given id d.buf) :
    Handed given (Isolation.step os config s e).1.udp.place := by
  cases e with
  | tcp | complete => exact handed
  | udpSend id d =>
    refine handed_drive os config (e := .udpSend id d) handed fun j d' same => ?_
    obtain ⟨rfl, rfl⟩ := UdpHandler.Event.udpSend.inj same
    exact gives id d rfl
  | udpReceive id d => exact handed_drive os config (e := .udpReceive id d) handed (by simp)
  | udpClosed id => exact handed_drive os config (e := .udpClosed id) handed (by simp)
  | driver id => exact handed_drive os config (e := .driver id) handed (by simp)
  | rearm id =>
    simp only [Isolation.step, Isolation.rearm]
    split
    · exact handed
    · exact handed

/-- What holds between the deeds of a run. -/
structure Steady (given : EndpointId → Bytes → Prop) (s : Isolation.State) : Prop where
  consistent : Tables.Consistent s.udp
  handed : Handed given s.udp.place
  sized : Sized s.udp.proxy
  waiting : ∀ r, s.worker = some r → Fits r.ov

theorem runs_step {s : Isolation.State} (steady : Steady given s) (e : Isolation.Event) :
    Runs config given (udpSight s.udp) (udpSight (Isolation.step os config s e).1.udp) := by
  cases e with
  | tcp id e => exact .refl
  | udpSend id d => exact runs_drive os config steady.consistent steady.handed (e := .udpSend id d) trivial
  | udpReceive id d => exact runs_drive os config steady.consistent steady.handed (e := .udpReceive id d) trivial
  | udpClosed id => exact runs_drive os config steady.consistent steady.handed (e := .udpClosed id) trivial
  | driver id => exact runs_drive os config steady.consistent steady.handed (e := .driver id) trivial
  | complete op data error =>
    exact runs_completeUntilRearm os s.udp.proxy _ steady.sized op data error
  | rearm id =>
    simp only [Isolation.step, Isolation.rearm]
    split
    · exact .refl
    · exact runs_issue os s.udp.proxy _ _

/-- What is seen after a run of the whole handler. -/
def seen (evs : List Isolation.Event) : Sight :=
  udpSight ((Isolation.machine os config).run (.initial config) evs).udp

/-- The driver gives this payload in one of the events. -/
def Given (evs : List Isolation.Event) (id : EndpointId) (buf : Bytes) : Prop :=
  ∃ d, Isolation.Event.udpSend id d ∈ evs ∧ d.buf = buf

theorem steady_step {s : Isolation.State} (steady : Steady given s) {e : Isolation.Event}
    (gives : ∀ id d, e = .udpSend id d → given id d.buf) :
    Steady given (Isolation.step os config s e).1 := by
  have consistent := consistent_step os config steady.consistent e
  have handed := handed_step os config steady.handed gives
  cases e with
  | tcp id e => exact ⟨consistent, handed, steady.sized, steady.waiting⟩
  | udpSend id d =>
    exact ⟨consistent, handed, sized_handler os config steady.sized (.udpSend id d), steady.waiting⟩
  | udpReceive id d =>
    exact ⟨consistent, handed, sized_handler os config steady.sized (.udpReceive id d),
      steady.waiting⟩
  | udpClosed id =>
    exact ⟨consistent, handed, sized_handler os config steady.sized (.udpClosed id), steady.waiting⟩
  | driver id =>
    exact ⟨consistent, handed, sized_handler os config steady.sized (.driver id), steady.waiting⟩
  | complete op data error =>
    obtain ⟨sized, waiting⟩ := sized_completeUntilRearm os config steady.sized op data error
    exact ⟨consistent, handed, sized, waiting⟩
  | rearm id =>
    cases busy : s.worker with
    | none =>
      simp only [Isolation.step, Isolation.rearm, busy]
      exact steady
    | some r =>
      simp only [Isolation.step, Isolation.rearm, busy] at consistent handed ⊢
      exact ⟨consistent, handed, sized_issue os steady.sized (steady.waiting r busy), by simp⟩

/-- Every run of the whole handler is a list of deeds, with payloads that its events give. -/
theorem runs_run (evs : List Isolation.Event) :
    Runs config (Given evs) Sight.initial (seen os config evs) := by
  have kept : ∀ s e, Steady (Given evs) s ∧ Runs config (Given evs) Sight.initial (udpSight s.udp) →
      e ∈ evs → Steady (Given evs) ((Isolation.machine os config).step s e).1 ∧
        Runs config (Given evs) Sight.initial
          (udpSight ((Isolation.machine os config).step s e).1.udp) := by
    rintro s e ⟨steady, runs⟩ present
    constructor
    · exact steady_step os config steady fun id d same => ⟨d, same ▸ present, rfl⟩
    · exact runs.trans (runs_step os config steady e)
  have initial : Steady (Given evs) (.initial config) :=
    ⟨.initial, trivial, .initial, fun _ busy => by cases busy⟩
  exact ((Isolation.machine os config).run_invariant
    (I := fun s => Steady (Given evs) s ∧ Runs config (Given evs) Sight.initial (udpSight s.udp))
    kept ⟨initial, .refl⟩ fun _ present => present).2

/-- The state in which a receive has got these bytes and its handler is to issue the next. -/
def receivedState (s : Isolation.State) (op : Operation) (ov : OvData) (data : Bytes)
    (error : Nat) : Isolation.State :=
  let left := Rearm.receivedState os config s.udp.proxy op ov data error
  { s with udp := { s.udp with proxy := left.world }, worker := left.pending }

/-- A receive that got no more than fits into its buffer. -/
theorem step_receive {s : Isolation.State} {op : Operation} {ov : OvData}
    (pending : op ∈ s.udp.proxy.pending) (direct : op.queued = false)
    (hov : s.udp.proxy.ovData op.pov = some ov) (receives : ov.type.receives = true)
    {data : Bytes} (fits : data.length ≤ ov.buffer.length) (error : Nat) :
    (Isolation.step os config s (.complete op data error)).1 =
      receivedState os config s op ov data error := by
  have hov' : (s.udp.proxy.removePending op).ovData op.pov = some ov := hov
  simp only [Isolation.step, Isolation.complete, Rearm.completeUntilRearm, if_pos pending,
    Rearm.dispatchUntilRearm, hov', direct, receives, receivedState, Rearm.receivedState,
    List.take_of_length_le fits, Bool.false_eq_true, if_false, if_true]

end Handler

end Course
