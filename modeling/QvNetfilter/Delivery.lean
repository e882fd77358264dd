import QvNetfilter.Dispatch
import QvNetfilter.Handshake
import QvNetfilter.LinkSteps
import QvNetfilter.Tables

/-!
# The fate of a datagram

For one endpoint the driver's thread, the queue of the connection and the relay
socket are a desk: a datagram is in the thread's hand, waits in `udpSendPackets`,
or has been relayed, refused, posted or dropped. Each section of the handler is a
move of that desk.
-/

namespace Delivery

open Memory Socks Mealy UdpHistory Ownership Endpoints ControlChannel Links LinkSteps Sockets
open UdpHandler Tables
open UdpProxy hiding Event step machine udpSend complete
open Dispatch (Item Desk Move)

section Desks

/-- The bytes that a datagram becomes on the relay socket. -/
def form (d : Datagram) : Bytes := encapsulate d.buf d.remoteAddress

def packetForm (p : UdpPacket) : Bytes := encapsulate p.buffer p.remoteAddress

/-- Datagrams without a byte are left out. -/
def relayItem : Action → Option (Item Datagram Bytes)
  | .call (.wsaSendTo _ bytes _ _) accepted =>
    if bytes = [] then none else some (.attempt bytes accepted)
  | _ => none

def item : Output → Option (Item Datagram Bytes)
  | .udpSend d => if d.buf = [] then none else some (.passed d)
  | .udpClosed => some .closed
  | .nfUdpPostSend d => if d.buf = [] then none else some (.posted d)
  | .nfUdpPostReceive _ _ _ _ => none
  | .proxy a => relayItem a

def items (outs : List (EndpointId × Output)) (id : EndpointId) : List (Item Datagram Bytes) :=
  (atIndex id outs).filterMap item

/-- The datagrams of the queue, as they will be sent. -/
def waitingOf : Option ProxyData → List Bytes
  | none => []
  | some pd => pd.udpSendPackets.map packetForm

/-- The datagram that the driver's thread is sending. -/
def inHand (place : Place) (id : EndpointId) : List Datagram :=
  match place with
  | .creating j d _ _ _ => if j = id ∧ d.buf ≠ [] then [d] else []
  | .sending j d => if j = id ∧ d.buf ≠ [] then [d] else []
  | _ => []

def desk (s : State) (id : EndpointId) : Desk Datagram Bytes :=
  ⟨waitingOf (s.proxy.socketMap id), inHand s.place id⟩

@[simp] theorem items_nil (id : EndpointId) : items [] id = [] := rfl

theorem items_append (xs ys : List (EndpointId × Output)) (id : EndpointId) :
    items (xs ++ ys) id = items xs id ++ items ys id := by
  rw [items, atIndex_append, List.filterMap_append]
  rfl

theorem items_cons_self (id : EndpointId) (out : Output) (rest : List (EndpointId × Output)) :
    items ((id, out) :: rest) id = (item out).toList ++ items rest id := by
  rw [items, atIndex_cons_self]
  cases shows : item out <;> simp [items, shows]

theorem items_cons_ne {id j : EndpointId} (other : j ≠ id) (out : Output)
    (rest : List (EndpointId × Output)) : items ((j, out) :: rest) id = items rest id := by
  rw [items, atIndex_cons_ne other]
  rfl

/-- What the proxy adds to its log is seen through the view of the relay socket. -/
theorem items_proxy {w w' : World} (grows : Grows w w') (id : EndpointId) :
    view relayItem w' id = view relayItem w id ++ items (proxyOutputs w w') id := by
  obtain ⟨added, all⟩ := grows
  have here : emitted w w' = added := by rw [emitted, ← all, List.drop_left]
  have shown : items (proxyOutputs w w') id = (atIndex id added).filterMap relayItem := by
    rw [items, proxyOutputs, here, atIndex_map, List.filterMap_map]
    rfl
  rw [shown, view, view, World.history, World.history, ← all, atIndex_append,
    List.filterMap_append]

theorem items_of_view {w w' : World} (grows : Grows w w') {id : EndpointId}
    {news : List (Item Datagram Bytes)}
    (views : view relayItem w' id = view relayItem w id ++ news) :
    items (proxyOutputs w w') id = news :=
  List.append_cancel_left ((items_proxy grows id).symm.trans views)

/-- The delivery of a datagram of the relay is no item. -/
theorem items_deliver (udpCtxMap : EndpointId → Option (Option UdpOptions))
    (added : List (EndpointId × Action)) (id : EndpointId) :
    items (added.flatMap (deliver udpCtxMap)) id =
      items (added.map fun a => (a.1, .proxy a.2)) id := by
  induction added with
  | nil => rfl
  | cons a rest ih =>
    obtain ⟨j, a⟩ := a
    have first : items (deliver udpCtxMap (j, a)) id = items [(j, .proxy a)] id := by
      cases a with
      | onUdpReceiveComplete d =>
        simp only [deliver]
        split
        · rfl
        · by_cases own : j = id
          · subst own
            simp [items_cons_self, item]
          · simp [items_cons_ne own]
      | _ => rfl
    have rest_ : items (((j, a) :: rest).map fun a => (a.1, Output.proxy a.2)) id =
        items [(j, .proxy a)] id ++ items (rest.map fun a => (a.1, .proxy a.2)) id :=
      items_append [(j, .proxy a)] _ id
    rw [List.flatMap_cons, items_append, first, ih, rest_]

end Desks

section Completions
variable {config : Config} {id : EndpointId} {l l' : Link} {pd : ProxyData}

def noteItem : Note → Option (Item Datagram Bytes)
  | .datagram bytes accepted => if bytes = [] then none else some (.attempt bytes accepted)
  | _ => none

theorem relayItem_note (a : Action) : relayItem a = (note a).bind noteItem := by
  cases a with
  | call c accepted => cases c <;> rfl
  | _ => rfl

theorem view_notes (w : World) (id : EndpointId) :
    view relayItem w id = (notes w id).filterMap noteItem := by
  have same : relayItem = fun a => (note a).bind noteItem := funext relayItem_note
  rw [notes, view, view, List.filterMap_filterMap, same]

/-- An established connection has nothing queued, and no queued datagram is empty. -/
structure Queue (pd : ProxyData) : Prop where
  flushed : pd.proxyState = .psConnected → pd.udpSendPackets = []
  nonempty : ∀ p ∈ pd.udpSendPackets, p.buffer ≠ []

theorem encapsulate_ne_nil {buf : Bytes} (nonempty : buf ≠ []) (remoteAddress : Address) :
    encapsulate buf remoteAddress ≠ [] := by
  rw [encapsulate, if_neg nonempty]
  split <;> simp

theorem noteItem_attempt {bytes : Bytes} (nonempty : bytes ≠ []) (accepted : Bool) :
    noteItem (.datagram bytes accepted) = some (.attempt bytes accepted) :=
  if_neg nonempty

/-- One `WSASendTo` is one attempt. -/
theorem attempt_items {bytes : Bytes} {sent : Bool} (nonempty : bytes ≠ [])
    (attempt : Attempt id pd bytes l sent l') :
    ∃ news, l'.notes = l.notes ++ news ∧ news.filterMap noteItem = [.attempt bytes sent] := by
  have shown : ∀ (answer : Bool) (rest : List Note), rest.filterMap noteItem = [] →
      (Note.datagram bytes answer :: rest).filterMap noteItem = [.attempt bytes answer] := by
    intro answer rest silent
    rw [List.filterMap_cons_some (noteItem_attempt nonempty answer), silent]
  cases attempt with
  | refused => exact ⟨_, rfl, shown false [] rfl⟩
  | sent started => exact ⟨_, rfl, shown true [] rfl⟩
  | first notStarted op accepted starts =>
    exact ⟨_, List.append_assoc l.notes _ _, shown true [.receiveFrom op.socket accepted] rfl⟩

/-- The flush is one attempt for each queued datagram, in order. -/
theorem flushed_items (flushed : Flushed id l l') (entry : l.entry = some pd)
    (nonempty : ∀ p ∈ pd.udpSendPackets, p.buffer ≠ []) :
    ∃ accepted news, accepted.length = pd.udpSendPackets.length ∧
      l'.notes = l.notes ++ news ∧ news.filterMap noteItem =
        List.zipWith .attempt (pd.udpSendPackets.map packetForm) accepted := by
  induction flushed generalizing pd with
  | done entry' empty =>
    obtain rfl := Option.some_inj.mp (entry.symm.trans entry')
    exact ⟨[], [], by rw [empty]; rfl, (List.append_nil _).symm, by rw [empty]; rfl⟩
  | @next l l₁ l₂ pd₀ pd₁ p rest sent entry' queue attempt left flushed ih =>
    obtain rfl := Option.some_inj.mp (entry.symm.trans entry')
    have present : p.buffer ≠ [] := nonempty p (by simp [queue])
    obtain ⟨first, added, shows⟩ :=
      attempt_items (encapsulate_ne_nil present p.remoteAddress) attempt
    obtain ⟨accepted, news, each, added', shows'⟩ := ih rfl fun p' member =>
      nonempty p' (by rw [queue]; exact List.mem_cons_of_mem p member)
    refine ⟨sent :: accepted, first ++ news, ?_, ?_, ?_⟩
    · rw [queue, List.length_cons, List.length_cons, each]
    · rw [added', ← List.append_assoc, ← added]
      rfl
    · rw [List.filterMap_append, shows, shows', queue]
      rfl

/-- All that waited when the connection was established has been attempted, in order. -/
def Attempted (before : Option ProxyData) (news : List (Item Datagram Bytes)) (pd : ProxyData) :
    Prop :=
  pd.proxyState = .psConnected → waitingOf before <+: (Dispatch.attempts news).map Prod.fst

theorem Queue.attempted {pd' : ProxyData} (queue : Queue pd)
    (state : pd'.proxyState = .psConnected → pd.proxyState = .psConnected)
    (news : List (Item Datagram Bytes)) : Attempted (some pd) news pd' := by
  intro connected
  rw [waitingOf, queue.flushed (state connected)]
  exact List.nil_prefix

/-- What a completion makes of the queue of an endpoint, and what it shows. -/
def QueueMove (L : Prop) (l l' : Link) : Prop :=
  (∀ hands, Move form L ⟨waitingOf l.entry, hands⟩ ((newNotes l l').filterMap noteItem)
    ⟨waitingOf l'.entry, hands⟩) ∧ ∀ pd', l'.entry = some pd' →
      Queue pd' ∧ Attempted l.entry ((newNotes l l').filterMap noteItem) pd'

/-- A step that shows no attempt and keeps the queue as it is. -/
theorem queueMove_stay {L : Prop} (queue : ∀ pd, l.entry = some pd → Queue pd)
    {news : List Note} (added : l'.notes = l.notes ++ news) (silent : news.filterMap noteItem = [])
    (same : ∀ pd', l'.entry = some pd' → ∃ pd, l.entry = some pd ∧
      pd'.udpSendPackets = pd.udpSendPackets ∧
      (pd'.proxyState = .psConnected → pd.proxyState = .psConnected))
    (gone : l'.entry = none → l.entry = none) : QueueMove L l l' := by
  refine ⟨fun hands => ?_, fun pd' entry' => ?_⟩
  · rw [newNotes_append added, silent]
    have unchanged : waitingOf l'.entry = waitingOf l.entry := by
      cases entry' : l'.entry with
      | none => rw [gone entry']
      | some pd' =>
        obtain ⟨pd, entry, packets, _⟩ := same pd' entry'
        rw [entry]
        exact congrArg (List.map packetForm) packets
    rw [unchanged]
    exact .stay _
  · obtain ⟨pd, entry, packets, state⟩ := same pd' entry'
    obtain ⟨flushed, nonempty⟩ := queue pd entry
    refine ⟨⟨fun connected => packets.trans (flushed (state connected)), packets ▸ nonempty⟩, ?_⟩
    rw [entry]
    exact (queue pd entry).attempted state _

/-- The flush, between what the completion shows before and the next receive. -/
theorem queueMove_flush {L : Prop} {l₀ l₁ : Link} {pd₀ : ProxyData} {front : List Note}
    (entry : l.entry = some pd) (nonempty : ∀ p ∈ pd.udpSendPackets, p.buffer ≠ [])
    (before : l₀.notes = l.notes ++ front) (silent : front.filterMap noteItem = [])
    (entry₀ : l₀.entry = some pd₀) (packets : pd₀.udpSendPackets = pd.udpSendPackets)
    (flushed : Flushed id l₀ l₁) (op : Operation)
    (accepted : Bool)
    (refusal : ∀ bytes,
      .attempt bytes false ∈ (newNotes l (l₁.receive op accepted)).filterMap noteItem → L) :
    QueueMove L l (l₁.receive op accepted) := by
  obtain ⟨answers, news, each, added, shows⟩ := flushed_items flushed entry₀ (packets ▸ nonempty)
  obtain ⟨started, emptied⟩ := flushed.entry entry₀
  rw [packets] at each shows
  have all : (l₁.receive op accepted).notes =
      l.notes ++ (front ++ news ++ [.receive op.socket accepted]) := by
    simp [Link.receive, added, before]
  have shown : (newNotes l (l₁.receive op accepted)).filterMap noteItem =
      List.zipWith .attempt (pd.udpSendPackets.map packetForm) answers := by
    rw [newNotes_append all, List.filterMap_append, List.filterMap_append, silent, shows]
    simp [noteItem]
  have left : (l₁.receive op accepted).entry =
      some { pd₀ with udpSendPackets := [], udpRecvStarted := started } := emptied
  have each' : answers.length = (pd.udpSendPackets.map packetForm).length := by
    rw [each, List.length_map]
  refine ⟨fun hands => ?_, fun pd' entry' => ?_⟩
  · rw [left, entry, shown]
    refine .flush _ hands answers each' fun refused => ?_
    obtain ⟨bytes, member⟩ := Dispatch.flush_refused each' refused
    exact refusal bytes (shown ▸ member)
  · obtain rfl := Option.some_inj.mp (left.symm.trans entry')
    refine ⟨⟨fun _ => rfl, by simp⟩, fun _ => ?_⟩
    rw [shown, entry, Dispatch.flush_attempts each']
    exact List.prefix_refl _

theorem controlAnswer_state {c : Core} {reply message : Bytes} {next : ProxyState}
    (answer : controlAnswer c reply = some (message, next)) : next ≠ .psConnected := by
  cases Handshake.answered_of_controlAnswer answer with
  | credentials | otherMethod | accepted => decide

/-- A completion is a move of the desk: it loses datagrams when a connect has failed or the
relay socket refuses one of the queue. -/
theorem queueMove_complete {L : Prop} {op : Operation} {data : Bytes} {error : Nat}
    (queue : ∀ pd, l.entry = some pd → Queue pd)
    (failure : op ∈ l.connects → error ≠ 0 → waitingOf l.entry ≠ [] → L)
    (refusal : ∀ bytes, .attempt bytes false ∈ (newNotes l l').filterMap noteItem → L)
    (step : LinkStep config id l (.complete op data error) l') : QueueMove L l l' := by
  have same : ∀ pd', l.entry = some pd' → ∃ pd, l.entry = some pd ∧
      pd'.udpSendPackets = pd.udpSendPackets ∧
      (pd'.proxyState = .psConnected → pd.proxyState = .psConnected) :=
    fun pd' entry => ⟨pd', entry, rfl, fun connected => connected⟩
  cases step with
  | elsewhere | unarmed | connectIgnored =>
    exact queueMove_stay queue (List.append_nil _).symm rfl same fun gone => gone
  | controlEnded | relayEnded => exact queueMove_stay queue rfl rfl same fun gone => gone
  | relayData armed nonempty accepted =>
    exact queueMove_stay queue (List.append_assoc _ _ _) rfl same fun gone => gone
  | connectFailed armed failed =>
    refine ⟨fun hands => ?_, fun pd' left => by cases left⟩
    have silent : newNotes l ((l.disarm op).setEntry none) = [] :=
      newNotes_append (List.append_nil l.notes).symm
    rw [silent]
    cases waits : waitingOf l.entry with
    | nil => exact .stay _
    | cons b rest => exact .lose _ _ (failure armed failed (by simp [waits]))
  | @greeted op data pd armed entry sent accepted op' starts =>
    refine queueMove_stay queue (List.append_assoc _ _ _) rfl ?_ (fun gone => by cases gone)
    rintro pd' ⟨⟩
    refine ⟨pd, entry, ?_, ?_⟩ <;> cases sent <;> simp
  | @controlData op data reply error l₁ armed nonempty switch accepted =>
    cases switch with
    | silent => exact queueMove_stay queue (List.append_assoc _ _ _) rfl same fun gone => gone
    | @answered pd message next entry answer sent =>
      have other := controlAnswer_state answer
      have added : ((((l.disarm op).note (.received .ovtTcpReceive reply)).answer pd message next
          sent).receive op accepted).notes = l.notes ++ [.received .ovtTcpReceive reply,
            .sent message sent, .receive op.socket accepted] := by
        simp [Link.receive, Link.answer, Link.note, Link.disarm]
      refine queueMove_stay queue added rfl ?_ (fun gone => by cases gone)
      rintro pd' ⟨⟩
      refine ⟨pd, entry, ?_, ?_⟩ <;> cases sent <;> simp [other]
    | @connected pd buffer addr l₁ entry waiting relay flushed =>
      have entry' : l.entry = some pd := entry
      let pd₀ : ProxyData := { pd with
        remoteAddress := pd.remoteAddress.write addr
        remoteAddressLen := addr.length
        proxyState := .psConnected }
      let l₀ : Link := ((l.disarm op).note (.received .ovtTcpReceive reply)).setEntry (some pd₀)
      have front : l₀.notes = l.notes ++ [.received .ovtTcpReceive reply] := rfl
      have entry₀ : l₀.entry = some pd₀ := rfl
      exact queueMove_flush entry' (queue pd entry').nonempty front rfl entry₀ rfl flushed op
        accepted refusal

end Completions

section Packets

theorem byteAt_stored (a : Address) {n i : Nat} (within : i < n) (fits : n ≤ nfMaxAddressLength) :
    byteAt (Address.zero.write (a.bytes.take n)).bytes i = byteAt a.bytes i := by
  have size := a.size
  have copied : i < (a.bytes.take n).length := by
    rw [List.length_take, size]
    omega
  have inside : i < nfMaxAddressLength := by omega
  simp only [Address.write]
  rw [byteAt_take inside, byteAt_overwrite_of_lt copied, byteAt_take within]

/-- The part of an address that a packet keeps is all that its datagram needs. -/
theorem encapsulate_stored (buf : Bytes) (a : Address) :
    encapsulate buf (Address.zero.write (a.bytes.take (sendAddrLen a))) = encapsulate buf a := by
  have long : sizeofSockaddrIn ≤ sendAddrLen a := by
    simp only [sendAddrLen]
    split <;> decide
  have fits : sendAddrLen a ≤ nfMaxAddressLength := by
    simp only [sendAddrLen]
    split <;> decide
  have kept : ∀ i, i < sendAddrLen a →
      byteAt (Address.zero.write (a.bytes.take (sendAddrLen a))).bytes i = byteAt a.bytes i :=
    fun i within => byteAt_stored a within fits
  have front : ∀ off len, off + len ≤ sizeofSockaddrIn →
      readBytes (Address.zero.write (a.bytes.take (sendAddrLen a))).bytes off len =
        readBytes a.bytes off len :=
    fun off len inside => readBytes_congr fun i _ within => kept i (by omega)
  have family : (Address.zero.write (a.bytes.take (sendAddrLen a))).saFamily = a.saFamily := by
    have positive : 1 < sizeofSockaddrIn := by decide
    rw [Address.saFamily, Address.saFamily, kept 0 (by omega), kept 1 (by omega)]
  have port : (Address.zero.write (a.bytes.take (sendAddrLen a))).sinPort = a.sinPort :=
    front 2 2 (by decide)
  have addr : (Address.zero.write (a.bytes.take (sendAddrLen a))).sinAddr = a.sinAddr :=
    front 4 4 (by decide)
  rw [encapsulate, encapsulate, family, port, addr]
  by_cases ipv4 : a.saFamily = afInet
  · simp only [if_pos ipv4]
  · have whole : sendAddrLen a = sizeofSockaddrIn6 := if_neg ipv4
    have addr6 : (Address.zero.write (a.bytes.take (sendAddrLen a))).sin6Addr = a.sin6Addr := by
      refine readBytes_congr fun i _ within => kept i ?_
      have room : 8 + 16 ≤ sizeofSockaddrIn6 := by decide
      omega
    simp only [if_neg ipv4, addr6]

theorem waitingOf_enqueue (pd : ProxyData) {d : Datagram} (nonempty : d.buf ≠ []) :
    waitingOf (some (enqueue pd d.buf d.remoteAddress (sendAddrLen d.remoteAddress))) =
      waitingOf (some pd) ++ [form d] := by
  have packet : packetForm ⟨Address.zero.write
      (d.remoteAddress.bytes.take (sendAddrLen d.remoteAddress)),
      sendAddrLen d.remoteAddress, d.buf⟩ = form d := encapsulate_stored d.buf d.remoteAddress
  simp only [waitingOf, enqueue, if_neg nonempty, List.map_append, List.map_cons, List.map_nil,
    packet]

theorem queue_enqueue {pd : ProxyData} (queue : Queue pd) (waiting : pd.proxyState ≠ .psConnected)
    (buf : Bytes) (remoteAddress : Address) (len : Nat) :
    Queue (enqueue pd buf remoteAddress len) := by
  simp only [enqueue]
  split
  · exact queue
  · rename_i nonempty
    refine ⟨fun connected => absurd connected waiting, fun p member => ?_⟩
    rcases List.mem_append.mp member with old | new
    · exact queue.nonempty p old
    · obtain rfl := List.mem_singleton.mp new
      exact nonempty

end Packets

section Steps
variable (os : Os) (config : Config)

/-- The reasons for which a step loses datagrams of an endpoint. -/
inductive Loss (s : State) (id : EndpointId) : Event → Prop where
  | notOpened {d : Datagram} (nonempty : d.buf ≠ []) (idle : s.place = .idle)
      (unknown : s.udpCtxMap id = none)
      (failed : (openSockets (currentOs os s.freeing) s.proxy id).2 = none) :
      Loss s id (.udpSend id d)
  | gaveUp {d : Datagram} {tcpSocket udpSocket : Socket} (nonempty : d.buf ≠ [])
      (there : s.place = .creating id d .failed tcpSocket udpSocket) : Loss s id (.driver id)
  | connectFailed {op : Operation} {data : Bytes} {error : Nat}
      (failed : ConnectFailed s.proxy op error id)
      (waits : waitingOf (s.proxy.socketMap id) ≠ []) : Loss s id (.complete op data error)
  | refused {op : Operation} {data : Bytes} {error : Nat} (bytes : Bytes)
      (shown : .attempt bytes false ∈ items (proxyOutputs s.proxy
        (UdpProxy.complete os config s.proxy op data error)) id) :
      Loss s id (.complete op data error)
  | cleared : Loss s id .free

/-- What the moves of the desks rest on. -/
structure Sound (s : State) : Prop where
  consistent : Consistent s
  owned : s.freeing = .running → Owned s.proxy []
  queue : ∀ id pd, s.proxy.socketMap id = some pd → Queue pd
  fresh : ∀ id d stage tcpSocket udpSocket,
    s.place = .creating id d stage tcpSocket udpSocket → waitingOf (s.proxy.socketMap id) = []

theorem Sound.initial : Sound State.initial :=
  ⟨.initial, fun _ => Owned.initial, fun _ _ => nofun, fun _ _ _ _ _ => nofun⟩

variable {os config} {s : State}

/-- A step of the proxy that shows nothing of the relay socket and adds nothing to a queue. -/
theorem move_silent {L : Prop} {w : World} {place : Place} {id : EndpointId}
    (entry : w.socketMap id = s.proxy.socketMap id) (hands : inHand place id = inHand s.place id)
    (outs : List (EndpointId × Output)) (silent : items outs id = []) :
    Move form L (desk s id) (items outs id) (desk { s with proxy := w, place := place } id) := by
  have same : desk { s with proxy := w, place := place } id = desk s id := by
    simp only [desk, entry, hands]
  rw [silent, same]
  exact .stay _

/-- What the proxy does for another endpoint is not seen. -/
theorem items_elsewhere {w w' : World} {id : EndpointId} (grows : Grows w w')
    (same : Untouched id w w') : items (proxyOutputs w w') id = [] := by
  refine items_of_view grows ?_
  rw [view, view, same.history, List.append_nil]

theorem grows_openSockets (os : Os) (w : World) (id : EndpointId) :
    Grows w (openSockets os w id).1 := by
  unfold openSockets
  split
  · exact grows_record w id _
  · simp only
    split
    · exact ((grows_record w id _).trans (grows_record _ id _)).trans (grows_record _ id _)
    · exact (grows_record w id _).trans (grows_record _ id _)

theorem view_openSockets (os : Os) (w : World) (id j : EndpointId) :
    view relayItem (openSockets os w id).1 j = view relayItem w j := by
  have opened : ∀ type s, shown relayItem id j (.opened type s) = [] :=
    fun _ _ => shown_none rfl id j
  have closed : ∀ s, shown relayItem id j (.closed s) = [] := fun _ => shown_none rfl id j
  unfold openSockets
  split
  · simp only [view_record, opened, List.append_nil]
  · simp only
    split
    · simp only [view_record, opened, closed, List.append_nil]
    · simp only [view_record, opened, List.append_nil]

theorem grows_advance (os : Os) (config : Config) (w : World) (id : EndpointId)
    (tcpSocket udpSocket : Socket) (stage : Creating) :
    Grows w (advance os config w id tcpSocket udpSocket stage).1 := by
  cases stage with
  | opened => exact grows_record (w.setEntry id _) id _
  | stored => exact grows_invoke os w id _
  | tcpRegistered => exact grows_invoke os w id _
  | udpRegistered => exact grows_startConnect os w _ _ _ id
  | connecting | failed => exact .refl w

theorem view_advance (os : Os) (config : Config) (w : World) (id : EndpointId)
    (tcpSocket udpSocket : Socket) (stage : Creating) (j : EndpointId) :
    view relayItem (advance os config w id tcpSocket udpSocket stage).1 j = view relayItem w j := by
  cases stage with
  | opened =>
    have created : shown relayItem id j .created = [] := shown_none rfl id j
    simp only [advance, storeEntry, view_record, created, view_setEntry, List.append_nil]
  | stored => exact view_invoke_hidden os w id j fun _ => rfl
  | tcpRegistered => exact view_invoke_hidden os w id j fun _ => rfl
  | udpRegistered => exact view_startConnect os w _ _ _ id (fun _ => rfl) j
  | connecting | failed => rfl

/-- A section that the relay socket has no part in shows nothing. -/
theorem items_silent {w w' : World} {j : EndpointId} (grows : Grows w w')
    (same : view relayItem w' j = view relayItem w j) : items (proxyOutputs w w') j = [] :=
  items_of_view grows (by rw [same, List.append_nil])

theorem inHand_ne {place : Place} {id : EndpointId} (elsewhere : place.endpoint ≠ some id) :
    inHand place id = [] := by
  cases place with
  | idle | closing => rfl
  | creating j d stage t u =>
    have other : j ≠ id := fun own => elsewhere (congrArg some own)
    exact if_neg fun both => other both.1
  | sending j d =>
    have other : j ≠ id := fun own => elsewhere (congrArg some own)
    exact if_neg fun both => other both.1

theorem inHand_self {place : Place} {id : EndpointId} {d : Datagram} (nonempty : d.buf ≠ [])
    (there : (∃ stage t u, place = .creating id d stage t u) ∨ place = .sending id d) :
    inHand place id = [d] := by
  rcases there with ⟨stage, t, u, rfl⟩ | rfl <;> exact if_pos ⟨rfl, nonempty⟩

theorem inHand_empty {place : Place} {id : EndpointId} {d : Datagram} (empty : d.buf = [])
    (there : (∃ stage t u, place = .creating id d stage t u) ∨ place = .sending id d) :
    inHand place id = [] := by
  rcases there with ⟨stage, t, u, rfl⟩ | rfl <;> exact if_neg fun both => both.2 empty

theorem item_udpSend {d : Datagram} (nonempty : d.buf ≠ []) :
    item (.udpSend d) = some (.passed d) :=
  if_neg nonempty

/-- On an established connection a datagram is one attempt with the answer that `udpSend`
returns, and the queue stays empty. -/
theorem sendDatagram_shows (os : Os) {w w' : World} {id : EndpointId} {pd : ProxyData}
    {d : Datagram} {sent : Bool} (entry : w.socketMap id = some pd)
    (result : sendDatagram os w id pd d.buf d.remoteAddress = (w', sent)) :
    items (proxyOutputs w w') id = (if form d = [] then [] else [.attempt (form d) sent]) ∧
      waitingOf (w'.socketMap id) = waitingOf (some pd) := by
  have grows := grows_sendDatagram os w id pd d.buf d.remoteAddress
  have views : view relayItem (sendDatagram os w id pd d.buf d.remoteAddress).1 id =
      view relayItem w id ++ _ :=
    view_sendDatagram_sent os w id pd d.buf d.remoteAddress (fun _ => rfl) (fun _ _ => rfl) id
  obtain ⟨started, written⟩ := sendDatagram_socketMap os w id entry d.buf d.remoteAddress
  rw [result] at grows views written
  rw [shown_self] at views
  refine ⟨?_, ?_⟩
  · rw [items_of_view grows views]
    by_cases unseen : encapsulate d.buf d.remoteAddress = []
    · simp [relayItem, form, unseen]
    · simp [relayItem, form, unseen]
  · have written' : w'.socketMap id = some { pd with udpRecvStarted := started } := by
      rw [written, Function.update_self]
    rw [written']
    rfl

/-- The thread gives the driver's datagram to the connection. -/
theorem move_sending (sound : Sound s) {id : EndpointId} {d : Datagram} {w : World} {sent : Bool}
    {L : Prop} (there : s.place = .sending id d)
    (result : UdpProxy.udpSend (currentOs os s.freeing) s.proxy id d.buf d.remoteAddress
      (sendAddrLen d.remoteAddress) = (w, sent)) :
    Move form L (desk s id)
      (items (proxyOutputs s.proxy w ++ if sent then [] else [(id, .nfUdpPostSend d)]) id)
      (desk { s with proxy := w, place := .idle } id) := by
  have still : items (proxyOutputs s.proxy s.proxy) id = [] :=
    items_silent (.refl s.proxy) rfl
  have post : items [(id, .nfUdpPostSend d)] id = if d.buf = [] then [] else [.posted d] := by
    simp only [items_cons_self, item, items_nil, List.append_nil]
    split <;> rfl
  have start : desk s id = ⟨waitingOf (s.proxy.socketMap id),
      if d.buf = [] then [] else [d]⟩ := by
    by_cases empty : d.buf = []
    · simp only [desk, inHand_empty empty (Or.inr there), if_pos empty]
    · simp only [desk, inHand_self empty (Or.inr there), if_neg empty]
  rw [start]
  show Move form L _ _ ⟨waitingOf (w.socketMap id), []⟩
  cases entry : s.proxy.socketMap id with
  | none =>
    simp only [UdpProxy.udpSend, entry] at result
    obtain ⟨rfl, rfl⟩ := Prod.mk.inj result
    rw [entry, items_append, still]
    simp only [Bool.false_eq_true, if_false, post, List.nil_append]
    by_cases empty : d.buf = []
    · simp only [if_pos empty]
      exact .stay _
    · simp only [if_neg empty]
      exact .post d
  | some pd =>
    by_cases waits : pd.proxyState = .psConnected
    · simp only [UdpProxy.udpSend, entry, waits] at result
      have sends : sendDatagram (currentOs os s.freeing) s.proxy id pd d.buf d.remoteAddress =
          (w, sent) := by simpa using result
      obtain ⟨shows, left⟩ := sendDatagram_shows _ entry sends
      have flushed : waitingOf (some pd) = [] := by
        rw [waitingOf, (sound.queue id pd entry).flushed waits]
        rfl
      rw [left, flushed, items_append, shows]
      by_cases empty : d.buf = []
      · have unshown : form d = [] := by simp [form, encapsulate, empty]
        cases sent with
        | true => simpa [empty, unshown] using Move.stay _
        | false => simpa [empty, unshown, post] using Move.stay _
      · have shown : form d ≠ [] := encapsulate_ne_nil empty d.remoteAddress
        cases sent with
        | true => simpa [empty, shown] using Move.relay d
        | false => simpa [empty, shown, post] using Move.refer d
    · simp only [UdpProxy.udpSend, entry] at result
      obtain ⟨rfl, rfl⟩ := Prod.mk.inj ((if_pos waits).symm.trans result)
      have unseen : items (proxyOutputs s.proxy (s.proxy.setEntry id (some (enqueue pd d.buf
          d.remoteAddress (sendAddrLen d.remoteAddress))))) id = [] :=
        items_silent (.refl s.proxy) rfl
      rw [items_append, unseen]
      simp only [if_true, items_nil, List.nil_append, setEntry_socketMap, Function.update_self]
      by_cases empty : d.buf = []
      · have same : enqueue pd d.buf d.remoteAddress (sendAddrLen d.remoteAddress) = pd :=
          if_pos empty
        rw [same, if_pos empty]
        exact .stay _
      · rw [waitingOf_enqueue pd empty, if_neg empty]
        exact .queue _ d

/-- An event of another endpoint. -/
theorem move_elsewhere {L : Prop} {w : World} {place : Place} {id : EndpointId}
    {outs : List (EndpointId × Output)} (silent : items outs id = [])
    (entry : w.socketMap id = s.proxy.socketMap id) (before : s.place.endpoint ≠ some id)
    (after : place.endpoint ≠ some id) :
    Move form L (desk s id) (items outs id) (desk { s with proxy := w, place := place } id) :=
  move_silent entry ((inHand_ne after).trans (inHand_ne before).symm) outs silent

/-- A completion, whatever the thread has in its hand. -/
theorem move_completed (os : Os) (config : Config) (sound : Sound s)
    (running : s.freeing = .running)
    (op : Operation) (data : Bytes) (error : Nat) (id : EndpointId) :
    (∀ hands, Move form (Loss os config s id (.complete op data error))
      ⟨waitingOf (s.proxy.socketMap id), hands⟩
      (items ((emitted s.proxy (UdpProxy.complete os config s.proxy op data error)).flatMap
        (deliver s.udpCtxMap)) id)
      ⟨waitingOf ((UdpProxy.complete os config s.proxy op data error).socketMap id), hands⟩) ∧
    ∀ pd', (UdpProxy.complete os config s.proxy op data error).socketMap id = some pd' →
      Queue pd' ∧ Attempted (s.proxy.socketMap id)
        (items ((emitted s.proxy (UdpProxy.complete os config s.proxy op data error)).flatMap
          (deliver s.udpCtxMap)) id) pd' := by
  have owned := sound.owned running
  have grows := grows_complete os config s.proxy op data error
  have changed := link_step os config owned (.complete op data error) id
  have news : items ((emitted s.proxy (UdpProxy.complete os config s.proxy op data error)).flatMap
      (deliver s.udpCtxMap)) id = (newNotes (link s.proxy id)
        (link (UdpProxy.complete os config s.proxy op data error) id)).filterMap noteItem := by
    rw [items_deliver]
    refine items_of_view grows ?_
    obtain ⟨added, all⟩ := changed.notes_prefix
    have fresh : newNotes (link s.proxy id)
        (link (UdpProxy.complete os config s.proxy op data error) id) = added :=
      newNotes_append all.symm
    have all' : notes (UdpProxy.complete os config s.proxy op data error) id =
        notes s.proxy id ++ added := all.symm
    rw [view_notes, view_notes, fresh, all', List.filterMap_append]
  have shown : items (proxyOutputs s.proxy (UdpProxy.complete os config s.proxy op data error)) id =
      (newNotes (link s.proxy id)
        (link (UdpProxy.complete os config s.proxy op data error) id)).filterMap noteItem := by
    rw [← news, items_deliver]
    rfl
  have failure : op ∈ (link s.proxy id).connects → error ≠ 0 →
      waitingOf (link s.proxy id).entry ≠ [] → Loss os config s id (.complete op data error) := by
    intro armed failed waits
    obtain ⟨pending, own, direct, typed⟩ := mem_armed.mp armed
    obtain ⟨ov, hov, type⟩ := Option.map_eq_some_iff.mp typed
    have named : ov.id = id := (owned.named op.pov ov hov).trans own
    exact .connectFailed ⟨pending, direct, failed, ov, hov, type, named⟩ waits
  obtain ⟨move, queue⟩ := queueMove_complete (sound.queue id) failure
    (fun bytes refused => Loss.refused bytes (shown ▸ refused)) changed
  rw [news]
  exact ⟨move, queue⟩

/-- The thread takes the driver's datagram into its hand. -/
theorem move_take {L : Prop} (idle : s.place = .idle) {id j : EndpointId} {d : Datagram} {w : World}
    {place : Place} {news : List (EndpointId × Output)} (silent : items news id = [])
    (entry : w.socketMap id = s.proxy.socketMap id)
    (there : (∃ stage t u, place = .creating j d stage t u) ∨ place = .sending j d) :
    Move form L (desk s id) (items ((j, .udpSend d) :: news) id)
      (desk { s with proxy := w, place := place } id) := by
  have before : inHand s.place id = [] := by rw [idle]; rfl
  have start : desk s id = ⟨waitingOf (w.socketMap id), []⟩ := by
    simp only [desk, before, entry]
  rw [start]
  show Move form L _ _ ⟨waitingOf (w.socketMap id), inHand place id⟩
  by_cases own : j = id
  · subst own
    rw [items_cons_self, silent, List.append_nil]
    by_cases empty : d.buf = []
    · rw [inHand_empty empty there]
      simp only [item, if_pos empty]
      exact .stay _
    · rw [inHand_self empty there, item_udpSend empty]
      exact .take _ d
  · have elsewhere : place.endpoint ≠ some id := by
      rcases there with ⟨stage, t, u, rfl⟩ | rfl <;> exact fun here => own (Option.some_inj.mp here)
    rw [items_cons_ne own, silent, inHand_ne elsewhere]
    exact .stay _

theorem advance_elsewhere {w w' : World} {id j : EndpointId} (other : j ≠ id)
    {tcpSocket udpSocket : Socket} {stage stage' : Creating}
    (result : advance os config w j tcpSocket udpSocket stage = (w', stage')) :
    w'.socketMap id = w.socketMap id := by
  by_cases first : stage = .opened
  · subst first
    obtain ⟨rfl, _⟩ : storeEntry config w j tcpSocket udpSocket = w' ∧ _ := Prod.mk.inj result
    exact Function.update_of_ne (Ne.symm other) _ _
  · rw [advance_socketMap first result]

/-- A section of `createProxyConnection` leaves the queue of its own endpoint empty. -/
theorem advance_waiting (sound : Sound s) {id : EndpointId} {d : Datagram} {w : World}
    {stage stage' : Creating} {tcpSocket udpSocket : Socket}
    (there : s.place = .creating id d stage tcpSocket udpSocket)
    (result : advance (currentOs os s.freeing) config s.proxy id tcpSocket udpSocket stage =
      (w, stage')) : waitingOf (w.socketMap id) = [] := by
  by_cases first : stage = .opened
  · subst first
    obtain ⟨rfl, _⟩ : storeEntry config s.proxy id tcpSocket udpSocket = w ∧ _ :=
      Prod.mk.inj result
    rw [storeEntry_socketMap, Function.update_self]
    rfl
  · rw [advance_socketMap first result]
    exact sound.fresh id d stage tcpSocket udpSocket there

theorem proxy_advance {id : EndpointId} {tcpSocket udpSocket : Socket} {stage stage' : Creating}
    {w w' : World} (j : EndpointId)
    (result : advance os config w id tcpSocket udpSocket stage = (w', stage')) :
    items (proxyOutputs w w') j = [] := by
  have grows := grows_advance os config w id tcpSocket udpSocket stage
  have same := view_advance os config w id tcpSocket udpSocket stage j
  rw [result] at grows same
  exact items_silent grows same

theorem proxy_deleted (w : World) (id j : EndpointId) :
    items (proxyOutputs w (w.deleteProxyConnection id)) j = [] :=
  items_silent (grows_deleteProxyConnection w id)
    (view_deleteProxyConnection w id (fun _ => rfl) j)

/-- What the thread sends for one endpoint is nothing to another. -/
theorem sending_elsewhere {id j : EndpointId} (other : j ≠ id) {d : Datagram} {w : World}
    {sent : Bool}
    (result : UdpProxy.udpSend (currentOs os s.freeing) s.proxy j d.buf d.remoteAddress
      (sendAddrLen d.remoteAddress) = (w, sent)) :
    items (proxyOutputs s.proxy w) id = [] ∧ w.socketMap id = s.proxy.socketMap id := by
  have grows := grows_udpSend (currentOs os s.freeing) s.proxy j d.buf d.remoteAddress
    (sendAddrLen d.remoteAddress)
  have same := untouched_udpSend (currentOs os s.freeing) (Untouched.refl id s.proxy) other d.buf
    d.remoteAddress (sendAddrLen d.remoteAddress)
  rw [result] at grows same
  exact ⟨items_elsewhere grows same, same.entry⟩

/-- Every step of the handler is a move of every desk. -/
theorem handler_move (os : Os) (config : Config) (sound : Sound s) (e : Event) (id : EndpointId) :
    Move form (Loss os config s id e) (desk s id) (items (step os config s e).2 id)
      (desk (step os config s e).1 id) := by
  have cases_ := handlerStep os config s e
  generalize step os config s e = result at cases_ ⊢
  obtain ⟨s', outs⟩ := result
  show Move form _ _ (items outs id) (desk s' id)
  cases cases_ with
  | ignored => exact .stay _
  | @received j d idle =>
    have silent : items [(j, .nfUdpPostReceive d.remoteAddress.bytes d.buf d.buf.length d.options)]
        id = [] := by
      by_cases own : j = id
      · subst own
        rw [items_cons_self]
        rfl
      · rw [items_cons_ne own, items_nil]
    exact move_silent rfl rfl _ silent
  | known idle context => exact move_take idle (items_nil id) rfl (Or.inr rfl)
  | @notOpened j d w idle unknown failed =>
    have grows := grows_openSockets (currentOs os s.freeing) s.proxy j
    have same := view_openSockets (currentOs os s.freeing) s.proxy j id
    have kept := openSockets_socketMap (currentOs os s.freeing) s.proxy j
    rw [failed] at grows same kept
    have silent := items_silent grows same
    have entry : w.socketMap id = s.proxy.socketMap id := congrFun kept id
    have before : inHand s.place id = [] := by rw [idle]; rfl
    by_cases own : j = id
    · subst own
      have vacant : s.proxy.socketMap j = none := by
        by_contra present
        exact sound.consistent.covered (by rw [idle]; rfl) present unknown
      have start : desk s j = ⟨[], []⟩ := by simp only [desk, before, vacant, waitingOf]
      have ending : desk { s with proxy := w } j = ⟨[], []⟩ := by
        simp only [desk, before, entry, vacant, waitingOf]
      rw [start, ending, items_cons_self, silent, List.append_nil]
      by_cases empty : d.buf = []
      · simp only [item, if_pos empty]
        exact .stay _
      · rw [item_udpSend empty]
        exact .turnAway d (.notOpened empty idle unknown (by rw [failed]))
    · rw [items_cons_ne own, silent]
      have same : desk { s with proxy := w } id = desk s id := by simp only [desk, entry]
      rw [same]
      exact .stay _
  | @opened j d w t u idle unknown opened =>
    have grows := grows_openSockets (currentOs os s.freeing) s.proxy j
    have same := view_openSockets (currentOs os s.freeing) s.proxy j id
    have kept := openSockets_socketMap (currentOs os s.freeing) s.proxy j
    rw [opened] at grows same kept
    exact move_take idle (items_silent grows same) (congrFun kept id) (Or.inl ⟨_, _, _, rfl⟩)
  | @advanced j d stage stage' w t u there notConnecting notFailed result =>
    have silent := proxy_advance id result
    by_cases own : j = id
    · subst own
      have before := sound.fresh j d stage t u there
      have after := advance_waiting sound there result
      have hands : inHand (.creating j d stage' t u) j = inHand s.place j := by rw [there]; rfl
      have same : desk { s with proxy := w, place := .creating j d stage' t u } j = desk s j := by
        simp only [desk, before, after, hands]
      have move : Move form (Loss os config s j (.driver j)) (desk s j)
          (items (proxyOutputs s.proxy w) j)
          (desk { s with proxy := w, place := .creating j d stage' t u } j) := by
        rw [silent, same]
        exact .stay _
      exact move
    · have other : (Place.creating j d stage' t u).endpoint ≠ some id :=
        fun here => own (Option.some_inj.mp here)
      exact move_elsewhere silent (advance_elsewhere own result) (by rw [there]; exact other) other
  | @gaveUp j d t u there =>
    have silent := proxy_deleted s.proxy j id
    by_cases own : j = id
    · subst own
      have ending : desk { s with proxy := s.proxy.deleteProxyConnection j, place := .idle } j =
          ⟨[], []⟩ := by
        simp only [desk, deleteProxyConnection_socketMap, Function.update_self, waitingOf, inHand]
      have before := sound.fresh j d .failed t u there
      have move : Move form (Loss os config s j (.driver j)) (desk s j)
          (items (proxyOutputs s.proxy (s.proxy.deleteProxyConnection j)) j)
          (desk { s with proxy := s.proxy.deleteProxyConnection j, place := .idle } j) := by
        rw [silent, ending]
        by_cases empty : d.buf = []
        · have hands : inHand s.place j = [] := inHand_empty empty (Or.inl ⟨_, _, _, there⟩)
          simp only [desk, before, hands]
          exact .stay _
        · have hands : inHand s.place j = [d] := inHand_self empty (Or.inl ⟨_, _, _, there⟩)
          simp only [desk, hands]
          exact .giveUp _ d (.gaveUp empty there)
      exact move
    · have other : s.place.endpoint ≠ some id := by
        rw [there]
        exact fun here => own (Option.some_inj.mp here)
      have entry : (s.proxy.deleteProxyConnection j).socketMap id = s.proxy.socketMap id := by
        rw [deleteProxyConnection_socketMap, Function.update_of_ne (Ne.symm own)]
      exact move_elsewhere silent entry other nofun
  | @created j d t u there =>
    have hands : inHand (.sending j d) id = inHand s.place id := by rw [there]; rfl
    exact move_silent rfl hands [] (items_nil id)
  | @sent j d w there result =>
    by_cases own : j = id
    · subst own
      have move := move_sending (L := Loss os config s j (.driver j)) sound there result
      rw [if_pos rfl, List.append_nil] at move
      exact move
    · obtain ⟨silent, entry⟩ := sending_elsewhere own result
      have elsewhere : s.place.endpoint ≠ some id := by
        rw [there]
        exact fun here => own (Option.some_inj.mp here)
      exact move_elsewhere silent entry elsewhere nofun
  | @posted j d w there result =>
    by_cases own : j = id
    · subst own
      exact move_sending sound there result
    · obtain ⟨silent, entry⟩ := sending_elsewhere own result
      have elsewhere : s.place.endpoint ≠ some id := by
        rw [there]
        exact fun here => own (Option.some_inj.mp here)
      have silent' : items (proxyOutputs s.proxy w ++ [(j, .nfUdpPostSend d)]) id = [] := by
        rw [items_append, silent, items_cons_ne own]
        rfl
      exact move_elsewhere silent' entry elsewhere nofun
  | @closes j idle =>
    have silent := proxy_deleted s.proxy j id
    have before : inHand s.place id = [] := by rw [idle]; rfl
    by_cases own : j = id
    · subst own
      have start : desk s j = ⟨waitingOf (s.proxy.socketMap j), []⟩ := by
        simp only [desk, before]
      have ending : desk { s with proxy := s.proxy.deleteProxyConnection j, place := .closing j } j =
          ⟨[], []⟩ := by
        simp only [desk, deleteProxyConnection_socketMap, Function.update_self, waitingOf, inHand]
      rw [items_cons_self, silent, start, ending]
      exact .close _
    · have entry : (s.proxy.deleteProxyConnection j).socketMap id = s.proxy.socketMap id := by
        rw [deleteProxyConnection_socketMap, Function.update_of_ne (Ne.symm own)]
      have elsewhere : (Place.closing j).endpoint ≠ some id :=
        fun here => own (Option.some_inj.mp here)
      refine move_elsewhere ?_ entry (by rw [idle]; exact nofun) elsewhere
      rw [items_cons_ne own, silent]
  | @closed j there =>
    have hands : inHand .idle id = inHand s.place id := by rw [there]; rfl
    exact move_silent rfl hands [] (items_nil id)
  | completed running => exact (move_completed os config sound running _ _ _ id).1 (inHand s.place id)
  | serviceFreed => exact .stay _
  | tablesCleared => exact .lose _ _ .cleared
  | contextsCleared => exact .stay _

theorem owned_openSockets (os : Os) {w : World} {held : List Pov} (owned : Owned w held)
    (id : EndpointId) : Owned (openSockets os w id).1 held := by
  unfold openSockets
  split
  · exact owned.record id _
  · simp only
    split
    · exact ((owned.record id _).record id _).record id _
    · exact (owned.record id _).record id _

theorem owned_advance (os : Os) (config : Config) {w : World} {held : List Pov}
    (owned : Owned w held) (id : EndpointId) (tcpSocket udpSocket : Socket) (stage : Creating) :
    Owned (advance os config w id tcpSocket udpSocket stage).1 held := by
  cases stage with
  | opened => exact (owned.setEntry id _).record id _
  | stored => exact owned.invoke os id _
  | tcpRegistered => exact owned.invoke os id _
  | udpRegistered => exact owned_startConnect os owned _ _ _ id
  | connecting | failed => exact owned

theorem owned_handler (sound : Sound s) (e : Event)
    (running : (step os config s e).1.freeing = .running) :
    Owned (step os config s e).1.proxy [] := by
  have cases_ := handlerStep os config s e
  generalize step os config s e = result at cases_ running ⊢
  obtain ⟨s', outs⟩ := result
  cases cases_ with
  | ignored | received | known | created | closed => exact sound.owned running
  | @notOpened j d w idle unknown failed =>
    have owned := owned_openSockets (currentOs os s.freeing) (sound.owned running) j
    rw [failed] at owned
    exact owned
  | @opened j d w t u idle unknown opened =>
    have owned := owned_openSockets (currentOs os s.freeing) (sound.owned running) j
    rw [opened] at owned
    exact owned
  | @advanced j d stage stage' w t u there notConnecting notFailed result =>
    have owned := owned_advance (currentOs os s.freeing) config (sound.owned running) j t u stage
    rw [result] at owned
    exact owned
  | @gaveUp j | @closes j => exact owned_deleteProxyConnection (sound.owned running) j
  | @sent j d w there result | @posted j d w there result =>
    have owned := owned_udpSend (currentOs os s.freeing) (sound.owned running) j d.buf
      d.remoteAddress (sendAddrLen d.remoteAddress)
    rw [result] at owned
    exact owned
  | @completed op data error =>
    exact owned_step os config (sound.owned running) (.complete op data error)
  | serviceFreed | tablesCleared | contextsCleared => exact absurd running nofun

/-- An entry that a step has left as it was. -/
theorem Sound.kept (sound : Sound s) {id : EndpointId} {pd : ProxyData}
    (entry : s.proxy.socketMap id = some pd) (news : List (Item Datagram Bytes)) :
    Queue pd ∧ Attempted (s.proxy.socketMap id) news pd := by
  have queue := sound.queue id pd entry
  rw [entry]
  exact ⟨queue, queue.attempted (fun connected => connected) news⟩

/-- The entry that a send leaves. -/
theorem queue_sending (sound : Sound s) {id j : EndpointId} {d : Datagram} {w : World} {sent : Bool}
    (result : UdpProxy.udpSend (currentOs os s.freeing) s.proxy j d.buf d.remoteAddress
      (sendAddrLen d.remoteAddress) = (w, sent)) (pd : ProxyData)
    (entry : w.socketMap id = some pd) (news : List (Item Datagram Bytes)) :
    Queue pd ∧ Attempted (s.proxy.socketMap id) news pd := by
  by_cases own : j = id
  · subst own
    cases entry₀ : s.proxy.socketMap j with
    | none =>
      simp only [UdpProxy.udpSend, entry₀] at result
      obtain ⟨rfl, _⟩ := Prod.mk.inj result
      cases entry₀.symm.trans entry
    | some pd₀ =>
      have queue := sound.queue j pd₀ entry₀
      by_cases waits : pd₀.proxyState = .psConnected
      · have sends : sendDatagram (currentOs os s.freeing) s.proxy j pd₀ d.buf d.remoteAddress =
            (w, sent) := by simpa [UdpProxy.udpSend, entry₀, waits] using result
        obtain ⟨started, written⟩ := sendDatagram_socketMap (currentOs os s.freeing) s.proxy j entry₀
          d.buf d.remoteAddress
        rw [sends] at written
        have written' : w.socketMap j = some { pd₀ with udpRecvStarted := started } := by
          rw [written, Function.update_self]
        obtain rfl := Option.some_inj.mp (written'.symm.trans entry)
        exact ⟨⟨queue.flushed, queue.nonempty⟩,
          queue.attempted (fun connected => connected) news⟩
      · simp only [UdpProxy.udpSend, entry₀] at result
        obtain ⟨rfl, _⟩ := Prod.mk.inj ((if_pos waits).symm.trans result)
        rw [setEntry_socketMap, Function.update_self] at entry
        obtain rfl := Option.some_inj.mp entry
        refine ⟨queue_enqueue queue waits d.buf d.remoteAddress _,
          queue.attempted (fun connected => ?_) news⟩
        obtain ⟨packets, same⟩ := enqueue_packets pd₀ d.buf d.remoteAddress
          (sendAddrLen d.remoteAddress)
        rw [same] at connected
        exact connected
  · rw [(sending_elsewhere own result).2] at entry
    exact sound.kept entry news

theorem queue_handler (sound : Sound s) (e : Event) (id : EndpointId) (pd : ProxyData)
    (entry : (step os config s e).1.proxy.socketMap id = some pd) :
    Queue pd ∧ Attempted (s.proxy.socketMap id) (items (step os config s e).2 id) pd := by
  have cases_ := handlerStep os config s e
  generalize step os config s e = result at cases_ entry ⊢
  obtain ⟨s', outs⟩ := result
  have old : s.proxy.socketMap id = some pd →
      Queue pd ∧ Attempted (s.proxy.socketMap id) (items outs id) pd :=
    fun entry => sound.kept entry _
  cases cases_ with
  | ignored | received | known | created | closed | serviceFreed | contextsCleared => exact old entry
  | @notOpened j d w idle unknown failed =>
    have kept := openSockets_socketMap (currentOs os s.freeing) s.proxy j
    rw [failed] at kept
    exact old ((congrFun kept id).symm.trans entry)
  | @opened j d w t u idle unknown opened =>
    have kept := openSockets_socketMap (currentOs os s.freeing) s.proxy j
    rw [opened] at kept
    exact old ((congrFun kept id).symm.trans entry)
  | @advanced j d stage stage' w t u there notConnecting notFailed result =>
    by_cases own : j = id
    · subst own
      have none := advance_waiting sound there result
      rw [entry] at none
      have empty : pd.udpSendPackets = [] := List.map_eq_nil_iff.mp none
      refine ⟨⟨fun _ => empty, by simp [empty]⟩, fun _ => ?_⟩
      rw [sound.fresh j d stage t u there]
      exact List.nil_prefix
    · exact old ((advance_elsewhere own result).symm.trans entry)
  | @gaveUp j | @closes j =>
    have entry' : (s.proxy.deleteProxyConnection j).socketMap id = some pd := entry
    rw [deleteProxyConnection_socketMap] at entry'
    by_cases own : id = j
    · subst own
      rw [Function.update_self] at entry'
      exact absurd entry' nofun
    · rw [Function.update_of_ne own] at entry'
      exact old entry'
  | @sent j d w there result => exact queue_sending sound result pd entry _
  | @posted j d w there result => exact queue_sending sound result pd entry _
  | @completed op data error running =>
    exact (move_completed os config sound running op data error id).2 pd entry
  | tablesCleared => exact absurd entry nofun

theorem fresh_handler (sound : Sound s) (e : Event) (id : EndpointId) (d : Datagram)
    (stage : Creating) (tcpSocket udpSocket : Socket)
    (there' : (step os config s e).1.place = .creating id d stage tcpSocket udpSocket) :
    waitingOf ((step os config s e).1.proxy.socketMap id) = [] := by
  have cases_ := handlerStep os config s e
  generalize step os config s e = result at cases_ there' ⊢
  obtain ⟨s', outs⟩ := result
  have old := sound.fresh id d stage tcpSocket udpSocket
  cases cases_ with
  | ignored | received | serviceFreed | contextsCleared => exact old there'
  | known | created | gaveUp | sent | posted | closes | closed => exact absurd there' nofun
  | tablesCleared => rfl
  | @notOpened j d w idle unknown failed => exact absurd (idle.symm.trans there') nofun
  | @opened j d w t u idle unknown opened =>
    injection there' with own
    subst own
    have kept := openSockets_socketMap (currentOs os s.freeing) s.proxy j
    rw [opened] at kept
    have vacant : s.proxy.socketMap j = none := by
      by_contra present
      exact sound.consistent.covered (by rw [idle]; rfl) present unknown
    rw [kept, vacant]
    rfl
  | @advanced j d stage stage' w t u there notConnecting notFailed result =>
    injection there' with own
    subst own
    exact advance_waiting sound there result
  | @completed op data error running =>
    have move := (move_completed os config sound running op data error id).1 []
    rw [old there'] at move
    exact move.unqueued

theorem sound_step (sound : Sound s) (e : Event) : Sound (step os config s e).1 :=
  ⟨consistent_step sound.consistent e, owned_handler sound e,
    fun id pd entry => (queue_handler sound e id pd entry).1, fresh_handler sound e⟩

end Steps

section Runs
variable (os : Os) (config : Config)

/-- What is seen of an endpoint's datagrams in a run. -/
def seen (evs : List Event) (id : EndpointId) : List (Item Datagram Bytes) :=
  items ((machine os config).outputs State.initial evs) id

theorem seen_concat (evs : List Event) (e : Event) (id : EndpointId) :
    seen os config (evs ++ [e]) id =
      seen os config evs id ++ items (step os config (run os config evs) e).2 id := by
  rw [seen, Machine.outputs_concat, items_append]
  rfl

theorem sound_run (evs : List Event) : Sound (run os config evs) := by
  have kept : ∀ s e, Sound s → True → Sound (step os config s e).1 :=
    fun _ e sound _ => sound_step sound e
  exact (machine os config).run_invariant kept .initial (fun _ _ => trivial)

/-- The datagrams that the relay socket accepts are a part of those that were passed, in
their order. Each one passed has one fate at most, in the order of passing: it is accepted
or refused in the one attempt that was made for it, posted, or dropped; the others wait in
the queue, behind all that were attempted, or are in the hand of the driver's thread. The
step that establishes the connection attempts the whole queue. -/
theorem relayed_in_order (evs : List Event) (id : EndpointId) :
    (Dispatch.relayed (seen os config evs id)).Sublist
        ((Dispatch.passed (seen os config evs id)).map form) ∧
      (∃ settled queued, Dispatch.Account form (seen os config evs id)
        (desk (run os config evs) id) settled queued) ∧
      ∀ e pd, (run os config (evs ++ [e])).proxy.socketMap id = some pd →
        pd.proxyState = .psConnected →
        (desk (run os config evs) id).waiting <+: (Dispatch.attempts
          (items (step os config (run os config evs) e).2 id)).map Prod.fst := by
  have accounts : ∃ settled queued, Dispatch.Account form (seen os config evs id)
      (desk (run os config evs) id) settled queued := by
    induction evs using List.reverseRecOn with
    | nil => exact ⟨[], [], .initial⟩
    | append_singleton evs e ih =>
      obtain ⟨settled, queued, account⟩ := ih
      have move := handler_move os config (sound_run os config evs) e id
      obtain ⟨more, queued', account', _⟩ := move.account account
      rw [seen_concat, run_concat]
      exact ⟨settled ++ more, queued', account'⟩
  obtain ⟨settled, queued, account⟩ := accounts
  refine ⟨account.relayed_sublist, ⟨settled, queued, account⟩, fun e pd entry connected => ?_⟩
  rw [run_concat] at entry
  exact (queue_handler (sound_run os config evs) e id pd entry).2 connected

end Runs

end Delivery
