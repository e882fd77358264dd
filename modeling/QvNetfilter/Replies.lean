import QvNetfilter.Chronicle
import QvNetfilter.Course
import QvNetfilter.DatagramLoss
import QvNetfilter.Encapsulation
import QvNetfilter.ReceiveLoop

/-!
# What the application gets

A datagram is posted to the application of an endpoint when the driver indicates it, or
right behind the bytes on the relay socket that it was read from; what it says of these
bytes is right, unless they end within their header. It comes with the options of the
datagram that the endpoint's context was created for. When the relay answers with what it
was sent, the application gets back what it has sent.
-/

namespace Replies

open Memory Socks Mealy Chronicle UdpHandler Tables Delivery RelayDatagram
open Course hiding seen
open UdpProxy hiding Event step machine udpSend complete

section Reads
variable {config : Config} {given : EndpointId → Bytes → Prop} {id j : EndpointId} {s s' : Sight}

/-- The delivery has the address, the length and the payload that these bytes have, or the
bytes end within the header that they announce. -/
def ReadFrom (data : Bytes) (d : Delivery) : Prop :=
  RelayExact data [d] ∨ TruncatedHeader data data.length

/-- What is in the buffer behind the received bytes is of no account behind a whole header. -/
theorem readFrom_parsed {buffer data : Bytes} {d : Delivery} (room : data.length ≤ packetSize)
    (parsed : relayedDatagram (overwrite buffer data) data.length = some d) :
    ReadFrom data d := by
  have front := overwrite_take buffer data
  obtain ⟨common, known⟩ : sizeofSocks5UdpRequest < data.length ∧
      (byteAt (overwrite buffer data) 3 = socks5AddrIpv4 ∨
        byteAt (overwrite buffer data) 3 = socks5AddrIpv6) := by
    by_contra neither
    rw [(relayedDatagram_none_iff _ _).mpr neither] at parsed
    cases parsed
  have inside : 3 < data.length := Nat.lt_trans (by decide) common
  have type : byteAt (overwrite buffer data) 3 = byteAt data 3 := byteAt_overwrite_of_lt inside
  have size : headerSize (overwrite buffer data) = headerSize data := by
    rw [headerSize, headerSize, type]
  by_cases whole : headerSize data ≤ data.length
  · left
    have read := relayedDatagram_complete known (size ▸ whole) room
    rw [size, front] at read
    obtain rfl := Option.some_inj.mp (parsed.symm.trans read)
    have payload := counted_drop (b := overwrite buffer data) whole
    rw [front] at payload
    refine ⟨iff_of_true (by simp) ⟨type ▸ known, whole⟩, by simp, by simp, ?_, ?_⟩
    · simp [whole]
    · simpa using payload
  · exact Or.inr ⟨common, type ▸ known, Nat.lt_of_not_le whole⟩

/-- A delivery stands right behind the bytes that it was read from. -/
def Read (front : List Action) : Action → Prop
  | .onUdpReceiveComplete d => ∃ earlier data,
      front = earlier ++ [.received .ovtUdpReceive data] ∧ ReadFrom data d
  | _ => True

/-- Every delivery of a list of actions was read there. -/
abbrev AllRead (actions : List Action) : Prop := Preceded Read actions

theorem allRead_single {a : Action} (other : ∀ d, a ≠ .onUdpReceiveComplete d) : AllRead [a] := by
  apply (Preceded.nil Read).concat
  cases a with
  | onUdpReceiveComplete d => exact absurd rfl (other d)
  | _ => trivial

theorem AllRead.append {xs ys : List Action} (front : AllRead xs) (back : AllRead ys) :
    AllRead (xs ++ ys) := by
  apply Preceded.append front back
  intro between a read
  cases a with
  | onUdpReceiveComplete d =>
    obtain ⟨earlier, data, rfl, source⟩ := read
    exact ⟨xs ++ earlier, data, (List.append_assoc ..).symm, source⟩
  | _ => trivial

/-- A deed adds its actions for one endpoint, and reads what it delivers. -/
theorem read_deed (deed : Deed config given j s s') :
    ∃ added : List Action, s'.log = s.log ++ added.map (Prod.mk j) ∧ AllRead added := by
  cases deed with
  | asked | connects | ignores | sends | drops | notOpened | opens | gives | stores | associates =>
    exact ⟨[_], rfl, allRead_single (by simp)⟩
  | greets =>
    rw [moved_log]
    exact ⟨[_], rfl, allRead_single (by simp)⟩
  | answers =>
    rw [moved_log]
    exact ⟨[_, _], List.append_assoc ..,
      (allRead_single (by simp)).append (allRead_single (by simp))⟩
  | deletes =>
    exact ⟨[_, _], List.append_assoc ..,
      (allRead_single (by simp)).append (allRead_single (by simp))⟩
  | keeps => exact ⟨[], (List.append_nil _).symm, .nil Read⟩
  | @delivers buffer data d room parsed =>
    have received : AllRead [.received .ovtUdpReceive data] := allRead_single (by simp)
    have delivered : Read [.received .ovtUdpReceive data] (.onUdpReceiveComplete d) :=
      ⟨[], data, rfl, readFrom_parsed room parsed⟩
    exact ⟨[.received .ovtUdpReceive data, .onUdpReceiveComplete d], List.append_assoc ..,
      received.concat delivered⟩

/-- However many deeds are done, what they add for an endpoint is read there. -/
theorem read_runs (runs : Runs config given s s') (id : EndpointId) :
    ∃ added, atIndex id s'.log = atIndex id s.log ++ added ∧ AllRead added := by
  induction runs with
  | refl => exact ⟨[], (List.append_nil _).symm, .nil Read⟩
  | tail _ deed ih =>
    obtain ⟨before, log, read⟩ := ih
    obtain ⟨j, deed⟩ := deed
    obtain ⟨added, more, also⟩ := read_deed deed
    by_cases own : j = id
    · subst own
      refine ⟨before ++ added, ?_, read.append also⟩
      rw [more, atIndex_append, atIndex_map_self, log, List.append_assoc]
    · refine ⟨before, ?_, read⟩
      rw [more, atIndex_append, atIndex_map_ne own, log, List.append_nil]

/-- A completion reads every datagram that it delivers. -/
theorem read_complete (os : Os) (config : Config) {w : World} (sized : Buffers.Sized w)
    (op : Operation) (data : Bytes) (error : Nat) (id : EndpointId) :
    AllRead (atIndex id (emitted w (UdpProxy.complete os config w op data error))) := by
  have runs : Runs config (fun _ _ => False) (sight w [])
      (sight (UdpProxy.complete os config w op data error) []) := by
    rw [← Rearm.finish_complete]
    have first : Runs config (fun _ _ => False) _ _ :=
      runs_completeUntilRearm os w [] sized op data error
    generalize Rearm.completeUntilRearm os config w op data error = left at first ⊢
    obtain ⟨w₁, r⟩ := left
    cases r with
    | none => exact first
    | some r => exact first.trans (runs_issue os w₁ [] r)
  obtain ⟨added, log, read⟩ := read_runs runs id
  have whole := Isolation.emitted_history (UdpHistory.grows_complete os config w op data error) id
  have same : atIndex id (emitted w (UdpProxy.complete os config w op data error)) = added :=
    List.append_cancel_left (whole.symm.trans log)
  rwa [same]

end Reads

section Answers
variable {id : EndpointId}

/-- What becomes of an action for an endpoint with this context. -/
def answer (context : Option (Option UdpOptions)) : Action → List Output
  | .onUdpReceiveComplete d =>
    match context with
    | none => [.proxy (.onUdpReceiveComplete d)]
    | some options => [.proxy (.onUdpReceiveComplete d),
        .nfUdpPostReceive d.remoteAddress d.buf d.len options]
  | a => [.proxy a]

theorem deliver_eq (udpCtxMap : EndpointId → Option (Option UdpOptions)) (a : EndpointId × Action) :
    deliver udpCtxMap a = (answer (udpCtxMap a.1) a.2).map (Prod.mk a.1) := by
  obtain ⟨id, a⟩ := a
  cases a with
  | onUdpReceiveComplete d =>
    simp only [deliver, answer]
    cases udpCtxMap id <;> rfl
  | _ => rfl

theorem deliver_at (udpCtxMap : EndpointId → Option (Option UdpOptions))
    (added : List (EndpointId × Action)) (id : EndpointId) :
    atIndex id (added.flatMap (deliver udpCtxMap)) =
      (atIndex id added).flatMap (answer (udpCtxMap id)) := by
  induction added with
  | nil => rfl
  | cons a rest ih =>
    rw [List.flatMap_cons, atIndex_append, deliver_eq, ih]
    obtain ⟨j, a⟩ := a
    by_cases own : j = id
    · subst own
      rw [atIndex_map_self, atIndex_cons_self, List.flatMap_cons]
    · rw [atIndex_map_ne own, atIndex_cons_ne own, List.nil_append]

end Answers

section Contexts
variable (os : Os) (config : Config) {id : EndpointId}

/-- A datagram of the endpoint would find the driver's thread idle, and no context. -/
def FindsNone (s : State) (id : EndpointId) : Prop := s.place = .idle ∧ s.udpCtxMap id = none

/-- The endpoint's last datagram that found no context. -/
inductive Opener (id : EndpointId) : List Event → Datagram → Prop where
  | opens {evs : List Event} {d : Datagram} (none : FindsNone (run os config evs) id) :
      Opener id (evs ++ [.udpSend id d]) d
  | later {evs : List Event} {d : Datagram} {e : Event} (opener : Opener id evs d)
      (other : ∀ d', e = .udpSend id d' → ¬ FindsNone (run os config evs) id) :
      Opener id (evs ++ [e]) d

variable {os config}

/-- A context has the options of its opener, which is in hand while it is created. -/
structure Opened (id : EndpointId) (opener : Datagram → Prop) (s : State) : Prop where
  context : ∀ options, s.udpCtxMap id = some options → ∃ d, opener d ∧ d.options = options
  creating : ∀ d stage tcpSocket udpSocket, s.place = .creating id d stage tcpSocket udpSocket →
    opener d

theorem opened_other {opener : Datagram → Prop} {s s' : State} {e : Event}
    {outs : List (EndpointId × Output)} (opened : Opened id opener s)
    (move : HandlerStep os config s e s' outs)
    (other : ∀ d, e = .udpSend id d → ¬ FindsNone s id) : Opened id opener s' := by
  have moves : ∀ {w : World} {place : Place} {freeing : Freeing},
      (∀ d stage tcpSocket udpSocket, place ≠ .creating id d stage tcpSocket udpSocket) →
      Opened id opener ⟨w, s.udpCtxMap, place, freeing⟩ := fun elsewhere =>
    ⟨opened.context, fun d stage t u there => absurd there (elsewhere d stage t u)⟩
  have stays : ∀ {w : World} {freeing : Freeing},
      Opened id opener ⟨w, s.udpCtxMap, s.place, freeing⟩ :=
    ⟨opened.context, opened.creating⟩
  cases move with
  | ignored | received => exact opened
  | notOpened | completed | serviceFreed | tablesCleared => exact stays
  | known | gaveUp | sent | posted | closes => exact moves (by simp)
  | @opened j d w t u idle unknown result =>
    apply moves
    rintro d' stage t' u' there
    obtain ⟨rfl, _⟩ := Place.creating.inj there
    exact other d rfl ⟨idle, unknown⟩
  | @advanced j d stage stage' w t u there =>
    refine ⟨opened.context, fun d' stage'' t' u' there' => ?_⟩
    obtain ⟨rfl, rfl, _⟩ := Place.creating.inj there'
    exact opened.creating d stage t u there
  | @created j d t u there =>
    refine ⟨fun options present => ?_, by simp⟩
    by_cases own : id = j
    · subst own
      have same : d.options = options := by simpa using present
      exact ⟨d, opened.creating d _ t u there, same⟩
    · exact opened.context options ((Function.update_of_ne own ..).symm.trans present)
  | @closed j there =>
    refine ⟨fun options present => ?_, by simp⟩
    by_cases own : id = j
    · subst own
      simp at present
    · exact opened.context options ((Function.update_of_ne own ..).symm.trans present)
  | contextsCleared => exact ⟨by simp, opened.creating⟩

theorem opened_opens {opener : Datagram → Prop} {s s' : State} {d : Datagram}
    {outs : List (EndpointId × Output)} (none : FindsNone s id)
    (move : HandlerStep os config s (.udpSend id d) s' outs) (opens : opener d) :
    Opened id opener s' := by
  obtain ⟨idle, unknown⟩ := none
  have stays : ∀ {w : World}, Opened id opener { s with proxy := w } := by
    intro w
    constructor
    · intro options present
      rw [unknown] at present
      cases present
    · intro d' stage t u there
      rw [idle] at there
      cases there
  cases move with
  | ignored | notOpened => exact stays
  | known _ context =>
    rw [unknown] at context
    cases context
  | opened =>
    constructor
    · intro options present
      rw [unknown] at present
      cases present
    · intro d' stage t u there
      obtain ⟨_, rfl, _⟩ := Place.creating.inj there
      exact opens

theorem opened_run (evs : List Event) :
    Opened id (Opener os config id evs) (run os config evs) := by
  induction evs using List.reverseRecOn with
  | nil => exact ⟨nofun, nofun⟩
  | append_singleton evs e ih =>
    rw [run_concat]
    have move := handlerStep os config (run os config evs) e
    by_cases opens : ∃ d, e = .udpSend id d ∧ FindsNone (run os config evs) id
    · obtain ⟨d, rfl, none⟩ := opens
      exact opened_opens none move (.opens none)
    · have other : ∀ d, e = .udpSend id d → ¬ FindsNone (run os config evs) id :=
        fun d event none => opens ⟨d, event, none⟩
      have before : Opened id (Opener os config id (evs ++ [e])) (run os config evs) := by
        constructor
        · intro options present
          obtain ⟨d, opener, same⟩ := ih.context options present
          exact ⟨d, .later opener other, same⟩
        · intro d stage t u there
          exact .later (ih.creating d stage t u there) other
      exact opened_other before move other

end Contexts

section Posts
variable (os : Os) (config : Config)

/-- Where a datagram comes from that a step posts to the application. -/
inductive Origin (evs : List Event) (e : Event) (id : EndpointId) (front : List Output) :
    Output → Prop where
  | indicated {d : Datagram} (event : e = .udpReceive id d) : Origin evs e id front
      (.nfUdpPostReceive d.remoteAddress.bytes d.buf d.buf.length d.options)
  | read {earlier : List Output} {data : Bytes} {d : Delivery} {opener : Datagram}
      (last : front = earlier ++
        [.proxy (.received .ovtUdpReceive data), .proxy (.onUdpReceiveComplete d)])
      (source : ReadFrom data d)
      (context : Opener os config id evs opener) : Origin evs e id front
      (.nfUdpPostReceive d.remoteAddress d.buf d.len opener.options)

def Justified (evs : List Event) (e : Event) (id : EndpointId) (front : List Output) :
    Output → Prop
  | .nfUdpPostReceive remoteAddress buf len options =>
    Origin os config evs e id front (.nfUdpPostReceive remoteAddress buf len options)
  | _ => True

variable {os config} {evs : List Event} {e : Event} {id : EndpointId}

theorem Origin.justified {front : List Output} {o : Output}
    (origin : Origin os config evs e id front o) : Justified os config evs e id front o := by
  cases origin with
  | indicated event => exact .indicated event
  | read last source context => exact .read last source context

theorem justified_silent {outs : List Output}
    (silent : ∀ remoteAddress buf len options,
      .nfUdpPostReceive remoteAddress buf len options ∉ outs) :
    Preceded (Justified os config evs e id) outs := by
  rintro front o back rfl
  cases o with
  | nfUdpPostReceive remoteAddress buf len options =>
    exact absurd (by simp) (silent remoteAddress buf len options)
  | _ => trivial

/-- What was read is posted with the options of the context. -/
theorem justified_answers {context : Option (Option UdpOptions)} {actions : List Action}
    (opened : ∀ options, context = some options →
      ∃ d, Opener os config id evs d ∧ d.options = options)
    (read : AllRead actions) :
    Preceded (Justified os config evs e id) (actions.flatMap (answer context)) := by
  induction actions using List.reverseRecOn with
  | nil => exact .nil _
  | append_singleton actions a ih =>
    have before := ih read.front
    rw [List.flatMap_append, List.flatMap_singleton]
    cases a with
    | onUdpReceiveComplete d =>
      have shown : Preceded (Justified os config evs e id)
          (actions.flatMap (answer context) ++ [.proxy (.onUdpReceiveComplete d)]) :=
        before.concat trivial
      cases present : context with
      | none =>
        rw [present] at shown
        exact shown
      | some options =>
        obtain ⟨opener, opens, rfl⟩ := opened options present
        obtain ⟨earlier, data, rfl, source⟩ := read.last
        rw [present] at shown
        have last : (earlier ++ [Action.received .ovtUdpReceive data]).flatMap
            (answer (some opener.options)) ++ [.proxy (.onUdpReceiveComplete d)] =
            earlier.flatMap (answer (some opener.options)) ++
              [.proxy (.received .ovtUdpReceive data), .proxy (.onUdpReceiveComplete d)] := by
          rw [List.flatMap_append, List.append_assoc]
          rfl
        have origin : Origin os config evs e id _ _ := .read last source opens
        have posted := shown.concat origin.justified
        rwa [List.append_assoc] at posted
    | _ => exact before.concat trivial

theorem step_justified (evs : List Event) (e : Event) (id : EndpointId) :
    Preceded (Justified os config evs e id)
      (atIndex id (step os config (run os config evs) e).2) := by
  have opened := @opened_run os config id evs
  have move := handlerStep os config (run os config evs) e
  generalize step os config (run os config evs) e = result at move ⊢
  obtain ⟨s', outs⟩ := result
  have silent : ∀ w w' : World, ∀ remoteAddress buf len options,
      Output.nfUdpPostReceive remoteAddress buf len options ∉ atIndex id (proxyOutputs w w') := by
    intro w w' remoteAddress buf len options
    rw [Isolation.proxyOutputs_at]
    simp
  cases move with
  | ignored | created | closed | serviceFreed | tablesCleared | contextsCleared => exact .nil _
  | @completed op data error =>
    change Preceded _ (atIndex id (List.flatMap _ _))
    rw [deliver_at]
    exact justified_answers opened.context
      (read_complete os config (Buffers.sized_run os config evs) _ _ _ id)
  | @received j d idle =>
    by_cases own : j = id
    · subst own
      rw [atIndex_cons_self]
      exact (Preceded.nil _).concat (Origin.indicated rfl)
    · rw [atIndex_cons_ne own]
      exact .nil _
  | @known j d | @notOpened j d | @opened j d | @closes j =>
    by_cases own : j = id
    · subst own
      apply justified_silent
      simp [Isolation.proxyOutputs_at]
    · apply justified_silent
      simp [atIndex_cons_ne own, Isolation.proxyOutputs_at]
  | advanced | gaveUp | sent => exact justified_silent (silent _ _)
  | @posted j d =>
    apply justified_silent
    intro remoteAddress buf len options present
    change _ ∈ atIndex id (_ ++ _) at present
    rw [atIndex_append] at present
    rcases List.mem_append.mp present with present | present
    · exact silent _ _ _ _ _ _ present
    · rw [mem_atIndex] at present
      simp at present

/-- Everything that a run has done for an endpoint. -/
def outputsOf (os : Os) (config : Config) (evs : List Event) (id : EndpointId) : List Output :=
  atIndex id ((machine os config).outputs State.initial evs)

/-- A step of the run has posted this, after what stands before it. -/
def Replied (os : Os) (config : Config) (evs : List Event) (id : EndpointId)
    (front : List Output) : Output → Prop
  | .nfUdpPostReceive remoteAddress buf len options => ∃ before e after,
      evs = before ++ e :: after ∧
        Origin os config before e id front (.nfUdpPostReceive remoteAddress buf len options)
  | _ => True

theorem Origin.further {front : List Output} {o : Output} (earlier : List Output)
    (origin : Origin os config evs e id front o) :
    Origin os config evs e id (earlier ++ front) o := by
  cases origin with
  | indicated event => exact .indicated event
  | read last source context =>
    rw [last, ← List.append_assoc]
    exact .read rfl source context

end Posts

section Echo
variable (os : Os) (config : Config) {evs : List Event} {id : EndpointId}

/-- The relay sends an endpoint nothing but datagrams that it was given for it. -/
def Echoes (evs : List Event) (id : EndpointId) : Prop :=
  ∀ data, data ≠ [] → .proxy (.received .ovtUdpReceive data) ∈ outputsOf os config evs id →
    data ∈ Dispatch.relayed (seen os config evs id)

/-- A datagram for an IP address that fits into a receive buffer with its header. -/
def Encapsulable (d : Datagram) : Prop :=
  (d.remoteAddress.saFamily = afInet ∨ d.remoteAddress.saFamily = afInet6) ∧
    (form d).length ≤ packetSize

/-- The application gets a datagram that it has sent, from the address it was sent to. -/
def Returned (d : Datagram) : Output → Prop
  | .nfUdpPostReceive remoteAddress buf len _ =>
    Encapsulation.ipEndpoint (Address.zero.write remoteAddress) =
        Encapsulation.ipEndpoint d.remoteAddress ∧
      len = d.buf.length ∧ counted buf len = d.buf
  | _ => False

/-- The application gets what the driver indicated. -/
def Indicated (evs : List Event) (id : EndpointId) (o : Output) : Prop :=
  ∃ d, .udpReceive id d ∈ evs ∧
    o = .nfUdpPostReceive d.remoteAddress.bytes d.buf d.buf.length d.options

variable {os config}

theorem passed_nonempty {d : Datagram} (passed : d ∈ Dispatch.passed (seen os config evs id)) :
    d.buf ≠ [] := by
  obtain ⟨i, present, same⟩ := List.mem_filterMap.mp passed
  obtain ⟨o, _, shows⟩ := List.mem_filterMap.mp present
  cases i with
  | passed d' =>
    obtain rfl := Option.some_inj.mp same
    cases o with
    | udpSend d' =>
      simp only [item] at shows
      split at shows
      · cases shows
      · rename_i nonempty
        obtain rfl := Dispatch.Item.passed.inj (Option.some_inj.mp shows)
        exact nonempty
    | udpClosed | nfUdpPostSend | nfUdpPostReceive => simp [item] at shows
    | proxy a =>
      simp only [item, relayItem] at shows
      split at shows
      · split at shows <;> simp at shows
      · cases shows
  | attempt | posted | closed => cases same

/-- A datagram that was relayed is the form of one that was passed. -/
theorem relayed_passed {bytes : Bytes}
    (relayed : bytes ∈ Dispatch.relayed (seen os config evs id)) :
    ∃ d ∈ Dispatch.passed (seen os config evs id), form d = bytes := by
  have accounts : ∃ settled queued, Dispatch.Account form (seen os config evs id)
      (desk (run os config evs) id) settled queued := by
    clear relayed
    induction evs using List.reverseRecOn with
    | nil => exact ⟨[], [], .initial⟩
    | append_singleton evs e ih =>
      obtain ⟨settled, queued, account⟩ := ih
      have move := handler_move os config (sound_run os config evs) e id
      obtain ⟨more, queued', account', _⟩ := move.account account
      rw [seen_concat, run_concat]
      exact ⟨settled ++ more, queued', account'⟩
  obtain ⟨settled, queued, account⟩ := accounts
  exact List.mem_map.mp (account.relayed_sublist.subset relayed)

/-- A receive that got the form of a datagram delivers it as it was passed. -/
theorem read_form {d : Datagram} (nonempty : d.buf ≠ []) (encapsulable : Encapsulable d)
    (buffer : Bytes) : ∃ delivery,
      relayedDatagram (overwrite buffer (form d)) (form d).length = some delivery ∧
        ∀ options, Returned d
          (.nfUdpPostReceive delivery.remoteAddress delivery.buf delivery.len options) := by
  obtain ⟨family, fits⟩ := encapsulable
  have same : form d = Encapsulation.wire d.buf d.remoteAddress :=
    Encapsulation.encapsulate_nonempty nonempty d.remoteAddress
  rw [same] at fits ⊢
  obtain ⟨delivery, delivered, address, len, payload⟩ :=
    Encapsulation.delivered_wire acceptingOs World.initial 0 (7, 0) 7 family d.buf buffer fits
  have positive : 0 < (Encapsulation.wire d.buf d.remoteAddress).length :=
    List.length_pos_iff.mpr (Encapsulation.wire_ne_nil d.buf d.remoteAddress)
  rw [RelayDatagram.newDeliveries_eq _ _ _ _ _ positive] at delivered
  refine ⟨delivery, ?_, fun options => ⟨address, len, payload⟩⟩
  rw [← Option.mem_toList, delivered]
  exact List.mem_singleton_self delivery

/-- The form of a datagram has the header that it announces. -/
theorem form_whole {d : Datagram} (nonempty : d.buf ≠ []) :
    ¬ TruncatedHeader (form d) (form d).length := by
  have same : form d = Encapsulation.wire d.buf d.remoteAddress :=
    Encapsulation.encapsulate_nonempty nonempty d.remoteAddress
  have size := (Encapsulation.headerSize_wire d.remoteAddress d.buf).2
  have whole : (form d).length = (Encapsulation.header d.remoteAddress).length + d.buf.length :=
    same ▸ List.length_append ..
  rintro ⟨_, _, short⟩
  rw [whole, same, size] at short
  omega

/-- The form of a datagram is read as the datagram. -/
theorem returned_form {d : Datagram} (nonempty : d.buf ≠ [])
    (family : d.remoteAddress.saFamily = afInet ∨ d.remoteAddress.saFamily = afInet6)
    {delivery : Delivery} (exact_ : RelayExact (form d) [delivery]) (options : Option UdpOptions) :
    Returned d
      (.nfUdpPostReceive delivery.remoteAddress delivery.buf delivery.len options) := by
  have same : form d = Encapsulation.wire d.buf d.remoteAddress :=
    Encapsulation.encapsulate_nonempty nonempty d.remoteAddress
  have size := (Encapsulation.headerSize_wire d.remoteAddress d.buf).2
  have whole : (Encapsulation.wire d.buf d.remoteAddress).length =
      (Encapsulation.header d.remoteAddress).length + d.buf.length := List.length_append ..
  have address := exact_.address delivery List.mem_cons_self
  have len := (exact_.length delivery List.mem_cons_self).2
  have payload := exact_.payload delivery List.mem_cons_self
  rw [same] at address len payload
  rw [size] at len payload
  refine ⟨?_, ?_, payload.trans List.drop_left⟩
  · rw [address]
    exact Encapsulation.ipEndpoint_headerAddress Address.zero family d.buf
  · omega

/-- What a run has emitted was emitted by one of its steps. -/
theorem step_of_output {o : Output} (emitted : o ∈ outputsOf os config evs id) :
    ∃ before e after, evs = before ++ e :: after ∧
      o ∈ atIndex id (step os config (run os config before) e).2 := by
  induction evs using List.reverseRecOn with
  | nil => cases emitted
  | append_singleton evs e ih =>
    rw [outputsOf, Machine.outputs_concat, atIndex_append] at emitted
    rcases List.mem_append.mp emitted with earlier | now
    · obtain ⟨before, e', after, rfl, there⟩ := ih earlier
      exact ⟨before, e', after ++ [e], by simp, there⟩
    · exact ⟨evs, e, [], rfl, now⟩

theorem output_of_step {before after : List Event} {e : Event} {o : Output}
    (emitted : o ∈ atIndex id (step os config (run os config before) e).2) :
    o ∈ outputsOf os config (before ++ e :: after) id := by
  rw [outputsOf, Machine.outputs_append, Machine.outputs_cons, atIndex_append, atIndex_append]
  exact List.mem_append_right _ (List.mem_append_left _ emitted)

/-- A datagram that parses is posted to the application of an endpoint with a context. -/
theorem received_posted {s : State} {op : Operation} {buffer data : Bytes} {d : Delivery}
    {options : Option UdpOptions} (running : s.freeing = .running)
    (unlocked : s.place.holdsLock = false) (pending : op ∈ s.proxy.pending)
    (direct : op.queued = false)
    (hov : s.proxy.ovData op.pov = some ⟨id, .ovtUdpReceive, buffer⟩)
    (fits : data.length ≤ buffer.length)
    (parsed : relayedDatagram (overwrite buffer data) data.length = some d)
    (context : s.udpCtxMap id = some options) :
    .nfUdpPostReceive d.remoteAddress d.buf d.len options ∈
      atIndex id (step os config s (.complete op data 0)).2 := by
  have nonzero : data.length ≠ 0 := by
    intro zero
    rw [zero] at parsed
    cases parsed
  have handles : UdpProxy.complete os config s.proxy op data 0 = _ :=
    LinkSteps.step_receive os config pending direct hov rfl fits 0
  have delivered : (id, .onUdpReceiveComplete d) ∈
      emitted s.proxy (UdpProxy.complete os config s.proxy op data 0) := by
    simp only [handles, LinkSteps.handled, onComplete, onUdpReceiveComplete, if_neg nonzero, parsed]
    obtain ⟨more, log⟩ := UdpHistory.grows_rearmUdpReceive os (((((s.proxy.removePending op).setOv
      op.pov (some ⟨id, .ovtUdpReceive, overwrite buffer data⟩)).record id
        (.received .ovtUdpReceive data)).record id (.onUdpReceiveComplete d))) op.socket id op.pov
        ⟨id, .ovtUdpReceive, overwrite buffer data⟩
    rw [emitted, ← log]
    simp [World.record, World.setOv, World.removePending]
  have open_ : ¬ (s.place.holdsLock = true ∧ ∃ a ∈ emitted s.proxy
      (UdpProxy.complete os config s.proxy op data 0), Delivers a) := by
    rw [unlocked]
    exact fun both => Bool.false_ne_true both.1
  have answered : (step os config s (.complete op data 0)).2 =
      (emitted s.proxy (UdpProxy.complete os config s.proxy op data 0)).flatMap
        (deliver s.udpCtxMap) := by
    simp only [step, complete, running, ne_eq, not_true_eq_false, if_false, if_neg open_]
  rw [answered, deliver_at, List.mem_flatMap]
  exact ⟨_, mem_atIndex.mpr delivered, by simp [answer, context]⟩

/-- The handshake of the endpoint after its first datagram, which is relayed. -/
def relayingRun : List Event := DatagramLoss.queuedRun ++ [.complete ⟨(7, 0), 0, false⟩ [] 0,
  .complete ⟨(7, 2), 0, false⟩ ReceiveLoop.methodNone 0,
  .complete ⟨(7, 2), 0, false⟩ ReceiveLoop.relayOpened 0]

def echoedRun : List Event :=
  relayingRun ++ [.complete ⟨(7, 5), 1, false⟩ (form query) 0]

/-- The datagrams that the relay has sent. -/
def received (outs : List Output) : List Bytes :=
  outs.filterMap fun o => match o with
    | .proxy (.received .ovtUdpReceive data) => some data
    | _ => none

theorem query_encapsulable : Encapsulable query := ⟨.inl rfl, by decide⟩

theorem room_of_take {o : Option OvData} {id : EndpointId} {type : OvType} {n : Nat}
    (held : o.map (fun ov => (ov.id, ov.type, (ov.buffer.take n).length)) = some (id, type, n)) :
    ∃ buffer, o = some ⟨id, type, buffer⟩ ∧ n ≤ buffer.length := by
  obtain ⟨⟨id', type', buffer⟩, rfl, same⟩ := Option.map_eq_some_iff.mp held
  obtain ⟨rfl, rfl, room⟩ : id' = id ∧ type' = type ∧ (buffer.take n).length = n := by
    simpa using same
  refine ⟨buffer, rfl, ?_⟩
  rw [List.length_take] at room
  omega

/-- The endpoint waits for the relay, with room for the query. -/
theorem query_posted (s : State) (relaying : s = run acceptingOs proxyConfig relayingRun) :
    ∃ delivery : Delivery,
      .nfUdpPostReceive delivery.remoteAddress delivery.buf delivery.len none ∈
        atIndex 7 (step acceptingOs proxyConfig s
          (.complete ⟨(7, 5), 1, false⟩ (form query) 0)).2 := by
  have facts : (s.freeing = .running ∧ s.place.holdsLock = false ∧
      ⟨(7, 5), 1, false⟩ ∈ s.proxy.pending ∧ s.udpCtxMap 7 = some none) ∧
      (s.proxy.ovData (7, 5)).map
        (fun ov => (ov.id, ov.type, (ov.buffer.take (form query).length).length)) =
          some (7, .ovtUdpReceive, (form query).length) := by
    rw [relaying]
    decide +kernel
  obtain ⟨⟨running, unlocked, pending, context⟩, held⟩ := facts
  obtain ⟨buffer, hov, fits⟩ := room_of_take held
  obtain ⟨delivery, parsed, _⟩ := read_form (by decide) query_encapsulable buffer
  exact ⟨delivery, received_posted running unlocked pending rfl hov fits parsed context⟩

/-- The query is passed, relayed and sent back, and nothing else is. -/
theorem echoed : Dispatch.relayed (seen acceptingOs proxyConfig echoedRun 7) = [form query] ∧
    Dispatch.passed (seen acceptingOs proxyConfig echoedRun 7) = [query] ∧
    received (outputsOf acceptingOs proxyConfig echoedRun 7) = [form query] := by
  decide +kernel

end Echo

end Replies
