import QvNetfilter.Delivery
import QvNetfilter.Encapsulation
import QvNetfilter.HandshakeState
import QvNetfilter.ReceiveLoop

/-!
# Queued and direct datagrams

A datagram that is sent before the connection is established waits in the queue
and is encapsulated when the queue is flushed; later ones are encapsulated at
once. Both ways should hand the relay socket the same bytes, a header with the
payload behind it. The two ways treat an empty payload differently, and neither
gives it a header.
-/

namespace QueuedDatagrams

open Memory Socks Mealy UdpProxy UdpHistory Ownership Endpoints Links LinkSteps HandshakeState
  Delivery Encapsulation
open UdpHandler (sendAddrLen)

section Sends

/-- The payloads and destinations of the calls of `udpSend` for an endpoint. -/
def sends (id : EndpointId) (evs : List Event) : List (Bytes × Address) :=
  evs.filterMap fun e => match e with
    | .udpSend j buf remoteAddress _ => if j = id then some (buf, remoteAddress) else none
    | _ => none

/-- What is kept of the calls until the flush. -/
def stored (sent : List (Bytes × Address)) : List Bytes :=
  (sent.filter fun s => s.1 ≠ []).map fun s => encapsulate s.1 s.2

theorem sends_append (id : EndpointId) (evs evs' : List Event) :
    sends id (evs ++ evs') = sends id evs ++ sends id evs' :=
  List.filterMap_append

theorem stored_append (sent sent' : List (Bytes × Address)) :
    stored (sent ++ sent') = stored sent ++ stored sent' := by
  simp only [stored, List.filter_append, List.map_append]

/-- Without an empty payload everything is kept, with its header. -/
theorem stored_nonempty {sent : List (Bytes × Address)} (nonempty : ∀ s ∈ sent, s.1 ≠ []) :
    stored sent = sent.map fun s => wire s.1 s.2 := by
  have all : (sent.filter fun s => s.1 ≠ []) = sent := by
    rw [List.filter_eq_self]
    intro s member
    exact decide_eq_true (nonempty s member)
  rw [stored, all]
  apply List.map_congr_left
  intro s member
  exact encapsulate_nonempty (nonempty s member) s.2

theorem sends_elsewhere {id : EndpointId} {e : Event} (other : endpoint e ≠ id) :
    sends id [e] = [] := by
  cases e with
  | udpSend j buf remoteAddress len =>
    have ne : j ≠ id := other
    simp [sends, ne]
  | createProxyConnection | deleteProxyConnection | complete => rfl

end Sends

section Queue
variable {config : Config} {id : EndpointId} {l l' : Link} {pd pd' : ProxyData}
  {e : Event}

/-- An answer moves the state on when it is accepted; what waits stays. -/
theorem waitingOf_answered (pd : ProxyData) (next : ProxyState) (sent : Bool) :
    waitingOf (some (if sent then { pd with proxyState := next } else pd)) =
      waitingOf (some pd) := by
  cases sent with
  | true => rfl
  | false => rfl

/-- While the connection is not established, its queue grows by what each call of `udpSend`
leaves, and by nothing else. -/
theorem queue_step (step : LinkStep config id l e l') (entry : l.entry = some pd)
    (waiting : pd.proxyState ≠ .psConnected) (entry' : l'.entry = some pd')
    (waiting' : pd'.proxyState ≠ .psConnected) (same : e ≠ .createProxyConnection id)
    (sized : ∀ buf addr len, e = .udpSend id buf addr len → len = sendAddrLen addr) :
    waitingOf l'.entry = waitingOf l.entry ++ stored (sends id [e]) := by
  cases step with
  | elsewhere other => rw [sends_elsewhere other]; exact (List.append_nil _).symm
  | unarmed | connectIgnored | controlEnded | relayEnded | relayData =>
    exact (List.append_nil _).symm
  | notOpened | notConnected | created => exact absurd rfl same
  | deleted | connectFailed => cases entry'
  | unknown absent => cases absent.symm.trans entry
  | @queued buf addr len pd₀ entry₀ _ =>
    obtain rfl := sized buf addr len rfl
    obtain rfl := Option.some_inj.mp (entry.symm.trans entry₀)
    rw [entry]
    by_cases empty : buf = []
    · subst empty
      simp [sends, stored, Link.setEntry, enqueue]
    · have grown := waitingOf_enqueue pd (d := ⟨addr, buf, none⟩) empty
      simpa [sends, stored, empty, Link.setEntry, form] using grown
  | attempted entry₀ established _ =>
    obtain rfl := Option.some_inj.mp (entry.symm.trans entry₀)
    exact absurd established waiting
  | @greeted op data pd₀ armed entry₀ sent accepted op' starts =>
    obtain rfl := Option.some_inj.mp (entry.symm.trans entry₀)
    rw [entry]
    exact (waitingOf_answered pd .psAuth sent).trans (List.append_nil _).symm
  | @controlData op data reply error l₁ armed nonempty switch accepted =>
    cases switch with
    | silent => exact (List.append_nil _).symm
    | @answered pd₀ message next entry₀ answer sent =>
      obtain rfl := Option.some_inj.mp (entry.symm.trans entry₀)
      rw [entry]
      exact (waitingOf_answered pd next sent).trans (List.append_nil _).symm
    | connected entry₀ assoc relay flushed =>
      obtain ⟨started, left⟩ := flushed.entry rfl
      obtain rfl := Option.some_inj.mp (left.symm.trans entry')
      exact absurd rfl waiting'

/-- An attempt hands its datagram over. -/
theorem attempt_datagrams {bytes : Bytes} {sent : Bool}
    (attempt : Attempt id pd bytes l sent l') :
    ∃ news, l'.notes = l.notes ++ news ∧ datagrams news = [bytes] := by
  cases attempt with
  | refused => exact ⟨_, rfl, rfl⟩
  | sent started => exact ⟨_, rfl, rfl⟩
  | first notStarted op accepted starts => exact ⟨_, List.append_assoc l.notes _ _, rfl⟩

/-- The flush hands over what waits in the queue, in its order. -/
theorem flushed_datagrams (flushed : Flushed id l l') :
    ∃ news, l'.notes = l.notes ++ news ∧ datagrams news = waitingOf l.entry := by
  induction flushed with
  | done entry empty =>
    refine ⟨[], (List.append_nil _).symm, ?_⟩
    rw [entry, waitingOf, empty]
    rfl
  | @next l l₁ l₂ pd pd₁ p rest sent entry queue attempt left flushed ih =>
    obtain ⟨first, added, shows⟩ := attempt_datagrams attempt
    obtain ⟨news, added', shows'⟩ := ih
    refine ⟨first ++ news, ?_, ?_⟩
    · rw [added', ← List.append_assoc, ← added]
      rfl
    · rw [datagrams_append, shows, shows', entry]
      simp [waitingOf, Link.setEntry, queue, packetForm]

/-- The step that establishes the connection hands over the queue, and nothing else. -/
theorem establish_step (step : LinkStep config id l e l') (entry : l.entry = some pd)
    (waiting : pd.proxyState ≠ .psConnected) (entry' : l'.entry = some pd')
    (established : pd'.proxyState = .psConnected) :
    ∃ news, l'.notes = l.notes ++ news ∧ datagrams news = waitingOf l.entry := by
  -- every other step leaves a connection that is not established
  have stays : l'.entry = some pd → False := by
    intro kept
    obtain rfl := Option.some_inj.mp (kept.symm.trans entry')
    exact waiting established
  have refused : ∀ next : ProxyState, next ≠ .psConnected → ∀ sent : Bool,
      l'.entry = some (if sent then { pd with proxyState := next } else pd) → False := by
    intro next other sent left
    obtain rfl := Option.some_inj.mp (left.symm.trans entry')
    cases sent with
    | true => exact other established
    | false => exact waiting established
  cases step with
  | elsewhere | unarmed | notOpened | unknown | connectIgnored | controlEnded | relayEnded
  | relayData => exact (stays entry).elim
  | notConnected | deleted | connectFailed => cases entry'
  | created tcpSocket udpSocket op starts =>
    cases entry'
    cases established
  | @queued buf addr len pd₀ entry₀ _ =>
    obtain rfl := Option.some_inj.mp (entry.symm.trans entry₀)
    obtain ⟨packets, same⟩ := enqueue_packets pd buf addr len
    rw [same] at entry'
    cases entry'
    exact absurd established waiting
  | attempted entry₀ connected attempt =>
    obtain rfl := Option.some_inj.mp (entry.symm.trans entry₀)
    exact absurd connected waiting
  | @greeted op data pd₀ armed entry₀ sent accepted op' starts =>
    obtain rfl := Option.some_inj.mp (entry.symm.trans entry₀)
    exact (refused .psAuth (by decide) sent rfl).elim
  | @controlData op data reply error l₁ armed nonempty switch accepted =>
    cases switch with
    | silent => exact (stays entry).elim
    | @answered pd₀ message next entry₀ answer sent =>
      obtain rfl := Option.some_inj.mp (entry.symm.trans entry₀)
      exact (refused next (controlAnswer_state answer) sent rfl).elim
    | @connected pd₀ buffer addr l₁ entry₀ assoc relay flushed =>
      obtain rfl := Option.some_inj.mp (entry.symm.trans entry₀)
      obtain ⟨news, added, shows⟩ := flushed_datagrams flushed
      refine ⟨[.received .ovtTcpReceive reply] ++ news ++ [.receive op.socket accepted], ?_, ?_⟩
      · simp [Link.receive, added, Link.setEntry, Link.note, Link.disarm]
      · rw [datagrams_append, datagrams_append, shows, entry]
        exact List.append_nil _

end Queue

section Runs
variable (os : Os) (config : Config)

/-- During `during` the connection that `before` has left waits, and `udpSend` is called
with the length that belongs to the family of its address. -/
structure Waits (before during : List Event) (id : EndpointId) : Prop where
  waiting : ∀ front back, during = front ++ back → ∃ pd,
    (linkOf os config (before ++ front) id).entry = some pd ∧ pd.proxyState ≠ .psConnected
  same : .createProxyConnection id ∉ during
  sized : ∀ buf addr len, .udpSend id buf addr len ∈ during → len = sendAddrLen addr

def Establishes (evs : List Event) (e : Event) (id : EndpointId) : Prop :=
  ∃ pd, (linkOf os config (evs ++ [e]) id).entry = some pd ∧ pd.proxyState = .psConnected

/-- The flush hands over what waited before and then, for each call of `udpSend`, the
header of its destination with the payload; a direct call hands over the same bytes. -/
structure Agree (before during : List Event) (e : Event) (id : EndpointId) : Prop where
  queued : handedBetween ((machine os config).run World.initial (before ++ during))
      ((machine os config).run World.initial (before ++ during ++ [e])) id =
    waitingOf (linkOf os config before id).entry ++
      (sends id during).map fun s => wire s.1 s.2
  direct : ∀ s ∈ sends id during, ∀ (os' : Os) (w : World) (id' : EndpointId) (pd : ProxyData)
    (len : Nat), w.socketMap id' = some pd → pd.proxyState = .psConnected →
      handedOver os' w id' s.1 s.2 len = [wire s.1 s.2]

variable {os config} {before during : List Event} {e : Event} {id : EndpointId}

/-- The last step of a run, as a move of the link. -/
theorem last_step (evs : List Event) (e : Event) (id : EndpointId) :
    LinkStep config id (linkOf os config evs id) e (linkOf os config (evs ++ [e]) id) := by
  have step := link_step os config (owned_run os config evs) e id
  rw [← Handshake.run_concat] at step
  exact step

theorem Waits.front {during later : List Event}
    (waits : Waits os config before (during ++ later) id) :
    Waits os config before during id := by
  refine ⟨?_, ?_, ?_⟩
  · rintro front back rfl
    exact waits.waiting front (back ++ later) (List.append_assoc ..)
  · intro created
    exact waits.same (List.mem_append_left later created)
  · intro buf addr len sent
    exact waits.sized buf addr len (List.mem_append_left later sent)

/-- What waits when the connection is about to be established. -/
theorem waits_run (waits : Waits os config before during id) :
    waitingOf (linkOf os config (before ++ during) id).entry =
      waitingOf (linkOf os config before id).entry ++ stored (sends id during) := by
  induction during using List.reverseRecOn with
  | nil =>
    rw [List.append_nil]
    exact (List.append_nil _).symm
  | append_singleton during e ih =>
    obtain ⟨pd, entry, waiting⟩ := waits.waiting during [e] rfl
    obtain ⟨pd', entry', waiting'⟩ := waits.waiting (during ++ [e]) [] (List.append_nil _).symm
    rw [← List.append_assoc] at entry'
    have same : e ≠ .createProxyConnection id := by
      rintro rfl
      exact waits.same (List.mem_append_right during List.mem_cons_self)
    have sized : ∀ buf addr len, e = .udpSend id buf addr len → len = sendAddrLen addr := by
      rintro buf addr len rfl
      exact waits.sized buf addr len (List.mem_append_right during List.mem_cons_self)
    have grown := queue_step (last_step (before ++ during) e id) entry waiting entry' waiting' same
      sized
    rw [← List.append_assoc, grown, ih waits.front, sends_append, stored_append, List.append_assoc]

theorem view_datagram (w : World) (id : EndpointId) :
    view datagram w id = datagrams (link w id).notes := by
  have noted : datagrams (link w id).notes =
      (w.history id).filterMap fun a => (note a).bind _ := List.filterMap_filterMap
  rw [noted]
  apply List.filterMap_congr
  intro a _
  cases a with
  | call c accepted => cases c <;> rfl
  | opened | closed | created | received | onUdpReceiveComplete => rfl

/-- The flush of a run. -/
theorem flush_run (waits : Waits os config before during id)
    (establishes : Establishes os config (before ++ during) e id) :
    handedBetween ((machine os config).run World.initial (before ++ during))
        ((machine os config).run World.initial (before ++ during ++ [e])) id =
      waitingOf (linkOf os config before id).entry ++ stored (sends id during) := by
  obtain ⟨pd, entry, waiting⟩ := waits.waiting during [] (List.append_nil _).symm
  obtain ⟨pd', entry', established⟩ := establishes
  obtain ⟨news, added, shows⟩ := establish_step (last_step (before ++ during) e id) entry waiting
    entry' established
  rw [← waits_run waits, ← shows, handedBetween, view_datagram, view_datagram]
  have all : datagrams (linkOf os config (before ++ during ++ [e]) id).notes =
      datagrams (linkOf os config (before ++ during) id).notes ++ datagrams news := by
    rw [added, datagrams_append]
  exact (congrArg _ all).trans List.drop_left

/-- The two ways agree exactly in the runs without an empty payload. -/
theorem queued_and_direct_agree_iff (waits : Waits os config before during id)
    (establishes : Establishes os config (before ++ during) e id) :
    Agree os config before during e id ↔ ∀ s ∈ sends id during, s.1 ≠ [] := by
  constructor
  · intro agree s member
    have entry : (World.initial.setEntry 7 (some establishedEntry)).socketMap 7 =
        some establishedEntry := rfl
    have handed := handedOver_connected acceptingOs entry rfl s.1 s.2 0
    have expected := agree.direct s member acceptingOs _ 7 establishedEntry 0 entry rfl
    have same : encapsulate s.1 s.2 = wire s.1 s.2 :=
      List.singleton_inj.mp (handed.symm.trans expected)
    exact (encapsulate_eq_wire_iff s.1 s.2).mp same
  · intro nonempty
    refine ⟨?_, ?_⟩
    · rw [flush_run waits establishes, stored_nonempty nonempty]
    · intro s member os' w id' pd len entry established
      rw [handedOver_connected os' entry established, encapsulate_nonempty (nonempty s member)]

end Runs

section EmptyPayload

open ReceiveLoop

/-- One datagram for endpoint 7, which waits for the reply to ASSOCIATE. -/
def sending (buf : Bytes) : Event := .udpSend 7 buf destination 16

def opening : Event := .complete ⟨(7, 2), 0, false⟩ relayOpened 0

def sendingWorld (buf : Bytes) : World :=
  step acceptingOs anonymousConfig selectedWorld (sending buf)

def flushedWorld (buf : Bytes) : World :=
  handled acceptingOs anonymousConfig (sendingWorld buf) ⟨(7, 2), 0, false⟩ selectedOv relayOpened 0

theorem run_sending (buf : Bytes) :
    (machine acceptingOs anonymousConfig).run World.initial (selectedRun ++ [sending buf]) =
      sendingWorld buf := by
  rw [Handshake.run_concat, run_selected]
  rfl

theorem run_flushed {buf : Bytes}
    (armed : (⟨(7, 2), 0, false⟩ : Operation) ∈ (sendingWorld buf).pending)
    (ov : (sendingWorld buf).ovData (7, 2) = some selectedOv) :
    (machine acceptingOs anonymousConfig).run World.initial
      (selectedRun ++ [sending buf] ++ [opening]) = flushedWorld buf := by
  have room : relayOpened.length ≤ selectedOv.buffer.length := by
    rw [selectedOv_length]
    exact (show 10 ≤ 65536 by omega)
  rw [Handshake.run_concat, run_sending]
  exact step_receive acceptingOs anonymousConfig armed rfl ov rfl room 0

/-- A world whose connection of endpoint 7 is in a known state. -/
theorem entry_of_state {w : World} {state : ProxyState}
    (known : (w.socketMap 7).map ProxyData.proxyState = some state) :
    ∃ pd, (link w 7).entry = some pd ∧ pd.proxyState = state :=
  Option.map_eq_some_iff.mp known

theorem waits_sending {buf : Bytes}
    (known : ((sendingWorld buf).socketMap 7).map ProxyData.proxyState = some .psUdpAssoc) :
    Waits acceptingOs anonymousConfig selectedRun [sending buf] 7 := by
  refine ⟨?_, by simp [sending], ?_⟩
  · intro front back split
    cases front with
    | nil =>
      have known' : (selectedWorld.socketMap 7).map ProxyData.proxyState = some .psUdpAssoc := by
        decide +kernel
      obtain ⟨pd, entry, state⟩ := entry_of_state known'
      refine ⟨pd, ?_, by simp [state]⟩
      rw [List.append_nil, linkOf, run_selected]
      exact entry
    | cons e front =>
      obtain ⟨rfl, rest⟩ := List.cons_eq_cons.mp split
      obtain ⟨rfl, -⟩ := List.append_eq_nil_iff.mp rest.symm
      obtain ⟨pd, entry, state⟩ := entry_of_state known
      refine ⟨pd, ?_, by simp [state]⟩
      rw [linkOf, run_sending]
      exact entry
  · intro buf' addr len member
    cases List.mem_singleton.mp member
    decide

theorem establishes_opening {buf : Bytes}
    (armed : (⟨(7, 2), 0, false⟩ : Operation) ∈ (sendingWorld buf).pending)
    (ov : (sendingWorld buf).ovData (7, 2) = some selectedOv)
    (known : ((flushedWorld buf).socketMap 7).map ProxyData.proxyState = some .psConnected) :
    Establishes acceptingOs anonymousConfig (selectedRun ++ [sending buf]) opening 7 := by
  rw [Establishes, linkOf, run_flushed armed ov]
  exact entry_of_state known

theorem queued_and_direct_agree_byte :
    Agree acceptingOs anonymousConfig selectedRun [sending [1]] opening 7 ↔
      ∀ s ∈ sends 7 [sending [1]], s.1 ≠ [] :=
  queued_and_direct_agree_iff (waits_sending (by decide +kernel))
    (establishes_opening (by decide +kernel) rfl (by decide +kernel))

/-- An empty payload is dropped by the queue, and goes out directly without a header. -/
theorem empty_payload_disagrees :
    Waits acceptingOs anonymousConfig selectedRun [sending []] 7 ∧
      Establishes acceptingOs anonymousConfig (selectedRun ++ [sending []]) opening 7 ∧
      handedBetween (sendingWorld []) (flushedWorld []) 7 = [] ∧
      handedOver acceptingOs (flushedWorld []) 7 [] destination 16 = [[]] ∧
      ¬ Agree acceptingOs anonymousConfig selectedRun [sending []] opening 7 := by
  have known : ((flushedWorld []).socketMap 7).map ProxyData.proxyState = some .psConnected := by
    decide +kernel
  obtain ⟨pd, entry, established⟩ := entry_of_state known
  have entry' : (flushedWorld []).socketMap 7 = some pd := entry
  have handed := handedOver_connected acceptingOs entry' established [] destination 16
  refine ⟨waits_sending (by decide +kernel),
    establishes_opening (by decide +kernel) rfl known, by decide +kernel, handed, ?_⟩
  intro agree
  have expected := agree.direct ([], destination) (by simp [sends, sending]) acceptingOs
    (flushedWorld []) 7 pd 16 entry' established
  exact wire_ne_nil [] destination (List.singleton_inj.mp (handed.symm.trans expected)).symm

end EmptyPayload

end QueuedDatagrams
