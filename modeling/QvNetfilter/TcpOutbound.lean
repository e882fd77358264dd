import QvNetfilter.TcpRedirect

/-!
# Application data towards the proxy

What one redirected connection sends to the proxy between its connect request
and its close: the SOCKS4 requests, the bytes held back until the first reply,
and the bytes relayed afterwards. Each property of the outbound stream is
stated over the connection's history and characterized by its inputs alone.
-/

namespace TcpOutbound

open Memory Socks Mealy TcpRedirect

def outputs (tr : List (ConnEvent × List ConnOutput)) : List ConnOutput :=
  tr.flatMap Prod.snd

/-- The SOCKS4 requests among the posts. -/
def requestsOf (outs : List ConnOutput) : List Socks4Request :=
  outs.filterMap (fun o => match o with | .nfTcpPostSend (.request r) => some r | _ => none)

/-- The bytes posted to the server, the SOCKS4 requests left aside. -/
def applicationBytes (outs : List ConnOutput) : Bytes :=
  outs.flatMap (fun o => match o with
    | .nfTcpPostSend (.data buf len) => counted buf len
    | _ => [])

section Streams

@[simp] theorem outputs_cons (x : ConnEvent × List ConnOutput)
    (tr : List (ConnEvent × List ConnOutput)) : outputs (x :: tr) = x.2 ++ outputs tr := by
  simp [outputs]

@[simp] theorem outputs_append (xs ys : List (ConnEvent × List ConnOutput)) :
    outputs (xs ++ ys) = outputs xs ++ outputs ys := by
  simp [outputs]

@[simp] theorem requestsOf_append (xs ys : List ConnOutput) :
    requestsOf (xs ++ ys) = requestsOf xs ++ requestsOf ys := by
  simp [requestsOf]

@[simp] theorem applicationBytes_append (xs ys : List ConnOutput) :
    applicationBytes (xs ++ ys) = applicationBytes xs ++ applicationBytes ys := by
  simp [applicationBytes]

@[simp] theorem requestsOf_connInfo (info : ConnInfo) :
    requestsOf [.connInfo info] = [] := rfl

theorem mem_requestsOf {r : Socks4Request} {outs : List ConnOutput} :
    r ∈ requestsOf outs ↔ .nfTcpPostSend (.request r) ∈ outs := by
  simp only [requestsOf, List.mem_filterMap]
  constructor
  · rintro ⟨o, ho, h⟩
    split at h
    · cases h
      exact ho
    · cases h
  · intro h
    exact ⟨_, h, rfl⟩

theorem flush_requests (held : Bytes) : requestsOf (flush held) = [] := by
  by_cases h : held = [] <;> simp [flush, requestsOf, h]

theorem flush_applicationBytes (held : Bytes) :
    applicationBytes (flush held) = counted held (toInt32 held.length) := by
  by_cases h : held = []
  · simp [flush, applicationBytes, counted, h]
  · simp [flush, applicationBytes, h]

theorem relay_requests (evs : List ConnEvent) : requestsOf (outputs (relayTrace evs)) = [] := by
  induction evs with
  | nil => rfl
  | cons e rest ih =>
    rw [relayTrace, List.map_cons, outputs_cons, requestsOf_append]
    cases e <;> exact ih

theorem relay_applicationBytes (evs : List ConnEvent) :
    applicationBytes (outputs (relayTrace evs)) = (sends evs).flatten := by
  induction evs with
  | nil => rfl
  | cons e rest ih =>
    rw [relayTrace, List.map_cons, outputs_cons, applicationBytes_append]
    change _ ++ applicationBytes (outputs (relayTrace rest)) = _
    rw [ih]
    cases e <;> simp [relayOutputs, applicationBytes, sends, counted]

end Streams

section Opened
variable (proxyAddress : Address) (info : ConnInfo)

/-- A connection's trace from its connect request up to the first reply. -/
def opened (evs : List ConnEvent) : List (ConnEvent × List ConnOutput) :=
  (.tcpConnectRequest info, [.connInfo (redirect proxyAddress info)]) ::
    handshakeTrace info.remoteAddress evs

theorem opened_append (xs ys : List ConnEvent) :
    opened proxyAddress info (xs ++ ys) =
      opened proxyAddress info xs ++ handshakeTrace info.remoteAddress ys := by
  simp [opened, handshakeTrace]

theorem opened_events (evs : List ConnEvent) :
    (opened proxyAddress info evs).map Prod.fst = .tcpConnectRequest info :: evs := by
  simp [opened, handshakeTrace, Function.comp_def]

theorem opened_requests (evs : List ConnEvent) :
    requestsOf (outputs (opened proxyAddress info evs)) =
      if info.remoteAddress.saFamily = afInet6 then []
      else List.replicate (sends evs).length (connectTo info.remoteAddress) := by
  rw [opened, outputs_cons, requestsOf_append, requestsOf_connInfo, List.nil_append]
  induction evs with
  | nil => simp [handshakeTrace, outputs, requestsOf, sends]
  | cons e rest ih =>
    rw [handshakeTrace, List.map_cons, outputs_cons, requestsOf_append]
    change _ ++ requestsOf (outputs (handshakeTrace info.remoteAddress rest)) = _
    rw [ih]
    by_cases hf : info.remoteAddress.saFamily = afInet6 <;>
      cases e <;> simp [handshakeOutputs, requestsOf, sends, hf, List.replicate_succ]

theorem opened_silent {evs : List ConnEvent} {x : ConnEvent × List ConnOutput}
    (mem : x ∈ opened proxyAddress info evs) : applicationBytes x.2 = [] := by
  rcases List.mem_cons.mp mem with rfl | mem
  · rfl
  · obtain ⟨e, he, rfl⟩ := List.mem_map.mp mem
    by_cases hf : info.remoteAddress.saFamily = afInet6 <;>
      cases e <;> simp [handshakeOutputs, applicationBytes, hf]

theorem applicationBytes_outputs_eq_nil {tr : List (ConnEvent × List ConnOutput)}
    (silent : ∀ x ∈ tr, applicationBytes x.2 = []) : applicationBytes (outputs tr) = [] := by
  induction tr with
  | nil => rfl
  | cons x rest ih =>
    rw [outputs_cons, applicationBytes_append, silent x List.mem_cons_self,
      ih (fun y hy => silent y (List.mem_cons_of_mem x hy)), List.append_nil]

theorem opened_applicationBytes (evs : List ConnEvent) :
    applicationBytes (outputs (opened proxyAddress info evs)) = [] :=
  applicationBytes_outputs_eq_nil (fun _ hx => opened_silent proxyAddress info hx)

/-- A request is posted only by a write before the first reply, to IPv4. -/
theorem opened_request_origin {evs : List ConnEvent} {x : ConnEvent × List ConnOutput}
    (mem : x ∈ opened proxyAddress info evs) (posts : requestsOf x.2 ≠ []) :
    info.remoteAddress.saFamily ≠ afInet6 ∧ sends evs ≠ [] := by
  rcases List.mem_cons.mp mem with rfl | mem
  · exact absurd rfl posts
  · obtain ⟨e, he, rfl⟩ := List.mem_map.mp mem
    cases e with
    | tcpSend buf =>
      refine ⟨?_, List.ne_nil_of_mem (List.mem_filterMap.mpr ⟨_, he, rfl⟩)⟩
      intro hf
      simp [handshakeOutputs, hf, requestsOf] at posts
    | tcpConnectRequest | tcpConnected | tcpClosed | tcpReceive | tcpCanReceive | tcpCanSend =>
      exact absurd rfl posts

end Opened

section Lifetime
variable (proxyAddress : Address) (info : ConnInfo)

/-- The history of one connection from its connect request on. -/
def lifetime (evs : List ConnEvent) : List (ConnEvent × List ConnOutput) :=
  (connection proxyAddress).trace none (.tcpConnectRequest info :: evs)

/-- The bytes still held back at its end. -/
def heldAfter (evs : List ConnEvent) : Bytes :=
  match (connection proxyAddress).run none (.tcpConnectRequest info :: evs) with
  | some oci => oci.pendedSends
  | none => []

theorem lifetime_events (evs : List ConnEvent) :
    (lifetime proxyAddress info evs).map Prod.fst = .tcpConnectRequest info :: evs :=
  Machine.trace_events _ _ _

/-- Not answered yet: requests only, and every byte held back. -/
theorem lifetime_handshake {evs : List ConnEvent} (within : ∀ e ∈ evs, e.within = true)
    (quiet : ∀ e ∈ evs, e.isReceive = false) :
    lifetime proxyAddress info evs = opened proxyAddress info evs ∧
      heldAfter proxyAddress info evs = heldBytes info.remoteAddress evs := by
  obtain ⟨hrun, htrace⟩ := handshake_run proxyAddress ⟨info.remoteAddress, []⟩ within quiet
  constructor
  · exact congrArg (List.cons _) htrace
  · change (match (connection proxyAddress).run (some ⟨info.remoteAddress, []⟩) evs with
      | some oci => oci.pendedSends
      | none => []) = _
    rw [hrun]
    exact List.nil_append _

/-- Answered: the held bytes are flushed, and what follows is relayed. -/
theorem lifetime_replied {before after : List ConnEvent} {buf : Bytes}
    (within : ∀ e ∈ before ++ .tcpReceive buf :: after, e.within = true)
    (quiet : ∀ e ∈ before, e.isReceive = false) :
    lifetime proxyAddress info (before ++ .tcpReceive buf :: after) =
        opened proxyAddress info before ++
          (.tcpReceive buf, flush (heldBytes info.remoteAddress before)) :: relayTrace after ∧
      heldAfter proxyAddress info (before ++ .tcpReceive buf :: after) = [] := by
  obtain ⟨hrun, htrace⟩ := replied_run proxyAddress ⟨info.remoteAddress, []⟩ within quiet
  constructor
  · exact congrArg (List.cons _) htrace
  · change (match (connection proxyAddress).run (some ⟨info.remoteAddress, []⟩)
        (before ++ .tcpReceive buf :: after) with
      | some oci => oci.pendedSends
      | none => []) = _
    rw [hrun]

/-- Exactly the writes before the first reply repeat the request. -/
theorem lifetime_requests {evs : List ConnEvent} (within : ∀ e ∈ evs, e.within = true) :
    requestsOf (outputs (lifetime proxyAddress info evs)) =
      if info.remoteAddress.saFamily = afInet6 then []
      else List.replicate (sends (beforeReceive evs)).length (connectTo info.remoteAddress) := by
  rcases receive_cases evs with quiet | ⟨before, buf, after, rfl, quiet⟩
  · have form := (lifetime_handshake proxyAddress info within quiet).1
    rw [form, beforeReceive_quiet quiet]
    exact opened_requests proxyAddress info evs
  · have form := (lifetime_replied proxyAddress info within quiet).1
    rw [form, beforeReceive_split quiet, outputs_append, outputs_cons, requestsOf_append,
      requestsOf_append, flush_requests, relay_requests, List.append_nil, List.append_nil]
    exact opened_requests proxyAddress info before

/-- A request is never preceded by application bytes. -/
theorem request_before_data {evs : List ConnEvent} (within : ∀ e ∈ evs, e.within = true)
    {xs ys : List ConnOutput} {r : Socks4Request}
    (split : outputs (lifetime proxyAddress info evs) =
      xs ++ .nfTcpPostSend (.request r) :: ys) : applicationBytes xs = [] := by
  -- every request lies in a part `front` without application bytes
  have parts : ∃ front back, outputs (lifetime proxyAddress info evs) = front ++ back ∧
      applicationBytes front = [] ∧ requestsOf back = [] := by
    rcases receive_cases evs with quiet | ⟨before, buf, after, rfl, quiet⟩
    · have form := (lifetime_handshake proxyAddress info within quiet).1
      refine ⟨outputs (opened proxyAddress info evs), [], ?_, ?_, rfl⟩
      · rw [form, List.append_nil]
      · exact opened_applicationBytes proxyAddress info evs
    · have form := (lifetime_replied proxyAddress info within quiet).1
      refine ⟨outputs (opened proxyAddress info before),
        outputs ((.tcpReceive buf, flush (heldBytes info.remoteAddress before)) ::
          relayTrace after), ?_, ?_, ?_⟩
      · rw [form, outputs_append]
      · exact opened_applicationBytes proxyAddress info before
      · rw [outputs_cons, requestsOf_append, flush_requests, relay_requests]
        rfl
  obtain ⟨front, back, hparts, hfront, hback⟩ := parts
  rw [hparts] at split
  rcases List.append_eq_append_iff.mp split with ⟨mid, _, hmid⟩ | ⟨mid, hmid, _⟩
  · have hr : r ∈ requestsOf back := by
      rw [hmid]
      exact mem_requestsOf.mpr (List.mem_append_right _ List.mem_cons_self)
    rw [hback] at hr
    cases hr
  · rw [hmid, applicationBytes_append] at hfront
    exact (List.append_eq_nil_iff.mp hfront).1

end Lifetime

section History
variable (h : EventHandler) (id : EndpointId) (info : ConnInfo)

/-- In a run of all connections, one connection's history from its connect
request on is the lifetime over its own events. -/
theorem history_lifetime (evs : List (EndpointId × ConnEvent)) :
    history h id ((id, .tcpConnectRequest info) :: evs) =
      lifetime h.proxyAddress info (atIndex id evs) := by
  rw [history_eq, atIndex_cons_self]
  rfl

/-- Events of other connections leave no trace in the history. -/
theorem history_skip {pre : List (EndpointId × ConnEvent)} (silent : atIndex id pre = [])
    (evs : List (EndpointId × ConnEvent)) : history h id (pre ++ evs) = history h id evs := by
  rw [history_eq, history_eq, atIndex_append, silent, List.nil_append]

/-- `pendedSends` of a connection, empty when the map has no entry. -/
def pended (h : EventHandler) (id : EndpointId) : Bytes :=
  match h.connInfoMap id with
  | some oci => oci.pendedSends
  | none => []

theorem pended_heldAfter {pre : List (EndpointId × ConnEvent)} (silent : atIndex id pre = [])
    (post : List (EndpointId × ConnEvent)) :
    pended (EventHandler.machine.run h (pre ++ (id, .tcpConnectRequest info) :: post)) id =
      heldAfter h.proxyAddress info (atIndex id post) := by
  rw [pended, entry_eq, atIndex_append, silent, atIndex_cons_self]
  rfl

end History

section SingleRequest

/-- At most one SOCKS4 request, and no application byte ahead of it. -/
structure SingleRequest (outs : List ConnOutput) : Prop where
  atMostOne : (requestsOf outs).length ≤ 1
  first : ∀ xs r ys, outs = xs ++ .nfTcpPostSend (.request r) :: ys → applicationBytes xs = []

/-- Between a connect request and the close, the handshake is sent once exactly
when the application writes at most once before the first reply, or the
original address is IPv6 and no request is sent at all. -/
theorem single_request_iff (h : EventHandler) (id : EndpointId) (info : ConnInfo)
    (evs : List (EndpointId × ConnEvent)) (within : WithinLifetime id evs) :
    SingleRequest (outputs (history h id ((id, .tcpConnectRequest info) :: evs))) ↔
      info.remoteAddress.saFamily = afInet6 ∨
        (sends (beforeReceive (atIndex id evs))).length ≤ 1 := by
  have hrequests := lifetime_requests h.proxyAddress info within
  rw [history_lifetime]
  constructor
  · intro single
    have hcount := single.atMostOne
    rw [hrequests] at hcount
    by_cases hf : info.remoteAddress.saFamily = afInet6
    · exact Or.inl hf
    · exact Or.inr (by simpa [hf] using hcount)
  · intro hinput
    refine ⟨?_, fun xs r ys split => request_before_data h.proxyAddress info within split⟩
    rw [hrequests]
    rcases hinput with hf | hcount
    · simp [hf]
    · by_cases hf : info.remoteAddress.saFamily = afInet6
      · simp [hf]
      · simpa [hf] using hcount

/-- A connection to 93.184.216.34:80. -/
def webRequest : ConnInfo := ⟨0, Address.zero.write (sockaddrIn [93, 184, 216, 34] [0, 80])⟩

theorem single_request_one_write :
    SingleRequest (outputs (history (EventHandler.initial localProxy) 7
      ((7, .tcpConnectRequest webRequest) :: [(7, .tcpSend [0x47])]))) ↔
      webRequest.remoteAddress.saFamily = afInet6 ∨
        (sends (beforeReceive (atIndex 7 [((7 : EndpointId), .tcpSend [0x47])]))).length ≤ 1 :=
  single_request_iff _ _ _ _ (by decide)

/-- Two writes before the reply repeat the request. -/
theorem two_writes_two_requests :
    ¬ SingleRequest (outputs (history (EventHandler.initial localProxy) 7
      [(7, .tcpConnectRequest webRequest), (7, .tcpSend [0x47]), (7, .tcpSend [0x45])])) := by
  intro single
  have hcount := single.atMostOne
  revert hcount
  decide

end SingleRequest

section Conservation

/-- No application byte is lost, repeated or reordered: what was posted and
what is held back make up what was given; nothing is posted before the first
reply; filtering ends only when nothing is held back. -/
structure OutboundConserved (held : Bytes) (tr : List (ConnEvent × List ConnOutput)) :
    Prop where
  conserved : applicationBytes (outputs tr) ++ held = (sends (tr.map Prod.fst)).flatten
  afterReply : ∀ xs ys, tr = xs ++ ys → (∀ e ∈ xs.map Prod.fst, e.isReceive = false) →
    applicationBytes (outputs xs) = []
  disabledWhenPosted : ∀ xs e os ys, tr = xs ++ (e, os) :: ys →
    .nfTcpDisableFiltering ∈ os →
    applicationBytes (outputs (xs ++ [(e, os)])) =
      (sends ((xs ++ [(e, os)]).map Prod.fst)).flatten

/-- The first reply, if there is one, finds less than 2 GiB held back. -/
def FlushFits (evs : List ConnEvent) : Prop :=
  receives evs = [] ∨ (sends (beforeReceive evs)).flatten.length < intLimit

instance (evs : List ConnEvent) : Decidable (FlushFits evs) :=
  inferInstanceAs (Decidable (_ ∨ _))

theorem FlushFits.of_append {xs ys : List ConnEvent} (fits : FlushFits (xs ++ ys)) :
    FlushFits xs := by
  rcases receive_cases xs with quiet | ⟨before, buf, after, rfl, quiet⟩
  · exact Or.inl (receives_eq_nil quiet)
  · rcases fits with none | small
    · rw [receives_append] at none
      exact Or.inl (List.append_eq_nil_iff.mp none).1
    · refine Or.inr ?_
      rw [List.append_assoc, List.cons_append, beforeReceive_split quiet] at small
      rwa [beforeReceive_split quiet]

variable (proxyAddress : Address) (info : ConnInfo)

/-- The balance over a lifetime comes down to the narrowing of one flush. -/
theorem lifetime_conserved_iff (ipv4 : info.remoteAddress.saFamily ≠ afInet6)
    {evs : List ConnEvent} (within : ∀ e ∈ evs, e.within = true) :
    applicationBytes (outputs (lifetime proxyAddress info evs)) ++
        heldAfter proxyAddress info evs = (sends evs).flatten ↔ FlushFits evs := by
  rcases receive_cases evs with quiet | ⟨before, buf, after, rfl, quiet⟩
  · obtain ⟨form, held⟩ := lifetime_handshake proxyAddress info within quiet
    have posted : applicationBytes (outputs (lifetime proxyAddress info evs)) = [] :=
      form ▸ opened_applicationBytes proxyAddress info evs
    have fits : FlushFits evs := Or.inl (receives_eq_nil quiet)
    rw [posted, held]
    simp [heldBytes, ipv4, fits]
  · obtain ⟨form, held⟩ := lifetime_replied proxyAddress info within quiet
    have posted : applicationBytes
        (outputs (lifetime proxyAddress info (before ++ .tcpReceive buf :: after))) =
        counted (sends before).flatten (toInt32 (sends before).flatten.length) ++
          (sends after).flatten := by
      have hheld : heldBytes info.remoteAddress before = (sends before).flatten := if_neg ipv4
      rw [form, outputs_append, outputs_cons, applicationBytes_append, applicationBytes_append,
        opened_applicationBytes, flush_applicationBytes, relay_applicationBytes, hheld,
        List.nil_append]
    have given : (sends (before ++ .tcpReceive buf :: after)).flatten =
        (sends before).flatten ++ (sends after).flatten := by
      simp [sends]
    have replied : receives (before ++ .tcpReceive buf :: after) ≠ [] := by
      simp [receives]
    rw [posted, held, given, List.append_nil, List.append_cancel_right_eq, counted_toInt32_iff]
    simp only [FlushFits, replied, false_or, beforeReceive_split quiet]

theorem disable_step {entry : Option OriginalConnInfo} {e : ConnEvent}
    (disables : .nfTcpDisableFiltering ∈ ((connection proxyAddress).step entry e).2) :
    ((connection proxyAddress).step entry e).1 = none ∧ e.isReceive = true := by
  cases e <;> cases entry <;> simp_all [connection, flush, ConnEvent.isReceive]
  all_goals split at disables <;> simp at disables

/-- A run of all connections in which one connection opens once is, for that
connection, its lifetime. -/
theorem run_lifetime (proxyAddress : Address) (id : EndpointId) (info : ConnInfo)
    {pre : List (EndpointId × ConnEvent)} (silent : atIndex id pre = [])
    (post : List (EndpointId × ConnEvent)) :
    OutboundConserved
        (pended (EventHandler.machine.run (EventHandler.initial proxyAddress)
          (pre ++ (id, .tcpConnectRequest info) :: post)) id)
        (history (EventHandler.initial proxyAddress) id
          (pre ++ (id, .tcpConnectRequest info) :: post)) ↔
      OutboundConserved (heldAfter proxyAddress info (atIndex id post))
        (lifetime proxyAddress info (atIndex id post)) := by
  rw [history_skip _ id silent, history_lifetime, pended_heldAfter _ id info silent post]
  rfl

theorem OutboundConserved.fits {proxyAddress : Address} {info : ConnInfo}
    (ipv4 : info.remoteAddress.saFamily ≠ afInet6) {evs : List ConnEvent}
    (within : ∀ e ∈ evs, e.within = true)
    (conserved : OutboundConserved (heldAfter proxyAddress info evs)
      (lifetime proxyAddress info evs)) : FlushFits evs := by
  have total := conserved.conserved
  rw [lifetime_events] at total
  exact (lifetime_conserved_iff proxyAddress info ipv4 within).mp total

/-- Over a run of all connections in which the connection opens once, to an
IPv4 address, and is not closed, its outbound bytes are conserved exactly when
the flush after the first reply is below 2 GiB. -/
theorem outbound_conserved_iff (proxyAddress : Address) (id : EndpointId) (info : ConnInfo)
    (pre post : List (EndpointId × ConnEvent)) (silent : atIndex id pre = [])
    (within : WithinLifetime id post) (ipv4 : info.remoteAddress.saFamily = afInet) :
    let evs := pre ++ (id, .tcpConnectRequest info) :: post
    OutboundConserved
        (pended (EventHandler.machine.run (EventHandler.initial proxyAddress) evs) id)
        (history (EventHandler.initial proxyAddress) id evs) ↔
      FlushFits (atIndex id post) := by
  have notIpv6 : info.remoteAddress.saFamily ≠ afInet6 := by rw [ipv4]; decide
  have balance := lifetime_conserved_iff proxyAddress info notIpv6 within
  refine (run_lifetime proxyAddress id info silent post).trans ⟨?_, ?_⟩
  · exact OutboundConserved.fits notIpv6 within
  · intro fits
    refine ⟨?_, ?_, ?_⟩
    · rw [lifetime_events]
      exact balance.mpr fits
    · intro xs ys split quiet
      obtain ⟨before, after, hevs, rfl, _⟩ := Machine.trace_prefix _ split
      rw [Machine.trace_events] at quiet
      cases before with
      | nil => rfl
      | cons e before =>
        obtain ⟨rfl, hpost⟩ := List.cons.inj hevs
        have hwithin : ∀ e ∈ before, e.within = true :=
          fun e he => within e (hpost ▸ List.mem_append_left _ he)
        have form := (lifetime_handshake proxyAddress info hwithin
          (fun e he => quiet e (List.mem_cons_of_mem _ he))).1
        change applicationBytes (outputs (lifetime proxyAddress info before)) = []
        rw [form]
        exact opened_applicationBytes proxyAddress info before
    · intro xs e os ys split disables
      obtain ⟨before, after, hevs, rfl, rfl⟩ := Machine.trace_split _ split
      obtain ⟨gone, receive⟩ := disable_step proxyAddress disables
      cases before with
      | nil =>
        obtain ⟨rfl, _⟩ := List.cons.inj hevs
        cases receive
      | cons d before =>
        obtain ⟨rfl, hpost⟩ := List.cons.inj hevs
        have hsplit : atIndex id post = (before ++ [e]) ++ after := by simpa using hpost
        have hwithin : ∀ d ∈ before ++ [e], d.within = true :=
          fun d hd => within d (hsplit ▸ List.mem_append_left _ hd)
        have small : FlushFits (before ++ [e]) := FlushFits.of_append (hsplit ▸ fits)
        have upToHere := (lifetime_conserved_iff proxyAddress info notIpv6 hwithin).mpr small
        have held : heldAfter proxyAddress info (before ++ [e]) = [] := by
          rw [heldAfter, ← List.cons_append, Machine.run_append]
          change (match ((connection proxyAddress).step _ e).1 with
            | some oci => oci.pendedSends
            | none => []) = []
          rw [gone]
        rw [held, List.append_nil] at upToHere
        have htrace : (connection proxyAddress).trace none
            (.tcpConnectRequest info :: before) ++ [(e, _)] =
            lifetime proxyAddress info (before ++ [e]) :=
          (Machine.trace_append _ _ (.tcpConnectRequest info :: before) [e]).symm
        rw [htrace, lifetime_events]
        exact upToHere

theorem outbound_conserved_small_write :
    let evs := [((3 : EndpointId), ConnEvent.tcpCanSend)] ++
      (7, .tcpConnectRequest webRequest) :: [(7, .tcpSend [0x47]), (7, .tcpReceive [])]
    OutboundConserved
        (pended (EventHandler.machine.run (EventHandler.initial localProxy) evs) 7)
        (history (EventHandler.initial localProxy) 7 evs) ↔
      FlushFits (atIndex 7 [((7 : EndpointId), .tcpSend [0x47]), (7, .tcpReceive [])]) :=
  outbound_conserved_iff localProxy 7 webRequest [(3, .tcpCanSend)]
    [(7, .tcpSend [0x47]), (7, .tcpReceive [])] (by decide) (by decide) (by decide)

/-- The largest buffer that one `tcpSend` can carry. -/
def largestWrite : Bytes := List.replicate 2147483647 0

theorem largestWrite_length : largestWrite.length = 2147483647 := List.length_replicate

/-- Writes of 4 GiB in total before the reply: the flush passes length zero on. -/
theorem large_flush_lost :
    let evs := [((7 : EndpointId), ConnEvent.tcpConnectRequest webRequest),
      (7, .tcpSend largestWrite), (7, .tcpSend largestWrite), (7, .tcpSend [0, 0]),
      (7, .tcpReceive [0, s4rcSuccess, 0, 0, 0, 0, 0, 0])]
    ¬ OutboundConserved
        (pended (EventHandler.machine.run (EventHandler.initial localProxy) evs) 7)
        (history (EventHandler.initial localProxy) 7 evs) := by
  intro evs conserved
  have alone := (run_lifetime localProxy 7 webRequest (atIndex_nil 7) evs.tail).mp conserved
  have fits := alone.fits (by decide) (by simp [evs, ConnEvent.within])
  rcases fits with none | small
  · simp [evs, receives] at none
  · simp [evs, beforeReceive, ConnEvent.isReceive, sends, largestWrite_length, intLimit] at small

end Conservation

end TcpOutbound
