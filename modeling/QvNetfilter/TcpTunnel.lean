import QvNetfilter.TcpOutbound

/-!
# When a tunnel may carry data, and where it leads

Two properties of one redirected connection's history. Application data should
follow a granted request, and the connection should ask the proxy for its
original destination and hold every byte until the proxy answers.
-/

namespace TcpTunnel

open Memory Socks Mealy TcpRedirect TcpOutbound

section Grant

/-- Application bytes go out only after a request was posted and the complete
reply received since then grants it. -/
def ForwardsAfterGrant (tr : List (ConnEvent × List ConnOutput)) : Prop :=
  ∀ xs e os ys, tr = xs ++ (e, os) :: ys → applicationBytes os ≠ [] →
    ∃ xs₁ e₁ os₁ xs₂, xs = xs₁ ++ (e₁, os₁) :: xs₂ ∧ requestsOf os₁ ≠ [] ∧
      Socks4Granted (receives (xs₂.map Prod.fst ++ [e])).flatten

theorem granted_append {received : Bytes} (granted : Socks4Granted received) (more : Bytes) :
    Socks4Granted (received ++ more) := by
  obtain ⟨complete, code⟩ := granted
  have hlen : 1 < received.length := Nat.lt_of_lt_of_le (by decide) complete
  refine ⟨by rw [List.length_append]; omega, ?_⟩
  rw [byteAt, List.getD_append _ _ _ _ hlen]
  exact code

variable (proxyAddress : Address) (info : ConnInfo)

/-- Up to the first reply no application byte goes out. -/
theorem forwards_handshake {evs : List ConnEvent} (within : ∀ e ∈ evs, e.within = true)
    (quiet : ∀ e ∈ evs, e.isReceive = false) :
    ForwardsAfterGrant (lifetime proxyAddress info evs) := by
  intro xs e os ys split posts
  have form := (lifetime_handshake proxyAddress info within quiet).1
  have mem : (e, os) ∈ opened proxyAddress info evs := by
    rw [← form, split]
    exact List.mem_append_right _ List.mem_cons_self
  exact absurd (opened_silent proxyAddress info mem) posts

theorem replied_within {before after : List ConnEvent} {reply : Bytes}
    (hbefore : ∀ e ∈ before, e.within = true) (hafter : ∀ e ∈ after, e.within = true) :
    ∀ e ∈ before ++ .tcpReceive reply :: after, e.within = true := by
  intro e he
  rcases List.mem_append.mp he with he | he
  · exact hbefore e he
  · rcases List.mem_cons.mp he with rfl | he
    · rfl
    · exact hafter e he

theorem receives_handshake {evs : List ConnEvent} {tr : List (ConnEvent × List ConnOutput)}
    (quiet : ∀ e ∈ evs, e.isReceive = false)
    (part : ∀ x ∈ tr, x ∈ opened proxyAddress info evs) : receives (tr.map Prod.fst) = [] := by
  apply receives_eq_nil
  intro e he
  obtain ⟨x, hx, rfl⟩ := List.mem_map.mp he
  have hmem : x.1 ∈ (opened proxyAddress info evs).map Prod.fst :=
    List.mem_map_of_mem (part x hx)
  rw [opened_events] at hmem
  rcases List.mem_cons.mp hmem with hfirst | hrest
  · rw [hfirst]
    rfl
  · exact quiet _ hrest

/-- A write directly after the first reply goes out, so the reply has to grant. -/
theorem granted_of_forwards {before : List ConnEvent} {reply : Bytes}
    (within : ∀ e ∈ before, e.within = true) (quiet : ∀ e ∈ before, e.isReceive = false)
    (forwards : ForwardsAfterGrant (lifetime proxyAddress info
      (before ++ .tcpReceive reply :: [.tcpSend [0]]))) :
    info.remoteAddress.saFamily ≠ afInet6 ∧ sends before ≠ [] ∧ Socks4Granted reply := by
  have hwithin : ∀ e ∈ before ++ .tcpReceive reply :: [.tcpSend [0]], e.within = true :=
    replied_within within (by decide)
  have form := (lifetime_replied proxyAddress info hwithin quiet).1
  rw [form] at forwards
  obtain ⟨xs₁, e₁, os₁, xs₂, hsplit, hrequest, hgranted⟩ :=
    forwards (_ ++ [_]) (.tcpSend [0]) _ [] (List.append_cons _ _ _) (by decide)
  -- the request lies before the reply, since the flush posts none
  rcases split_last hsplit with ⟨hlast, _⟩ | ⟨front, rfl, hfront⟩
  · rw [(Prod.mk.inj hlast).2] at hrequest
    exact absurd (flush_requests _) hrequest
  · have hmem : (e₁, os₁) ∈ opened proxyAddress info before :=
      hfront ▸ List.mem_append_right _ List.mem_cons_self
    have hpart : ∀ x ∈ front, x ∈ opened proxyAddress info before :=
      fun x hx => hfront ▸ List.mem_append_right _ (List.mem_cons_of_mem _ hx)
    obtain ⟨hf, hsends⟩ := opened_request_origin proxyAddress info hmem hrequest
    refine ⟨hf, hsends, ?_⟩
    rw [List.map_append, receives_append, receives_append,
      receives_handshake proxyAddress info quiet hpart] at hgranted
    simpa [receives] using hgranted

/-- After a granting reply to a posted request, everything may go out. -/
theorem forwards_of_granted (ipv4 : info.remoteAddress.saFamily ≠ afInet6)
    {before after : List ConnEvent} {reply : Bytes}
    (within : ∀ e ∈ before ++ .tcpReceive reply :: after, e.within = true)
    (quiet : ∀ e ∈ before, e.isReceive = false) (written : sends before ≠ [])
    (granted : Socks4Granted reply) :
    ForwardsAfterGrant (lifetime proxyAddress info (before ++ .tcpReceive reply :: after)) := by
  intro xs e os ys split posts
  have form := (lifetime_replied proxyAddress info within quiet).1
  rw [form] at split
  -- nothing before the reply posts application bytes
  have hlacks : (e, os) ∉ opened proxyAddress info before :=
    fun hmem => posts (opened_silent proxyAddress info hmem)
  obtain ⟨mid, rfl, hback⟩ := split_beyond split hlacks
  -- what was received up to here begins with the reply
  have hreply : ∃ rest, mid.map Prod.fst ++ [e] = .tcpReceive reply :: rest := by
    cases mid with
    | nil =>
      obtain ⟨heq, _⟩ := List.cons.inj hback
      exact ⟨[], congrArg (fun x => [x]) (Prod.mk.inj heq).1.symm⟩
    | cons x mid =>
      obtain ⟨rfl, _⟩ := List.cons.inj hback
      exact ⟨mid.map Prod.fst ++ [e], rfl⟩
  obtain ⟨rest, hrest⟩ := hreply
  obtain ⟨buf, hbuf⟩ := List.exists_mem_of_ne_nil _ written
  obtain ⟨b₁, b₂, rfl⟩ := List.append_of_mem (mem_sends.mp hbuf)
  have hsplit : opened proxyAddress info (b₁ ++ .tcpSend buf :: b₂) =
      opened proxyAddress info b₁ ++
        (.tcpSend buf, handshakeOutputs info.remoteAddress (.tcpSend buf)) ::
          handshakeTrace info.remoteAddress b₂ :=
    opened_append proxyAddress info b₁ (.tcpSend buf :: b₂)
  refine ⟨opened proxyAddress info b₁, .tcpSend buf,
    handshakeOutputs info.remoteAddress (.tcpSend buf), handshakeTrace info.remoteAddress b₂ ++ mid,
    ?_, ?_, ?_⟩
  · rw [hsplit, List.append_assoc, List.cons_append]
  · simp [handshakeOutputs, ipv4, requestsOf]
  · have hpart : ∀ x ∈ handshakeTrace info.remoteAddress b₂,
        x ∈ opened proxyAddress info (b₁ ++ .tcpSend buf :: b₂) :=
      fun x hx => hsplit ▸ List.mem_append_right _ (List.mem_cons_of_mem _ hx)
    rw [List.map_append, List.append_assoc, hrest, receives_append,
      receives_handshake proxyAddress info quiet hpart]
    exact granted_append granted (receives rest).flatten

/-- Take a connection at its first reply. Whatever happens to it later, data
goes out only after a granted request exactly when the request was posted by
then and this one buffer holds a complete granting reply; before the first
reply nothing goes out. -/
theorem forwards_after_grant_iff (h : EventHandler) (id : EndpointId) (info : ConnInfo)
    (before : List (EndpointId × ConnEvent)) (reply : Bytes)
    (within : WithinLifetime id before) (quiet : ∀ e ∈ atIndex id before, e.isReceive = false) :
    ForwardsAfterGrant (history h id ((id, .tcpConnectRequest info) :: before)) ∧
    ((∀ after, WithinLifetime id after → ForwardsAfterGrant (history h id
        ((id, .tcpConnectRequest info) :: before ++ (id, .tcpReceive reply) :: after))) ↔
      info.remoteAddress.saFamily ≠ afInet6 ∧ sends (atIndex id before) ≠ [] ∧
        Socks4Granted reply) := by
  have hhistory : ∀ after, history h id
      ((id, .tcpConnectRequest info) :: before ++ (id, .tcpReceive reply) :: after) =
      lifetime h.proxyAddress info
        (atIndex id before ++ .tcpReceive reply :: atIndex id after) := by
    intro after
    rw [List.cons_append, history_lifetime, atIndex_append, atIndex_cons_self]
  constructor
  · rw [history_lifetime]
    exact forwards_handshake h.proxyAddress info within quiet
  constructor
  · intro forwards
    have now := forwards [(id, .tcpSend [0])] (by simp [WithinLifetime, ConnEvent.within])
    rw [hhistory, atIndex_cons_self] at now
    exact granted_of_forwards h.proxyAddress info within quiet now
  · rintro ⟨ipv4, written, granted⟩ after hafter
    rw [hhistory]
    exact forwards_of_granted h.proxyAddress info ipv4 (replied_within within hafter) quiet
      written granted

theorem forwards_after_grant_granted :
    ForwardsAfterGrant (history (EventHandler.initial localProxy) 7
        ((7, .tcpConnectRequest webRequest) :: [(7, .tcpSend [0x47])])) ∧
    ((∀ after, WithinLifetime 7 after →
        ForwardsAfterGrant (history (EventHandler.initial localProxy) 7
          ((7, .tcpConnectRequest webRequest) :: [(7, .tcpSend [0x47])] ++
            (7, .tcpReceive [0, s4rcSuccess, 0, 0, 0, 0, 0, 0]) :: after))) ↔
      webRequest.remoteAddress.saFamily ≠ afInet6 ∧
        sends (atIndex 7 [((7 : EndpointId), .tcpSend [0x47])]) ≠ [] ∧
        Socks4Granted [0, s4rcSuccess, 0, 0, 0, 0, 0, 0]) :=
  forwards_after_grant_iff _ 7 webRequest [(7, .tcpSend [0x47])] _ (by decide) (by decide)

/-- A refused request: the held byte is flushed all the same. -/
theorem refused_reply_forwards :
    ¬ ForwardsAfterGrant (history (EventHandler.initial localProxy) 7
      [(7, .tcpConnectRequest webRequest), (7, .tcpSend [0x47]),
        (7, .tcpReceive [0, 0x5b, 0, 0, 0, 0, 0, 0])]) := by
  intro forwards
  have whole : history (EventHandler.initial localProxy) 7
      [(7, .tcpConnectRequest webRequest), (7, .tcpSend [0x47]),
        (7, .tcpReceive [0, 0x5b, 0, 0, 0, 0, 0, 0])] =
      opened localProxy webRequest [.tcpSend [0x47]] ++
        [(.tcpReceive [0, 0x5b, 0, 0, 0, 0, 0, 0], flush [0x47])] := by decide
  rw [whole] at forwards
  obtain ⟨xs₁, e₁, os₁, xs₂, hsplit, _, hgranted⟩ :=
    forwards _ _ _ [] rfl (by decide)
  have hpart : ∀ x ∈ xs₂, x ∈ opened localProxy webRequest [.tcpSend [0x47]] := by
    intro x hx
    rw [hsplit]
    exact List.mem_append_right _ (List.mem_cons_of_mem _ hx)
  have silent : receives (xs₂.map Prod.fst) = [] :=
    receives_handshake localProxy webRequest (by decide) hpart
  rw [receives_append, silent] at hgranted
  revert hgranted
  decide

end Grant

section Destination

/-- A SOCKS4 CONNECT whose destination is this endpoint. -/
def Names (r : Socks4Request) (a : Address) : Prop :=
  r.version = socks4 ∧ r.command = s4cConnect ∧ a.saFamily ≠ afInet6 ∧
    r.port = a.sinPort ∧ r.ip = a.sinAddr

theorem connectTo_names {a : Address} (ipv4 : a.saFamily ≠ afInet6) : Names (connectTo a) a :=
  ⟨rfl, rfl, ipv4, rfl, rfl⟩

/-- The connection was rewritten to the proxy, every write asks for its
original destination, and every written byte is held. -/
structure Tunnelled (proxyAddress : Address) (info : ConnInfo) (held : Bytes)
    (tr : List (ConnEvent × List ConnOutput)) : Prop where
  rewritten : ∃ info', .connInfo info' ∈ outputs tr ∧ info'.remoteAddress = proxyAddress
  requested : ∀ buf os, (.tcpSend buf, os) ∈ tr →
    ∃ r ∈ requestsOf os, Names r info.remoteAddress
  retained : held = (sends (tr.map Prod.fst)).flatten

theorem redirect_rewrites {proxyAddress : Address} {info : ConnInfo}
    (other : isProxyAddress proxyAddress info.remoteAddress = false) :
    (redirect proxyAddress info).remoteAddress = proxyAddress := by
  simp [redirect, other]

/-- What a write causes while the proxy has not answered. -/
theorem opened_send {proxyAddress : Address} {info : ConnInfo} {evs : List ConnEvent}
    {buf : Bytes} {os : List ConnOutput}
    (mem : (.tcpSend buf, os) ∈ opened proxyAddress info evs) :
    os = handshakeOutputs info.remoteAddress (.tcpSend buf) := by
  rcases List.mem_cons.mp mem with heq | mem
  · cases heq
  · obtain ⟨e, _, heq⟩ := List.mem_map.mp mem
    obtain ⟨rfl, rfl⟩ := Prod.mk.inj heq
    rfl

/-- A redirected connection that the proxy has not answered is tunnelled
exactly when its destination is not IPv6 or nothing was written. -/
theorem tunnelled_iff (h : EventHandler) (id : EndpointId) (info : ConnInfo)
    (evs : List (EndpointId × ConnEvent)) (within : WithinLifetime id evs)
    (quiet : ∀ e ∈ atIndex id evs, e.isReceive = false)
    (redirected : isProxyAddress h.proxyAddress info.remoteAddress = false) :
    Tunnelled h.proxyAddress info
        (pended (EventHandler.machine.run h ((id, .tcpConnectRequest info) :: evs)) id)
        (history h id ((id, .tcpConnectRequest info) :: evs)) ↔
      info.remoteAddress.saFamily ≠ afInet6 ∨ sends (atIndex id evs) = [] := by
  obtain ⟨form, held⟩ := lifetime_handshake h.proxyAddress info within quiet
  have hheld := (pended_heldAfter h id info (atIndex_nil id) evs).trans held
  rw [List.nil_append] at hheld
  rw [history_lifetime, hheld, form]
  constructor
  · intro tunnelled
    by_cases hf : info.remoteAddress.saFamily = afInet6
    · right
      by_contra written
      obtain ⟨buf, hbuf⟩ := List.exists_mem_of_ne_nil _ written
      have hmem : (.tcpSend buf, handshakeOutputs info.remoteAddress (.tcpSend buf)) ∈
          opened h.proxyAddress info (atIndex id evs) :=
        List.mem_cons_of_mem _ (List.mem_map_of_mem (mem_sends.mp hbuf))
      obtain ⟨r, _, _, _, ipv4, _⟩ := tunnelled.requested _ _ hmem
      exact ipv4 hf
    · exact Or.inl hf
  · intro hinput
    refine ⟨?_, ?_, ?_⟩
    · refine ⟨redirect h.proxyAddress info, ?_, redirect_rewrites redirected⟩
      rw [opened, outputs_cons]
      exact List.mem_append_left _ List.mem_cons_self
    · intro buf os hmem
      have hsent : buf ∈ sends (atIndex id evs) := by
        have hfst := List.mem_map_of_mem (f := Prod.fst) hmem
        rw [opened_events] at hfst
        exact mem_sends.mpr ((List.mem_cons.mp hfst).resolve_left (by simp))
      have ipv4 : info.remoteAddress.saFamily ≠ afInet6 :=
        hinput.resolve_right (List.ne_nil_of_mem hsent)
      refine ⟨connectTo info.remoteAddress, ?_, connectTo_names ipv4⟩
      rw [opened_send hmem]
      simp [handshakeOutputs, ipv4, requestsOf]
    · rw [opened_events]
      change heldBytes _ _ = (sends (atIndex id evs)).flatten
      rcases hinput with ipv4 | nothing
      · exact if_neg ipv4
      · simp [heldBytes, nothing]

theorem tunnelled_ipv4_write :
    Tunnelled localProxy webRequest
        (pended (EventHandler.machine.run (EventHandler.initial localProxy)
          ((7, .tcpConnectRequest webRequest) :: [(7, .tcpSend [0x47])])) 7)
        (history (EventHandler.initial localProxy) 7
          ((7, .tcpConnectRequest webRequest) :: [(7, .tcpSend [0x47])])) ↔
      webRequest.remoteAddress.saFamily ≠ afInet6 ∨
        sends (atIndex 7 [((7 : EndpointId), .tcpSend [0x47])]) = [] :=
  tunnelled_iff (EventHandler.initial localProxy) 7 webRequest [(7, .tcpSend [0x47])]
    (by decide) (by decide) (by decide)

/-- A connection to [2001:db8::1]:80. -/
def ipv6Request : ConnInfo :=
  ⟨0, Address.zero.write (sockaddrIn6
    [0x20, 0x01, 0x0d, 0xb8, 0, 0, 0, 0, 0, 0, 0, 0, 0, 0, 0, 1] [0, 80])⟩

/-- An IPv6 destination is redirected, and its first write vanishes. -/
theorem ipv6_write_dropped :
    isProxyAddress localProxy ipv6Request.remoteAddress = false ∧
    ¬ Tunnelled localProxy ipv6Request
      (pended (EventHandler.machine.run (EventHandler.initial localProxy)
        [(7, .tcpConnectRequest ipv6Request), (7, .tcpSend [0x47])]) 7)
      (history (EventHandler.initial localProxy) 7
        [(7, .tcpConnectRequest ipv6Request), (7, .tcpSend [0x47])]) := by
  refine ⟨by decide, ?_⟩
  intro tunnelled
  have retained := tunnelled.retained
  revert retained
  decide

end Destination

end TcpTunnel
