import QvNetfilter.TcpTunnel

/-!
# Where the entries of the map come from

Every entry of `m_connInfoMap` in a reachable state was saved by a connect
request that no close has followed, and every CONNECT asks for the address of
such an entry. Whether the proxy itself is ever a destination is therefore
decided by the addresses of the connect requests alone.
-/

namespace TcpOrigin

open Memory Socks Mealy TcpRedirect TcpOutbound TcpTunnel

section SameEndpoint

/-- The two addresses name one endpoint: the same kind, port and host. -/
def SameEndpoint (a b : Address) : Prop :=
  (a.saFamily = afInet6 ↔ b.saFamily = afInet6) ∧ a.sinPort = b.sinPort ∧
    if a.saFamily = afInet6 then a.sin6Addr = b.sin6Addr else a.sinAddr = b.sinAddr

instance (a b : Address) : Decidable (SameEndpoint a b) :=
  inferInstanceAs (Decidable (_ ∧ _ ∧ _))

theorem byteAt_isProxyAddress {proxyAddress addr : Address}
    (same : isProxyAddress proxyAddress addr = true) {i : Nat} (hi : i < addr.addrLen) :
    byteAt addr.bytes i = byteAt proxyAddress.bytes i := by
  have htake : addr.bytes.take addr.addrLen = proxyAddress.bytes.take addr.addrLen := by
    simpa [isProxyAddress] using same
  calc byteAt addr.bytes i = byteAt (addr.bytes.take addr.addrLen) i := (byteAt_take hi).symm
    _ = byteAt (proxyAddress.bytes.take addr.addrLen) i := by rw [htake]
    _ = byteAt proxyAddress.bytes i := byteAt_take hi

theorem addrLen_ge (a : Address) : sizeofSockaddrIn ≤ a.addrLen := by
  rw [Address.addrLen]
  split <;> decide

/-- What the redirect test takes for the proxy is the proxy's endpoint. -/
theorem sameEndpoint_of_isProxyAddress {proxyAddress addr : Address}
    (same : isProxyAddress proxyAddress addr = true) : SameEndpoint addr proxyAddress := by
  have hlen : 16 ≤ addr.addrLen := addrLen_ge addr
  have hfamily : addr.saFamily = proxyAddress.saFamily := by
    rw [Address.saFamily, Address.saFamily, byteAt_isProxyAddress same (by omega),
      byteAt_isProxyAddress same (by omega)]
  refine ⟨by rw [hfamily], ?_, ?_⟩
  · exact readBytes_congr (fun i _ hi => byteAt_isProxyAddress same (by omega))
  · split
    · rename_i hf
      have hlen6 : addr.addrLen = 28 := if_pos hf
      exact readBytes_congr (fun i _ hi => byteAt_isProxyAddress same (by omega))
    · exact readBytes_congr (fun i _ hi => byteAt_isProxyAddress same (by omega))

/-- A request that names the proxy was built from the proxy's endpoint. -/
theorem sameEndpoint_of_names {proxyAddress addr : Address} (ipv4 : addr.saFamily ≠ afInet6)
    (names : Names (connectTo addr) proxyAddress) : SameEndpoint addr proxyAddress := by
  obtain ⟨_, _, proxyIpv4, hport, hip⟩ := names
  refine ⟨iff_of_false ipv4 proxyIpv4, hport, ?_⟩
  rw [if_neg ipv4]
  exact hip

end SameEndpoint

section Origin
variable (proxyAddress : Address)

/-- After a step an entry is the one that a connect request saved, or it
carries the address it had. -/
theorem entry_step {entry : Option OriginalConnInfo} {e : ConnEvent} {oci : OriginalConnInfo}
    (saved : ((connection proxyAddress).step entry e).1 = some oci) :
    (∃ info, e = .tcpConnectRequest info ∧ oci.remoteAddress = info.remoteAddress) ∨
    (e ≠ .tcpClosed ∧ ∃ oci₀, entry = some oci₀ ∧ oci.remoteAddress = oci₀.remoteAddress) := by
  cases e with
  | tcpConnectRequest info =>
    obtain rfl : (⟨info.remoteAddress, []⟩ : OriginalConnInfo) = oci := Option.some.inj saved
    exact Or.inl ⟨info, rfl, rfl⟩
  | tcpClosed => cases saved
  | tcpReceive buf => cases entry <;> cases saved
  | tcpSend buf =>
    cases entry with
    | none => cases saved
    | some oci₀ =>
      refine Or.inr ⟨by simp, oci₀, rfl, ?_⟩
      by_cases hf : oci₀.remoteAddress.saFamily = afInet6
      · simp only [connection, hf, if_true, Option.some.injEq] at saved
        rw [← saved]
      · simp only [connection, hf, if_false, Option.some.injEq] at saved
        rw [← saved]
  | tcpConnected => exact Or.inr ⟨by simp, oci, saved, rfl⟩
  | tcpCanReceive => exact Or.inr ⟨by simp, oci, saved, rfl⟩
  | tcpCanSend => exact Or.inr ⟨by simp, oci, saved, rfl⟩

/-- Over a run, an entry goes back to a connect request with no close after it,
or to the entry the run began with. -/
theorem entry_run {entry : Option OriginalConnInfo} {evs : List ConnEvent}
    {oci : OriginalConnInfo} (saved : (connection proxyAddress).run entry evs = some oci) :
    (∃ before info after, evs = before ++ .tcpConnectRequest info :: after ∧
      oci.remoteAddress = info.remoteAddress ∧ .tcpClosed ∉ after) ∨
    (.tcpClosed ∉ evs ∧ ∃ oci₀, entry = some oci₀ ∧ oci.remoteAddress = oci₀.remoteAddress) := by
  induction evs generalizing entry with
  | nil => exact Or.inr ⟨List.not_mem_nil, oci, saved, rfl⟩
  | cons e rest ih =>
    rcases ih saved with ⟨before, info, after, rfl, haddr, hclosed⟩ | ⟨hrest, oci₁, hstep, haddr⟩
    · exact Or.inl ⟨e :: before, info, after, rfl, haddr, hclosed⟩
    · rcases entry_step proxyAddress hstep with ⟨info, rfl, hinfo⟩ | ⟨hne, oci₀, hentry, hsame⟩
      · exact Or.inl ⟨[], info, rest, rfl, haddr.trans hinfo, hrest⟩
      · refine Or.inr ⟨?_, oci₀, hentry, haddr.trans hsame⟩
        rintro hmem
        rcases List.mem_cons.mp hmem with heq | hmem
        · exact hne heq.symm
        · exact hrest hmem

/-- An entry of a reachable map: the connect request that saved it. -/
theorem entry_origin {id : EndpointId} {evs : List (EndpointId × ConnEvent)}
    {oci : OriginalConnInfo}
    (saved : (EventHandler.machine.run (EventHandler.initial proxyAddress) evs).connInfoMap id =
      some oci) :
    ∃ before info after, evs = before ++ (id, .tcpConnectRequest info) :: after ∧
      oci.remoteAddress = info.remoteAddress ∧ (id, .tcpClosed) ∉ after := by
  have component := (entry_eq _ id evs).symm.trans saved
  rcases entry_run proxyAddress component with
    ⟨before, info, after, hevs, haddr, hclosed⟩ | ⟨_, oci₀, hnone, _⟩
  · obtain ⟨pre, post, hsplit, _, hpost⟩ := atIndex_split hevs
    refine ⟨pre, info, post, hsplit, haddr, ?_⟩
    intro hmem
    exact hclosed (hpost ▸ mem_atIndex.mpr hmem)
  · cases hnone

/-- A posted request asks for the address of the entry it was built from. -/
theorem request_step {entry : Option OriginalConnInfo} {e : ConnEvent} {r : Socks4Request}
    (posted : r ∈ requestsOf ((connection proxyAddress).step entry e).2) :
    ∃ oci, entry = some oci ∧ oci.remoteAddress.saFamily ≠ afInet6 ∧
      r = connectTo oci.remoteAddress := by
  cases entry with
  | none => cases e <;> exact absurd posted List.not_mem_nil
  | some oci =>
    refine ⟨oci, rfl, ?_⟩
    cases e with
    | tcpSend buf =>
      by_cases hf : oci.remoteAddress.saFamily = afInet6
      · simp [connection, hf, requestsOf] at posted
      · exact ⟨hf, by simpa [connection, hf, requestsOf] using posted⟩
    | tcpReceive buf =>
      have hnone : requestsOf (flush oci.pendedSends) = [] := flush_requests oci.pendedSends
      exact absurd posted (by rw [connection, hnone]; exact List.not_mem_nil)
    | tcpConnectRequest | tcpConnected | tcpClosed | tcpCanReceive | tcpCanSend =>
      exact absurd posted List.not_mem_nil

theorem mem_requestsOf_outputs {tr : List (ConnEvent × List ConnOutput)} {r : Socks4Request}
    (mem : r ∈ requestsOf (outputs tr)) : ∃ e os, (e, os) ∈ tr ∧ r ∈ requestsOf os := by
  obtain ⟨⟨e, os⟩, hx, ho⟩ := List.mem_flatMap.mp (mem_requestsOf.mp mem)
  exact ⟨e, os, hx, mem_requestsOf.mpr ho⟩

/-- A request posted in a run goes back to a connect request of the run. -/
theorem request_origin {id : EndpointId} {evs : List (EndpointId × ConnEvent)}
    {r : Socks4Request}
    (posted : r ∈ requestsOf (outputs (history (EventHandler.initial proxyAddress) id evs))) :
    ∃ info, (id, .tcpConnectRequest info) ∈ evs ∧
      info.remoteAddress.saFamily ≠ afInet6 ∧ r = connectTo info.remoteAddress := by
  obtain ⟨e, os, hmem, hr⟩ := mem_requestsOf_outputs posted
  rw [history_eq] at hmem
  obtain ⟨xs, ys, split⟩ := List.append_of_mem hmem
  obtain ⟨before, after, hevs, _, rfl⟩ := Machine.trace_split _ split
  obtain ⟨oci, hentry, ipv4, rfl⟩ := request_step _ hr
  rcases entry_run _ hentry with ⟨b, info, a, rfl, haddr, _⟩ | ⟨_, oci₀, hnone, _⟩
  · refine ⟨info, mem_atIndex.mp ?_, haddr ▸ ipv4, by rw [haddr]⟩
    rw [hevs]
    simp
  · cases hnone

end Origin

section NoSelfProxy
variable (proxyAddress : Address)

/-- The proxy is not proxied, anywhere in a run: no entry stores its endpoint,
every entry goes back to a request that was redirected, a repeated request for
the rewritten address changes nothing, and no CONNECT names the proxy. -/
structure NoSelfProxy (evs : List (EndpointId × ConnEvent)) : Prop where
  stored : ∀ before after, evs = before ++ after → ∀ id oci,
    (EventHandler.machine.run (EventHandler.initial proxyAddress) before).connInfoMap id =
      some oci → ¬ SameEndpoint oci.remoteAddress proxyAddress
  redirected : ∀ before after, evs = before ++ after → ∀ id oci,
    (EventHandler.machine.run (EventHandler.initial proxyAddress) before).connInfoMap id =
      some oci →
    ∃ pre info post, before = pre ++ (id, .tcpConnectRequest info) :: post ∧
      isProxyAddress proxyAddress info.remoteAddress = false ∧ (id, .tcpClosed) ∉ post
  repeated : ∀ before id info after, evs = before ++ (id, .tcpConnectRequest info) :: after →
    isProxyAddress proxyAddress info.remoteAddress = true →
    (EventHandler.machine.run (EventHandler.initial proxyAddress)
        (before ++ [(id, .tcpConnectRequest info)])).connInfoMap id =
      (EventHandler.machine.run (EventHandler.initial proxyAddress) before).connInfoMap id
  named : ∀ id, ∀ r ∈ requestsOf (outputs (history (EventHandler.initial proxyAddress) id evs)),
    ¬ Names r proxyAddress

/-- Directly after a connect request its own address is stored. -/
theorem stored_after_connect (before : List (EndpointId × ConnEvent)) (id : EndpointId)
    (info : ConnInfo) :
    (EventHandler.machine.run (EventHandler.initial proxyAddress)
      (before ++ [(id, .tcpConnectRequest info)])).connInfoMap id =
        some ⟨info.remoteAddress, []⟩ := by
  rw [entry_eq, atIndex_append, atIndex_cons_self, Machine.run_append]
  rfl

/-- The proxy is never proxied exactly in the runs in which no connect request
carries the proxy's endpoint. -/
theorem no_self_proxy_iff (evs : List (EndpointId × ConnEvent)) :
    NoSelfProxy proxyAddress evs ↔
      ∀ id info, (id, .tcpConnectRequest info) ∈ evs →
        ¬ SameEndpoint info.remoteAddress proxyAddress := by
  constructor
  · intro noSelf id info hmem
    obtain ⟨before, after, rfl⟩ := List.append_of_mem hmem
    exact noSelf.stored (before ++ [(id, .tcpConnectRequest info)]) after (by simp) id _
      (stored_after_connect proxyAddress before id info)
  · intro others
    refine ⟨?_, ?_, ?_, ?_⟩
    · rintro before after rfl id oci saved
      obtain ⟨pre, info, post, rfl, haddr, _⟩ := entry_origin proxyAddress saved
      rw [haddr]
      exact others id info (by simp)
    · rintro before after rfl id oci saved
      obtain ⟨pre, info, post, rfl, _, hclosed⟩ := entry_origin proxyAddress saved
      refine ⟨pre, info, post, rfl, ?_, hclosed⟩
      by_contra hproxy
      have same := sameEndpoint_of_isProxyAddress (eq_true_of_ne_false hproxy)
      exact others id info (by simp) same
    · rintro before id info after rfl same
      exact absurd (sameEndpoint_of_isProxyAddress same) (others id info (by simp))
    · intro id r hr names
      obtain ⟨info, hmem, ipv4, rfl⟩ := request_origin proxyAddress hr
      exact others id info hmem (sameEndpoint_of_names ipv4 names)

/-- The driver repeats a rewritten connect request: the proxy's address replaces
the saved one, and the held byte is gone. -/
theorem repeated_request_stored :
    ¬ NoSelfProxy localProxy [(7, .tcpConnectRequest webRequest), (7, .tcpSend [0x47]),
      (7, .tcpConnectRequest (redirect localProxy webRequest))] := by
  intro noSelf
  have same : isProxyAddress localProxy (redirect localProxy webRequest).remoteAddress = true := by
    decide
  have unchanged := noSelf.repeated [(7, .tcpConnectRequest webRequest), (7, .tcpSend [0x47])]
    7 _ [] rfl same
  rw [stored_after_connect] at unchanged
  revert unchanged
  decide

end NoSelfProxy

end TcpOrigin
