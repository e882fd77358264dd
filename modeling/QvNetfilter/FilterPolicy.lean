import QvNetfilter.FilterRules

/-!
# What the rule list decides

The policy that the rules stand for, in terms of the user's rules and of the
address ranges that bypass the proxy, and the flows on which the list that
`NetFilterCore::Start` builds decides as the policy says.
-/

namespace FilterPolicy

open Memory Socks FilterRules

section Policy
variable (nameMatches : List UInt16 → List UInt16 → Bool)

/-- A user's rule covers a flow. -/
structure Covers (rule : FilterRule) (flow : Flow) : Prop where
  protocol : rule.networkType = .networkUnspecified ∨
    rule.networkType.value = flow.protocol.value
  port : if rule.portTo ≠ 0 then
      rule.portFrom ≤ flow.remotePort.toNat ∧ flow.remotePort.toNat ≤ rule.portTo
    else rule.portFrom = 0 ∨ rule.portFrom = flow.remotePort.toNat
  name : cString rule.processName = [] ∨ nameMatches (cString rule.processName) flow.processName

/-- What the filter rules can hold: ports of 16 bits, names below `MAX_PATH`. -/
structure WellFormed (rule : FilterRule) : Prop where
  portFrom : 0 ≤ rule.portFrom ∧ rule.portFrom ≤ 65535
  portTo : 0 ≤ rule.portTo ∧ rule.portTo ≤ 65535
  name : rule.processName.length < maxPath

/-- `::1` -/
def loopback6 : Bytes := [0, 0, 0, 0, 0, 0, 0, 0, 0, 0, 0, 0, 0, 0, 0, 1]

/-- `::ffff:127.0.0.1` -/
def mappedLoopback6 : Bytes := [0, 0, 0, 0, 0, 0, 0, 0, 0, 0, 0xff, 0xff, 127, 0, 0, 1]

/-- 10/8, 127/8, 172.16/12, 192.168/16 and 224/4. -/
def PrivateIpv4 (a b : UInt8) : Prop :=
  a = 10 ∨ a = 127 ∨ (a = 172 ∧ 16 ≤ b ∧ b ≤ 31) ∨ (a = 192 ∧ b = 168) ∨ (224 ≤ a ∧ a ≤ 239)

def PrivateIpv6 (bytes : Bytes) : Prop := bytes = loopback6 ∨ bytes = mappedLoopback6

instance (a b : UInt8) : Decidable (PrivateIpv4 a b) := inferInstanceAs (Decidable (_ ∨ _))

instance (bytes : Bytes) : Decidable (PrivateIpv6 bytes) := inferInstanceAs (Decidable (_ ∨ _))

/-- The addresses that the proxy is bypassed for. -/
def Private : IpAddress → Prop
  | .ipv4 a b _ _ => PrivateIpv4 a b
  | .ipv6 bytes _ => PrivateIpv6 bytes

instance (addr : IpAddress) : Decidable (Private addr) :=
  match addr with
  | .ipv4 a b _ _ => inferInstanceAs (Decidable (PrivateIpv4 a b))
  | .ipv6 bytes _ => inferInstanceAs (Decidable (PrivateIpv6 bytes))

def Allowed (rules : List FilterRule) (flow : Flow) : Prop :=
  (∃ rule ∈ rules, Covers nameMatches rule flow) ∨ Private flow.remoteAddress

def catchAll : Protocol → NfRuleEx
  | .tcp => proxyTcp
  | .udp => proxyUdp

/-- A list decides a flow by the policy: it allows what is allowed, and leaves the
rest to the last rule for the flow's protocol. -/
structure DecidesByPolicy (rules : List FilterRule) (list : RuleList) (flow : Flow) : Prop where
  allows : (decidingRule nameMatches list flow).map (·.filteringFlag) = some nfAllow ↔
    Allowed nameMatches rules flow
  proxies : ¬ Allowed nameMatches rules flow →
    decidingRule nameMatches list flow = some (catchAll flow.protocol)

end Policy

section UserRules
variable (nameMatches : List UInt16 → List UInt16 → Bool)

theorem noName_empty : cString noName = [] := by decide

theorem protocol_match (rule : FilterRule) (n : Nat) :
    ((userRule rule).protocol = 0 ∨ (userRule rule).protocol = n) ↔
      rule.networkType = .networkUnspecified ∨ rule.networkType.value = n := by
  cases h : rule.networkType <;> simp [userRule, h, NetworkType.value]

/-- The two port fields of a user's rule express its range, single port or wildcard. -/
theorem ports_match {rule : FilterRule} (wellFormed : WellFormed rule) (port : UInt16) :
    ((userRule rule).remotePort = 0 ∨ (userRule rule).remotePort = port) ∧
        rangeMatches (userRule rule).remotePortRange port = true ↔
      if rule.portTo ≠ 0 then rule.portFrom ≤ port.toNat ∧ port.toNat ≤ rule.portTo
      else rule.portFrom = 0 ∨ rule.portFrom = port.toNat := by
  obtain ⟨fromLo, fromHi⟩ := wellFormed.portFrom
  obtain ⟨toLo, toHi⟩ := wellFormed.portTo
  have hfrom := toUShort_toNat fromLo fromHi
  have hto := toUShort_toNat toLo toHi
  by_cases range : rule.portTo = 0
  · by_cases single : rule.portFrom = 0
    · simp [userRule, range, single, rangeMatches]
    · have hne : toUShort rule.portFrom ≠ 0 :=
        fun h => single ((toUShort_eq_zero_iff fromLo fromHi).mp h)
      simp only [userRule, range, single, rangeMatches, hne, ne_eq, not_true_eq_false,
        not_false_eq_true, if_true, if_false, false_or, and_self, and_true]
      rw [← UInt16.toNat_inj]
      omega
  · have hne : toUShort rule.portTo ≠ 0 := fun h => range ((toUShort_eq_zero_iff toLo toHi).mp h)
    simp only [userRule, range, rangeMatches, hne, ne_eq, not_false_eq_true, if_true, and_false,
      if_false, true_or, true_and, UInt16.le_iff_toNat_le, decide_eq_true_eq]
    omega

theorem name_match {rule : FilterRule} (wellFormed : WellFormed rule) :
    cString (userRule rule).processName = cString rule.processName := by
  by_cases empty : rule.processName = []
  · simp only [userRule, empty, ne_eq, not_true_eq_false, if_false]
    exact noName_empty
  · simp only [userRule, empty, ne_eq, not_false_eq_true, if_true]
    exact cString_wcsncpy wellFormed.name

/-- A user's rule restricts the protocol, the remote port and the process, and nothing
else. -/
theorem ruleMatches_userRule (rule : FilterRule) (flow : Flow) :
    ruleMatches nameMatches (userRule rule) flow = true ↔
      ((userRule rule).protocol = 0 ∨ (userRule rule).protocol = flow.protocol.value) ∧
      (((userRule rule).remotePort = 0 ∨ (userRule rule).remotePort = flow.remotePort) ∧
        rangeMatches (userRule rule).remotePortRange flow.remotePort = true) ∧
      (cString (userRule rule).processName = [] ∨
        nameMatches (cString (userRule rule).processName) flow.processName = true) := by
  have hzero : ∀ addr, addressMatches noAddress noAddress addr = true := fun _ => rfl
  have hrange : rangeMatches ⟨0, 0⟩ flow.localPort = true := rfl
  constructor
  · intro h
    have h := of_decide_eq_true h
    obtain ⟨protocol, _, _, _, port, _, _, _, name, _, range⟩ := h
    exact ⟨protocol, ⟨port, range⟩, name⟩
  · rintro ⟨protocol, ⟨single, range⟩, name⟩
    exact decide_eq_true ⟨protocol, Or.inl rfl, Or.inl rfl, Or.inl rfl, single, Or.inl rfl,
      hzero _, hzero _, name, hrange, range⟩

/-- The driver matches the rule that `Start` builds exactly where the user's rule covers. -/
theorem userRule_matches {rule : FilterRule} (wellFormed : WellFormed rule) (flow : Flow) :
    ruleMatches nameMatches (userRule rule) flow = true ↔ Covers nameMatches rule flow := by
  have hports := ports_match wellFormed flow.remotePort
  have hprotocol := protocol_match rule flow.protocol.value
  rw [ruleMatches_userRule, name_match wellFormed]
  constructor
  · rintro ⟨protocol, port, name⟩
    exact ⟨hprotocol.mp protocol, hports.mp port, name⟩
  · rintro ⟨protocol, port, name⟩
    exact ⟨hprotocol.mpr protocol, hports.mpr port, name⟩

end UserRules

section PrivateRules
variable (nameMatches : List UInt16 → List UInt16 → Bool)

/-- A rule that restricts nothing but the remote address. -/
def addressRule (family : Nat) (field mask : Bytes) : NfRuleEx :=
  NfRule.extended { NfRule.zero with
    filteringFlag := nfAllow
    ipFamily := family
    remoteIpAddress := field
    remoteIpAddressMask := mask }

theorem addressRule_matches {family : Nat} (nonzero : family ≠ 0) (field mask : Bytes)
    (flow : Flow) :
    ruleMatches nameMatches (addressRule family field mask) flow = true ↔
      family = flow.remoteAddress.family ∧
        addressMatches field mask flow.remoteAddress = true := by
  have hname : cString (addressRule family field mask).processName = [] := noName_empty
  constructor
  · intro h
    have h := of_decide_eq_true h
    obtain ⟨_, _, _, _, _, hfamily, _, haddress, _⟩ := h
    exact ⟨hfamily.resolve_left nonzero, haddress⟩
  · rintro ⟨hfamily, haddress⟩
    exact decide_eq_true ⟨Or.inl rfl, Or.inl rfl, Or.inl rfl, Or.inl rfl, Or.inl rfl,
      Or.inr hfamily, rfl, haddress, Or.inl hname, rfl, rfl⟩

def ipv4Field (x y z w : UInt8) : Bytes := [x, y, z, w] ++ List.replicate 12 0

theorem privateIpv4Address_fields {addr mask : String} {x y z w k l m n : UInt8}
    (haddr : dottedQuad addr = some [x, y, z, w]) (hmask : dottedQuad mask = some [k, l, m, n]) :
    (privateIpv4Address addr mask).extended =
      addressRule afInet (ipv4Field x y z w) (ipv4Field k l m n) := by
  simp only [privateIpv4Address, inetPton, haddr, hmask]
  rfl

theorem addressMatches_ipv4 {x y z w k l m n : UInt8} (address : x ≠ 0) (masked : k ≠ 0)
    (a b c d : UInt8) :
    addressMatches (ipv4Field x y z w) (ipv4Field k l m n) (.ipv4 a b c d) = true ↔
      a &&& k = x &&& k ∧ b &&& l = y &&& l ∧ c &&& m = z &&& m ∧ d &&& n = w &&& n := by
  simp [addressMatches, ipv4Field, IpAddress.bytes, address, masked]

/-- The bits of one byte that the private networks' masks keep. -/
theorem byte_masks : ∀ n : Fin 256,
    (UInt8.ofNat n &&& 255 = UInt8.ofNat n) ∧
    (UInt8.ofNat n &&& 240 = 16 &&& 240 ↔ 16 ≤ UInt8.ofNat n ∧ UInt8.ofNat n ≤ 31) ∧
    (UInt8.ofNat n &&& 240 = 224 &&& 240 ↔ 224 ≤ UInt8.ofNat n ∧ UInt8.ofNat n ≤ 239) := by
  decide +kernel

theorem and_255 (a : UInt8) : a &&& 255 = a := by
  have h := (byte_masks ⟨a.toNat, a.toNat_lt⟩).1
  simpa using h

theorem and_240_eq_16 (a : UInt8) : a &&& 240 = 16 &&& 240 ↔ 16 ≤ a ∧ a ≤ 31 := by
  have h := (byte_masks ⟨a.toNat, a.toNat_lt⟩).2.1
  simpa using h

theorem and_240_eq_224 (a : UInt8) : a &&& 240 = 224 &&& 240 ↔ 224 ≤ a ∧ a ≤ 239 := by
  have h := (byte_masks ⟨a.toNat, a.toNat_lt⟩).2.2
  simpa using h

/-- A private network's rule matches the IPv4 addresses inside the network. -/
theorem privateIpv4_matches {addr mask : String} {x y z w k l m n : UInt8}
    (haddr : dottedQuad addr = some [x, y, z, w]) (hmask : dottedQuad mask = some [k, l, m, n])
    (address : x ≠ 0) (masked : k ≠ 0) {flow : Flow} {a b c d : UInt8}
    (remote : flow.remoteAddress = .ipv4 a b c d) :
    ruleMatches nameMatches (privateIpv4Address addr mask).extended flow = true ↔
      a &&& k = x &&& k ∧ b &&& l = y &&& l ∧ c &&& m = z &&& m ∧ d &&& n = w &&& n := by
  rw [privateIpv4Address_fields haddr hmask, addressRule_matches nameMatches (by decide), remote,
    addressMatches_ipv4 address masked]
  exact ⟨And.right, And.intro rfl⟩

/-- An IPv4 rule never matches an IPv6 flow, and the other way round. -/
theorem addressRule_other_family {family : Nat} (nonzero : family ≠ 0) (field mask : Bytes)
    {flow : Flow} (other : family ≠ flow.remoteAddress.family) :
    ruleMatches nameMatches (addressRule family field mask) flow = false := by
  rw [Bool.eq_false_iff]
  intro h
  exact other ((addressRule_matches nameMatches nonzero field mask flow).mp h).1

/-- Every rule for the private networks allows. -/
theorem privateRules_allow : ∀ rule ∈ privateRules, rule.filteringFlag = nfAllow := by
  decide

/-- Among the private rules some rule matches an IPv4 flow exactly in the private networks. -/
theorem privateRules_ipv4 {flow : Flow} {a b c d : UInt8}
    (remote : flow.remoteAddress = .ipv4 a b c d) :
    (∃ rule ∈ privateRules, ruleMatches nameMatches rule flow = true) ↔ PrivateIpv4 a b := by
  have slash8 : dottedQuad "255.0.0.0" = some [255, 0, 0, 0] := by decide
  have slash12 : dottedQuad "255.240.0.0" = some [255, 240, 0, 0] := by decide
  have slash16 : dottedQuad "255.255.0.0" = some [255, 255, 0, 0] := by decide
  have slash4 : dottedQuad "240.0.0.0" = some [240, 0, 0, 0] := by decide
  have ten : dottedQuad "10.0.0.1" = some [10, 0, 0, 1] := by decide
  have loopback : dottedQuad "127.0.0.1" = some [127, 0, 0, 1] := by decide
  have twelve : dottedQuad "172.16.0.1" = some [172, 16, 0, 1] := by decide
  have sixteen : dottedQuad "192.168.0.1" = some [192, 168, 0, 1] := by decide
  have multicast : dottedQuad "224.0.0.1" = some [224, 0, 0, 1] := by decide
  have hfamily : afInet6 ≠ flow.remoteAddress.family := by
    rw [remote]
    exact (by decide : afInet6 ≠ afInet)
  have hloopback6 : ruleMatches nameMatches ipv6Loopback.extended flow = false :=
    addressRule_other_family nameMatches (by decide) _ _ hfamily
  have hmapped6 : ruleMatches nameMatches ipv6MappedLoopback.extended flow = false :=
    addressRule_other_family nameMatches (by decide) _ _ hfamily
  have hten := privateIpv4_matches nameMatches ten slash8 (by decide) (by decide) remote
  have hloopback := privateIpv4_matches nameMatches loopback slash8 (by decide) (by decide) remote
  have htwelve := privateIpv4_matches nameMatches twelve slash12 (by decide) (by decide) remote
  have hsixteen := privateIpv4_matches nameMatches sixteen slash16 (by decide) (by decide) remote
  have hmulticast := privateIpv4_matches nameMatches multicast slash4 (by decide) (by decide) remote
  simp [privateRules, PrivateIpv4, hten, hloopback, htwelve, hsixteen, hmulticast, hloopback6,
    hmapped6, and_255, and_240_eq_16, and_240_eq_224]

/-- The rule meant for `::ffff:127.0.0.1` has an all-zero address: it matches every
IPv6 flow. -/
theorem ipv6MappedLoopback_matches {flow : Flow} (remote : flow.remoteAddress.family = afInet6) :
    ruleMatches nameMatches ipv6MappedLoopback.extended flow = true := by
  have unparsed : dottedQuad "::ffff:127.0.0.1" = none := by decide
  have field : ipv6MappedLoopback.extended = addressRule afInet6 noAddress noAddress := by
    simp only [ipv6MappedLoopback, inetPton, unparsed]
    rfl
  rw [field, addressRule_matches nameMatches (by decide)]
  exact ⟨remote.symm, rfl⟩

end PrivateRules

section Decision
variable (nameMatches : List UInt16 → List UInt16 → Bool)

/-- A flow that some rule of a list matches is decided by a rule of that list. -/
theorem decided_by_front {front back : RuleList} {flow : Flow}
    (matched : ∃ rule ∈ front, ruleMatches nameMatches rule flow = true) :
    ∃ rule ∈ front, decidingRule nameMatches (front ++ back) flow = some rule := by
  obtain ⟨rule, hmem, hmatch⟩ := matched
  have found : (front.find? (fun rule => ruleMatches nameMatches rule flow)).isSome :=
    List.find?_isSome.mpr ⟨rule, hmem, hmatch⟩
  obtain ⟨first, hfirst⟩ := Option.isSome_iff_exists.mp found
  refine ⟨first, List.mem_of_find?_eq_some hfirst, ?_⟩
  rw [decidingRule, List.find?_append, hfirst]
  rfl

/-- A flow that no rule of a list matches is decided by what follows the list. -/
theorem decided_by_back {front back : RuleList} {flow : Flow}
    (unmatched : ¬ ∃ rule ∈ front, ruleMatches nameMatches rule flow = true) :
    decidingRule nameMatches (front ++ back) flow = decidingRule nameMatches back flow := by
  have none : front.find? (fun rule => ruleMatches nameMatches rule flow) = none := by
    rw [List.find?_eq_none]
    intro rule hmem hmatch
    exact unmatched ⟨rule, hmem, hmatch⟩
  rw [decidingRule, List.find?_append, none]
  rfl

/-- A rule that restricts nothing but the protocol. -/
theorem protocolRule_matches {protocol : Nat} (nonzero : protocol ≠ 0) (flag : UInt32)
    (flow : Flow) :
    ruleMatches nameMatches
        { NfRuleEx.zero with protocol := protocol, filteringFlag := flag } flow = true ↔
      protocol = flow.protocol.value := by
  constructor
  · intro h
    have h := of_decide_eq_true h
    exact h.1.resolve_left nonzero
  · intro hprotocol
    exact decide_eq_true ⟨Or.inr hprotocol, Or.inl rfl, Or.inl rfl, Or.inl rfl, Or.inl rfl,
      Or.inl rfl, rfl, rfl, Or.inl noName_empty, rfl, rfl⟩

theorem catchAll_decides (flow : Flow) :
    decidingRule nameMatches [proxyTcp, proxyUdp] flow = some (catchAll flow.protocol) := by
  have htcp := protocolRule_matches nameMatches (by decide : ipprotoTcp ≠ 0)
    nfIndicateConnectRequests flow
  have hudp := protocolRule_matches nameMatches (by decide : ipprotoUdp ≠ 0) nfFilter flow
  cases h : flow.protocol with
  | tcp =>
    have first : ruleMatches nameMatches proxyTcp flow = true := htcp.mpr (by rw [h]; rfl)
    simp [decidingRule, first, catchAll]
  | udp =>
    have other : ipprotoTcp ≠ flow.protocol.value := by
      rw [h]
      exact (by decide : ipprotoTcp ≠ ipprotoUdp)
    have second : ruleMatches nameMatches proxyUdp flow = true := hudp.mpr (by rw [h]; rfl)
    have first : ruleMatches nameMatches proxyTcp flow = false :=
      Bool.eq_false_iff.mpr (fun first => other (htcp.mp first))
    simp [decidingRule, first, second, catchAll]

theorem catchAll_proxies (protocol : Protocol) :
    (catchAll protocol).filteringFlag ≠ nfAllow := by
  cases protocol <;> decide

theorem users_matched {rules : List FilterRule} (wellFormed : ∀ rule ∈ rules, WellFormed rule)
    (flow : Flow) :
    (∃ rule ∈ (rules.map userRule).reverse, ruleMatches nameMatches rule flow = true) ↔
      ∃ rule ∈ rules, Covers nameMatches rule flow := by
  constructor
  · rintro ⟨rule, hmem, hmatch⟩
    obtain ⟨user, huser, rfl⟩ := List.mem_map.mp (List.mem_reverse.mp hmem)
    exact ⟨user, huser, (userRule_matches nameMatches (wellFormed user huser) flow).mp hmatch⟩
  · rintro ⟨user, huser, covers⟩
    refine ⟨userRule user, List.mem_reverse.mpr (List.mem_map_of_mem huser), ?_⟩
    exact (userRule_matches nameMatches (wellFormed user huser) flow).mpr covers

/-- The list that `Start` leaves in an empty driver. -/
def startRules (rules : List FilterRule) : RuleList := (start true true rules []).2

/-- The list decides a flow: a user's rule that covers it allows, then a private
rule that matches allows, then the rule for the protocol proxies. -/
theorem start_decides {rules : List FilterRule} (wellFormed : ∀ rule ∈ rules, WellFormed rule)
    (flow : Flow) :
    ((∃ rule ∈ rules, Covers nameMatches rule flow) ∨
        (∃ rule ∈ privateRules, ruleMatches nameMatches rule flow = true) →
      (decidingRule nameMatches (startRules rules) flow).map (·.filteringFlag) = some nfAllow) ∧
    (¬ (∃ rule ∈ rules, Covers nameMatches rule flow) →
      ¬ (∃ rule ∈ privateRules, ruleMatches nameMatches rule flow = true) →
      decidingRule nameMatches (startRules rules) flow = some (catchAll flow.protocol)) := by
  have hlist : startRules rules =
      (rules.map userRule).reverse ++ (privateRules ++ [proxyTcp, proxyUdp]) := by
    rw [startRules, start_list]
  have husers := users_matched nameMatches wellFormed flow
  rw [hlist, ← husers]
  constructor
  · intro hallowed
    by_cases user : ∃ rule ∈ (rules.map userRule).reverse, ruleMatches nameMatches rule flow = true
    · obtain ⟨rule, hmem, hdecides⟩ := decided_by_front nameMatches user
      obtain ⟨r, _, rfl⟩ := List.mem_map.mp (List.mem_reverse.mp hmem)
      rw [hdecides]
      rfl
    · obtain ⟨rule, hmem, hdecides⟩ :=
        decided_by_front nameMatches (hallowed.resolve_left user)
      rw [decided_by_back nameMatches user, hdecides]
      exact congrArg some (privateRules_allow rule hmem)
  · intro nouser noprivate
    rw [decided_by_back nameMatches nouser, decided_by_back nameMatches noprivate]
    exact catchAll_decides nameMatches flow

/-- The list decides a flow by the policy exactly when the flow is IPv4, or a
user's rule covers it, or it goes to one of the two IPv6 loopback addresses: every
other IPv6 flow is allowed by the rule whose address was not parsed. -/
theorem decides_by_policy_iff {rules : List FilterRule}
    (wellFormed : ∀ rule ∈ rules, WellFormed rule) (flow : Flow) :
    DecidesByPolicy nameMatches rules (startRules rules) flow ↔
      flow.remoteAddress.family = afInet ∨ (∃ rule ∈ rules, Covers nameMatches rule flow) ∨
        PrivateIpv6 flow.remoteAddress.bytes := by
  obtain ⟨allows, proxies⟩ := start_decides nameMatches wellFormed flow
  cases remote : flow.remoteAddress with
  | ipv4 a b c d =>
    have hprivate : (∃ rule ∈ privateRules, ruleMatches nameMatches rule flow = true) ↔
        Private flow.remoteAddress := by
      rw [remote]
      exact privateRules_ipv4 nameMatches remote
    rw [hprivate] at allows proxies
    refine iff_of_true ⟨⟨?_, allows⟩, ?_⟩ (Or.inl rfl)
    · intro hallow
      by_contra notAllowed
      rw [Allowed, not_or] at notAllowed
      rw [proxies notAllowed.1 notAllowed.2] at hallow
      exact catchAll_proxies _ (Option.some.inj hallow)
    · intro notAllowed
      rw [Allowed, not_or] at notAllowed
      exact proxies notAllowed.1 notAllowed.2
  | ipv6 bytes size =>
    have hfamily : flow.remoteAddress.family = afInet6 := by
      rw [remote]
      rfl
    have hmapped := ipv6MappedLoopback_matches nameMatches hfamily
    have hallow := allows (Or.inr ⟨_, by simp [privateRules], hmapped⟩)
    constructor
    · intro policy
      have hallowed := policy.allows.mp hallow
      rw [Allowed, remote] at hallowed
      exact Or.inr hallowed
    · intro hinput
      have hallowed : Allowed nameMatches rules flow := by
        rw [Allowed, remote]
        exact hinput.resolve_left (by decide : afInet6 ≠ afInet)
      exact ⟨iff_of_true hallow hallowed, fun notAllowed => absurd hallowed notAllowed⟩

/-- The default rule for NTP. -/
def ntpRule : FilterRule := ⟨123, 0, .networkUdp, []⟩

/-- A tail mask without `*`. -/
def tailMatches (mask name : List UInt16) : Bool := mask.isSuffixOf name

/-- A connection from 192.168.0.2:50000 to `remote`, port 443. -/
def webFlow (remote : IpAddress) : Flow where
  protocol := .tcp
  processId := 4711
  localPort := 50000
  remotePort := 443
  localAddress := .ipv4 192 168 0 2
  remoteAddress := remote
  processName := []

theorem decides_by_policy_web :
    DecidesByPolicy tailMatches [ntpRule] (startRules [ntpRule])
        (webFlow (.ipv4 93 184 216 34)) ↔
      (webFlow (.ipv4 93 184 216 34)).remoteAddress.family = afInet ∨
        (∃ rule ∈ [ntpRule], Covers tailMatches rule (webFlow (.ipv4 93 184 216 34))) ∨
        PrivateIpv6 (webFlow (.ipv4 93 184 216 34)).remoteAddress.bytes :=
  decides_by_policy_iff tailMatches
    (by
      intro rule hmem
      obtain rfl := List.mem_singleton.mp hmem
      exact ⟨by decide, by decide, by decide⟩)
    (webFlow (.ipv4 93 184 216 34))

/-- A connection to [2001:db8::1]:443 bypasses the proxy. -/
theorem ipv6_flow_allowed :
    ¬ DecidesByPolicy tailMatches [ntpRule] (startRules [ntpRule])
      (webFlow (.ipv6 [0x20, 0x01, 0x0d, 0xb8, 0, 0, 0, 0, 0, 0, 0, 0, 0, 0, 0, 1] rfl)) := by
  intro policy
  have hallow := policy.allows.mp (by decide)
  rcases hallow with ⟨rule, hmem, covers⟩ | hprivate
  · obtain rfl := List.mem_singleton.mp hmem
    exact absurd covers.protocol (by decide)
  · exact absurd hprivate (by decide)

end Decision

end FilterPolicy
