import QvNetfilter.ControlReceive
import QvNetfilter.Handshake

/-!
# The handshake under TCP segmentation

A reply of the server may arrive in any number of pieces, one for each completed
receive. The handler keeps no partial reply: every piece is read as a reply of
its own, from the start of the buffer. The conversation should end as it does
when each reply arrives in one piece; it is stated exactly for which cuts it does.
-/

namespace Segmentation

open Memory Socks Mealy UdpProxy UdpHistory ControlChannel ControlReceive
  Handshake

section Replies

/-- One thing for each of the server's replies. -/
structure Exchange (α : Type*) where
  method : α
  userPass : α
  associate : α

def Exchange.whole (r : Exchange Bytes) : Exchange (List Bytes) :=
  ⟨[r.method], [r.userPass], [r.associate]⟩

def AddressField (type : UInt8) (address : Bytes) : Prop :=
  (type = socks5AddrIpv4 ∧ address.length = 4) ∨ (type = socks5AddrIpv6 ∧ address.length = 16) ∨
  (type = socks5AddrDomain ∧ ∃ name : Bytes, name.length < 256 ∧
    address = UInt8.ofNat name.length :: name)

def AssociateReply (reply : Bytes) : Prop :=
  ∃ code type address port, reply = [socks5, code, 0, type] ++ address ++ port ∧
    AddressField type address ∧ port.length = 2

structure WellFormed (r : Exchange Bytes) : Prop where
  method : ∃ m, r.method = [socks5, m]
  userPass : ∃ status, r.userPass = [1, status]
  associate : AssociateReply r.associate

/-- The pieces that a reply is cut into, none of them empty. -/
def CutOf (reply : Bytes) (pieces : List Bytes) : Prop :=
  pieces.flatten = reply ∧ ∀ c ∈ pieces, c ≠ []

structure CutsOf (r : Exchange Bytes) (cuts : Exchange (List Bytes)) : Prop where
  method : CutOf r.method cuts.method
  userPass : CutOf r.userPass cuts.userPass
  associate : CutOf r.associate cuts.associate

theorem cutOf_nil {pieces : List Bytes} (cut : CutOf [] pieces) : pieces = [] := by
  cases pieces with
  | nil => rfl
  | cons c rest =>
    have empty : c = [] := (List.append_eq_nil_iff.mp cut.1).1
    exact absurd empty (cut.2 c List.mem_cons_self)

/-- The first byte of a reply is the first of the first piece. -/
theorem cutOf_cons {x : UInt8} {rest : Bytes} {pieces : List Bytes}
    (cut : CutOf (x :: rest) pieces) :
    ∃ front pieces', pieces = (x :: front) :: pieces' ∧
      front ++ pieces'.flatten = rest ∧ ∀ c ∈ pieces', c ≠ [] := by
  obtain ⟨split, nonempty⟩ := cut
  rcases pieces with _ | ⟨_ | ⟨y, front⟩, pieces'⟩
  · exact absurd split nofun
  · exact absurd rfl (nonempty [] List.mem_cons_self)
  · obtain ⟨rfl, hrest⟩ := List.cons_eq_cons.mp split
    exact ⟨front, pieces', rfl, hrest, fun c hc => nonempty c (List.mem_cons_of_mem _ hc)⟩

/-- A reply of two bytes arrives whole or byte by byte. -/
theorem cutOf_pair {x y : UInt8} {pieces : List Bytes} (cut : CutOf [x, y] pieces) :
    pieces = [[x, y]] ∨ pieces = [[x], [y]] := by
  obtain ⟨front, later, rfl, hrest, nonempty⟩ := cutOf_cons cut
  rcases front with _ | ⟨z, front⟩
  · obtain ⟨front, last, rfl, hlast, nonempty'⟩ := cutOf_cons ⟨hrest, nonempty⟩
    obtain ⟨rfl, hnil⟩ := List.append_eq_nil_iff.mp hlast
    rw [cutOf_nil ⟨hnil, nonempty'⟩]
    exact Or.inr rfl
  · obtain ⟨rfl, htail⟩ := List.cons_eq_cons.mp hrest
    obtain ⟨rfl, hnil⟩ := List.append_eq_nil_iff.mp htail
    rw [cutOf_nil ⟨hnil, nonempty⟩]
    exact Or.inl rfl

theorem cutOf_length {reply : Bytes} {pieces : List Bytes} (cut : CutOf reply pieces) {c : Bytes}
    (hc : c ∈ pieces) : c.length ≤ reply.length := by
  rw [← cut.1]
  exact (List.sublist_flatten_of_mem hc).length_le

theorem associateReply_length {reply : Bytes} (wellFormed : AssociateReply reply) :
    reply.length ≤ 262 := by
  obtain ⟨code, type, address, port, rfl, field, hport⟩ := wellFormed
  simp only [List.length_append, hport]
  rcases field with ⟨_, h⟩ | ⟨_, h⟩ | ⟨_, name, h, rfl⟩
  · simp [h]
  · simp [h]
  · simp only [List.length_cons, List.length_nil]
    omega

end Replies

section Reading
variable (config : Config)

/-- A piece that by itself passes the checks of `PS_UDP_ASSOC`. -/
def Passes (c : Bytes) : Prop :=
  sizeofSocks5Response ≤ c.length ∧ byteAt c 0 = socks5 ∧ byteAt c 1 = 0 ∧
    (byteAt c 3 = socks5AddrIpv4 ∨ byteAt c 3 = socks5AddrIpv6)

instance (c : Bytes) : Decidable (Passes c) := inferInstanceAs (Decidable (_ ∧ _ ∧ _ ∧ _))

/-- Where the port stands in a reply with an address of this type. -/
def portOffset (type : UInt8) : Nat := if type = socks5AddrIpv4 then 8 else 20

/-- The pieces, each written over the ones before it. -/
def overlay (buffer : Bytes) (pieces : List Bytes) : Bytes := pieces.foldl overwrite buffer

def portField (buffer : Bytes) (type : UInt8) : Bytes := readBytes buffer (portOffset type) 2

theorem portField_length (buffer : Bytes) (type : UInt8) : (portField buffer type).length = 2 :=
  readBytes_length ..

/-- The relay's `sockaddr`: the proxy's host and the reply's port. -/
def relayEndpoint (type : UInt8) (port : Bytes) : Bytes :=
  if type = socks5AddrIpv4 then sockaddrIn config.proxyAddress.sinAddr port
  else sockaddrIn6 config.proxyAddress.sin6Addr port

/-- The relay address that a sequence of pieces leads to: the first piece that passes
for a reply decides. -/
def relayAddress (buffer : Bytes) : List Bytes → Option Bytes
  | [] => none
  | c :: rest =>
    match udpAssocReply config (overwrite buffer c) c.length with
    | some addr => some addr
    | none => relayAddress (overwrite buffer c) rest

/-- The pieces of the ASSOCIATE reply mislead nobody: either none of them passes for a
reply, nor does the whole, or the first one that does has the whole's address type, and
the pieces up to it put the whole's port where it is read. -/
def AssociateCutOk (reply : Bytes) (pieces : List Bytes) : Prop :=
  ((∀ c ∈ pieces, ¬ Passes c) ∧ ¬ Passes reply) ∨
  ∃ front c back, pieces = front ++ c :: back ∧ (∀ d ∈ front, ¬ Passes d) ∧ Passes c ∧
    Passes reply ∧ byteAt c 3 = byteAt reply 3 ∧
    portField (overlay [] (front ++ [c])) (byteAt reply 3) = portField reply (byteAt reply 3)

theorem udpAssocReply_overwrite (buffer c : Bytes) :
    udpAssocReply config (overwrite buffer c) c.length =
      if Passes c then
        some (relayEndpoint config (byteAt c 3) (portField (overwrite buffer c) (byteAt c 3)))
      else none := by
  simp only [udpAssocReply]
  by_cases short : c.length < sizeofSocks5Response
  · rw [if_pos short, if_neg (fun passes => Nat.not_lt.mpr passes.1 short)]
  · have long : 5 ≤ c.length := Nat.le_of_not_lt short
    rw [if_neg short, byteAt_overwrite_of_lt (by omega), byteAt_overwrite_of_lt (by omega),
      byteAt_overwrite_of_lt (by omega)]
    by_cases accepted : byteAt c 0 ≠ socks5 ∨ byteAt c 1 ≠ 0
    · rw [if_pos accepted, if_neg]
      rintro ⟨_, version, code, _⟩
      exact accepted.elim (fun h => h version) (fun h => h code)
    · rw [if_neg accepted]
      obtain ⟨version, code⟩ := not_or.mp accepted
      by_cases ipv4 : byteAt c 3 = socks5AddrIpv4
      · have passes : Passes c := ⟨long, not_not.mp version, not_not.mp code, Or.inl ipv4⟩
        rw [if_pos ipv4, if_pos passes, relayEndpoint, if_pos ipv4, portField, portOffset,
          if_pos ipv4]
      · by_cases ipv6 : byteAt c 3 = socks5AddrIpv6
        · have passes : Passes c := ⟨long, not_not.mp version, not_not.mp code, Or.inr ipv6⟩
          rw [if_neg ipv4, if_pos ipv6, if_pos passes, relayEndpoint, if_neg ipv4, portField,
            portOffset, if_neg ipv4]
        · rw [if_neg ipv4, if_neg ipv6, if_neg]
          rintro ⟨_, _, _, known⟩
          exact known.elim ipv4 ipv6

theorem relayAddress_none {buffer : Bytes} {pieces : List Bytes}
    (rejected : ∀ c ∈ pieces, ¬ Passes c) : relayAddress config buffer pieces = none := by
  induction pieces generalizing buffer with
  | nil => rfl
  | cons c rest ih =>
    rw [relayAddress, udpAssocReply_overwrite, if_neg (rejected c List.mem_cons_self)]
    exact ih (fun d hd => rejected d (List.mem_cons_of_mem c hd))

theorem relayAddress_some {buffer : Bytes} {front back : List Bytes} {c : Bytes}
    (rejected : ∀ d ∈ front, ¬ Passes d) (passes : Passes c) :
    relayAddress config buffer (front ++ c :: back) = some (relayEndpoint config (byteAt c 3)
      (portField (overlay buffer (front ++ [c])) (byteAt c 3))) := by
  induction front generalizing buffer with
  | nil =>
    rw [List.nil_append, relayAddress, udpAssocReply_overwrite, if_pos passes]
    rfl
  | cons d rest ih =>
    rw [List.cons_append, relayAddress, udpAssocReply_overwrite,
      if_neg (rejected d List.mem_cons_self)]
    exact ih (fun e he => rejected e (List.mem_cons_of_mem d he))

/-- Either no piece passes for a reply or there is a first one that does. -/
theorem first_passing (pieces : List Bytes) :
    (∀ c ∈ pieces, ¬ Passes c) ∨ ∃ front c back, pieces = front ++ c :: back ∧
      (∀ d ∈ front, ¬ Passes d) ∧ Passes c := by
  induction pieces with
  | nil => exact Or.inl nofun
  | cons c rest ih =>
    by_cases passes : Passes c
    · exact Or.inr ⟨[], c, rest, rfl, nofun, passes⟩
    · rcases ih with none | ⟨front, d, back, rfl, rejected, hd⟩
      · exact Or.inl (List.forall_mem_cons.mpr ⟨passes, none⟩)
      · exact Or.inr ⟨c :: front, d, back, rfl, List.forall_mem_cons.mpr ⟨passes, rejected⟩, hd⟩

/-- Where a buffer is clean it does not show under the pieces. -/
theorem byteAt_overlay {b b' : Bytes} (pieces : List Bytes) {i : Nat}
    (same : byteAt b i = byteAt b' i) :
    byteAt (overlay b pieces) i = byteAt (overlay b' pieces) i := by
  induction pieces generalizing b b' with
  | nil => exact same
  | cons c rest ih =>
    apply ih
    rw [byteAt_overwrite, byteAt_overwrite, same]

theorem portField_overlay {buffer : Bytes} (clean : ∀ i, 2 ≤ i → byteAt buffer i = 0)
    (pieces : List Bytes) (type : UInt8) :
    portField (overlay buffer pieces) type = portField (overlay [] pieces) type := by
  apply readBytes_congr
  intro i hlo _
  have offset : 2 ≤ portOffset type := by
    simp only [portOffset]
    split <;> omega
  apply byteAt_overlay
  rw [clean i (by omega)]
  rfl

/-- A reply that passes holds its port. -/
theorem portField_reply {reply : Bytes} (wellFormed : AssociateReply reply)
    (passes : Passes reply) (buffer : Bytes) :
    portField (overwrite buffer reply) (byteAt reply 3) = portField reply (byteAt reply 3) := by
  apply readBytes_congr
  intro i _ hi
  apply byteAt_overwrite_of_lt
  obtain ⟨code, type, address, port, rfl, field, hport⟩ := wellFormed
  have htype : byteAt ([socks5, code, 0, type] ++ address ++ port) 3 = type := rfl
  obtain ⟨_, _, _, known⟩ := passes
  rw [htype] at hi known
  simp only [List.length_append, hport, List.length_cons, List.length_nil]
  rcases field with ⟨rfl, h⟩ | ⟨rfl, h⟩ | ⟨rfl, _⟩
  · have offset : portOffset socks5AddrIpv4 = 8 := rfl
    omega
  · have offset : portOffset socks5AddrIpv6 = 20 := rfl
    omega
  · exact absurd known (by decide)

theorem relayEndpoint_length {type : UInt8} {port : Bytes} (hport : port.length = 2) :
    (relayEndpoint config type port).length ≤ nfMaxAddressLength := by
  simp only [relayEndpoint]
  split
  · simp [sockaddrIn, hport, Address.sinAddr, nfMaxAddressLength]
  · simp [sockaddrIn6, hport, Address.sin6Addr, nfMaxAddressLength]

theorem relayEndpoint_inj {type type' : UInt8} {port port' : Bytes}
    (known : type = socks5AddrIpv4 ∨ type = socks5AddrIpv6)
    (known' : type' = socks5AddrIpv4 ∨ type' = socks5AddrIpv6)
    (hport : port.length = 2) (hport' : port'.length = 2)
    (same : relayEndpoint config type port = relayEndpoint config type' port') :
    type = type' ∧ port = port' := by
  have hpart : ∀ type (port : Bytes), port.length = 2 →
      ((relayEndpoint config type port).drop 2).take 2 = port := by
    intro type port hport
    simp only [relayEndpoint]
    split <;> simp [sockaddrIn, sockaddrIn6, hport]
  have hfamily : ∀ type port, byteAt (relayEndpoint config type port) 0 =
      if type = socks5AddrIpv4 then 2 else 23 := by
    intro type port
    simp only [relayEndpoint]
    split <;> rfl
  constructor
  · have family := hfamily type port
    rw [same, hfamily] at family
    rcases known with rfl | rfl <;> rcases known' with rfl | rfl
    · rfl
    · exact absurd family (by decide)
    · exact absurd family (by decide)
    · rfl
  · rw [← hpart type port hport, same, hpart type' port' hport']

theorem relayAddress_length {buffer addr : Bytes} {pieces : List Bytes}
    (read : relayAddress config buffer pieces = some addr) : addr.length ≤ nfMaxAddressLength := by
  rcases first_passing pieces with none | ⟨front, c, back, rfl, rejected, passes⟩
  · rw [relayAddress_none config none] at read
    exact absurd read nofun
  · rw [relayAddress_some config rejected passes] at read
    rw [← Option.some_inj.mp read]
    exact relayEndpoint_length config (portField_length ..)

/-- The pieces of an ASSOCIATE reply lead to the whole reply's address exactly when the
cut is one that misleads nobody. -/
theorem relayAddress_eq_iff {buffer : Bytes} (clean : ∀ i, 2 ≤ i → byteAt buffer i = 0)
    {reply : Bytes} (wellFormed : AssociateReply reply) (pieces : List Bytes) :
    relayAddress config buffer pieces = relayAddress config buffer [reply] ↔
      AssociateCutOk reply pieces := by
  have wholeNone : ¬ Passes reply → relayAddress config buffer [reply] = none :=
    fun rejected => relayAddress_none config (List.forall_mem_singleton.mpr rejected)
  have wholeSome : Passes reply → relayAddress config buffer [reply] =
      some (relayEndpoint config (byteAt reply 3) (portField reply (byteAt reply 3))) := by
    intro passes
    rw [relayAddress, udpAssocReply_overwrite, if_pos passes,
      portField_reply wellFormed passes buffer]
  constructor
  · intro same
    rcases first_passing pieces with none | ⟨front, c, back, rfl, rejected, passes⟩
    · refine Or.inl ⟨none, fun whole => ?_⟩
      rw [relayAddress_none config none, wholeSome whole] at same
      exact absurd same nofun
    · rw [relayAddress_some config rejected passes] at same
      have whole : Passes reply := by
        by_contra bad
        rw [wholeNone bad] at same
        exact absurd same nofun
      rw [wholeSome whole, Option.some_inj] at same
      obtain ⟨htype, hport⟩ := relayEndpoint_inj config passes.2.2.2 whole.2.2.2
        (portField_length ..) (portField_length ..) same
      rw [portField_overlay clean, htype] at hport
      exact Or.inr ⟨front, c, back, rfl, rejected, passes, whole, htype, hport⟩
  · rintro (⟨none, bad⟩ | ⟨front, c, back, rfl, rejected, passes, whole, htype, hport⟩)
    · rw [relayAddress_none config none, wholeNone bad]
    · rw [relayAddress_some config rejected passes, wholeSome whole, portField_overlay clean, htype,
        hport]

end Reading

section Conversation
variable (os : Os) (config : Config) (id : EndpointId) (op : Operation)

/-- The pieces complete the control receive one after the other. -/
def feed (w : World) (pieces : List Bytes) : World :=
  (machine os config).run w (pieces.map (fun c => .complete op c 0))

def stateOf (w : World) : Option ProxyState := (w.socketMap id).map ProxyData.proxyState

/-- The ASSOCIATE reply comes once the request was sent. -/
def afterUserPass (w : World) (cuts : Exchange (List Bytes)) : World :=
  if stateOf id w = some .psUdpAssoc then feed os config op w cuts.associate else w

/-- The user/password reply comes once the message was sent. -/
def afterMethod (w : World) (cuts : Exchange (List Bytes)) : World :=
  afterUserPass os config id op
    (if stateOf id w = some .psAuthNegotiation then feed os config op w cuts.userPass else w) cuts

/-- The server's side of a handshake that waits for the method selection. -/
def conversation (w : World) (cuts : Exchange (List Bytes)) : World :=
  afterMethod os config id op (feed os config op w cuts.method) cuts

/-- State and relay address of the connection, and every message sent for it. -/
def outcome (w : World) : Option (ProxyState × Address × Nat) × List Message :=
  ((w.socketMap id).map progress, messages w id)

/-- The server asks for the credentials that the client has. -/
def Asked (userName : Bytes) (r : Exchange Bytes) : Prop :=
  byteAt r.method 1 = s5amUnpw ∧ userName ≠ []

def Granted (r : Exchange Bytes) : Prop := byteAt r.userPass 1 = 0

/-- The two short replies come whole as far as the client waits for them, and the pieces
of the ASSOCIATE reply, if it is asked for, mislead nobody. -/
def CutsOk (userName : Bytes) (r : Exchange Bytes) (cuts : Exchange (List Bytes)) : Prop :=
  cuts.method = [r.method] ∧
  (Asked userName r → Granted r → cuts.userPass = [r.userPass]) ∧
  ((Asked userName r → Granted r) → AssociateCutOk r.associate cuts.associate)

/-- What the ASSOCIATE reply leaves behind. -/
def associated (pd : ProxyData) (sent : List Message) :
    Option Bytes → Option (ProxyState × Address × Nat) × List Message
  | none => (some (progress pd), sent)
  | some addr => (some (.psConnected, pd.remoteAddress.write addr, addr.length),
      sent ++ flushed pd.udpSendPackets (pd.remoteAddress.write addr) addr.length)

variable {os config id op} {w : World} {buffer : Bytes} {pd : ProxyData}

theorem feed_cons (c : Bytes) (rest : List Bytes) :
    feed os config op w (c :: rest) =
      feed os config op (step os config w (.complete op c 0)) rest := rfl

theorem outcome_eq (receiving : Receiving w id op buffer pd) :
    outcome id w = (some (progress pd), messages w id) := by
  rw [outcome, receiving.entry]
  rfl

theorem stateOf_eq (receiving : Receiving w id op buffer pd) :
    stateOf id w = some pd.proxyState := by
  rw [stateOf, receiving.entry]
  rfl

/-- An established connection ignores what follows. -/
theorem feed_connected (accepting : Accepting os id) (receiving : Receiving w id op buffer pd)
    (established : pd.proxyState = .psConnected) {pieces : List Bytes}
    (nonempty : ∀ c ∈ pieces, c ≠ []) (fits : ∀ c ∈ pieces, c.length ≤ buffer.length) :
    outcome id (feed os config op w pieces) = (some (progress pd), messages w id) := by
  induction pieces generalizing w buffer with
  | nil => exact outcome_eq receiving
  | cons c rest ih =>
    obtain ⟨hc, hrest⟩ := List.forall_mem_cons.mp nonempty
    obtain ⟨fitsHere, fitsRest⟩ := List.forall_mem_cons.mp fits
    obtain ⟨armed, quiet⟩ := receiving.silent config accepting hc fitsHere (by
      rw [onControlData_received os config receiving, established])
    rw [feed_cons, ih armed hrest (by rwa [overwrite_length fitsHere]), quiet]

/-- The pieces of the ASSOCIATE reply, one after the other. -/
theorem feed_associate (accepting : Accepting os id) (receiving : Receiving w id op buffer pd)
    (waiting : pd.proxyState = .psUdpAssoc) {pieces : List Bytes}
    (nonempty : ∀ c ∈ pieces, c ≠ []) (fits : ∀ c ∈ pieces, c.length ≤ buffer.length) :
    outcome id (feed os config op w pieces) =
      associated pd (messages w id) (relayAddress config buffer pieces) := by
  induction pieces generalizing w buffer with
  | nil => exact outcome_eq receiving
  | cons c rest ih =>
    obtain ⟨hc, hrest⟩ := List.forall_mem_cons.mp nonempty
    obtain ⟨fitsHere, fitsRest⟩ := List.forall_mem_cons.mp fits
    have later : ∀ d ∈ rest, d.length ≤ (overwrite buffer c).length := by
      rwa [overwrite_length fitsHere]
    have handled := onControlData_received os config receiving c c.length
    rw [waiting] at handled
    rw [feed_cons, relayAddress]
    cases read : udpAssocReply config (overwrite buffer c) c.length with
    | none =>
      rw [read] at handled
      obtain ⟨armed, quiet⟩ := receiving.silent config accepting hc fitsHere handled
      rw [ih armed hrest later, quiet]
    | some addr =>
      rw [read] at handled
      obtain ⟨pd', reached, armed, sent⟩ := receiving.connected accepting hc fitsHere handled
      have established : pd'.proxyState = .psConnected := congrArg Prod.fst reached
      rw [feed_connected accepting armed established hrest later, reached, sent]
      rfl

/-- What is left behind tells the relay addresses apart. -/
theorem associated_inj {sent : List Message} {a a' : Option Bytes}
    (fits : ∀ addr, a = some addr → addr.length ≤ nfMaxAddressLength)
    (fits' : ∀ addr, a' = some addr → addr.length ≤ nfMaxAddressLength)
    (waiting : pd.proxyState = .psUdpAssoc) (same : associated pd sent a = associated pd sent a') :
    a = a' := by
  have unlike : ∀ addr, associated pd sent none ≠ associated pd sent (some addr) := by
    intro addr h
    have states : pd.proxyState = .psConnected :=
      congrArg Prod.fst (Option.some_inj.mp (congrArg Prod.fst h))
    rw [waiting] at states
    exact absurd states nofun
  rcases a with _ | addr <;> rcases a' with _ | addr'
  · rfl
  · exact absurd same (unlike addr')
  · exact absurd same.symm (unlike addr)
  · have reached := Option.some_inj.mp (congrArg Prod.fst same)
    have hwrite : pd.remoteAddress.write addr = pd.remoteAddress.write addr' :=
      congrArg (fun x => x.2.1) reached
    have hlen : addr.length = addr'.length := congrArg (fun x => x.2.2) reached
    rw [Address.write_inj (fits addr rfl) (fits' addr' rfl) hlen hwrite]

/-- Whatever the ASSOCIATE reply is, it leaves no earlier state behind. -/
theorem associated_ne {sent sent' : List Message} {a : Option Bytes}
    (waiting : pd.proxyState = .psUdpAssoc) {p : ProxyState × Address × Nat}
    (assoc : p.1 ≠ .psUdpAssoc) (established : p.1 ≠ .psConnected) :
    (some p, sent') ≠ associated pd sent a := by
  intro same
  cases a with
  | none =>
    have reached := Option.some_inj.mp (congrArg Prod.fst same)
    exact assoc (by rw [reached, ← waiting]; rfl)
  | some addr =>
    have reached := Option.some_inj.mp (congrArg Prod.fst same)
    exact established (by rw [reached])

section Phases
variable {r : Exchange Bytes} {cuts : Exchange (List Bytes)}

theorem whole_cuts (r : Exchange Bytes) (wellFormed : WellFormed r) : CutsOf r r.whole := by
  obtain ⟨⟨m, hm⟩, ⟨status, hs⟩, ⟨code, type, address, port, ha, _⟩⟩ := wellFormed
  have single : ∀ reply : Bytes, reply ≠ [] → CutOf reply [reply] :=
    fun reply h => ⟨List.append_nil reply, List.forall_mem_singleton.mpr h⟩
  exact ⟨single _ (by simp [hm]), single _ (by simp [hs]), single _ (by simp [ha])⟩

def Clean (buffer : Bytes) : Prop := ∀ i, 2 ≤ i → byteAt buffer i = 0

theorem Clean.overwrite (clean : Clean buffer) (x y : UInt8) :
    Clean (Memory.overwrite buffer [x, y]) := by
  intro i hi
  have beyond : ¬ i < [x, y].length := Nat.not_lt.mpr hi
  rw [byteAt_overwrite, if_neg beyond]
  exact clean i hi

/-- The handler has armed its receive with room for every reply. -/
def Room (buffer : Bytes) : Prop := 262 ≤ buffer.length

theorem Room.overwrite {data : Bytes} (room : Room buffer) (fits : data.length ≤ buffer.length) :
    Room (Memory.overwrite buffer data) := by
  rw [Room, overwrite_length fits]
  exact room

theorem Room.pair (room : Room buffer) (x y : UInt8) : [x, y].length ≤ buffer.length :=
  Nat.le_trans (show 2 ≤ 262 by decide) room

theorem afterUserPass_waiting (accepting : Accepting os id)
    (receiving : Receiving w id op buffer pd) (waiting : pd.proxyState = .psUdpAssoc)
    (room : Room buffer) (wellFormed : WellFormed r) (cut : CutsOf r cuts) :
    outcome id (afterUserPass os config id op w cuts) =
      associated pd (messages w id) (relayAddress config buffer cuts.associate) := by
  have longest := associateReply_length wellFormed.associate
  rw [afterUserPass, if_pos (by rw [stateOf_eq receiving, waiting])]
  refine feed_associate accepting receiving waiting cut.associate.2 (fun c hc => ?_)
  exact Nat.le_trans (cutOf_length cut.associate hc) (Nat.le_trans longest room)

theorem afterUserPass_idle (receiving : Receiving w id op buffer pd)
    (elsewhere : pd.proxyState ≠ .psUdpAssoc) :
    outcome id (afterUserPass os config id op w cuts) = (some (progress pd), messages w id) := by
  have state : stateOf id w ≠ some .psUdpAssoc := by
    rw [stateOf_eq receiving]
    exact fun h => elsewhere (Option.some_inj.mp h)
  rw [afterUserPass, if_neg state, outcome_eq receiving]

theorem associate_iff (accepting : Accepting os id) (receiving : Receiving w id op buffer pd)
    (waiting : pd.proxyState = .psUdpAssoc) (room : Room buffer) (clean : Clean buffer)
    (wellFormed : WellFormed r) (cut : CutsOf r cuts) :
    outcome id (afterUserPass os config id op w cuts) =
        outcome id (afterUserPass os config id op w r.whole) ↔
      AssociateCutOk r.associate cuts.associate := by
  rw [afterUserPass_waiting accepting receiving waiting room wellFormed cut,
    afterUserPass_waiting accepting receiving waiting room wellFormed (whole_cuts r wellFormed),
    ← relayAddress_eq_iff config clean wellFormed.associate cuts.associate]
  constructor
  · exact associated_inj (fun _ => relayAddress_length config)
      (fun _ => relayAddress_length config) waiting
  · exact congrArg _

/-- A single byte is too short for either of the short replies. -/
theorem feed_bytes (config : Config) (accepting : Accepting os id)
    (receiving : Receiving w id op buffer pd)
    (state : pd.proxyState = .psAuth ∨ pd.proxyState = .psAuthNegotiation) (room : Room buffer)
    (bytes : Bytes) :
    ∃ buffer', Receiving (feed os config op w (bytes.map List.singleton)) id op buffer' pd ∧
      messages (feed os config op w (bytes.map List.singleton)) id = messages w id := by
  induction bytes generalizing w buffer with
  | nil => exact ⟨buffer, receiving, rfl⟩
  | cons x rest ih =>
    have fits : [x].length ≤ buffer.length := Nat.le_trans (show 1 ≤ 262 by decide) room
    have short : [x].length < sizeofSock5AuthResponse := Nat.lt_succ_self 1
    obtain ⟨armed, quiet⟩ := receiving.silent config accepting
      (List.cons_ne_nil x []) fits (by
        rw [onControlData_received os config receiving]
        rcases state with h | h
        · simp only [h, authReply, short, if_true]
          rfl
        · simp only [h, authNegotiationReply, short, if_true]
          rfl)
    obtain ⟨buffer', armed', quiet'⟩ := ih armed (room.overwrite fits)
    exact ⟨buffer', armed', quiet'.trans quiet⟩

/-- The user/password reply in pieces: only the whole of a status 0 is answered. -/
theorem afterMethod_negotiating (accepting : Accepting os id)
    (receiving : Receiving w id op buffer pd) (negotiating : pd.proxyState = .psAuthNegotiation)
    (room : Room buffer) (wellFormed : WellFormed r) (cut : CutsOf r cuts) :
    outcome id (afterMethod os config id op w cuts) =
      if cuts.userPass = [[1, 0]] then
        associated { pd with proxyState := .psUdpAssoc }
          (messages w id ++ [.tcp udpAssociateRequest])
          (relayAddress config (overwrite buffer [1, 0]) cuts.associate)
      else (some (progress pd), messages w id) := by
  obtain ⟨status, hstatus⟩ := wellFormed.userPass
  have elsewhere : pd.proxyState ≠ .psUdpAssoc := by
    rw [negotiating]
    exact nofun
  have fits := room.pair 1 status
  rw [afterMethod, if_pos (by rw [stateOf_eq receiving, negotiating])]
  rcases cutOf_pair (hstatus ▸ cut.userPass) with whole | split
  · have handled := onControlData_received os config receiving [1, status] 2
    rw [negotiating] at handled
    by_cases granted : status = 0
    · subst granted
      rw [if_pos whole, whole]
      obtain ⟨armed, sent⟩ := receiving.answered accepting (List.cons_ne_nil _ _) fits handled
      exact (afterUserPass_waiting accepting armed rfl (room.overwrite fits) wellFormed cut).trans
        (by rw [sent])
    · have refused : cuts.userPass ≠ [[1, 0]] := by
        rw [whole]
        simpa using granted
      rw [if_neg refused, whole]
      have unanswered : authNegotiationReply (overwrite buffer [1, status]) 2 = none := by
        refine (authNegotiationReply_overwrite buffer [1, status]).trans ?_
        simp [authNegotiationReply, byteAt, granted]
      rw [unanswered] at handled
      obtain ⟨armed, quiet⟩ := receiving.silent config accepting (List.cons_ne_nil _ _) fits handled
      exact (afterUserPass_idle armed elsewhere).trans (by rw [quiet])
  · have refused : cuts.userPass ≠ [[1, 0]] := by
      rw [split]
      simp
    rw [if_neg refused, split]
    obtain ⟨_, armed, quiet⟩ := feed_bytes config accepting receiving
      (Or.inr negotiating) room [1, status]
    exact (afterUserPass_idle armed elsewhere).trans (by rw [quiet])

theorem negotiation_iff (accepting : Accepting os id) (receiving : Receiving w id op buffer pd)
    (negotiating : pd.proxyState = .psAuthNegotiation) (room : Room buffer) (clean : Clean buffer)
    (wellFormed : WellFormed r) (cut : CutsOf r cuts) :
    outcome id (afterMethod os config id op w cuts) =
        outcome id (afterMethod os config id op w r.whole) ↔
      (Granted r → cuts.userPass = [r.userPass] ∧ AssociateCutOk r.associate cuts.associate) := by
  obtain ⟨status, hstatus⟩ := wellFormed.userPass
  rw [afterMethod_negotiating accepting receiving negotiating room wellFormed cut,
    afterMethod_negotiating accepting receiving negotiating room wellFormed
      (whole_cuts r wellFormed)]
  by_cases granted : Granted r
  · obtain rfl : status = 0 := by
      rw [Granted, hstatus] at granted
      exact granted
    have whole : r.whole.userPass = [[1, 0]] := congrArg (fun reply => [reply]) hstatus
    rw [if_pos whole, hstatus]
    by_cases answered : cuts.userPass = [[1, 0]]
    · rw [if_pos answered, ← relayAddress_eq_iff config (clean.overwrite 1 0) wellFormed.associate]
      constructor
      · exact fun same _ => ⟨answered, associated_inj (fun _ => relayAddress_length config)
          (fun _ => relayAddress_length config) rfl same⟩
      · exact fun ok => congrArg _ (ok granted).2
    · rw [if_neg answered]
      constructor
      · intro same
        refine absurd same (associated_ne rfl ?_ ?_)
        · simp [progress, negotiating]
        · simp [progress, negotiating]
      · exact fun ok => absurd (ok granted).1 answered
  · have refused : status ≠ 0 := by
      rintro rfl
      exact granted (by rw [Granted, hstatus]; rfl)
    have unanswered : ∀ pieces, CutOf r.userPass pieces → pieces ≠ [[1, 0]] := by
      rintro pieces split rfl
      have hbytes : [1, 0] = [1, status] := split.1.trans hstatus
      simp [Ne.symm refused] at hbytes
    rw [if_neg (unanswered _ cut.userPass),
      if_neg (unanswered _ (whole_cuts r wellFormed).userPass)]
    exact iff_of_true rfl (fun h => absurd h granted)

/-- The method selection in one piece: the client goes on. -/
theorem feed_method (config : Config) (accepting : Accepting os id)
    (receiving : Receiving w id op buffer pd)
    (waiting : pd.proxyState = .psAuth) (room : Room buffer) {m : UInt8}
    (hmethod : r.method = [socks5, m]) :
    (Asked pd.userName r →
      Receiving (feed os config op w [r.method]) id op (overwrite buffer [socks5, m])
        { pd with proxyState := .psAuthNegotiation }) ∧
    (¬ Asked pd.userName r →
      Receiving (feed os config op w [r.method]) id op (overwrite buffer [socks5, m])
        { pd with proxyState := .psUdpAssoc }) := by
  have fits := room.pair socks5 m
  have handled := onControlData_received os config receiving [socks5, m] 2
  rw [waiting] at handled
  have hasked : Asked pd.userName r ↔ (m = s5amUnpw ∧ pd.userName ≠ []) := by
    rw [Asked, hmethod]
    exact Iff.rfl
  have hreply : authReply pd.userName pd.userPassword (overwrite buffer [socks5, m]) 2 =
      if m = s5amUnpw ∧ pd.userName ≠ [] then
        some (userPassRequest pd.userName pd.userPassword, .psAuthNegotiation)
      else some (udpAssociateRequest, .psUdpAssoc) :=
    authReply_overwrite pd.userName pd.userPassword buffer [socks5, m]
  rw [hreply] at handled
  rw [hmethod, hasked]
  constructor
  · intro asked
    rw [if_pos asked] at handled
    exact (receiving.answered accepting (List.cons_ne_nil _ _) fits handled).1
  · intro unasked
    rw [if_neg unasked] at handled
    exact (receiving.answered accepting (List.cons_ne_nil _ _) fits handled).1

/-- A method selection in two pieces is never answered. -/
theorem conversation_split (accepting : Accepting os id)
    (receiving : Receiving w id op buffer pd) (waiting : pd.proxyState = .psAuth)
    (room : Room buffer) {m : UInt8} (split : cuts.method = [[socks5], [m]]) :
    outcome id (conversation os config id op w cuts) = (some (progress pd), messages w id) := by
  obtain ⟨_, armed, quiet⟩ := feed_bytes config accepting receiving (Or.inl waiting)
    room [socks5, m]
  have elsewhere : pd.proxyState ≠ .psUdpAssoc := by
    rw [waiting]
    exact nofun
  have state : stateOf id (feed os config op w [[socks5], [m]]) ≠ some .psAuthNegotiation := by
    have h := stateOf_eq armed
    rw [waiting] at h
    exact fun h' => absurd (h.symm.trans h') nofun
  rw [conversation, split, afterMethod, if_neg state]
  exact (afterUserPass_idle armed elsewhere).trans (by rw [quiet])

theorem afterMethod_associating (receiving : Receiving w id op buffer pd)
    (associating : pd.proxyState = .psUdpAssoc) :
    afterMethod os config id op w cuts = afterUserPass os config id op w cuts := by
  have state : stateOf id w ≠ some .psAuthNegotiation := by
    rw [stateOf_eq receiving, associating]
    exact nofun
  rw [afterMethod, if_neg state]

/-- A method selection in one piece never leaves the connection waiting for it. -/
theorem conversation_whole_ne (accepting : Accepting os id)
    (receiving : Receiving w id op buffer pd) (waiting : pd.proxyState = .psAuth)
    (room : Room buffer) (wellFormed : WellFormed r) (sent : List Message) :
    (some (progress pd), sent) ≠ outcome id (conversation os config id op w r.whole) := by
  obtain ⟨m, hmethod⟩ := wellFormed.method
  obtain ⟨negotiates, associates⟩ := feed_method config accepting receiving waiting room
    hmethod
  have room' := room.overwrite (room.pair socks5 m)
  have cut := whole_cuts r wellFormed
  have state : (progress pd).1 = .psAuth := waiting
  by_cases asked : Asked pd.userName r
  · rw [conversation]
    refine fun same => absurd (same.trans (afterMethod_negotiating accepting (negotiates asked) rfl
      room' wellFormed cut)) ?_
    split
    · apply associated_ne rfl
      · simp [state]
      · simp [state]
    · simp [progress, waiting]
  · have armed := associates asked
    rw [conversation]
    refine fun same => absurd (same.trans ((congrArg (outcome id)
      (afterMethod_associating armed rfl)).trans (afterUserPass_waiting accepting armed rfl
        room' wellFormed cut))) ?_
    apply associated_ne rfl
    · simp [state]
    · simp [state]

/-- The handshake of a connection that waits for the method selection, as `greeted_receiving`
leaves it: the cuts lead to the outcome of the whole replies exactly when they are good ones. -/
theorem segmentation_iff (accepting : Accepting os id)
    (receiving : Receiving w id op (List.replicate packetSize 0) pd)
    (waiting : pd.proxyState = .psAuth) (wellFormed : WellFormed r) (cut : CutsOf r cuts) :
    outcome id (conversation os config id op w cuts) =
        outcome id (conversation os config id op w r.whole) ↔
      CutsOk pd.userName r cuts := by
  obtain ⟨m, hmethod⟩ := wellFormed.method
  have room : Room (List.replicate packetSize 0) := by
    rw [Room, List.length_replicate]
    decide
  have clean : Clean (List.replicate packetSize 0) := by
    intro i _
    simp only [byteAt, List.getD_eq_getElem?_getD, List.getElem?_replicate]
    split <;> rfl
  obtain ⟨negotiates, associates⟩ := feed_method config accepting receiving waiting room
    hmethod
  have room' := room.overwrite (room.pair socks5 m)
  have clean' := clean.overwrite socks5 m
  rcases cutOf_pair (hmethod ▸ cut.method) with whole | split
  · -- Both conversations have come to the same world, and only the later cuts differ.
    rw [← hmethod] at whole
    have front : feed os config op w r.whole.method = feed os config op w [r.method] := rfl
    rw [conversation, conversation, whole, front]
    by_cases asked : Asked pd.userName r
    · rw [negotiation_iff accepting (negotiates asked) rfl room' clean' wellFormed cut]
      constructor
      · exact fun ok => ⟨whole, fun _ granted => (ok granted).1,
          fun granted => (ok (granted asked)).2⟩
      · exact fun ok granted => ⟨ok.2.1 asked granted, ok.2.2 (fun _ => granted)⟩
    · have armed := associates asked
      rw [afterMethod_associating armed rfl, afterMethod_associating armed rfl,
        associate_iff accepting armed rfl room' clean' wellFormed cut]
      constructor
      · exact fun ok => ⟨whole, fun h => absurd h asked, fun _ => ok⟩
      · exact fun ok => ok.2.2 (fun h => absurd h asked)
  · rw [conversation_split accepting receiving waiting room split]
    refine iff_of_false (conversation_whole_ne accepting receiving waiting room wellFormed _) ?_
    rintro ⟨whole, _⟩
    rw [split, hmethod] at whole
    exact absurd whole (by simp)

end Phases

end Conversation

section Greeted

theorem acceptingOs_accepting (id : EndpointId) : Accepting acceptingOs id :=
  ⟨fun _ _ _ => rfl, fun _ _ => rfl⟩

def greetedWorld : World :=
  (machine acceptingOs credentialsConfig).run World.initial greetedRun

/-- The control receive that the greeting has armed. -/
def greetedOp : Operation := ⟨(7, 2), 0, false⟩

def greetedEntry : ProxyData :=
  { ProxyData.new credentialsConfig 0 1 with proxyState := .psAuth }

theorem greetedWorld_receiving :
    Receiving greetedWorld 7 greetedOp (List.replicate packetSize 0) greetedEntry where
  pending := by decide +kernel
  direct := rfl
  allocated := by decide +kernel
  ov := rfl
  entry := rfl

/-- User/password is selected and accepted, and the relay listens on port 0x1234. -/
def acceptedReplies : Exchange Bytes where
  method := [socks5, s5amUnpw]
  userPass := [1, 0]
  associate := [socks5, 0, 0, socks5AddrIpv4] ++ [8, 8, 8, 8] ++ [0x12, 0x34]

theorem acceptedReplies_wellFormed : WellFormed acceptedReplies where
  method := ⟨s5amUnpw, rfl⟩
  userPass := ⟨0, rfl⟩
  associate := ⟨0, socks5AddrIpv4, [8, 8, 8, 8], [0x12, 0x34], rfl, Or.inl ⟨rfl, rfl⟩, rfl⟩

/-- The ASSOCIATE reply breaks inside its address. -/
def associateBroken : Exchange (List Bytes) :=
  { acceptedReplies.whole with
    associate := [[socks5, 0, 0, socks5AddrIpv4, 8], [8, 8, 8, 0x12, 0x34]] }

theorem segmentation_associate_broken :
    outcome 7 (conversation acceptingOs credentialsConfig 7 greetedOp greetedWorld
        associateBroken) =
      outcome 7 (conversation acceptingOs credentialsConfig 7 greetedOp greetedWorld
        acceptedReplies.whole) ↔
      CutsOk greetedEntry.userName acceptedReplies associateBroken :=
  segmentation_iff (acceptingOs_accepting 7) greetedWorld_receiving rfl acceptedReplies_wellFormed
    { whole_cuts acceptedReplies acceptedReplies_wellFormed with
      associate := ⟨rfl, by decide⟩ }

/-- The method selection arrives byte by byte. -/
def methodBroken : Exchange (List Bytes) :=
  { acceptedReplies.whole with method := [[socks5], [s5amUnpw]] }

/-- The handshake stops where it goes on when the selection arrives in one piece. -/
theorem method_broken_stalls :
    CutsOf acceptedReplies methodBroken ∧
    outcome 7 (conversation acceptingOs credentialsConfig 7 greetedOp greetedWorld
        methodBroken) ≠
      outcome 7 (conversation acceptingOs credentialsConfig 7 greetedOp greetedWorld
        acceptedReplies.whole) := by
  have accepting := acceptingOs_accepting 7
  have room : Room (List.replicate packetSize 0) := by
    rw [Room, List.length_replicate]
    decide
  constructor
  · exact { whole_cuts acceptedReplies acceptedReplies_wellFormed with
      method := ⟨rfl, by decide⟩ }
  · rw [conversation_split accepting greetedWorld_receiving rfl room rfl]
    exact conversation_whole_ne accepting greetedWorld_receiving rfl room
      acceptedReplies_wellFormed _

end Greeted

end Segmentation
