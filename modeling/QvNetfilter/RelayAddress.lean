import QvNetfilter.Encapsulation
import QvNetfilter.ReceiveLoop
import QvNetfilter.Segmentation

/-!
# The address of the relay

The reply to ASSOCIATE names a host and a port; the client keeps the port and
puts the proxy's own IP address before it. The family of the result comes from
the reply, while the address is read from the configured `sockaddr` through a
cast to that family, which is right only where the two families are the same.
-/

namespace RelayAddress

open Memory Socks Mealy UdpProxy UdpHistory ControlReceive Segmentation Encapsulation LinkSteps

section Reply
variable (config : Config) (data : Bytes)

/-- A successful reply to ASSOCIATE with an IP address, and all of it. -/
structure WholeReply : Prop where
  version : byteAt data 0 = socks5
  success : byteAt data 1 = 0
  size : (byteAt data 3 = socks5AddrIpv4 ∧ data.length = 10) ∨
    (byteAt data 3 = socks5AddrIpv6 ∧ data.length = 22)

/-- The port in a reply with an address of its type. -/
def replyPort : Bytes := portField data (byteAt data 3)

/-- The datagrams of the connection go to the proxy, at the port that the reply names. -/
structure RelayAtProxy (pd : ProxyData) : Prop where
  family : pd.remoteAddress.saFamily = config.proxyAddress.saFamily
  ip : ipAddress pd.remoteAddress = ipAddress config.proxyAddress
  port : pd.remoteAddress.sinPort = replyPort data
  len : pd.remoteAddressLen = config.proxyAddress.addrLen

/-- The reply's address is of the family of the proxy's. -/
def SameFamily : Prop :=
  (byteAt data 3 = socks5AddrIpv4 ∧ config.proxyAddress.saFamily = afInet) ∨
    (byteAt data 3 = socks5AddrIpv6 ∧ config.proxyAddress.saFamily = afInet6)

instance : Decidable (SameFamily config data) := inferInstanceAs (Decidable (_ ∨ _))

variable {config data}

theorem WholeReply.passes (whole : WholeReply data) : Passes data := by
  obtain ⟨version, success, ⟨type, size⟩ | ⟨type, size⟩⟩ := whole
  · exact ⟨size ▸ by decide, version, success, Or.inl type⟩
  · exact ⟨size ▸ by decide, version, success, Or.inr type⟩

/-- The port of a whole reply lies within what was received. -/
theorem WholeReply.port (whole : WholeReply data) (buffer : Bytes) :
    portField (overwrite buffer data) (byteAt data 3) = replyPort data := by
  apply readBytes_congr
  intro i _ below
  apply byteAt_overwrite_of_lt
  rcases whole.size with ⟨type, size⟩ | ⟨type, size⟩
  · have offset : portOffset (byteAt data 3) = 8 := if_pos type
    omega
  · have offset : portOffset (byteAt data 3) = 20 := by
      rw [type]
      rfl
    omega

/-- What the relay address becomes, for each type of address in the reply. -/
theorem ipEndpoint_relayEndpoint (config : Config) (whole : WholeReply data) (a : Address) :
    (byteAt data 3 = socks5AddrIpv4 ∧
      ipEndpoint (a.write (relayEndpoint config (byteAt data 3) (replyPort data))) =
        (afInet, config.proxyAddress.sinAddr, replyPort data) ∧
      (relayEndpoint config (byteAt data 3) (replyPort data)).length = sizeofSockaddrIn) ∨
    (byteAt data 3 = socks5AddrIpv6 ∧
      ipEndpoint (a.write (relayEndpoint config (byteAt data 3) (replyPort data))) =
        (afInet6, config.proxyAddress.sin6Addr, replyPort data) ∧
      (relayEndpoint config (byteAt data 3) (replyPort data)).length = sizeofSockaddrIn6) := by
  have two : (replyPort data).length = 2 := portField_length ..
  have four : config.proxyAddress.sinAddr.length = 4 := readBytes_length ..
  have sixteen : config.proxyAddress.sin6Addr.length = 16 := readBytes_length ..
  rcases whole.size with ⟨type, _⟩ | ⟨type, _⟩
  · left
    have same : relayEndpoint config (byteAt data 3) (replyPort data) =
        sockaddrIn config.proxyAddress.sinAddr (replyPort data) := if_pos type
    rw [same]
    exact ⟨type, ipEndpoint_sockaddrIn a four two, sockaddrIn_length four two⟩
  · right
    have other : byteAt data 3 ≠ socks5AddrIpv4 := by
      rw [type]
      decide
    have same : relayEndpoint config (byteAt data 3) (replyPort data) =
        sockaddrIn6 config.proxyAddress.sin6Addr (replyPort data) := if_neg other
    rw [same]
    exact ⟨type, ipEndpoint_sockaddrIn6 a sixteen two, sockaddrIn6_length sixteen two⟩

end Reply

section Establishing
variable {w : World} {id : EndpointId} {op : Operation} {buffer data : Bytes} {pd : ProxyData}

/-- A whole reply establishes the connection, whatever the system answers, and writes the
relay's address into the entry. -/
theorem associate_connects (os : Os) (config : Config) (receiving : Receiving w id op buffer pd)
    (waiting : pd.proxyState = .psUdpAssoc) (whole : WholeReply data)
    (room : data.length ≤ buffer.length) (error : Nat) :
    ∃ pd', (step os config w (.complete op data error)).socketMap id = some pd' ∧
      progress pd' = (.psConnected,
        pd.remoteAddress.write (relayEndpoint config (byteAt data 3) (replyPort data)),
        (relayEndpoint config (byteAt data 3) (replyPort data)).length) := by
  have nonzero : data.length ≠ 0 := by
    have long := whole.passes.1
    simp only [sizeofSocks5Response] at long
    omega
  have relay : udpAssocReply config (overwrite buffer data) data.length =
      some (relayEndpoint config (byteAt data 3) (replyPort data)) := by
    rw [udpAssocReply_overwrite, if_pos whole.passes, whole.port]
  have switched := onControlData_received os config receiving data data.length
  rw [waiting] at switched
  simp only [relay] at switched
  generalize relayEndpoint config (byteAt data 3) (replyPort data) = addr at *
  obtain ⟨pd', entry, same, _⟩ := connected_flushed os (received w id op buffer data) id pd addr
  refine ⟨pd', ?_, same⟩
  rw [step_receive os config receiving.pending receiving.direct receiving.ov rfl room error]
  have rearmed : (handled os config w op ⟨id, .ovtTcpReceive, buffer⟩ data error).socketMap =
      (onControlData os config (received w id op buffer data) id (overwrite buffer data)
        data.length).socketMap := by
    simp only [handled, onComplete, onTcpReceiveComplete, if_neg nonzero,
      rearmTcpReceive_socketMap]
    rfl
  rw [rearmed, switched]
  exact entry

/-- A whole reply leads to an established connection whose datagrams go to the proxy at the
reply's port exactly when the reply's address is of the family of the proxy's. -/
theorem relay_at_proxy_iff (os : Os) (config : Config) (receiving : Receiving w id op buffer pd)
    (waiting : pd.proxyState = .psUdpAssoc) (whole : WholeReply data)
    (room : data.length ≤ buffer.length) (error : Nat) :
    (∃ pd', (step os config w (.complete op data error)).socketMap id = some pd' ∧
      pd'.proxyState = .psConnected ∧ RelayAtProxy config data pd') ↔ SameFamily config data := by
  obtain ⟨pd', entry, reached⟩ := associate_connects os config receiving waiting whole room error
  simp only [progress, Prod.mk.injEq] at reached
  obtain ⟨established, address, len⟩ := reached
  have names := ipEndpoint_relayEndpoint config whole pd.remoteAddress
  rw [← address, ← len] at names
  simp only [ipEndpoint, Prod.mk.injEq] at names
  constructor
  · rintro ⟨pd'', entry'', _, atProxy⟩
    obtain rfl := Option.some_inj.mp (entry''.symm.trans entry)
    rcases names with ⟨type, ⟨family, _⟩, _⟩ | ⟨type, ⟨family, _⟩, _⟩
    · exact Or.inl ⟨type, atProxy.family.symm.trans family⟩
    · exact Or.inr ⟨type, atProxy.family.symm.trans family⟩
  · intro same
    refine ⟨pd', entry, established, ?_⟩
    rcases names with ⟨type, ⟨family, ip, port⟩, size⟩ | ⟨type, ⟨family, ip, port⟩, size⟩
    · rcases same with ⟨_, proxy⟩ | ⟨type', _⟩
      · refine ⟨family.trans proxy.symm, ip.trans ?_, port, size.trans ?_⟩
        · exact (if_pos proxy).symm
        · rw [Address.addrLen, if_neg]
          rw [proxy]
          decide
      · exact absurd (type.symm.trans type') (by decide)
    · rcases same with ⟨type', _⟩ | ⟨_, proxy⟩
      · exact absurd (type.symm.trans type') (by decide)
      · refine ⟨family.trans proxy.symm, ip.trans ?_, port, size.trans ?_⟩
        · rw [ipAddress, if_neg]
          rw [proxy]
          decide
        · exact (if_pos proxy).symm

end Establishing

section Ipv4Proxy

open ReceiveLoop

/-- The proxy is at 10.0.0.1:1080. -/
def proxyConfig : Config where
  proxyAddress := Address.zero.write (sockaddrIn [10, 0, 0, 1] [0x04, 0x38])
  proxyAddressLen := sizeofSockaddrIn
  userName := []
  userPassword := []

/-- Endpoint 7 waits for the reply to ASSOCIATE. -/
def askedWorld : World :=
  handled acceptingOs proxyConfig
    ((machine acceptingOs proxyConfig).run World.initial Handshake.greetedRun) greetedOp
    (freshOv .ovtTcpReceive) methodNone 0

def askedEntry : ProxyData := { ProxyData.new proxyConfig 0 1 with proxyState := .psUdpAssoc }

theorem askedWorld_receiving :
    Receiving askedWorld 7 greetedOp selectedOv.buffer askedEntry where
  pending := by decide +kernel
  direct := rfl
  allocated := by decide +kernel
  ov := rfl
  entry := rfl

theorem run_asked :
    (machine acceptingOs proxyConfig).run World.initial selectedRun = askedWorld := by
  have armed : greetedOp ∈
      ((machine acceptingOs proxyConfig).run World.initial Handshake.greetedRun).pending := by
    decide +kernel
  have room : methodNone.length ≤ (freshOv .ovtTcpReceive).buffer.length := by
    rw [freshOv_length]
    exact (show 2 ≤ 65536 by omega)
  rw [selectedRun, Handshake.run_concat]
  exact step_receive acceptingOs proxyConfig armed rfl rfl rfl room 0

/-- The relay listens on port 0x1234 of an IPv4 address. -/
theorem relay_at_proxy_ipv4 :
    (∃ pd', (step acceptingOs proxyConfig askedWorld (.complete greetedOp relayOpened 0)).socketMap
        7 = some pd' ∧ pd'.proxyState = .psConnected ∧
          RelayAtProxy proxyConfig relayOpened pd') ↔ SameFamily proxyConfig relayOpened :=
  relay_at_proxy_iff acceptingOs proxyConfig askedWorld_receiving rfl
    ⟨rfl, rfl, Or.inl ⟨rfl, rfl⟩⟩ (selectedOv_length ▸ (show 10 ≤ 65536 by omega)) 0

/-- The relay listens on port 0x1234 of an IPv6 address. -/
def relayOpened6 : Bytes :=
  [socks5, 0, 0, socks5AddrIpv6] ++ List.replicate 16 0 ++ [0x12, 0x34]

/-- A proxy at an IPv4 address that replies with an IPv6 address: the datagrams do not go to
the proxy. -/
theorem ipv6_reply_misleads :
    WholeReply relayOpened6 ∧ ∃ pd', ((machine acceptingOs proxyConfig).run World.initial
        (selectedRun ++ [.complete greetedOp relayOpened6 0])).socketMap 7 = some pd' ∧
      pd'.proxyState = .psConnected ∧
      ipEndpoint pd'.remoteAddress = (afInet6, List.replicate 16 0, [0x12, 0x34]) ∧
      ¬ RelayAtProxy proxyConfig relayOpened6 pd' := by
  have whole : WholeReply relayOpened6 := ⟨rfl, rfl, Or.inr ⟨rfl, rfl⟩⟩
  obtain ⟨pd', entry, reached⟩ := associate_connects acceptingOs proxyConfig askedWorld_receiving
    rfl whole (selectedOv_length ▸ (show 22 ≤ 65536 by omega)) 0
  simp only [progress, Prod.mk.injEq] at reached
  obtain ⟨established, address, _⟩ := reached
  refine ⟨whole, pd', ?_, established, ?_, ?_⟩
  · rw [Handshake.run_concat, run_asked]
    exact entry
  · rw [address]
    rfl
  · intro atProxy
    have family := atProxy.family
    rw [address] at family
    exact absurd family (by decide)

end Ipv4Proxy

end RelayAddress
