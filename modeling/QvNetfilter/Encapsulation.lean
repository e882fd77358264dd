import QvNetfilter.RelayDatagram

/-!
# The encapsulation of a datagram

Towards the relay a datagram goes behind a SOCKS5 UDP header that names its
destination; a datagram from the relay has the same header, with its origin.
The two sides are written separately, against packed headers of two sizes and
two `sockaddr` layouts. What one side writes, the other reads back.
-/

namespace Encapsulation

open Memory Socks Mealy UdpProxy UdpHistory RelayDatagram

section Wire

/-- Reserved bytes, fragment, address type, address and port. -/
def header (destination : Address) : Bytes :=
  if destination.saFamily = afInet then
    [0, 0] ++ [0] ++ [socks5AddrIpv4] ++ destination.sinAddr ++ destination.sinPort
  else [0, 0] ++ [0] ++ [socks5AddrIpv6] ++ destination.sin6Addr ++ destination.sinPort

/-- The datagram that the relay should get, whatever its length. -/
def wire (buf : Bytes) (destination : Address) : Bytes := header destination ++ buf

theorem encapsulate_nonempty {buf : Bytes} (nonempty : buf ≠ []) (destination : Address) :
    encapsulate buf destination = wire buf destination := by
  rw [encapsulate, if_neg nonempty, wire, header]
  split <;> rfl

theorem wire_ne_nil (buf : Bytes) (destination : Address) : wire buf destination ≠ [] := by
  rw [wire, header]
  split <;> simp

/-- The header is there exactly for a payload. -/
theorem encapsulate_eq_wire_iff (buf : Bytes) (destination : Address) :
    encapsulate buf destination = wire buf destination ↔ buf ≠ [] := by
  constructor
  · rintro same rfl
    exact wire_ne_nil [] destination same.symm
  · exact fun nonempty => encapsulate_nonempty nonempty destination

end Wire

section Endpoint

/-- The IP address of a `sockaddr`, where its family has it. -/
def ipAddress (a : Address) : Bytes := if a.saFamily = afInet then a.sinAddr else a.sin6Addr

/-- Family, IP address and port that a `sockaddr` names. -/
def ipEndpoint (a : Address) : Nat × Bytes × Bytes := (a.saFamily, ipAddress a, a.sinPort)

variable (a : Address) {addr port : Bytes} {destination : Address}

theorem ipEndpoint_sockaddrIn (four : addr.length = 4) (two : port.length = 2) :
    ipEndpoint (a.write (sockaddrIn addr port)) = (afInet, addr, port) := by
  rw [ipEndpoint, ipAddress, saFamily_sockaddrIn, if_pos rfl, sinAddr_sockaddrIn a four two,
    sinPort_sockaddrIn a four two]

theorem ipEndpoint_sockaddrIn6 (sixteen : addr.length = 16) (two : port.length = 2) :
    ipEndpoint (a.write (sockaddrIn6 addr port)) = (afInet6, addr, port) := by
  rw [ipEndpoint, ipAddress, saFamily_sockaddrIn6, if_neg (by decide),
    sin6Addr_sockaddrIn6 a sixteen two, sinPort_sockaddrIn6 a sixteen two]

/-- Behind the address type stand the address, the port and the payload. -/
theorem read_header (type : UInt8) (addr port buf : Bytes) :
    let datagram := [0, 0, 0, type] ++ addr ++ port ++ buf
    byteAt datagram 3 = type ∧ readBytes datagram 4 addr.length = addr ∧
      readBytes datagram (4 + addr.length) port.length = port := by
  intro datagram
  have split : datagram = [0, 0, 0, type] ++ addr ++ (port ++ buf) := List.append_assoc ..
  have haddr := readBytes_append [0, 0, 0, type] addr (port ++ buf)
  rw [← split] at haddr
  have hport := readBytes_append ([0, 0, 0, type] ++ addr) port buf
  rw [List.length_append] at hport
  exact ⟨rfl, haddr, hport⟩

/-- A datagram that starts with a header names the header's endpoint. -/
theorem ipEndpoint_headerAddress
    (family : destination.saFamily = afInet ∨ destination.saFamily = afInet6) (buf : Bytes) :
    ipEndpoint (a.write (headerAddress (wire buf destination))) = ipEndpoint destination := by
  have two : destination.sinPort.length = 2 := readBytes_length ..
  by_cases ipv4 : destination.saFamily = afInet
  · have four : destination.sinAddr.length = 4 := readBytes_length ..
    obtain ⟨known, haddr, hport⟩ :=
      read_header socks5AddrIpv4 destination.sinAddr destination.sinPort buf
    rw [four] at haddr hport
    rw [two] at hport
    have written : headerAddress (wire buf destination) =
        sockaddrIn destination.sinAddr destination.sinPort := by
      rw [wire, header, if_pos ipv4]
      exact (if_pos known).trans (congrArg₂ sockaddrIn haddr hport)
    rw [written, ipEndpoint_sockaddrIn a four two, ipEndpoint, ipAddress, if_pos ipv4, ipv4]
  · have ipv6 : destination.saFamily = afInet6 := family.resolve_left ipv4
    have sixteen : destination.sin6Addr.length = 16 := readBytes_length ..
    obtain ⟨known, haddr, hport⟩ :=
      read_header socks5AddrIpv6 destination.sin6Addr destination.sinPort buf
    rw [sixteen] at haddr hport
    rw [two] at hport
    have other : socks5AddrIpv6 ≠ socks5AddrIpv4 := by decide
    have written : headerAddress (wire buf destination) =
        sockaddrIn6 destination.sin6Addr destination.sinPort := by
      rw [wire, header, if_neg ipv4]
      exact (if_neg (fun h => other (known.symm.trans h))).trans
        (congrArg₂ sockaddrIn6 haddr hport)
    rw [written, ipEndpoint_sockaddrIn6 a sixteen two, ipEndpoint, ipAddress, if_neg ipv4, ipv6]

/-- The header has the size that its address type announces. -/
theorem headerSize_wire (destination : Address) (buf : Bytes) :
    (byteAt (wire buf destination) 3 = socks5AddrIpv4 ∨
        byteAt (wire buf destination) 3 = socks5AddrIpv6) ∧
      headerSize (wire buf destination) = (header destination).length := by
  have two : destination.sinPort.length = 2 := readBytes_length ..
  have four : destination.sinAddr.length = 4 := readBytes_length ..
  have sixteen : destination.sin6Addr.length = 16 := readBytes_length ..
  rw [headerSize, wire, header]
  split
  · exact ⟨Or.inl rfl, by simp [byteAt, socks5AddrIpv4, sizeofSocks5UdpRequestIpv4, two, four]⟩
  · exact ⟨Or.inr rfl, by
      simp [byteAt, socks5AddrIpv4, socks5AddrIpv6, sizeofSocks5UdpRequestIpv6, two, sixteen]⟩

end Endpoint

section RoundTrip

/-- The bytes handed to `WSASendTo`. -/
def datagram : Action → Option Bytes
  | .call (.wsaSendTo _ buf _ _) _ => some buf
  | _ => none

/-- The datagrams that were handed over for an endpoint from one world to a later one. -/
def handedBetween (w w' : World) (id : EndpointId) : List Bytes :=
  (view datagram w' id).drop (view datagram w id).length

/-- The datagrams that one call of `udpSend` hands over. -/
def handedOver (os : Os) (w : World) (id : EndpointId) (buf : Bytes) (remoteAddress : Address)
    (remoteAddressLen : Nat) : List Bytes :=
  handedBetween w (udpSend os w id buf remoteAddress remoteAddressLen).1 id

variable {w : World} {id : EndpointId} {pd : ProxyData}

/-- On an established connection `udpSend` hands one datagram over. -/
theorem handedOver_connected (os : Os) (entry : w.socketMap id = some pd)
    (established : pd.proxyState = .psConnected) (buf : Bytes) (remoteAddress : Address)
    (remoteAddressLen : Nat) :
    handedOver os w id buf remoteAddress remoteAddressLen = [encapsulate buf remoteAddress] := by
  have direct : udpSend os w id buf remoteAddress remoteAddressLen =
      sendDatagram os w id pd buf remoteAddress := by
    simp [udpSend, entry, established]
  have sent : view datagram (sendDatagram os w id pd buf remoteAddress).1 id = _ :=
    view_sendDatagram_sent os w id pd buf remoteAddress (fun _ => rfl) (fun _ _ => rfl) id
  rw [shown_self] at sent
  rw [handedOver, handedBetween, direct, sent, List.drop_left]
  rfl

/-- A receive that gets a whole encapsulation delivers its payload once, with its endpoint. -/
theorem delivered_wire {destination : Address} (os : Os) (w : World) (socket : Socket) (pov : Pov)
    (id : EndpointId) (family : destination.saFamily = afInet ∨ destination.saFamily = afInet6)
    (buf buffer : Bytes) (fits : (wire buf destination).length ≤ packetSize) :
    ∃ d, newDeliveries os w socket (wire buf destination).length pov id
        (overwrite buffer (wire buf destination)) = [d] ∧
      ipEndpoint (Address.zero.write d.remoteAddress) = ipEndpoint destination ∧
      d.len = buf.length ∧ counted d.buf d.len = buf := by
  obtain ⟨known, size⟩ := headerSize_wire destination buf
  have address := ipEndpoint_headerAddress Address.zero family buf
  have whole : (wire buf destination).length = (header destination).length + buf.length :=
    List.length_append ..
  have behind : (wire buf destination).drop (header destination).length = buf := List.drop_left
  generalize wire buf destination = received at *
  have front := overwrite_take buffer received
  have common := headerSize_pos received
  simp only [sizeofSocks5UdpRequest] at common
  have type : byteAt (overwrite buffer received) 3 = byteAt received 3 := by
    have inside : 3 < received.length := by omega
    rw [← byteAt_take inside, front]
  have size' : headerSize (overwrite buffer received) = (header destination).length := by
    rw [← size, headerSize, headerSize, type]
  have long : (header destination).length ≤ received.length := by omega
  have read := relayedDatagram_complete (b := overwrite buffer received) (n := received.length)
    (type.symm ▸ known) (size' ▸ long) fits
  rw [size', front] at read
  have nonzero : 0 < received.length := by omega
  refine ⟨_, (newDeliveries_eq os w socket pov id nonzero).trans (congrArg Option.toList read),
    address, ?_, ?_⟩
  · show (received.length : Int) - (header destination).length = buf.length
    omega
  · rw [counted_drop long, front]
    exact behind

/-- What `udpSend` hands over for a payload that fits into a receive buffer comes back from
`onUdpReceiveComplete` as the same payload with the same family, address and port, whatever
the buffer held before. -/
theorem encapsulation_round_trip (os os' : Os) (w w' : World) (id id' : EndpointId)
    (entry : w.socketMap id = some pd) (established : pd.proxyState = .psConnected)
    (buf : Bytes) (nonempty : buf ≠ []) (destination : Address) (destinationLen : Nat)
    (family : destination.saFamily = afInet ∨ destination.saFamily = afInet6)
    (fits : (encapsulate buf destination).length ≤ packetSize) (socket : Socket) (pov : Pov)
    (buffer : Bytes) :
    ∃ datagram d, handedOver os w id buf destination destinationLen = [datagram] ∧
      newDeliveries os' w' socket datagram.length pov id' (overwrite buffer datagram) = [d] ∧
      ipEndpoint (Address.zero.write d.remoteAddress) = ipEndpoint destination ∧
      d.len = buf.length ∧ counted d.buf d.len = buf := by
  have handed := handedOver_connected os entry established buf destination destinationLen
  rw [encapsulate_nonempty nonempty] at handed fits
  obtain ⟨d, calls, address, len, payload⟩ :=
    delivered_wire os' w' socket pov id' family buf buffer fits
  exact ⟨_, d, handed, calls, address, len, payload⟩

/-- 8.8.8.8:53 -/
def nameServer : Address := Address.zero.write (sockaddrIn [8, 8, 8, 8] [0, 53])

/-- An established connection at endpoint 7. -/
def establishedEntry : ProxyData where
  tcpSocket := 3
  udpSocket := 4
  proxyState := .psConnected
  remoteAddress := Address.zero.write (sockaddrIn [10, 0, 0, 1] [0x1f, 0x90])
  remoteAddressLen := sizeofSockaddrIn
  userName := []
  userPassword := []
  udpSendPackets := []
  udpRecvStarted := true

theorem encapsulation_round_trip_query :
    ∃ datagram d, handedOver acceptingOs (World.initial.setEntry 7 (some establishedEntry)) 7
        [0x68, 0x69] nameServer 16 = [datagram] ∧
      newDeliveries acceptingOs World.initial 4 datagram.length (7, 0) 7
        (overwrite (List.replicate packetSize 0) datagram) = [d] ∧
      ipEndpoint (Address.zero.write d.remoteAddress) = ipEndpoint nameServer ∧
      d.len = [0x68, 0x69].length ∧ counted d.buf d.len = [0x68, 0x69] :=
  encapsulation_round_trip acceptingOs acceptingOs
    (World.initial.setEntry 7 (some establishedEntry)) World.initial 7 7 rfl rfl [0x68, 0x69]
    (by decide) nameServer 16 (Or.inl rfl) (by decide) 4 (7, 0) (List.replicate packetSize 0)

end RoundTrip

end Encapsulation
