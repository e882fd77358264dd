import QvNetfilter.Memory

/-!
# Socket addresses and SOCKS messages

The packed structures of `SOCKS.h` and the two `sockaddr` layouts as bytes.
Addresses and ports are copied between structures without conversion, so they
stay byte strings in network order throughout.
-/

namespace Socks

open Memory

def nfMaxAddressLength : Nat := 28

def afInet : Nat := 2

def afInet6 : Nat := 23

def sizeofSockaddrIn : Nat := 16

def sizeofSockaddrIn6 : Nat := 28

/-- `unsigned char remoteAddress[NF_MAX_ADDRESS_LENGTH]`, read as a `sockaddr`. -/
structure Address where
  bytes : Bytes
  size : bytes.length = nfMaxAddressLength
deriving DecidableEq

namespace Address

def zero : Address := ⟨List.replicate nfMaxAddressLength 0, List.length_replicate⟩

theorem write_size (a : Address) (b : Bytes) :
    ((overwrite a.bytes b).take nfMaxAddressLength).length = nfMaxAddressLength := by
  have h := a.size
  simp only [overwrite, List.length_take, List.length_append, List.length_drop]
  omega

/-- `memcpy` to the start of the array, as far as it fits. -/
def write (a : Address) (b : Bytes) : Address :=
  ⟨(overwrite a.bytes b).take nfMaxAddressLength, write_size a b⟩

/-- `sa_family`, a little-endian 16-bit field. -/
def saFamily (a : Address) : Nat := (byteAt a.bytes 0).toNat + 256 * (byteAt a.bytes 1).toNat

def sinPort (a : Address) : Bytes := readBytes a.bytes 2 2

def sinAddr (a : Address) : Bytes := readBytes a.bytes 4 4

def sin6Addr (a : Address) : Bytes := readBytes a.bytes 8 16

/-- `(sa_family == AF_INET6) ? sizeof(sockaddr_in6) : sizeof(sockaddr_in)` -/
def addrLen (a : Address) : Nat :=
  if a.saFamily = afInet6 then sizeofSockaddrIn6 else sizeofSockaddrIn

/-- Two writes of the same length that fit are told apart by what they leave behind. -/
theorem write_inj {a : Address} {b b' : Bytes} (fits : b.length ≤ nfMaxAddressLength)
    (fits' : b'.length ≤ nfMaxAddressLength) (sizes : b.length = b'.length)
    (same : a.write b = a.write b') : b = b' := by
  have front : ∀ c : Bytes, c.length ≤ nfMaxAddressLength →
      (a.write c).bytes.take c.length = c := by
    intro c hc
    simp only [write, overwrite, List.take_take, Nat.min_eq_left hc, List.take_left]
  rw [← front b fits, same, sizes, front b' fits']

end Address

def sockaddrIn (addr port : Bytes) : Bytes :=
  [2, 0] ++ port ++ addr ++ List.replicate 8 0

def sockaddrIn6 (addr port : Bytes) : Bytes :=
  [23, 0] ++ port ++ List.replicate 4 0 ++ addr ++ List.replicate 4 0

section Layouts
variable (a : Address) {addr port : Bytes}

/-- A read within what was written. -/
theorem Address.readBytes_write {b : Bytes} {off len : Nat}
    (fits : b.length ≤ nfMaxAddressLength) (within : off + len ≤ b.length) :
    readBytes (a.write b).bytes off len = readBytes b off len := by
  have front : (a.write b).bytes.take b.length = b := by
    simp only [write, overwrite, List.take_take, Nat.min_eq_left fits, List.take_left]
  apply readBytes_congr
  intro i _ below
  have here : i < b.length := by omega
  rw [← byteAt_take (b := (a.write b).bytes) here, front]

theorem sockaddrIn_length (four : addr.length = 4) (two : port.length = 2) :
    (sockaddrIn addr port).length = sizeofSockaddrIn := by
  simp [sockaddrIn, four, two, sizeofSockaddrIn]

theorem sockaddrIn6_length (sixteen : addr.length = 16) (two : port.length = 2) :
    (sockaddrIn6 addr port).length = sizeofSockaddrIn6 := by
  simp [sockaddrIn6, sixteen, two, sizeofSockaddrIn6]

theorem saFamily_sockaddrIn : (a.write (sockaddrIn addr port)).saFamily = afInet := rfl

theorem saFamily_sockaddrIn6 : (a.write (sockaddrIn6 addr port)).saFamily = afInet6 := rfl

theorem sinPort_sockaddrIn (four : addr.length = 4) (two : port.length = 2) :
    (a.write (sockaddrIn addr port)).sinPort = port := by
  have size := sockaddrIn_length four two
  have read := readBytes_append [2, 0] port (addr ++ List.replicate 8 0)
  rw [two, ← List.append_assoc] at read
  exact (a.readBytes_write (size ▸ by decide) (size ▸ by decide)).trans read

theorem sinAddr_sockaddrIn (four : addr.length = 4) (two : port.length = 2) :
    (a.write (sockaddrIn addr port)).sinAddr = addr := by
  have size := sockaddrIn_length four two
  have read := readBytes_append ([2, 0] ++ port) addr (List.replicate 8 0)
  rw [List.length_append, two, four] at read
  exact (a.readBytes_write (size ▸ by decide) (size ▸ by decide)).trans read

theorem sinPort_sockaddrIn6 (sixteen : addr.length = 16) (two : port.length = 2) :
    (a.write (sockaddrIn6 addr port)).sinPort = port := by
  have size := sockaddrIn6_length sixteen two
  have read := readBytes_append [23, 0] port (List.replicate 4 0 ++ addr ++ List.replicate 4 0)
  rw [two, ← List.append_assoc, ← List.append_assoc] at read
  exact (a.readBytes_write (size ▸ by decide) (size ▸ by decide)).trans read

theorem sin6Addr_sockaddrIn6 (sixteen : addr.length = 16) (two : port.length = 2) :
    (a.write (sockaddrIn6 addr port)).sin6Addr = addr := by
  have size := sockaddrIn6_length sixteen two
  have read := readBytes_append ([23, 0] ++ port ++ List.replicate 4 0) addr (List.replicate 4 0)
  rw [List.length_append, List.length_append, two, sixteen] at read
  exact (a.readBytes_write (size ▸ by decide) (size ▸ by decide)).trans read

end Layouts

def socks4 : UInt8 := 4

def socks5 : UInt8 := 5

def s4cConnect : UInt8 := 1

def s4rcSuccess : UInt8 := 0x5a

def sizeofSocks4Response : Nat := 8

structure Socks4Request where
  version : UInt8
  command : UInt8
  port : Bytes
  ip : Bytes
  userid : UInt8
deriving DecidableEq

def Socks4Request.bytes (r : Socks4Request) : Bytes :=
  [r.version, r.command] ++ r.port ++ r.ip ++ [r.userid]

/-- The complete reply structure has arrived and grants the request. -/
def Socks4Granted (received : Bytes) : Prop :=
  sizeofSocks4Response ≤ received.length ∧ byteAt received 1 = s4rcSuccess

instance (received : Bytes) : Decidable (Socks4Granted received) :=
  inferInstanceAs (Decidable (_ ∧ _))

def s5cUdpAssociate : UInt8 := 3

def s5amNone : UInt8 := 0

def s5amUnpw : UInt8 := 2

def socks5AddrIpv4 : UInt8 := 1

def socks5AddrDomain : UInt8 := 3

def socks5AddrIpv6 : UInt8 := 4

def sizeofSock5AuthResponse : Nat := 2

def sizeofSocks5Response : Nat := 5

def sizeofSocks5UdpRequest : Nat := 4

def sizeofSocks5UdpRequestIpv4 : Nat := 10

def sizeofSocks5UdpRequestIpv6 : Nat := 22

/-- `SOCKS5_AUTH_REQUEST` with one method. -/
def socks5AuthRequest (method : UInt8) : Bytes := [socks5, 1, method]

/-- The user/password message; each length is narrowed to one byte. -/
def userPassRequest (userName userPassword : Bytes) : Bytes :=
  [1, UInt8.ofNat userName.length] ++ userName ++
    [UInt8.ofNat userPassword.length] ++ userPassword

/-- `SOCKS5_REQUEST_IPv4` for UDP ASSOCIATE with a zero address and port. -/
def udpAssociateRequest : Bytes :=
  [socks5, s5cUdpAssociate, 0, socks5AddrIpv4, 0, 0, 0, 0, 0, 0]

end Socks
