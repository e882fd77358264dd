import QvNetfilter.Mealy
import QvNetfilter.Socks

/-!
# The UDP proxy

`UDPProxy` keeps one control connection and one relay socket for every UDP
endpoint. Its handlers run over an arbitrary operating system, which answers
each call from the history of the endpoint that it is made for; every call is
logged with its answer, and every accepted operation stays pending until its
completion is handled.
-/

namespace UdpProxy

open Memory Socks Mealy

abbrev EndpointId := UInt64

abbrev Socket := Nat

/-- An `OV_DATA *`: the n-th one allocated for an endpoint. -/
abbrev Pov := EndpointId × Nat

def packetSize : Nat := 65536

inductive OvType where
  | ovtConnect
  | ovtTcpSend
  | ovtTcpReceive
  | ovtUdpSend
  | ovtUdpReceive
deriving DecidableEq

structure OvData where
  id : EndpointId
  type : OvType
  buffer : Bytes
deriving DecidableEq

inductive ProxyState where
  | psNone
  | psAuth
  | psAuthNegotiation
  | psUdpAssoc
  | psConnected
  | psClosed
deriving DecidableEq

structure UdpPacket where
  remoteAddress : Address
  remoteAddressLen : Nat
  buffer : Bytes
deriving DecidableEq

structure ProxyData where
  tcpSocket : Socket
  udpSocket : Socket
  proxyState : ProxyState
  remoteAddress : Address
  remoteAddressLen : Nat
  userName : Bytes
  userPassword : Bytes
  udpSendPackets : List UdpPacket
  udpRecvStarted : Bool
deriving DecidableEq

/-- The members that `UDPProxy::init` sets. -/
structure Config where
  proxyAddress : Address
  proxyAddressLen : Nat
  userName : Bytes
  userPassword : Bytes

inductive SocketType where
  | stream
  | dgram
deriving DecidableEq

/-- A call that the operating system accepts or refuses. -/
inductive Call where
  | registerSocket (s : Socket)
  | connectEx (s : Socket) (pAddr : Address) (addrLen : Nat)
  | wsaSend (s : Socket) (buf : Bytes)
  | wsaSendTo (s : Socket) (buf : Bytes) (pAddr : Address) (addrLen : Nat)
  | wsaRecv (s : Socket)
  | wsaRecvFrom (s : Socket)
  | postCompletion (s : Socket) (pov : Pov)
deriving DecidableEq

/-- The arguments of the handler's `onUdpReceiveComplete`: a pointer into the
buffer with an `int` length, and the bytes of a `sockaddr`. -/
structure Delivery where
  buf : Bytes
  len : Int
  remoteAddress : Bytes
deriving DecidableEq

inductive Action where
  | opened (type : SocketType) (s : Option Socket)
  | closed (s : Socket)
  | created
  | call (c : Call) (accepted : Bool)
  | received (type : OvType) (data : Bytes)
  | onUdpReceiveComplete (d : Delivery)
deriving DecidableEq

/-- The answers of the operating system to one endpoint's calls. -/
structure Os where
  socket : EndpointId → List Action → SocketType → Option Socket
  accepts : EndpointId → List Action → Call → Bool

/-- A system that accepts every call. -/
def acceptingOs : Os where
  socket := fun _ history _ => some history.length
  accepts := fun _ _ _ => true

/-- An operation that will complete, or a completion posted by `postCompletion`. -/
structure Operation where
  pov : Pov
  socket : Socket
  queued : Bool
deriving DecidableEq

structure World where
  socketMap : EndpointId → Option ProxyData
  ovData : Pov → Option OvData
  nextOv : EndpointId → Nat
  pending : List Operation
  log : List (EndpointId × Action)

namespace World

def initial : World where
  socketMap := fun _ => none
  ovData := fun _ => none
  nextOv := fun _ => 0
  pending := []
  log := []

def history (w : World) (id : EndpointId) : List Action := atIndex id w.log

def record (w : World) (id : EndpointId) (a : Action) : World :=
  { w with log := w.log ++ [(id, a)] }

def setEntry (w : World) (id : EndpointId) (entry : Option ProxyData) : World :=
  { w with socketMap := Function.update w.socketMap id entry }

def setOv (w : World) (pov : Pov) (ov : Option OvData) : World :=
  { w with ovData := Function.update w.ovData pov ov }

def addPending (w : World) (op : Operation) : World := { w with pending := w.pending ++ [op] }

def removePending (w : World) (op : Operation) : World := { w with pending := w.pending.erase op }

def newOvData (w : World) (ov : OvData) : World × Pov :=
  let pov : Pov := (ov.id, w.nextOv ov.id)
  ({ w with
      ovData := Function.update w.ovData pov (some ov)
      nextOv := Function.update w.nextOv ov.id (w.nextOv ov.id + 1) }, pov)

def deleteOvData (w : World) (pov : Pov) : World := w.setOv pov none

/-- `delete it->second` closes both sockets; the entry is erased. -/
def deleteProxyConnection (w : World) (id : EndpointId) : World :=
  match w.socketMap id with
  | none => w
  | some pd =>
    ((w.record id (.closed pd.tcpSocket)).record id (.closed pd.udpSocket)).setEntry id none

end World

section Start
variable (os : Os)

def invoke (w : World) (id : EndpointId) (c : Call) : World × Bool :=
  let accepted := os.accepts id (w.history id) c
  (w.record id (.call c accepted), accepted)

/-- What follows a refused operation: the `OV_DATA`, as `ov` from now on, is handed
to its completion handler with zero bytes, or freed if that fails too. -/
def postClosed (w : World) (socket : Socket) (pov : Pov) (ov : OvData) : World :=
  let w := w.setOv pov (some ov)
  let (w, posted) := invoke os w ov.id (.postCompletion socket pov)
  if posted then w.addPending ⟨pov, socket, true⟩ else w.deleteOvData pov

def startConnect (w : World) (socket : Socket) (pAddr : Address) (addrLen : Nat)
    (id : EndpointId) : World × Bool :=
  let (w, pov) := w.newOvData ⟨id, .ovtConnect, []⟩
  let (w, accepted) := invoke os w id (.connectEx socket pAddr addrLen)
  if accepted then (w.addPending ⟨pov, socket, false⟩, true) else (w.deleteOvData pov, false)

/-- `startUdpReceive` on an `OV_DATA` at hand. -/
def rearmUdpReceive (w : World) (socket : Socket) (id : EndpointId) (pov : Pov) (ov : OvData) :
    World :=
  let (w, accepted) := invoke os w id (.wsaRecvFrom socket)
  if accepted then w.addPending ⟨pov, socket, false⟩ else postClosed os w socket pov ov

/-- `startUdpReceive` with `pov == NULL`. -/
def startUdpReceive (w : World) (socket : Socket) (id : EndpointId) : World :=
  let ov : OvData := ⟨id, .ovtUdpReceive, List.replicate packetSize 0⟩
  let (w, pov) := w.newOvData ov
  rearmUdpReceive os w socket id pov ov

/-- `startTcpReceive` on an `OV_DATA` at hand: its buffer is written from offset zero. -/
def rearmTcpReceive (w : World) (socket : Socket) (id : EndpointId) (pov : Pov) (ov : OvData) :
    World :=
  let (w, accepted) := invoke os w id (.wsaRecv socket)
  if accepted then w.addPending ⟨pov, socket, false⟩ else postClosed os w socket pov ov

/-- `startTcpReceive` with `pov == nullptr`. -/
def startTcpReceive (w : World) (socket : Socket) (id : EndpointId) : World :=
  let ov : OvData := ⟨id, .ovtTcpReceive, List.replicate packetSize 0⟩
  let (w, pov) := w.newOvData ov
  rearmTcpReceive os w socket id pov ov

/-- A refused send is posted as a receive of zero bytes. -/
def startTcpSend (w : World) (socket : Socket) (buf : Bytes) (id : EndpointId) : World × Bool :=
  let (w, pov) := w.newOvData ⟨id, .ovtTcpSend, buf⟩
  let (w, accepted) := invoke os w id (.wsaSend socket buf)
  if accepted then (w.addPending ⟨pov, socket, false⟩, true)
  else (postClosed os w socket pov ⟨id, .ovtTcpReceive, []⟩, false)

end Start

section Connections
variable (os : Os) (config : Config)

def ProxyData.new (tcpSocket udpSocket : Socket) : ProxyData where
  tcpSocket := tcpSocket
  udpSocket := udpSocket
  proxyState := .psNone
  remoteAddress := Address.zero
  remoteAddressLen := 0
  userName := config.userName
  userPassword := config.userPassword
  udpSendPackets := []
  udpRecvStarted := false

/-- The part of `createProxyConnection` after the entry was stored. -/
def registerAndConnect (w : World) (id : EndpointId) (tcpSocket udpSocket : Socket) :
    World × Bool :=
  let (w, registered) := invoke os w id (.registerSocket tcpSocket)
  if !registered then (w, false)
  else
    let (w, registered) := invoke os w id (.registerSocket udpSocket)
    if !registered then (w, false)
    else startConnect os w tcpSocket config.proxyAddress config.proxyAddressLen id

def createProxyConnection (w : World) (id : EndpointId) : World × Bool :=
  match os.socket id (w.history id) .stream with
  | none => (w.record id (.opened .stream none), false)
  | some tcpSocket =>
    let w := w.record id (.opened .stream (some tcpSocket))
    match os.socket id (w.history id) .dgram with
    | none => ((w.record id (.opened .dgram none)).record id (.closed tcpSocket), false)
    | some udpSocket =>
      let w := w.record id (.opened .dgram (some udpSocket))
      let w := (w.setEntry id (some (ProxyData.new config tcpSocket udpSocket))).record id .created
      let (w, result) := registerAndConnect os config w id tcpSocket udpSocket
      if result then (w, true) else (w.deleteProxyConnection id, false)

end Connections

section Datagrams
variable (os : Os)

/-- A datagram behind its SOCKS5 UDP header; an empty one has no header. -/
def encapsulate (buf : Bytes) (remoteAddress : Address) : Bytes :=
  if buf = [] then []
  else if remoteAddress.saFamily = afInet then
    [0, 0, 0, socks5AddrIpv4] ++ remoteAddress.sinAddr ++ remoteAddress.sinPort ++ buf
  else
    [0, 0, 0, socks5AddrIpv6] ++ remoteAddress.sin6Addr ++ remoteAddress.sinPort ++ buf

/-- The branch of `udpSend` before the connection is established. -/
def enqueue (pd : ProxyData) (buf : Bytes) (remoteAddress : Address) (remoteAddressLen : Nat) :
    ProxyData :=
  if buf = [] then pd
  else
    let p : UdpPacket := ⟨Address.zero.write (remoteAddress.bytes.take remoteAddressLen),
      remoteAddressLen, buf⟩
    { pd with udpSendPackets := pd.udpSendPackets ++ [p] }

/-- The branch of `udpSend` on an established connection. -/
def sendDatagram (w : World) (id : EndpointId) (pd : ProxyData) (buf : Bytes)
    (remoteAddress : Address) : World × Bool :=
  let datagram := encapsulate buf remoteAddress
  let (w, pov) := w.newOvData ⟨id, .ovtUdpSend, datagram⟩
  let (w, accepted) :=
    invoke os w id (.wsaSendTo pd.udpSocket datagram pd.remoteAddress pd.remoteAddressLen)
  if accepted then
    let w := w.addPending ⟨pov, pd.udpSocket, false⟩
    if !pd.udpRecvStarted then
      let w := w.setEntry id (some { pd with udpRecvStarted := true })
      (startUdpReceive os w pd.udpSocket id, true)
    else (w, true)
  else (postClosed os w pd.udpSocket pov ⟨id, .ovtUdpReceive, []⟩, false)

def udpSend (w : World) (id : EndpointId) (buf : Bytes) (remoteAddress : Address)
    (remoteAddressLen : Nat) : World × Bool :=
  match w.socketMap id with
  | none => (w, false)
  | some pd =>
    if pd.proxyState ≠ .psConnected then
      (w.setEntry id (some (enqueue pd buf remoteAddress remoteAddressLen)), true)
    else sendDatagram os w id pd buf remoteAddress

/-- `delete (*itp); udpSendPackets.erase(itp)` -/
def erasePacket (w : World) (id : EndpointId) : World :=
  match w.socketMap id with
  | none => w
  | some pd => w.setEntry id (some { pd with udpSendPackets := pd.udpSendPackets.tail })

/-- The loop that flushes `udpSendPackets`, at most `fuel` times. -/
def flushPackets (w : World) (id : EndpointId) : Nat → World
  | 0 => w
  | fuel + 1 =>
    match w.socketMap id with
    | none => w
    | some pd =>
      match pd.udpSendPackets with
      | [] => w
      | p :: _ =>
        let w := (udpSend os w id p.buffer p.remoteAddress p.remoteAddressLen).1
        flushPackets (erasePacket w id) id fuel

end Datagrams

section Handshake
variable (os : Os) (config : Config)

def offeredMethod (userName : Bytes) : UInt8 := if userName = [] then s5amNone else s5amUnpw

/-- `PS_AUTH`: the message that answers the method selection, with the state after
it was sent. -/
def authReply (userName userPassword : Bytes) (buffer : Bytes) (dwTransferred : Nat) :
    Option (Bytes × ProxyState) :=
  if dwTransferred < sizeofSock5AuthResponse then none
  else if byteAt buffer 0 ≠ socks5 then none
  else if byteAt buffer 1 = s5amUnpw ∧ userName ≠ [] then
    some (userPassRequest userName userPassword, .psAuthNegotiation)
  else some (udpAssociateRequest, .psUdpAssoc)

/-- `PS_AUTH_NEGOTIATION`: the message that answers the user/password reply. -/
def authNegotiationReply (buffer : Bytes) (dwTransferred : Nat) : Option (Bytes × ProxyState) :=
  if dwTransferred < sizeofSock5AuthResponse then none
  else if byteAt buffer 0 ≠ 1 ∨ byteAt buffer 1 ≠ 0 then none
  else some (udpAssociateRequest, .psUdpAssoc)

/-- `PS_UDP_ASSOC`: the relay address that the reply gives, as bytes of a `sockaddr`.
The host is the proxy's; the port is read at the reply's offset in the buffer. -/
def udpAssocReply (buffer : Bytes) (dwTransferred : Nat) : Option Bytes :=
  if dwTransferred < sizeofSocks5Response then none
  else if byteAt buffer 0 ≠ socks5 ∨ byteAt buffer 1 ≠ 0 then none
  else if byteAt buffer 3 = socks5AddrIpv4 then
    some (sockaddrIn config.proxyAddress.sinAddr (readBytes buffer 8 2))
  else if byteAt buffer 3 = socks5AddrIpv6 then
    some (sockaddrIn6 config.proxyAddress.sin6Addr (readBytes buffer 20 2))
  else none

/-- Send a message on the control connection and move to its state if it was accepted. -/
def answer (w : World) (id : EndpointId) (pd : ProxyData) : Option (Bytes × ProxyState) → World
  | none => w
  | some (message, next) =>
    let (w, sent) := startTcpSend os w pd.tcpSocket message id
    if sent then w.setEntry id (some { pd with proxyState := next }) else w

/-- Enter `PS_CONNECTED` and flush the queue. -/
def connected (w : World) (id : EndpointId) (pd : ProxyData) : Option Bytes → World
  | none => w
  | some addr =>
    let pd := { pd with
      remoteAddress := pd.remoteAddress.write addr
      remoteAddressLen := addr.length
      proxyState := .psConnected }
    flushPackets os (w.setEntry id (some pd)) id pd.udpSendPackets.length

/-- The switch of `onTcpReceiveComplete` over the connection's state. -/
def onControlData (w : World) (id : EndpointId) (buffer : Bytes) (dwTransferred : Nat) : World :=
  match w.socketMap id with
  | none => w
  | some pd =>
    match pd.proxyState with
    | .psNone => w
    | .psAuth =>
      answer os w id pd (authReply pd.userName pd.userPassword buffer dwTransferred)
    | .psAuthNegotiation => answer os w id pd (authNegotiationReply buffer dwTransferred)
    | .psUdpAssoc => connected os w id pd (udpAssocReply config buffer dwTransferred)
    | .psConnected => w
    | .psClosed => w

end Handshake

section Completions
variable (os : Os) (config : Config)

def onTcpReceiveComplete (w : World) (socket : Socket) (dwTransferred : Nat) (pov : Pov)
    (ov : OvData) : World :=
  if dwTransferred = 0 then w.deleteOvData pov
  else
    let w := onControlData os config w ov.id ov.buffer dwTransferred
    rearmTcpReceive os w socket ov.id pov ov

def onTcpSendComplete (w : World) (pov : Pov) : World := w.deleteOvData pov

def onUdpSendComplete (w : World) (pov : Pov) : World := w.deleteOvData pov

def onConnectComplete (w : World) (pov : Pov) (ov : OvData) (error : Nat) : World :=
  if error ≠ 0 then (w.deleteProxyConnection ov.id).deleteOvData pov
  else
    match w.socketMap ov.id with
    | none => w.deleteOvData pov
    | some pd =>
      let w := answer os w ov.id pd
        (some (socks5AuthRequest (offeredMethod pd.userName), .psAuth))
      (startTcpReceive os w pd.tcpSocket ov.id).deleteOvData pov

/-- The call of the handler for a datagram of the relay; the sizes are subtracted
without a sign and narrowed to `int`. -/
def relayedDatagram (buffer : Bytes) (dwTransferred : Nat) : Option Delivery :=
  if dwTransferred > sizeofSocks5UdpRequest then
    if byteAt buffer 3 = socks5AddrIpv4 then
      some ⟨buffer.drop sizeofSocks5UdpRequestIpv4,
        toInt32 ((dwTransferred : Int) - sizeofSocks5UdpRequestIpv4),
        sockaddrIn (readBytes buffer 4 4) (readBytes buffer 8 2)⟩
    else if byteAt buffer 3 = socks5AddrIpv6 then
      some ⟨buffer.drop sizeofSocks5UdpRequestIpv6,
        toInt32 ((dwTransferred : Int) - sizeofSocks5UdpRequestIpv6),
        sockaddrIn6 (readBytes buffer 4 16) (readBytes buffer 20 2)⟩
    else none
  else none

def onUdpReceiveComplete (w : World) (socket : Socket) (dwTransferred : Nat) (pov : Pov)
    (ov : OvData) : World :=
  if dwTransferred = 0 then w.deleteOvData pov
  else
    let w := match relayedDatagram ov.buffer dwTransferred with
      | some d => w.record ov.id (.onUdpReceiveComplete d)
      | none => w
    rearmUdpReceive os w socket ov.id pov ov

def onComplete (w : World) (socket : Socket) (dwTransferred : Nat) (pov : Pov) (ov : OvData)
    (error : Nat) : World :=
  match ov.type with
  | .ovtUdpSend => onUdpSendComplete w pov
  | .ovtUdpReceive => onUdpReceiveComplete os w socket dwTransferred pov ov
  | .ovtConnect => onConnectComplete os w pov ov error
  | .ovtTcpSend => onTcpSendComplete w pov
  | .ovtTcpReceive => onTcpReceiveComplete os config w socket dwTransferred pov ov

def OvType.receives : OvType → Bool
  | .ovtTcpReceive => true
  | .ovtUdpReceive => true
  | _ => false

/-- The worker thread hands a completion on: the system has written what a receive got
to the front of its buffer, at most the buffer's size; a posted completion has zero
bytes. -/
def dispatch (w : World) (op : Operation) (data : Bytes) (error : Nat) : World :=
  match w.ovData op.pov with
  | none => w
  | some ov =>
    if op.queued then onComplete os config w op.socket 0 op.pov ov 0
    else if ov.type.receives then
      let data := data.take ov.buffer.length
      let ov := { ov with buffer := overwrite ov.buffer data }
      let w := (w.setOv op.pov (some ov)).record ov.id (.received ov.type data)
      onComplete os config w op.socket data.length op.pov ov error
    else onComplete os config w op.socket data.length op.pov ov error

/-- One pending operation completes and leaves the port. -/
def complete (w : World) (op : Operation) (data : Bytes) (error : Nat) : World :=
  if op ∈ w.pending then dispatch os config (w.removePending op) op data error else w

end Completions

inductive Event where
  | createProxyConnection (id : EndpointId)
  | deleteProxyConnection (id : EndpointId)
  | udpSend (id : EndpointId) (buf : Bytes) (remoteAddress : Address) (remoteAddressLen : Nat)
  | complete (op : Operation) (data : Bytes) (error : Nat)
deriving DecidableEq

def step (os : Os) (config : Config) (w : World) : Event → World
  | .createProxyConnection id => (createProxyConnection os config w id).1
  | .deleteProxyConnection id => w.deleteProxyConnection id
  | .udpSend id buf remoteAddress remoteAddressLen =>
    (udpSend os w id buf remoteAddress remoteAddressLen).1
  | .complete op data error => complete os config w op data error

/-- The proxy between `init` and `free`; a step emits what it adds to the log. -/
def machine (os : Os) (config : Config) : Machine World Event (EndpointId × Action) where
  step w e := (step os config w e, (step os config w e).log.drop w.log.length)

end UdpProxy
