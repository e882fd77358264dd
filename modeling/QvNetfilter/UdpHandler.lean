import QvNetfilter.UdpProxy

/-!
# The UDP half of the event handler

`EventHandler` keeps a context for every UDP endpoint, beside the table of the
proxy. The driver delivers its events on one thread. Where that thread holds no
lock the worker thread may handle a completion and a third thread may go on with
`free`, so each place between two lock-protected sections is a state of its own.
-/

namespace UdpHandler

open Memory Socks Mealy UdpProxy

/-- `NF_UDP_OPTIONS` -/
structure UdpOptions where
  flags : Nat
  options : Bytes
deriving DecidableEq

/-- What the driver passes with a datagram; the options may be `NULL`. -/
structure Datagram where
  remoteAddress : Address
  buf : Bytes
  options : Option UdpOptions
deriving DecidableEq

/-- Where `createProxyConnection` is. -/
inductive Creating where
  | opened
  | stored
  | tcpRegistered
  | udpRegistered
  | connecting
  | failed
deriving DecidableEq

/-- Where the driver's thread is between two sections. -/
inductive Place where
  | idle
  | creating (id : EndpointId) (d : Datagram) (stage : Creating) (tcpSocket udpSocket : Socket)
  | sending (id : EndpointId) (d : Datagram)
  | closing (id : EndpointId)
deriving DecidableEq

namespace Place

/-- `createProxyConnection` is called under the lock of `EventHandler`. -/
def holdsLock : Place → Bool
  | .creating _ _ _ _ _ => true
  | _ => false

/-- The endpoint of the event that the driver's thread is handling. -/
def endpoint : Place → Option EndpointId
  | .idle => none
  | .creating id _ _ _ _ => some id
  | .sending id _ => some id
  | .closing id => some id

end Place

/-- Where `EventHandler::free` is. -/
inductive Freeing where
  | running
  | serviceFreed
  | tablesCleared
  | freed
deriving DecidableEq

structure State where
  proxy : World
  udpCtxMap : EndpointId → Option (Option UdpOptions)
  place : Place
  freeing : Freeing

def State.initial : State := ⟨World.initial, fun _ => none, .idle, .running⟩

/-- What the handler does for an endpoint; the calls of `udpSend` and `udpClosed` are
shown as well. -/
inductive Output where
  | udpSend (d : Datagram)
  | udpClosed
  | nfUdpPostSend (d : Datagram)
  | nfUdpPostReceive (remoteAddress : Bytes) (buf : Bytes) (len : Int)
      (options : Option UdpOptions)
  | proxy (a : Action)
deriving DecidableEq

/-- What a step of the proxy has added to its log. -/
def emitted (w w' : World) : List (EndpointId × Action) := w'.log.drop w.log.length

def proxyOutputs (w w' : World) : List (EndpointId × Output) :=
  (emitted w w').map fun a => (a.1, .proxy a.2)

section Sections
variable (os : Os) (config : Config)

/-- `CreateIoCompletionPort` fails for a socket once the port has been closed, which `free` does
only if `init` has started a worker thread. -/
def closedPort : Os where
  socket := os.socket
  accepts id history c :=
    match c with
    | .registerSocket _ => false
    | _ => os.accepts id history c

def currentOs : Freeing → Os
  | .running => os
  | _ => closedPort os

/-- The part of `createProxyConnection` before the entry is stored. -/
def openSockets (w : World) (id : EndpointId) : World × Option (Socket × Socket) :=
  match os.socket id (w.history id) .stream with
  | none => (w.record id (.opened .stream none), none)
  | some tcpSocket =>
    let w := w.record id (.opened .stream (some tcpSocket))
    match os.socket id (w.history id) .dgram with
    | none => ((w.record id (.opened .dgram none)).record id (.closed tcpSocket), none)
    | some udpSocket => (w.record id (.opened .dgram (some udpSocket)), some (tcpSocket, udpSocket))

/-- `m_socketMap[id] = pd` -/
def storeEntry (w : World) (id : EndpointId) (tcpSocket udpSocket : Socket) : World :=
  (w.setEntry id (some (ProxyData.new config tcpSocket udpSocket))).record id .created

/-- One more section of `createProxyConnection`, up to its return. -/
def advance (w : World) (id : EndpointId) (tcpSocket udpSocket : Socket) :
    Creating → World × Creating
  | .opened => (storeEntry config w id tcpSocket udpSocket, .stored)
  | .stored =>
    let (w, registered) := invoke os w id (.registerSocket tcpSocket)
    (w, if registered then .tcpRegistered else .failed)
  | .tcpRegistered =>
    let (w, registered) := invoke os w id (.registerSocket udpSocket)
    (w, if registered then .udpRegistered else .failed)
  | .udpRegistered =>
    let (w, connecting) :=
      startConnect os w tcpSocket config.proxyAddress config.proxyAddressLen id
    (w, if connecting then .connecting else .failed)
  | .connecting => (w, .connecting)
  | .failed => (w, .failed)

/-- Three more sections after the entry was stored. -/
def advanceStored (w : World) (id : EndpointId) (tcpSocket udpSocket : Socket) :
    World × Creating :=
  let (w, stage) := advance os config w id tcpSocket udpSocket .stored
  let (w, stage) := advance os config w id tcpSocket udpSocket stage
  advance os config w id tcpSocket udpSocket stage

theorem advanceStored_eq (w : World) (id : EndpointId) (tcpSocket udpSocket : Socket) :
    advanceStored os config w id tcpSocket udpSocket =
      ((registerAndConnect os config w id tcpSocket udpSocket).1,
        if (registerAndConnect os config w id tcpSocket udpSocket).2 then .connecting
        else .failed) := by
  simp only [advanceStored, registerAndConnect]
  by_cases tcp : (invoke os w id (.registerSocket tcpSocket)).2 = true
  · by_cases udp : (invoke os (invoke os w id (.registerSocket tcpSocket)).1 id
        (.registerSocket udpSocket)).2 = true
    · simp [advance, tcp, udp]
    · simp [advance, tcp, udp]
  · simp [advance, tcp]

/-- The sections without anything in between. -/
def createAtOnce (w : World) (id : EndpointId) : World × Bool :=
  match openSockets os w id with
  | (w, none) => (w, false)
  | (w, some (tcpSocket, udpSocket)) =>
    let (w, _) := advance os config w id tcpSocket udpSocket .opened
    match advanceStored os config w id tcpSocket udpSocket with
    | (w, .connecting) => (w, true)
    | (w, _) => (w.deleteProxyConnection id, false)

/-- The sections make up `createProxyConnection`. -/
theorem createAtOnce_eq (w : World) (id : EndpointId) :
    createAtOnce os config w id = createProxyConnection os config w id := by
  simp only [createAtOnce, createProxyConnection, openSockets]
  cases os.socket id (w.history id) .stream with
  | none => rfl
  | some tcpSocket =>
    simp only
    cases os.socket id ((w.record id (.opened .stream (some tcpSocket))).history id) .dgram with
    | none => rfl
    | some udpSocket =>
      simp only [advance, storeEntry, advanceStored_eq]
      split
      · rename_i connecting
        split at connecting <;> simp_all
      · rename_i failed
        split at failed <;> simp_all

end Sections

inductive Event where
  | udpSend (id : EndpointId) (d : Datagram)
  | udpReceive (id : EndpointId) (d : Datagram)
  | udpClosed (id : EndpointId)
  | driver (id : EndpointId)
  | complete (op : Operation) (data : Bytes) (error : Nat)
  | free
deriving DecidableEq

section Step
variable (os : Os) (config : Config)

/-- `(sa_family == AF_INET) ? sizeof(sockaddr_in) : sizeof(sockaddr_in6)` -/
def sendAddrLen (remoteAddress : Address) : Nat :=
  if remoteAddress.saFamily = afInet then sizeofSockaddrIn else sizeofSockaddrIn6

/-- `udpSend` up to the section in which `createProxyConnection` stores its entry. -/
def udpSend (s : State) (id : EndpointId) (d : Datagram) : State × List (EndpointId × Output) :=
  match s.udpCtxMap id with
  | some _ => ({ s with place := .sending id d }, [(id, .udpSend d)])
  | none =>
    match openSockets (currentOs os s.freeing) s.proxy id with
    | (w, none) => ({ s with proxy := w }, (id, .udpSend d) :: proxyOutputs s.proxy w)
    | (w, some (tcpSocket, udpSocket)) =>
      ({ s with proxy := w, place := .creating id d .opened tcpSocket udpSocket },
        (id, .udpSend d) :: proxyOutputs s.proxy w)

def udpClosed (s : State) (id : EndpointId) : State × List (EndpointId × Output) :=
  let w := s.proxy.deleteProxyConnection id
  ({ s with proxy := w, place := .closing id }, (id, .udpClosed) :: proxyOutputs s.proxy w)

/-- The driver's thread goes on to its next section. -/
def goOn (s : State) : State × List (EndpointId × Output) :=
  match s.place with
  | .idle => (s, [])
  | .creating id _ .failed _ _ =>
    let w := s.proxy.deleteProxyConnection id
    ({ s with proxy := w, place := .idle }, proxyOutputs s.proxy w)
  | .creating id d .connecting _ _ =>
    ({ s with udpCtxMap := Function.update s.udpCtxMap id (some d.options),
              place := .sending id d }, [])
  | .creating id d stage tcpSocket udpSocket =>
    let (w, stage) :=
      advance (currentOs os s.freeing) config s.proxy id tcpSocket udpSocket stage
    ({ s with proxy := w, place := .creating id d stage tcpSocket udpSocket },
      proxyOutputs s.proxy w)
  | .sending id d =>
    let (w, sent) := UdpProxy.udpSend (currentOs os s.freeing) s.proxy id d.buf d.remoteAddress
      (sendAddrLen d.remoteAddress)
    ({ s with proxy := w, place := .idle },
      proxyOutputs s.proxy w ++ if sent then [] else [(id, .nfUdpPostSend d)])
  | .closing id =>
    ({ s with udpCtxMap := Function.update s.udpCtxMap id none, place := .idle }, [])

/-- `onUdpReceiveComplete` hands a datagram of the relay to the endpoint's application,
if the endpoint has a context. -/
def deliver (udpCtxMap : EndpointId → Option (Option UdpOptions)) :
    EndpointId × Action → List (EndpointId × Output)
  | (id, .onUdpReceiveComplete d) =>
    match udpCtxMap id with
    | none => [(id, .proxy (.onUdpReceiveComplete d))]
    | some options => [(id, .proxy (.onUdpReceiveComplete d)),
        (id, .nfUdpPostReceive d.remoteAddress d.buf d.len options)]
  | (id, a) => [(id, .proxy a)]

def Delivers : EndpointId × Action → Prop
  | (_, .onUdpReceiveComplete _) => True
  | _ => False

instance (a : EndpointId × Action) : Decidable (Delivers a) := by
  obtain ⟨_, a⟩ := a
  cases a <;> first | exact isTrue trivial | exact isFalse not_false

/-- The worker thread handles a completion while the service runs; to deliver a datagram
it waits for the lock. -/
def complete (s : State) (op : Operation) (data : Bytes) (error : Nat) :
    State × List (EndpointId × Output) :=
  if s.freeing ≠ .running then (s, [])
  else
    let w := UdpProxy.complete os config s.proxy op data error
    let added := emitted s.proxy w
    if s.place.holdsLock ∧ ∃ a ∈ added, Delivers a then (s, [])
    else ({ s with proxy := w }, added.flatMap (deliver s.udpCtxMap))

/-- `free` stops the service, clears the tables of the proxy (which closes the sockets)
and then, under the lock, the contexts. -/
def free (s : State) : State :=
  match s.freeing with
  | .running => { s with freeing := .serviceFreed }
  | .serviceFreed =>
    { s with
      proxy := { s.proxy with socketMap := fun _ => none, ovData := fun _ => none }
      freeing := .tablesCleared }
  | .tablesCleared =>
    if s.place.holdsLock then s else { s with udpCtxMap := fun _ => none, freeing := .freed }
  | .freed => s

/-- The driver delivers an event when its thread is done with the last one. -/
def step (s : State) : Event → State × List (EndpointId × Output)
  | .udpSend id d => if s.place = .idle then udpSend os s id d else (s, [])
  | .udpReceive id d =>
    if s.place = .idle then
      (s, [(id, .nfUdpPostReceive d.remoteAddress.bytes d.buf d.buf.length d.options)])
    else (s, [])
  | .udpClosed id => if s.place = .idle then udpClosed s id else (s, [])
  | .driver id => if s.place.endpoint = some id then goOn os config s else (s, [])
  | .complete op data error => complete os config s op data error
  | .free => (free s, [])

def machine : Machine State Event (EndpointId × Output) where
  step := step os config

end Step

section Inversion
variable (os : Os) (config : Config)

/-- Everything that a step can do, with the states in which it does it. -/
inductive HandlerStep (s : State) : Event → State → List (EndpointId × Output) → Prop where
  | ignored (e : Event) : HandlerStep s e s []
  | received {id : EndpointId} {d : Datagram} (idle : s.place = .idle) :
      HandlerStep s (.udpReceive id d) s
        [(id, .nfUdpPostReceive d.remoteAddress.bytes d.buf d.buf.length d.options)]
  | known {id : EndpointId} {d : Datagram} {options : Option UdpOptions} (idle : s.place = .idle)
      (context : s.udpCtxMap id = some options) :
      HandlerStep s (.udpSend id d) { s with place := .sending id d } [(id, .udpSend d)]
  | notOpened {id : EndpointId} {d : Datagram} {w : World} (idle : s.place = .idle)
      (unknown : s.udpCtxMap id = none)
      (failed : openSockets (currentOs os s.freeing) s.proxy id = (w, none)) :
      HandlerStep s (.udpSend id d) { s with proxy := w }
        ((id, .udpSend d) :: proxyOutputs s.proxy w)
  | opened {id : EndpointId} {d : Datagram} {w : World} {tcpSocket udpSocket : Socket}
      (idle : s.place = .idle) (unknown : s.udpCtxMap id = none)
      (opened : openSockets (currentOs os s.freeing) s.proxy id =
        (w, some (tcpSocket, udpSocket))) :
      HandlerStep s (.udpSend id d)
        { s with proxy := w, place := .creating id d .opened tcpSocket udpSocket }
        ((id, .udpSend d) :: proxyOutputs s.proxy w)
  | advanced {id : EndpointId} {d : Datagram} {stage stage' : Creating} {w : World}
      {tcpSocket udpSocket : Socket} (there : s.place = .creating id d stage tcpSocket udpSocket)
      (notConnecting : stage ≠ .connecting) (notFailed : stage ≠ .failed)
      (result : advance (currentOs os s.freeing) config s.proxy id tcpSocket udpSocket stage =
        (w, stage')) :
      HandlerStep s (.driver id)
        { s with proxy := w, place := .creating id d stage' tcpSocket udpSocket }
        (proxyOutputs s.proxy w)
  | gaveUp {id : EndpointId} {d : Datagram} {tcpSocket udpSocket : Socket}
      (there : s.place = .creating id d .failed tcpSocket udpSocket) :
      HandlerStep s (.driver id)
        { s with proxy := s.proxy.deleteProxyConnection id, place := .idle }
        (proxyOutputs s.proxy (s.proxy.deleteProxyConnection id))
  | created {id : EndpointId} {d : Datagram} {tcpSocket udpSocket : Socket}
      (there : s.place = .creating id d .connecting tcpSocket udpSocket) :
      HandlerStep s (.driver id)
        { s with udpCtxMap := Function.update s.udpCtxMap id (some d.options),
                 place := .sending id d } []
  | sent {id : EndpointId} {d : Datagram} {w : World} (there : s.place = .sending id d)
      (result : UdpProxy.udpSend (currentOs os s.freeing) s.proxy id d.buf d.remoteAddress
        (sendAddrLen d.remoteAddress) = (w, true)) :
      HandlerStep s (.driver id) { s with proxy := w, place := .idle } (proxyOutputs s.proxy w)
  | posted {id : EndpointId} {d : Datagram} {w : World} (there : s.place = .sending id d)
      (result : UdpProxy.udpSend (currentOs os s.freeing) s.proxy id d.buf d.remoteAddress
        (sendAddrLen d.remoteAddress) = (w, false)) :
      HandlerStep s (.driver id) { s with proxy := w, place := .idle }
        (proxyOutputs s.proxy w ++ [(id, .nfUdpPostSend d)])
  | closes {id : EndpointId} (idle : s.place = .idle) :
      HandlerStep s (.udpClosed id)
        { s with proxy := s.proxy.deleteProxyConnection id, place := .closing id }
        ((id, .udpClosed) :: proxyOutputs s.proxy (s.proxy.deleteProxyConnection id))
  | closed {id : EndpointId} (there : s.place = .closing id) :
      HandlerStep s (.driver id)
        { s with udpCtxMap := Function.update s.udpCtxMap id none, place := .idle } []
  | completed {op : Operation} {data : Bytes} {error : Nat} (running : s.freeing = .running) :
      HandlerStep s (.complete op data error)
        { s with proxy := UdpProxy.complete os config s.proxy op data error }
        ((emitted s.proxy (UdpProxy.complete os config s.proxy op data error)).flatMap
          (deliver s.udpCtxMap))
  | serviceFreed (running : s.freeing = .running) :
      HandlerStep s .free { s with freeing := .serviceFreed } []
  | tablesCleared (stopped : s.freeing = .serviceFreed) :
      HandlerStep s .free
        { s with
          proxy := { s.proxy with socketMap := fun _ => none, ovData := fun _ => none }
          freeing := .tablesCleared } []
  | contextsCleared (cleared : s.freeing = .tablesCleared) (unlocked : s.place.holdsLock = false) :
      HandlerStep s .free { s with udpCtxMap := fun _ => none, freeing := .freed } []

theorem handlerStep_udpSend {s : State} (idle : s.place = .idle) (id : EndpointId) (d : Datagram) :
    HandlerStep os config s (.udpSend id d) (udpSend os s id d).1 (udpSend os s id d).2 := by
  simp only [udpSend]
  cases context : s.udpCtxMap id with
  | some options => exact .known idle context
  | none =>
    cases opened : openSockets (currentOs os s.freeing) s.proxy id with
    | mk w sockets =>
      cases sockets with
      | none => exact .notOpened idle context opened
      | some pair => exact .opened idle context opened

theorem handlerStep_goOn {s : State} {id : EndpointId} (there : s.place.endpoint = some id) :
    HandlerStep os config s (.driver id) (goOn os config s).1 (goOn os config s).2 := by
  simp only [goOn]
  cases place : s.place with
  | idle =>
    rw [place] at there
    exact absurd there nofun
  | creating id' d stage tcpSocket udpSocket =>
    rw [place] at there
    obtain rfl : id' = id := Option.some_inj.mp there
    cases stage with
    | failed => exact .gaveUp place
    | connecting => exact .created place
    | opened | stored | tcpRegistered | udpRegistered => exact .advanced place nofun nofun rfl
  | sending id' d =>
    rw [place] at there
    obtain rfl : id' = id := Option.some_inj.mp there
    simp only
    cases result : UdpProxy.udpSend (currentOs os s.freeing) s.proxy id' d.buf d.remoteAddress
      (sendAddrLen d.remoteAddress) with
    | mk w sent =>
      cases sent with
      | true =>
        simp only [if_true, List.append_nil]
        exact .sent place result
      | false => exact .posted place result
  | closing id' =>
    rw [place] at there
    obtain rfl : id' = id := Option.some_inj.mp there
    exact .closed place

theorem handlerStep_free (s : State) : HandlerStep os config s .free (free s) [] := by
  simp only [free]
  cases freeing : s.freeing with
  | running => exact .serviceFreed freeing
  | serviceFreed => exact .tablesCleared freeing
  | tablesCleared =>
    simp only
    split
    · exact .ignored _
    · rename_i unlocked
      exact .contextsCleared freeing (Bool.eq_false_iff.mpr unlocked)
  | freed => exact .ignored _

/-- Every step of the handler is one of these. -/
theorem handlerStep (s : State) (e : Event) :
    HandlerStep os config s e (step os config s e).1 (step os config s e).2 := by
  cases e with
  | udpSend id d =>
    simp only [step]
    split
    · rename_i idle
      exact handlerStep_udpSend os config idle id d
    · exact .ignored _
  | udpReceive id d =>
    simp only [step]
    split
    · rename_i idle
      exact .received idle
    · exact .ignored _
  | udpClosed id =>
    simp only [step]
    split
    · rename_i idle
      exact .closes idle
    · exact .ignored _
  | driver id =>
    simp only [step]
    split
    · rename_i there
      exact handlerStep_goOn os config there
    · exact .ignored _
  | complete op data error =>
    simp only [step, complete]
    split
    · exact .ignored _
    · rename_i running
      split
      · exact .ignored _
      · exact .completed (not_not.mp running)
  | free => exact handlerStep_free os config s

end Inversion

end UdpHandler
