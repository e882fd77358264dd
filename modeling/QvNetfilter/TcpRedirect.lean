import Mathlib.Data.List.TakeWhile
import QvNetfilter.Mealy
import QvNetfilter.Socks

/-!
# Redirected TCP connections

The TCP half of `EventHandler`: every handler looks its connection up in
`m_connInfoMap`, moves at most that entry and posts only on that connection.
The handlers therefore run as a family of independent connections, and the
trace of one connection between its connect request and its close has a closed
form: a handshake up to the first `tcpReceive`, then plain relaying.
-/

namespace TcpRedirect

open Memory Socks Mealy

abbrev EndpointId := UInt64

def nfFilter : UInt32 := 2

/-- The fields of `NF_TCP_CONN_INFO` that `tcpConnectRequest` reads and writes. -/
structure ConnInfo where
  filteringFlag : UInt32
  remoteAddress : Address
deriving DecidableEq

structure OriginalConnInfo where
  remoteAddress : Address
  pendedSends : Bytes
deriving DecidableEq

inductive ConnEvent where
  | tcpConnectRequest (pConnInfo : ConnInfo)
  | tcpConnected
  | tcpClosed
  | tcpReceive (buf : Bytes)
  | tcpSend (buf : Bytes)
  | tcpCanReceive
  | tcpCanSend
deriving DecidableEq

/-- The buffer of `nf_tcpPostSend`: a handshake message, or application data
with the `int` length that is passed along. -/
inductive PostSend where
  | request (r : Socks4Request)
  | data (buf : Bytes) (len : Int)
deriving DecidableEq

/-- What a handler does to its connection; `connInfo` is `*pConnInfo` on return. -/
inductive ConnOutput where
  | connInfo (info : ConnInfo)
  | nfTcpPostSend (p : PostSend)
  | nfTcpPostReceive (buf : Bytes)
  | nfTcpDisableFiltering
deriving DecidableEq

structure EventHandler where
  proxyAddress : Address
  connInfoMap : EndpointId → Option OriginalConnInfo

/-- `memcmp(pAddr, &g_proxyAddress, addrLen) == 0` -/
def isProxyAddress (proxyAddress pAddr : Address) : Bool :=
  pAddr.bytes.take pAddr.addrLen = proxyAddress.bytes.take pAddr.addrLen

/-- Rewrite the address unless it already is the proxy's. -/
def redirect (proxyAddress : Address) (pConnInfo : ConnInfo) : ConnInfo :=
  if isProxyAddress proxyAddress pConnInfo.remoteAddress then pConnInfo
  else ⟨pConnInfo.filteringFlag ||| nfFilter, proxyAddress⟩

/-- 127.0.0.1:1080, the kind of proxy address the plugin starts with. -/
def localProxy : Address := Address.zero.write (sockaddrIn [127, 0, 0, 1] [0x04, 0x38])

/-- The request that `tcpSend` builds from the saved address. -/
def connectTo (addr : Address) : Socks4Request where
  version := socks4
  command := s4cConnect
  port := addr.sinPort
  ip := addr.sinAddr
  userid := 0

namespace EventHandler

def initial (proxyAddress : Address) : EventHandler := ⟨proxyAddress, fun _ => none⟩

/-- The original address is saved before the test and over any earlier entry. -/
def tcpConnectRequest (h : EventHandler) (id : EndpointId) (pConnInfo : ConnInfo) :
    EventHandler × List (EndpointId × ConnOutput) :=
  let oci : OriginalConnInfo := ⟨pConnInfo.remoteAddress, []⟩
  ({ h with connInfoMap := Function.update h.connInfoMap id (some oci) },
    [(id, .connInfo (redirect h.proxyAddress pConnInfo))])

def tcpClosed (h : EventHandler) (id : EndpointId) :
    EventHandler × List (EndpointId × ConnOutput) :=
  ({ h with connInfoMap := Function.update h.connInfoMap id none }, [])

def tcpReceive (h : EventHandler) (id : EndpointId) (buf : Bytes) :
    EventHandler × List (EndpointId × ConnOutput) :=
  match h.connInfoMap id with
  | some oci =>
    ({ h with connInfoMap := Function.update h.connInfoMap id none },
      if oci.pendedSends = [] then []
      else [(id, .nfTcpPostSend (.data oci.pendedSends (toInt32 oci.pendedSends.length)))])
  | none => (h, [(id, .nfTcpPostReceive buf), (id, .nfTcpDisableFiltering)])

def tcpSend (h : EventHandler) (id : EndpointId) (buf : Bytes) :
    EventHandler × List (EndpointId × ConnOutput) :=
  match h.connInfoMap id with
  | some oci =>
    if oci.remoteAddress.saFamily = afInet6 then (h, [])
    else
      let oci' := { oci with pendedSends := oci.pendedSends ++ buf }
      ({ h with connInfoMap := Function.update h.connInfoMap id (some oci') },
        [(id, .nfTcpPostSend (.request (connectTo oci.remoteAddress)))])
  | none => (h, [(id, .nfTcpPostSend (.data buf buf.length))])

/-- The driver's events; those without an effect on the map only log. -/
def machine : Machine EventHandler (EndpointId × ConnEvent) (EndpointId × ConnOutput) where
  step h e :=
    match e.2 with
    | .tcpConnectRequest pConnInfo => h.tcpConnectRequest e.1 pConnInfo
    | .tcpConnected => (h, [])
    | .tcpClosed => h.tcpClosed e.1
    | .tcpReceive buf => h.tcpReceive e.1 buf
    | .tcpSend buf => h.tcpSend e.1 buf
    | .tcpCanReceive => (h, [])
    | .tcpCanSend => (h, [])

end EventHandler

section Connection

/-- What the first `tcpReceive` posts for the bytes held back so far. -/
def flush (pendedSends : Bytes) : List ConnOutput :=
  if pendedSends = [] then []
  else [.nfTcpPostSend (.data pendedSends (toInt32 pendedSends.length))]

/-- One connection by itself: the entry of the map, and the outputs it causes. -/
def connection (proxyAddress : Address) :
    Machine (Option OriginalConnInfo) ConnEvent ConnOutput where
  step entry e :=
    match e, entry with
    | .tcpConnectRequest info, _ =>
      (some ⟨info.remoteAddress, []⟩, [.connInfo (redirect proxyAddress info)])
    | .tcpClosed, _ => (none, [])
    | .tcpReceive _, some oci => (none, flush oci.pendedSends)
    | .tcpReceive buf, none => (none, [.nfTcpPostReceive buf, .nfTcpDisableFiltering])
    | .tcpSend buf, some oci =>
      if oci.remoteAddress.saFamily = afInet6 then (some oci, [])
      else (some { oci with pendedSends := oci.pendedSends ++ buf },
        [.nfTcpPostSend (.request (connectTo oci.remoteAddress))])
    | .tcpSend buf, none => (none, [.nfTcpPostSend (.data buf buf.length)])
    | .tcpConnected, entry => (entry, [])
    | .tcpCanReceive, entry => (entry, [])
    | .tcpCanSend, entry => (entry, [])

theorem update_entry {h : EventHandler} {id : EndpointId} {entry : Option OriginalConnInfo}
    (hentry : h.connInfoMap id = entry) :
    Function.update h.connInfoMap id entry = h.connInfoMap := by
  rw [← hentry, Function.update_eq_self]

/-- The map is a family of connections: a handler moves the entry it is called
for as `connection` says and leaves every other entry alone. -/
theorem handler_step (h : EventHandler) (e : EndpointId × ConnEvent) :
    EventHandler.machine.step h e =
      (⟨h.proxyAddress, ((family (connection h.proxyAddress)).step h.connInfoMap e).1⟩,
        ((family (connection h.proxyAddress)).step h.connInfoMap e).2) := by
  obtain ⟨id, e⟩ := e
  cases e with
  | tcpConnectRequest info => rfl
  | tcpClosed => rfl
  | tcpConnected => simp [EventHandler.machine, family, connection]
  | tcpCanReceive => simp [EventHandler.machine, family, connection]
  | tcpCanSend => simp [EventHandler.machine, family, connection]
  | tcpReceive buf =>
    cases hentry : h.connInfoMap id with
    | none =>
      simp [EventHandler.machine, EventHandler.tcpReceive, family, connection, hentry,
        update_entry hentry]
    | some oci =>
      by_cases hp : oci.pendedSends = [] <;>
        simp [EventHandler.machine, EventHandler.tcpReceive, family, connection, hentry,
          flush, hp]
  | tcpSend buf =>
    cases hentry : h.connInfoMap id with
    | none =>
      simp [EventHandler.machine, EventHandler.tcpSend, family, connection, hentry,
        update_entry hentry]
    | some oci =>
      by_cases hf : oci.remoteAddress.saFamily = afInet6 <;>
        simp [EventHandler.machine, EventHandler.tcpSend, family, connection, hentry, hf,
          update_entry hentry]

theorem handler_components (proxyAddress : Address) :
    Components EventHandler.machine (connection proxyAddress)
      (fun h => h.proxyAddress = proxyAddress) EventHandler.connInfoMap where
  preserved := by
    rintro h e rfl
    rw [handler_step]
  moves := by
    rintro h e rfl
    rw [handler_step]
  emits := by
    rintro h e rfl
    rw [handler_step]

end Connection

/-- What one connection sees of a run: its events, each with its outputs. -/
def history (h : EventHandler) (id : EndpointId) (evs : List (EndpointId × ConnEvent)) :
    List (ConnEvent × List ConnOutput) :=
  traceAt id (EventHandler.machine.trace h evs)

theorem history_eq (h : EventHandler) (id : EndpointId) (evs : List (EndpointId × ConnEvent)) :
    history h id evs =
      (connection h.proxyAddress).trace (h.connInfoMap id) (atIndex id evs) :=
  (handler_components h.proxyAddress).trace rfl id evs

theorem entry_eq (h : EventHandler) (id : EndpointId) (evs : List (EndpointId × ConnEvent)) :
    (EventHandler.machine.run h evs).connInfoMap id =
      (connection h.proxyAddress).run (h.connInfoMap id) (atIndex id evs) :=
  (handler_components h.proxyAddress).run rfl id evs

section Lifetime

/-- Every event but the two that open and close a connection. -/
def ConnEvent.within : ConnEvent → Bool
  | .tcpConnectRequest _ => false
  | .tcpClosed => false
  | _ => true

def ConnEvent.isReceive : ConnEvent → Bool
  | .tcpReceive _ => true
  | _ => false

/-- The connection is neither requested again nor closed. -/
def WithinLifetime (id : EndpointId) (evs : List (EndpointId × ConnEvent)) : Prop :=
  ∀ e ∈ atIndex id evs, e.within = true

instance (id : EndpointId) (evs : List (EndpointId × ConnEvent)) :
    Decidable (WithinLifetime id evs) :=
  inferInstanceAs (Decidable (∀ e ∈ atIndex id evs, e.within = true))

/-- The buffers given to `tcpSend`. -/
def sends (evs : List ConnEvent) : List Bytes :=
  evs.filterMap (fun e => match e with | .tcpSend buf => some buf | _ => none)

/-- The buffers given to `tcpReceive`. -/
def receives (evs : List ConnEvent) : List Bytes :=
  evs.filterMap (fun e => match e with | .tcpReceive buf => some buf | _ => none)

/-- The events before the proxy's first reply. -/
def beforeReceive (evs : List ConnEvent) : List ConnEvent :=
  evs.takeWhile (fun e => !e.isReceive)

/-- What an event causes while the entry of the map is there. -/
def handshakeOutputs (target : Address) : ConnEvent → List ConnOutput
  | .tcpSend _ =>
    if target.saFamily = afInet6 then [] else [.nfTcpPostSend (.request (connectTo target))]
  | _ => []

/-- What an event causes once the entry is gone. -/
def relayOutputs : ConnEvent → List ConnOutput
  | .tcpSend buf => [.nfTcpPostSend (.data buf buf.length)]
  | .tcpReceive buf => [.nfTcpPostReceive buf, .nfTcpDisableFiltering]
  | _ => []

def handshakeTrace (target : Address) (evs : List ConnEvent) :
    List (ConnEvent × List ConnOutput) :=
  evs.map (fun e => (e, handshakeOutputs target e))

def relayTrace (evs : List ConnEvent) : List (ConnEvent × List ConnOutput) :=
  evs.map (fun e => (e, relayOutputs e))

/-- The bytes held back over the events before the first reply. -/
def heldBytes (target : Address) (evs : List ConnEvent) : Bytes :=
  if target.saFamily = afInet6 then [] else (sends evs).flatten

theorem mem_sends {buf : Bytes} {evs : List ConnEvent} :
    buf ∈ sends evs ↔ .tcpSend buf ∈ evs := by
  simp only [sends, List.mem_filterMap]
  constructor
  · rintro ⟨e, he, h⟩
    split at h
    · cases h
      exact he
    · cases h
  · intro h
    exact ⟨_, h, rfl⟩

@[simp] theorem sends_append (xs ys : List ConnEvent) :
    sends (xs ++ ys) = sends xs ++ sends ys := by
  simp [sends]

@[simp] theorem receives_append (xs ys : List ConnEvent) :
    receives (xs ++ ys) = receives xs ++ receives ys := by
  simp [receives]

theorem receives_eq_nil {evs : List ConnEvent} (quiet : ∀ e ∈ evs, e.isReceive = false) :
    receives evs = [] := by
  apply List.filterMap_eq_nil_iff.mpr
  intro e he
  cases e <;> first | rfl | exact absurd (quiet _ he) (by simp [ConnEvent.isReceive])

/-- A list of events is all handshake, or splits at its first `tcpReceive`. -/
theorem receive_cases (evs : List ConnEvent) :
    (∀ e ∈ evs, e.isReceive = false) ∨ ∃ before buf after,
      evs = before ++ .tcpReceive buf :: after ∧ ∀ e ∈ before, e.isReceive = false := by
  induction evs with
  | nil => exact Or.inl (by simp)
  | cons e rest ih =>
    cases e with
    | tcpReceive buf => exact Or.inr ⟨[], buf, rest, rfl, by simp⟩
    | tcpConnectRequest | tcpConnected | tcpClosed | tcpSend | tcpCanReceive | tcpCanSend =>
      rcases ih with quiet | ⟨before, buf, after, rfl, quiet⟩
      · exact Or.inl (by simpa [ConnEvent.isReceive] using quiet)
      · exact Or.inr ⟨_ :: before, buf, after, rfl, by simpa [ConnEvent.isReceive] using quiet⟩

theorem beforeReceive_quiet {evs : List ConnEvent} (quiet : ∀ e ∈ evs, e.isReceive = false) :
    beforeReceive evs = evs :=
  List.takeWhile_eq_self_iff.mpr (fun e he => by simp [quiet e he])

theorem beforeReceive_split {before after : List ConnEvent} {buf : Bytes}
    (quiet : ∀ e ∈ before, e.isReceive = false) :
    beforeReceive (before ++ .tcpReceive buf :: after) = before := by
  rw [beforeReceive, List.takeWhile_append_of_pos (fun e he => by simp [quiet e he])]
  simp [ConnEvent.isReceive]

theorem heldBytes_cons (target : Address) (e : ConnEvent) (rest : List ConnEvent) :
    heldBytes target (e :: rest) = heldBytes target [e] ++ heldBytes target rest := by
  by_cases hf : target.saFamily = afInet6
  · simp [heldBytes, hf]
  · have h := sends_append [e] rest
    simp only [List.cons_append, List.nil_append] at h
    simp [heldBytes, hf, h]

variable (proxyAddress : Address)

theorem handshake_step (oci : OriginalConnInfo) {e : ConnEvent} (within : e.within = true)
    (quiet : e.isReceive = false) :
    (connection proxyAddress).step (some oci) e =
      (some ⟨oci.remoteAddress, oci.pendedSends ++ heldBytes oci.remoteAddress [e]⟩,
        handshakeOutputs oci.remoteAddress e) := by
  cases e with
  | tcpConnectRequest info => simp [ConnEvent.within] at within
  | tcpClosed => simp [ConnEvent.within] at within
  | tcpReceive buf => simp [ConnEvent.isReceive] at quiet
  | tcpSend buf =>
    by_cases hf : oci.remoteAddress.saFamily = afInet6 <;>
      simp [connection, handshakeOutputs, heldBytes, sends, hf]
  | tcpConnected | tcpCanReceive | tcpCanSend =>
    simp [connection, handshakeOutputs, heldBytes, sends]

theorem handshake_run (oci : OriginalConnInfo) {evs : List ConnEvent}
    (within : ∀ e ∈ evs, e.within = true) (quiet : ∀ e ∈ evs, e.isReceive = false) :
    (connection proxyAddress).run (some oci) evs =
        some ⟨oci.remoteAddress, oci.pendedSends ++ heldBytes oci.remoteAddress evs⟩ ∧
      (connection proxyAddress).trace (some oci) evs = handshakeTrace oci.remoteAddress evs := by
  induction evs generalizing oci with
  | nil => simp [heldBytes, sends, handshakeTrace]
  | cons e rest ih =>
    have step := handshake_step proxyAddress oci
      (within e List.mem_cons_self) (quiet e List.mem_cons_self)
    obtain ⟨hrun, htrace⟩ := ih
      ⟨oci.remoteAddress, oci.pendedSends ++ heldBytes oci.remoteAddress [e]⟩
      (fun d hd => within d (List.mem_cons_of_mem e hd))
      (fun d hd => quiet d (List.mem_cons_of_mem e hd))
    constructor
    · rw [Machine.run_cons, step, hrun, List.append_assoc, ← heldBytes_cons]
    · rw [Machine.trace_cons, step, htrace]
      rfl

theorem relay_step {e : ConnEvent} (within : e.within = true) :
    (connection proxyAddress).step none e = (none, relayOutputs e) := by
  cases e with
  | tcpConnectRequest info => simp [ConnEvent.within] at within
  | tcpClosed => simp [ConnEvent.within] at within
  | tcpReceive | tcpSend | tcpConnected | tcpCanReceive | tcpCanSend => rfl

theorem relay_run {evs : List ConnEvent} (within : ∀ e ∈ evs, e.within = true) :
    (connection proxyAddress).run none evs = none ∧
      (connection proxyAddress).trace none evs = relayTrace evs := by
  induction evs with
  | nil => exact ⟨rfl, rfl⟩
  | cons e rest ih =>
    have step := relay_step proxyAddress (within e List.mem_cons_self)
    obtain ⟨hrun, htrace⟩ := ih (fun d hd => within d (List.mem_cons_of_mem e hd))
    constructor
    · rw [Machine.run_cons, step, hrun]
    · rw [Machine.trace_cons, step, htrace]
      rfl

/-- The closed form of a connection's trace: handshake, flush, relay. -/
theorem replied_run (oci : OriginalConnInfo) {before after : List ConnEvent} {buf : Bytes}
    (within : ∀ e ∈ before ++ .tcpReceive buf :: after, e.within = true)
    (quiet : ∀ e ∈ before, e.isReceive = false) :
    (connection proxyAddress).run (some oci) (before ++ .tcpReceive buf :: after) = none ∧
      (connection proxyAddress).trace (some oci) (before ++ .tcpReceive buf :: after) =
        handshakeTrace oci.remoteAddress before ++
          (.tcpReceive buf, flush (oci.pendedSends ++ heldBytes oci.remoteAddress before)) ::
            relayTrace after := by
  have hwithin : ∀ e ∈ before, e.within = true :=
    fun e he => within e (List.mem_append_left _ he)
  have hafter : ∀ e ∈ after, e.within = true :=
    fun e he => within e (List.mem_append_right _ (List.mem_cons_of_mem _ he))
  obtain ⟨hrun, htrace⟩ := handshake_run proxyAddress oci hwithin quiet
  obtain ⟨hrelay, hrelayTrace⟩ := relay_run proxyAddress hafter
  constructor
  · rw [Machine.run_append, hrun, Machine.run_cons]
    exact hrelay
  · rw [Machine.trace_append, hrun, htrace, Machine.trace_cons]
    change _ ++ (_, flush _) :: (connection proxyAddress).trace none after = _
    rw [hrelayTrace]

end Lifetime

end TcpRedirect
