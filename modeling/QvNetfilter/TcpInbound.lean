import QvNetfilter.TcpOutbound

/-!
# Server data towards the application

The driver between the wire and `EventHandler`: a connection's packets are
indicated to the handler while its filtering flag is set and pass straight
through once `nf_tcpDisableFiltering` was called. What the application receives
of a redirected connection is the server's stream without its first chunk.
-/

namespace TcpInbound

open Memory Socks Mealy TcpRedirect TcpOutbound

/-- What reaches the driver for one connection. -/
inductive WireEvent where
  | connectRequest (pConnInfo : ConnInfo)
  | closed
  | fromApplication (buf : Bytes)
  | fromServer (buf : Bytes)
deriving DecidableEq

inductive WireOutput where
  | toApplication (buf : Bytes)
  | toServer (p : PostSend)
deriving DecidableEq

/-- The driver with its clients' handler; `filtered` marks the connections whose
packets are indicated. -/
structure Driver where
  handler : EventHandler
  filtered : EndpointId → Bool

/-- The filtering of a connection after what the handler did to it. -/
def filteredAfter (filtered : Bool) : List ConnOutput → Bool
  | [] => filtered
  | .connInfo info :: rest => filteredAfter (info.filteringFlag &&& nfFilter != 0) rest
  | .nfTcpDisableFiltering :: rest => filteredAfter false rest
  | .nfTcpPostSend _ :: rest => filteredAfter filtered rest
  | .nfTcpPostReceive _ :: rest => filteredAfter filtered rest

def posted : ConnOutput → Option WireOutput
  | .nfTcpPostSend p => some (.toServer p)
  | .nfTcpPostReceive buf => some (.toApplication buf)
  | .connInfo _ => none
  | .nfTcpDisableFiltering => none

namespace Driver

/-- Call the handler and carry out what it asks for. -/
def indicate (d : Driver) (id : EndpointId) (e : ConnEvent) :
    Driver × List (EndpointId × WireOutput) :=
  let (handler, outs) := EventHandler.machine.step d.handler (id, e)
  (⟨handler, fun j => filteredAfter (d.filtered j) (atIndex j outs)⟩,
    outs.filterMap (fun o => (posted o.2).map (Prod.mk o.1)))

def machine : Machine Driver (EndpointId × WireEvent) (EndpointId × WireOutput) where
  step d e :=
    match e.2 with
    | .connectRequest pConnInfo => d.indicate e.1 (.tcpConnectRequest pConnInfo)
    | .closed => d.indicate e.1 .tcpClosed
    | .fromApplication buf =>
      if d.filtered e.1 then d.indicate e.1 (.tcpSend buf)
      else (d, [(e.1, .toServer (.data buf buf.length))])
    | .fromServer buf =>
      if d.filtered e.1 then d.indicate e.1 (.tcpReceive buf)
      else (d, [(e.1, .toApplication buf)])

end Driver

section Wire

/-- One connection on the wire: its entry of the map and its filtering. -/
structure Wire where
  entry : Option OriginalConnInfo
  filtered : Bool

variable (proxyAddress : Address)

def Wire.indicate (w : Wire) (e : ConnEvent) : Wire × List WireOutput :=
  let (entry, outs) := (connection proxyAddress).step w.entry e
  (⟨entry, filteredAfter w.filtered outs⟩, outs.filterMap posted)

def wire : Machine Wire WireEvent WireOutput where
  step w e :=
    match e with
    | .connectRequest pConnInfo => w.indicate proxyAddress (.tcpConnectRequest pConnInfo)
    | .closed => w.indicate proxyAddress .tcpClosed
    | .fromApplication buf =>
      if w.filtered then w.indicate proxyAddress (.tcpSend buf)
      else (w, [.toServer (.data buf buf.length)])
    | .fromServer buf =>
      if w.filtered then w.indicate proxyAddress (.tcpReceive buf)
      else (w, [.toApplication buf])

def Driver.view (d : Driver) (id : EndpointId) : Wire := ⟨d.handler.connInfoMap id, d.filtered id⟩

theorem indicate_view (d : Driver) (id : EndpointId) (e : ConnEvent) :
    (d.indicate id e).1.handler.proxyAddress = d.handler.proxyAddress ∧
    (d.indicate id e).1.view =
      Function.update d.view id ((d.view id).indicate d.handler.proxyAddress e).1 ∧
    (d.indicate id e).2 =
      ((d.view id).indicate d.handler.proxyAddress e).2.map (Prod.mk id) := by
  simp only [Driver.indicate, handler_step, family]
  refine ⟨trivial, ?_, ?_⟩
  · funext j
    by_cases hj : j = id
    · subst hj
      simp [Driver.view, Wire.indicate]
    · simp [Driver.view, Function.update_of_ne hj, atIndex_map_ne (Ne.symm hj), filteredAfter]
  · simp [Driver.view, Wire.indicate, List.filterMap_map, List.map_filterMap]

theorem driver_components :
    Components Driver.machine (wire proxyAddress)
      (fun d => d.handler.proxyAddress = proxyAddress) Driver.view := by
  have step : ∀ d e, d.handler.proxyAddress = proxyAddress →
      (Driver.machine.step d e).1.handler.proxyAddress = proxyAddress ∧
      (Driver.machine.step d e).1.view = ((family (wire proxyAddress)).step d.view e).1 ∧
      (Driver.machine.step d e).2 = ((family (wire proxyAddress)).step d.view e).2 := by
    rintro d ⟨id, e⟩ rfl
    cases e with
    | connectRequest info => exact indicate_view d id _
    | closed => exact indicate_view d id _
    | fromApplication buf =>
      cases hf : d.filtered id
      · simp [Driver.machine, family, wire, Driver.view, hf]
      · simpa [Driver.machine, family, wire, Driver.view, hf] using indicate_view d id _
    | fromServer buf =>
      cases hf : d.filtered id
      · simp [Driver.machine, family, wire, Driver.view, hf]
      · simpa [Driver.machine, family, wire, Driver.view, hf] using indicate_view d id _
  exact ⟨fun d e h => (step d e h).1, fun d e h => (step d e h).2.1,
    fun d e h => (step d e h).2.2⟩

end Wire

section Inbound

/-- The connection is neither requested again nor closed. -/
def WireEvent.within : WireEvent → Bool
  | .connectRequest _ => false
  | .closed => false
  | _ => true

/-- The chunks of the server's stream. -/
def serverChunks (evs : List WireEvent) : List Bytes :=
  evs.filterMap (fun e => match e with | .fromServer buf => some buf | _ => none)

/-- The bytes that reach the application. -/
def delivered (outs : List WireOutput) : Bytes :=
  outs.flatMap (fun o => match o with | .toApplication buf => buf | _ => [])

/-- What the wire of one connection sees of a run of the driver. -/
def wireHistory (d : Driver) (id : EndpointId) (evs : List (EndpointId × WireEvent)) :
    List (WireEvent × List WireOutput) :=
  traceAt id (Driver.machine.trace d evs)

@[simp] theorem delivered_append (xs ys : List WireOutput) :
    delivered (xs ++ ys) = delivered xs ++ delivered ys := by
  simp [delivered]

theorem serverChunks_append (xs ys : List WireEvent) :
    serverChunks (xs ++ ys) = serverChunks xs ++ serverChunks ys := by
  simp [serverChunks]

theorem flush_filtered (held : Bytes) (filtered : Bool) :
    filteredAfter filtered (flush held) = filtered := by
  by_cases h : held = [] <;> simp [flush, filteredAfter, h]

theorem flush_delivered (held : Bytes) : delivered ((flush held).filterMap posted) = [] := by
  by_cases h : held = [] <;> simp [flush, posted, delivered, h]

variable (proxyAddress : Address)

/-- With the entry gone, whatever the server sends reaches the application. -/
theorem relay_delivered {evs : List WireEvent} (within : ∀ e ∈ evs, e.within = true)
    (filtered : Bool) :
    delivered (((wire proxyAddress).trace ⟨none, filtered⟩ evs).flatMap Prod.snd) =
      (serverChunks evs).flatten := by
  induction evs generalizing filtered with
  | nil => rfl
  | cons e rest ih =>
    have hrest : ∀ d ∈ rest, d.within = true := fun d hd => within d (List.mem_cons_of_mem e hd)
    -- one step keeps the entry gone and passes the server's bytes on
    have step : ∃ filtered', ((wire proxyAddress).step ⟨none, filtered⟩ e).1 =
        ⟨none, filtered'⟩ ∧ delivered ((wire proxyAddress).step ⟨none, filtered⟩ e).2 =
          (serverChunks [e]).flatten := by
      cases e with
      | connectRequest info => exact absurd (within _ List.mem_cons_self) Bool.false_ne_true
      | closed => exact absurd (within _ List.mem_cons_self) Bool.false_ne_true
      | fromApplication buf =>
        cases filtered <;>
          simp [wire, Wire.indicate, connection, filteredAfter, posted, delivered, serverChunks]
      | fromServer buf =>
        cases filtered <;>
          simp [wire, Wire.indicate, connection, filteredAfter, posted, delivered, serverChunks]
    obtain ⟨filtered', hstate, hout⟩ := step
    rw [Machine.trace_cons, List.flatMap_cons, delivered_append, hout, hstate,
      ih hrest filtered', ← List.flatten_append]
    exact congrArg List.flatten (serverChunks_append [e] rest).symm

/-- While the entry is there, the first chunk is taken for the reply. -/
theorem handshake_delivered {evs : List WireEvent} (within : ∀ e ∈ evs, e.within = true)
    (oci : OriginalConnInfo) :
    delivered (((wire proxyAddress).trace ⟨some oci, true⟩ evs).flatMap Prod.snd) =
      (serverChunks evs).tail.flatten := by
  induction evs generalizing oci with
  | nil => rfl
  | cons e rest ih =>
    have hrest : ∀ d ∈ rest, d.within = true := fun d hd => within d (List.mem_cons_of_mem e hd)
    rw [Machine.trace_cons, List.flatMap_cons, delivered_append]
    cases e with
    | connectRequest info => exact absurd (within _ List.mem_cons_self) Bool.false_ne_true
    | closed => exact absurd (within _ List.mem_cons_self) Bool.false_ne_true
    | fromApplication buf =>
      by_cases hf : oci.remoteAddress.saFamily = afInet6
      · have tail := ih hrest oci
        simpa [wire, Wire.indicate, connection, hf, filteredAfter, posted, delivered,
          serverChunks] using tail
      · have tail := ih hrest { oci with pendedSends := oci.pendedSends ++ buf }
        simpa [wire, Wire.indicate, connection, hf, filteredAfter, posted, delivered,
          serverChunks] using tail
    | fromServer buf =>
      have tail := relay_delivered proxyAddress hrest true
      have hstate : ((wire proxyAddress).step ⟨some oci, true⟩ (.fromServer buf)).1 =
          ⟨none, true⟩ :=
        congrArg (Wire.mk none) (flush_filtered oci.pendedSends true)
      have hout : delivered ((wire proxyAddress).step ⟨some oci, true⟩ (.fromServer buf)).2 =
          [] :=
        flush_delivered oci.pendedSends
      rw [hstate, hout, tail]
      rfl

theorem or_nfFilter (flag : UInt32) : (flag ||| nfFilter) &&& nfFilter ≠ 0 := by
  intro h
  have hbit := congrArg (fun v => v.toNat.testBit 1) h
  simp only [nfFilter, UInt32.toNat_and, UInt32.toNat_or, Nat.testBit_and, Nat.testBit_or] at hbit
  have two : (2 : UInt32).toNat.testBit 1 = true := by decide
  rw [two, Bool.or_true, Bool.and_true] at hbit
  cases hbit

/-- A redirected connection delivers the server's stream without its first chunk. -/
theorem redirected_delivered (d : Driver) (id : EndpointId) (info : ConnInfo)
    (evs : List (EndpointId × WireEvent)) (within : ∀ e ∈ atIndex id evs, e.within = true)
    (redirected : isProxyAddress d.handler.proxyAddress info.remoteAddress = false) :
    delivered ((wireHistory d id ((id, .connectRequest info) :: evs)).flatMap Prod.snd) =
      (serverChunks (atIndex id evs)).tail.flatten := by
  have component := (driver_components d.handler.proxyAddress).trace rfl id
    ((id, .connectRequest info) :: evs)
  have hstate : ((wire d.handler.proxyAddress).step (d.view id) (.connectRequest info)).1 =
      ⟨some ⟨info.remoteAddress, []⟩, true⟩ := by
    have hflag : (redirect d.handler.proxyAddress info).filteringFlag =
        info.filteringFlag ||| nfFilter := by simp [redirect, redirected]
    simp [wire, Wire.indicate, connection, filteredAfter, hflag, or_nfFilter]
  rw [wireHistory, component, atIndex_cons_self, Machine.trace_cons, List.flatMap_cons,
    delivered_append, hstate, handshake_delivered _ within]
  rfl

/-- Dropping the first chunk removes a header exactly when it is the header. -/
theorem tail_flatten_iff {chunks : List Bytes} {header data : Bytes} (present : header ≠ [])
    (stream : chunks.flatten = header ++ data) :
    chunks.tail.flatten = data ↔ (chunks.headD []).length = header.length := by
  cases chunks with
  | nil => exact absurd (List.append_eq_nil_iff.mp stream.symm).1 present
  | cons first rest =>
    have hstream : first ++ rest.flatten = header ++ data := stream
    constructor
    · intro h
      have hlen := congrArg List.length hstream
      have hrest : rest.flatten = data := h
      rw [hrest, List.length_append, List.length_append] at hlen
      exact Nat.add_right_cancel hlen
    · intro h
      exact (List.append_inj hstream h).2

/-- The application receives exactly what follows the reply, for a redirected
connection, exactly when the server's first chunk is the reply and no more. -/
theorem inbound_transparent_iff (d : Driver) (id : EndpointId) (info : ConnInfo)
    (evs : List (EndpointId × WireEvent)) (reply data : Bytes)
    (within : ∀ e ∈ atIndex id evs, e.within = true)
    (redirected : isProxyAddress d.handler.proxyAddress info.remoteAddress = false)
    (complete : reply.length = sizeofSocks4Response)
    (stream : (serverChunks (atIndex id evs)).flatten = reply ++ data) :
    delivered ((wireHistory d id ((id, .connectRequest info) :: evs)).flatMap Prod.snd) = data ↔
      ((serverChunks (atIndex id evs)).headD []).length = sizeofSocks4Response := by
  have present : reply ≠ [] := by
    rintro rfl
    cases complete
  rw [redirected_delivered d id info evs within redirected, ← complete]
  exact tail_flatten_iff present stream

def Driver.initial (proxyAddress : Address) : Driver :=
  ⟨EventHandler.initial proxyAddress, fun _ => false⟩

/-- A granting reply of eight bytes. -/
def grantedReply : Bytes := [0, s4rcSuccess, 0, 0, 0, 0, 0, 0]

theorem inbound_transparent_separate :
    let evs := [((7 : EndpointId), WireEvent.fromApplication [0x47]),
      (7, .fromServer grantedReply), (7, .fromServer [0x48])]
    delivered ((wireHistory (Driver.initial localProxy) 7
        ((7, .connectRequest webRequest) :: evs)).flatMap Prod.snd) = [0x48] ↔
      ((serverChunks (atIndex 7 evs)).headD []).length = sizeofSocks4Response :=
  inbound_transparent_iff (Driver.initial localProxy) 7 webRequest
    [(7, .fromApplication [0x47]), (7, .fromServer grantedReply), (7, .fromServer [0x48])]
    grantedReply [0x48] (by decide) (by decide) rfl (by decide)

/-- A server that speaks first: its data comes with the reply and is lost. -/
theorem coalesced_data_lost :
    let evs := [((7 : EndpointId), WireEvent.fromApplication [0x47]),
      (7, .fromServer (grantedReply ++ [0x48]))]
    isProxyAddress localProxy webRequest.remoteAddress = false ∧
    (serverChunks (atIndex 7 evs)).flatten = grantedReply ++ [0x48] ∧
    delivered ((wireHistory (Driver.initial localProxy) 7
        ((7, .connectRequest webRequest) :: evs)).flatMap Prod.snd) ≠ [0x48] := by
  refine ⟨by decide, by decide, ?_⟩
  have whole := redirected_delivered (Driver.initial localProxy) 7 webRequest
    [(7, .fromApplication [0x47]), (7, .fromServer (grantedReply ++ [0x48]))]
    (by decide) (by decide)
  intro h
  rw [whole] at h
  revert h
  decide

end Inbound

end TcpInbound
