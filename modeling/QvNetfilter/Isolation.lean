import QvNetfilter.Delivery
import QvNetfilter.Renaming
import QvNetfilter.TcpRedirect
import QvNetfilter.Unwinding

/-!
# Endpoints do not see each other

The whole event handler: the TCP half, the UDP half with its proxy, the one thread of
the driver and the worker thread, which issues the next receive after it has given up
the lock. All endpoints share them. Two runs with the same events of one endpoint do
the same for it, whatever happens on the others.
-/

namespace UdpHandler

open UdpProxy (Socket)

def Place.rename (ρ : Socket → Socket) : Place → Place
  | .creating id d stage tcpSocket udpSocket =>
    .creating id d stage (ρ tcpSocket) (ρ udpSocket)
  | place => place

def Output.rename (ρ : Socket → Socket) : Output → Output
  | .proxy a => .proxy (a.rename ρ)
  | out => out

end UdpHandler

namespace Isolation

open Memory Socks Mealy UdpHistory Ownership Endpoints Renaming Delivery
open UdpProxy hiding Event step machine udpSend complete
open UdpHandler hiding Event Output State step machine complete
open TcpRedirect (ConnEvent ConnOutput)

section Model

structure State where
  tcp : TcpRedirect.EventHandler
  udp : UdpHandler.State
  worker : Option Rearm.Pending

/-- After `init`. -/
def State.initial (config : Config) : State :=
  ⟨.initial config.proxyAddress, .initial, none⟩

inductive Event where
  | tcp (id : EndpointId) (e : ConnEvent)
  | udpSend (id : EndpointId) (d : Datagram)
  | udpReceive (id : EndpointId) (d : Datagram)
  | udpClosed (id : EndpointId)
  | driver (id : EndpointId)
  | complete (op : Operation) (data : Bytes) (error : Nat)
  | rearm (id : EndpointId)

inductive Output where
  | tcp (out : ConnOutput)
  | udp (out : UdpHandler.Output)

namespace Event

/-- The endpoint that an event is for; a completion serves the one its operation was
started for. -/
def endpoint : Event → EndpointId
  | .tcp id _ => id
  | .udpSend id _ => id
  | .udpReceive id _ => id
  | .udpClosed id => id
  | .driver id => id
  | .complete op _ _ => op.pov.1
  | .rearm id => id

def rename (ρ : Socket → Socket) : Event → Event
  | .complete op data error => .complete (op.rename ρ) data error
  | e => e

end Event

def Output.rename (ρ : Socket → Socket) : Output → Output
  | .tcp out => .tcp out
  | .udp out => .udp (out.rename ρ)

def udpOutputs (outs : List (EndpointId × UdpHandler.Output)) : List (EndpointId × Output) :=
  outs.map fun o => (o.1, .udp o.2)

variable (os : Os) (config : Config)

/-- The driver's thread does something for a UDP endpoint. -/
def drive (s : State) (e : UdpHandler.Event) : State × List (EndpointId × Output) :=
  let (udp, outs) := UdpHandler.step os config s.udp e
  ({ s with udp := udp }, udpOutputs outs)

/-- The worker thread handles a completion up to the receive that it issues next. -/
def complete (s : State) (op : Operation) (data : Bytes) (error : Nat) :
    State × List (EndpointId × Output) :=
  let (w, r) := Rearm.completeUntilRearm os config s.udp.proxy op data error
  ({ s with udp := { s.udp with proxy := w }, worker := r },
    udpOutputs ((emitted s.udp.proxy w).flatMap (deliver s.udp.udpCtxMap)))

def rearm (s : State) : State × List (EndpointId × Output) :=
  match s.worker with
  | none => (s, [])
  | some r =>
    let w := Rearm.issue os s.udp.proxy r
    ({ s with udp := { s.udp with proxy := w }, worker := none },
      udpOutputs (proxyOutputs s.udp.proxy w))

def step (s : State) : Event → State × List (EndpointId × Output)
  | .tcp id e =>
    let (tcp, outs) := TcpRedirect.EventHandler.machine.step s.tcp (id, e)
    ({ s with tcp := tcp }, outs.map fun o => (o.1, .tcp o.2))
  | .udpSend id d => drive os config s (.udpSend id d)
  | .udpReceive id d => drive os config s (.udpReceive id d)
  | .udpClosed id => drive os config s (.udpClosed id)
  | .driver id => drive os config s (.driver id)
  | .complete op data error => complete os config s op data error
  | .rearm _ => rearm os s

/-- An event happens when its thread is free for it; the worker thread waits for the lock
to deliver a datagram. -/
def Enabled (s : State) : Event → Prop
  | .tcp _ _ => s.udp.place = .idle
  | .udpSend _ _ => s.udp.place = .idle
  | .udpReceive _ _ => s.udp.place = .idle
  | .udpClosed _ => s.udp.place = .idle
  | .driver id => s.udp.place.endpoint = some id
  | .complete op data error => s.worker = none ∧
    ¬ (s.udp.place.holdsLock ∧ ∃ a ∈ emitted s.udp.proxy
      (Rearm.completeUntilRearm os config s.udp.proxy op data error).1, Delivers a)
  | .rearm id => ∃ r, s.worker = some r ∧ r.ov.id = id

instance (s : State) (e : Event) : Decidable (Enabled os config s e) :=
  match e with
  | .tcp _ _ => inferInstanceAs (Decidable (s.udp.place = .idle))
  | .udpSend _ _ => inferInstanceAs (Decidable (s.udp.place = .idle))
  | .udpReceive _ _ => inferInstanceAs (Decidable (s.udp.place = .idle))
  | .udpClosed _ => inferInstanceAs (Decidable (s.udp.place = .idle))
  | .driver id => inferInstanceAs (Decidable (s.udp.place.endpoint = some id))
  | .complete op data error => inferInstanceAs (Decidable (s.worker = none ∧
      ¬ (s.udp.place.holdsLock ∧ ∃ a ∈ emitted s.udp.proxy
        (Rearm.completeUntilRearm os config s.udp.proxy op data error).1, Delivers a)))
  | .rearm id => decidable_of_iff (s.worker.any fun r => r.ov.id = id) (by
      simp [Enabled, Option.any_eq_true])

def machine : Machine State Event (EndpointId × Output) where
  step := step os config

/-- The events of a run of the handler after `init` and without `free`. -/
def IsRun (evs : List Event) : Prop :=
  (machine os config).Throughout (Enabled os config) (State.initial config) evs

instance (evs : List Event) : Decidable (IsRun os config evs) :=
  inferInstanceAs (Decidable
    ((machine os config).Throughout (Enabled os config) (State.initial config) evs))

/-- Everything that a run has done for an endpoint. -/
def outputsOf (evs : List Event) (id : EndpointId) : List Output :=
  atIndex id ((machine os config).outputs (State.initial config) evs)

end Model

section Ownership
variable {os : Os} {config : Config}

/-- The record that the worker thread holds. -/
def held : Option Rearm.Pending → List Pov
  | none => []
  | some r => [r.pov]

structure Coherent (s : State) : Prop where
  owned : Owned s.udp.proxy (held s.worker)
  named : ∀ r, s.worker = some r → r.ov.id = r.pov.1 ∧ r.ov.type.receives = true
  running : s.udp.freeing = .running

theorem Coherent.initial : Coherent (State.initial config) := ⟨Owned.initial, nofun, rfl⟩

theorem owned_onCompleteUntilRearm (os : Os) (config : Config) {w : World} {pov : Pov}
    (owned : Owned w [pov]) (socket : Socket) (dwTransferred : Nat) {ov : OvData}
    (own : ov.id = pov.1) (error : Nat) :
    Owned (Rearm.onCompleteUntilRearm os config w socket dwTransferred pov ov error).1
        (held (Rearm.onCompleteUntilRearm os config w socket dwTransferred pov ov error).2) ∧
      ∀ r, (Rearm.onCompleteUntilRearm os config w socket dwTransferred pov ov error).2 = some r →
        r = ⟨socket, pov, ov⟩ ∧ ov.type.receives = true := by
  unfold Rearm.onCompleteUntilRearm
  cases type : ov.type with
  | ovtUdpReceive =>
    simp only
    split
    · exact ⟨owned.deleteOvData, nofun⟩
    · refine ⟨?_, fun r left => ⟨(Option.some_inj.mp left).symm, rfl⟩⟩
      cases relayedDatagram ov.buffer dwTransferred with
      | none => exact owned
      | some d => exact owned.record ov.id (.onUdpReceiveComplete d)
  | ovtTcpReceive =>
    simp only
    split
    · exact ⟨owned.deleteOvData, nofun⟩
    · exact ⟨owned_onControlData os config owned ov.id ov.buffer dwTransferred,
        fun r left => ⟨(Option.some_inj.mp left).symm, rfl⟩⟩
  | ovtConnect | ovtTcpSend | ovtUdpSend =>
    exact ⟨owned_onComplete os config owned socket dwTransferred own error, nofun⟩

/-- What the worker thread keeps of a completion is the record of its operation. -/
theorem owned_completeUntilRearm (os : Os) (config : Config) {w : World} (owned : Owned w [])
    (op : Operation) (data : Bytes) (error : Nat) :
    Owned (Rearm.completeUntilRearm os config w op data error).1
        (held (Rearm.completeUntilRearm os config w op data error).2) ∧
      ∀ r, (Rearm.completeUntilRearm os config w op data error).2 = some r →
        r.pov = op.pov ∧ r.ov.id = op.pov.1 ∧ r.ov.type.receives = true := by
  unfold Rearm.completeUntilRearm
  split
  · rename_i pending
    have taken := owned.removePending pending
    unfold Rearm.dispatchUntilRearm
    cases hov : (w.removePending op).ovData op.pov with
    | none =>
      have live := (taken.live op.pov).mpr List.mem_cons_self
      exact absurd hov live
    | some ov =>
      have own := taken.named op.pov ov hov
      simp only
      split
      · obtain ⟨owned', left⟩ := owned_onCompleteUntilRearm os config taken op.socket 0 own 0
        refine ⟨owned', fun r found => ?_⟩
        obtain ⟨rfl, receives⟩ := left r found
        exact ⟨rfl, own, receives⟩
      · split
        · let written : OvData :=
            { ov with buffer := overwrite ov.buffer (data.take ov.buffer.length) }
          have own' : written.id = op.pov.1 := own
          have received := (taken.setOv List.mem_cons_self own').record ov.id
            (.received ov.type (data.take ov.buffer.length))
          obtain ⟨owned', left⟩ := owned_onCompleteUntilRearm os config received op.socket
            (data.take ov.buffer.length).length own' error
          refine ⟨owned', fun r found => ?_⟩
          obtain ⟨rfl, receives⟩ := left r found
          exact ⟨rfl, own, receives⟩
        · obtain ⟨owned', left⟩ := owned_onCompleteUntilRearm os config taken op.socket
            data.length own error
          refine ⟨owned', fun r found => ?_⟩
          obtain ⟨rfl, receives⟩ := left r found
          exact ⟨rfl, own, receives⟩
  · exact ⟨owned, nofun⟩

theorem owned_issue (os : Os) {w : World} {r : Rearm.Pending} (owned : Owned w [r.pov])
    (own : r.ov.id = r.pov.1) (receives : r.ov.type.receives = true) :
    Owned (Rearm.issue os w r) [] := by
  unfold Rearm.issue
  split
  · exact owned_rearmTcpReceive os owned r.socket r.ov.id own receives
  · exact owned_rearmUdpReceive os owned r.socket r.ov.id own receives

/-- The steps of the driver's thread. -/
def OfDriver : UdpHandler.Event → Prop
  | .complete _ _ _ => False
  | .free => False
  | _ => True

theorem owned_drive (os : Os) (config : Config) {s : UdpHandler.State} {held : List Pov}
    (owned : Owned s.proxy held) {e : UdpHandler.Event} (ofDriver : OfDriver e) :
    Owned (UdpHandler.step os config s e).1.proxy held ∧
      (UdpHandler.step os config s e).1.freeing = s.freeing := by
  have cases_ := handlerStep os config s e
  generalize UdpHandler.step os config s e = result at cases_ ⊢
  obtain ⟨s', outs⟩ := result
  cases cases_ with
  | ignored | received | known | created | closed => exact ⟨owned, rfl⟩
  | @notOpened j d w idle unknown failed =>
    have opened := owned_openSockets (currentOs os s.freeing) owned j
    rw [failed] at opened
    exact ⟨opened, rfl⟩
  | @opened j d w t u idle unknown result =>
    have opened := owned_openSockets (currentOs os s.freeing) owned j
    rw [result] at opened
    exact ⟨opened, rfl⟩
  | @advanced j d stage stage' w t u there notConnecting notFailed result =>
    have advanced := owned_advance (currentOs os s.freeing) config owned j t u stage
    rw [result] at advanced
    exact ⟨advanced, rfl⟩
  | @gaveUp j | @closes j => exact ⟨owned_deleteProxyConnection owned j, rfl⟩
  | @sent j d w there result | @posted j d w there result =>
    have sent := owned_udpSend (currentOs os s.freeing) owned j d.buf d.remoteAddress
      (sendAddrLen d.remoteAddress)
    rw [result] at sent
    exact ⟨sent, rfl⟩
  | completed | serviceFreed | tablesCleared | contextsCleared => exact absurd ofDriver not_false

theorem coherent_drive {s : State} (coherent : Coherent s) {e : UdpHandler.Event}
    (ofDriver : OfDriver e) : Coherent (drive os config s e).1 := by
  obtain ⟨owned, running⟩ := owned_drive os config coherent.owned ofDriver
  exact ⟨owned, coherent.named, running.trans coherent.running⟩

theorem coherent_step {s : State} {e : Event} (coherent : Coherent s)
    (enabled : Enabled os config s e) : Coherent (step os config s e).1 := by
  cases e with
  | tcp id e => exact ⟨coherent.owned, coherent.named, coherent.running⟩
  | udpSend id d | udpReceive id d | udpClosed id | driver id =>
    exact coherent_drive coherent trivial
  | complete op data error =>
    have owned := coherent.owned
    rw [enabled.1] at owned
    obtain ⟨owned', left⟩ := owned_completeUntilRearm os config owned op data error
    refine ⟨owned', fun r found => ?_, coherent.running⟩
    obtain ⟨pov, named, receives⟩ := left r found
    exact ⟨named.trans (congrArg Prod.fst pov).symm, receives⟩
  | rearm id =>
    obtain ⟨r, busy, _⟩ := enabled
    obtain ⟨named, receives⟩ := coherent.named r busy
    have owned := coherent.owned
    rw [busy] at owned
    simp only [step, rearm, busy]
    exact ⟨owned_issue os owned named receives, nofun, coherent.running⟩

end Ownership

section Untouched
variable (os : Os) (config : Config) {w w₁ : World} {id j : EndpointId}

theorem untouched_openSockets (same : Untouched j w w₁) (other : id ≠ j) :
    Untouched j w (openSockets os w₁ id).1 := by
  unfold openSockets
  split
  · exact same.record other _
  · simp only
    split
    · exact ((same.record other _).record other _).record other _
    · exact (same.record other _).record other _

theorem untouched_advance (same : Untouched j w w₁) (other : id ≠ j)
    (tcpSocket udpSocket : Socket) (stage : Creating) :
    Untouched j w (advance os config w₁ id tcpSocket udpSocket stage).1 := by
  cases stage with
  | opened => exact (same.setEntry other _).record other _
  | stored => exact same.invoke other os _
  | tcpRegistered => exact same.invoke other os _
  | udpRegistered => exact untouched_startConnect os same other _ _ _
  | connecting | failed => exact same

theorem untouched_onCompleteUntilRearm (same : Untouched j w w₁) (socket : Socket)
    (dwTransferred : Nat) {pov : Pov} (other : pov.1 ≠ j) {ov : OvData} (own : ov.id = pov.1)
    (error : Nat) :
    Untouched j w (Rearm.onCompleteUntilRearm os config w₁ socket dwTransferred pov ov error).1 := by
  have named : ov.id ≠ j := own ▸ other
  unfold Rearm.onCompleteUntilRearm
  cases ov.type with
  | ovtUdpReceive =>
    simp only
    split
    · exact same.deleteOvData other
    · cases relayedDatagram ov.buffer dwTransferred with
      | none => exact same
      | some d => exact same.record named (.onUdpReceiveComplete d)
  | ovtTcpReceive =>
    simp only
    split
    · exact same.deleteOvData other
    · exact untouched_onControlData os config same named ov.buffer dwTransferred
  | ovtConnect | ovtTcpSend | ovtUdpSend =>
    exact untouched_onComplete os config same other own socket dwTransferred error

theorem untouched_completeUntilRearm {op : Operation} (other : op.pov.1 ≠ j)
    (named : ∀ ov, w.ovData op.pov = some ov → ov.id = op.pov.1) (data : Bytes) (error : Nat) :
    Untouched j w (Rearm.completeUntilRearm os config w op data error).1 := by
  have start := Untouched.refl j w
  unfold Rearm.completeUntilRearm
  split
  · have taken := start.removePending other
    have same : (w.removePending op).ovData op.pov = w.ovData op.pov := rfl
    unfold Rearm.dispatchUntilRearm
    rw [same]
    cases hov : w.ovData op.pov with
    | none => exact taken
    | some ov =>
      have own := named ov hov
      have elsewhere : ov.id ≠ j := own ▸ other
      simp only
      split
      · exact untouched_onCompleteUntilRearm os config taken op.socket 0 other own 0
      · split
        · let written : OvData :=
            { ov with buffer := overwrite ov.buffer (data.take ov.buffer.length) }
          have own' : written.id = op.pov.1 := own
          have received := (taken.setOv other (some written)).record elsewhere
            (.received ov.type (data.take ov.buffer.length))
          exact untouched_onCompleteUntilRearm os config received op.socket _ other own' error
        · exact untouched_onCompleteUntilRearm os config taken op.socket data.length other own error
  · exact start

theorem untouched_issue {r : Rearm.Pending} (other : r.pov.1 ≠ j) (own : r.ov.id = r.pov.1) :
    Untouched j w (Rearm.issue os w r) := by
  have named : r.ov.id ≠ j := own ▸ other
  have start := Untouched.refl j w
  unfold Rearm.issue
  split
  · exact untouched_rearmTcpReceive os start named r.socket own.symm own
  · exact untouched_rearmUdpReceive os start named r.socket own.symm own

theorem grows_onCompleteUntilRearm (w : World) (socket : Socket) (dwTransferred : Nat) (pov : Pov)
    (ov : OvData) (error : Nat) :
    Grows w (Rearm.onCompleteUntilRearm os config w socket dwTransferred pov ov error).1 := by
  unfold Rearm.onCompleteUntilRearm
  cases ov.type with
  | ovtUdpReceive =>
    simp only
    split
    · exact .refl w
    · cases relayedDatagram ov.buffer dwTransferred with
      | none => exact .refl w
      | some d => exact grows_record w ov.id _
  | ovtTcpReceive =>
    simp only
    split
    · exact .refl w
    · exact grows_onControlData os config w ov.id ov.buffer dwTransferred
  | ovtConnect | ovtTcpSend | ovtUdpSend =>
    exact grows_onComplete os config w socket dwTransferred pov ov error

theorem grows_completeUntilRearm (w : World) (op : Operation) (data : Bytes) (error : Nat) :
    Grows w (Rearm.completeUntilRearm os config w op data error).1 := by
  unfold Rearm.completeUntilRearm
  split
  · unfold Rearm.dispatchUntilRearm
    cases (w.removePending op).ovData op.pov with
    | none => exact .refl w
    | some ov =>
      have taken : Grows w (w.removePending op) := .refl w
      simp only
      split
      · exact taken.trans (grows_onCompleteUntilRearm os config _ op.socket 0 op.pov ov 0)
      · split
        · have received := grows_record ((w.removePending op).setOv op.pov (some { ov with
            buffer := overwrite ov.buffer (data.take ov.buffer.length) })) ov.id
              (.received ov.type (data.take ov.buffer.length))
          exact received.trans (grows_onCompleteUntilRearm os config _ op.socket _ op.pov _ error)
        · exact taken.trans
            (grows_onCompleteUntilRearm os config _ op.socket data.length op.pov ov error)
  · exact .refl w

theorem grows_issue (w : World) (r : Rearm.Pending) : Grows w (Rearm.issue os w r) := by
  unfold Rearm.issue
  split
  · exact grows_rearmTcpReceive os w r.socket r.ov.id r.pov r.ov
  · exact grows_rearmUdpReceive os w r.socket r.ov.id r.pov r.ov

end Untouched

section Outputs

theorem emitted_history {w w₁ : World} (grows : Grows w w₁) (id : EndpointId) :
    w₁.history id = w.history id ++ atIndex id (emitted w w₁) := by
  obtain ⟨added, all⟩ := grows
  have here : emitted w w₁ = added := by rw [emitted, ← all, List.drop_left]
  rw [here, World.history, World.history, ← all, atIndex_append]

theorem emitted_still {w w₁ : World} (grows : Grows w w₁) {id : EndpointId}
    (same : Untouched id w w₁) : atIndex id (emitted w w₁) = [] := by
  have whole := emitted_history grows id
  rw [same.history] at whole
  exact List.self_eq_append_right.mp whole

/-- What two worlds that agree emit in steps that keep them in agreement. -/
theorem emitted_agree {ρ : Socket → Socket} {id : EndpointId} {w w' w₁ w₁' : World}
    (agree : Agree ρ id w w') (agree₁ : Agree ρ id w₁ w₁') (grows : Grows w w₁)
    (grows' : Grows w' w₁') :
    atIndex id (emitted w' w₁') = (atIndex id (emitted w w₁)).map (Action.rename ρ) := by
  have whole := agree₁.history
  rw [emitted_history grows id, emitted_history grows' id, agree.history, List.map_append] at whole
  exact List.append_cancel_left whole

theorem proxyOutputs_at (w w₁ : World) (id : EndpointId) :
    atIndex id (proxyOutputs w w₁) = (atIndex id (emitted w w₁)).map .proxy :=
  atIndex_map id UdpHandler.Output.proxy (emitted w w₁)

theorem proxyOutputs_still {w w₁ : World} (grows : Grows w w₁) {id : EndpointId}
    (same : Untouched id w w₁) : atIndex id (proxyOutputs w w₁) = [] := by
  rw [proxyOutputs_at, emitted_still grows same]
  rfl

/-- Both runs do the same for the endpoint. -/
def SameOutputs (ρ : Socket → Socket) (id : EndpointId)
    (outs outs' : List (EndpointId × UdpHandler.Output)) : Prop :=
  atIndex id outs' = (atIndex id outs).map (UdpHandler.Output.rename ρ)

namespace SameOutputs
variable {ρ : Socket → Socket} {id : EndpointId}
  {outs outs' more more' : List (EndpointId × UdpHandler.Output)}

theorem nil : SameOutputs ρ id [] [] := rfl

theorem cons (same : SameOutputs ρ id outs outs') (out : UdpHandler.Output) :
    SameOutputs ρ id ((id, out) :: outs) ((id, out.rename ρ) :: outs') := by
  rw [SameOutputs, atIndex_cons_self, atIndex_cons_self, List.map_cons, same]

theorem append (same : SameOutputs ρ id outs outs') (also : SameOutputs ρ id more more') :
    SameOutputs ρ id (outs ++ more) (outs' ++ more') := by
  rw [SameOutputs, atIndex_append, atIndex_append, List.map_append, same, also]

end SameOutputs

theorem proxyOutputs_agree {ρ : Socket → Socket} {id : EndpointId} {w w' w₁ w₁' : World}
    (agree : Agree ρ id w w') (agree₁ : Agree ρ id w₁ w₁') (grows : Grows w w₁)
    (grows' : Grows w' w₁') :
    SameOutputs ρ id (proxyOutputs w w₁) (proxyOutputs w' w₁') := by
  rw [SameOutputs, proxyOutputs_at, proxyOutputs_at, emitted_agree agree agree₁ grows grows',
    List.map_map, List.map_map]
  rfl

/-- What an endpoint with this context is shown of an action of the proxy. -/
def deliverAt (context : Option (Option UdpOptions)) : Action → List UdpHandler.Output
  | .onUdpReceiveComplete d =>
    match context with
    | none => [.proxy (.onUdpReceiveComplete d)]
    | some options => [.proxy (.onUdpReceiveComplete d),
        .nfUdpPostReceive d.remoteAddress d.buf d.len options]
  | a => [.proxy a]

theorem deliver_at (udpCtxMap : EndpointId → Option (Option UdpOptions)) (id : EndpointId)
    (added : List (EndpointId × Action)) :
    atIndex id (added.flatMap (deliver udpCtxMap)) =
      (atIndex id added).flatMap (deliverAt (udpCtxMap id)) := by
  induction added with
  | nil => rfl
  | cons a rest ih =>
    obtain ⟨j, a⟩ := a
    rw [List.flatMap_cons, atIndex_append, ih]
    by_cases own : j = id
    · subst own
      rw [atIndex_cons_self, List.flatMap_cons]
      congr 1
      cases a with
      | onUdpReceiveComplete d =>
        simp only [deliver, deliverAt]
        cases udpCtxMap j with
        | none => simp
        | some options => simp
      | _ => simp [deliver, deliverAt]
    · have hidden : atIndex id (deliver udpCtxMap (j, a)) = [] := by
        cases a with
        | onUdpReceiveComplete d =>
          simp only [deliver]
          cases udpCtxMap j with
          | none => simp [atIndex_cons_ne own]
          | some options => simp [atIndex_cons_ne own]
        | _ => simp [deliver, atIndex_cons_ne own]
      rw [hidden, atIndex_cons_ne own]
      rfl

theorem deliverAt_rename (ρ : Socket → Socket) (context : Option (Option UdpOptions)) (a : Action) :
    deliverAt context (a.rename ρ) = (deliverAt context a).map (UdpHandler.Output.rename ρ) := by
  cases a with
  | onUdpReceiveComplete d => cases context <;> rfl
  | _ => rfl

end Outputs

section Atomic
variable (os : Os) (config : Config)

theorem emitted_trans {w w₁ w₂ : World} (first : Grows w w₁) (second : Grows w₁ w₂) :
    emitted w w₂ = emitted w w₁ ++ emitted w₁ w₂ := by
  obtain ⟨added, all⟩ := first
  obtain ⟨added', all'⟩ := second
  rw [emitted, emitted, emitted, ← all', ← all, List.append_assoc, List.drop_left, List.drop_left,
    ← List.append_assoc, List.drop_left]

/-- The calls of a receive deliver nothing. -/
theorem issue_silent (w : World) (r : Rearm.Pending) :
    ∀ a ∈ emitted w (Rearm.issue os w r), ¬ Delivers a := by
  have posted : ∀ (w : World) (socket : Socket) (pov : Pov) (ov : OvData),
      ∃ answer, (postClosed os w socket pov ov).log =
        w.log ++ [(ov.id, .call (.postCompletion socket pov) answer)] := by
    intro w socket pov ov
    refine ⟨os.accepts ov.id (w.history ov.id) (.postCompletion socket pov), ?_⟩
    simp only [postClosed]
    split <;> rfl
  have logged : ∃ added, (Rearm.issue os w r).log = w.log ++ added ∧ ∀ a ∈ added, ¬ Delivers a := by
    have rearmed : ∀ c, ∃ added, (if (invoke os w r.ov.id c).2
        then (invoke os w r.ov.id c).1.addPending ⟨r.pov, r.socket, false⟩
        else postClosed os (invoke os w r.ov.id c).1 r.socket r.pov r.ov).log = w.log ++ added ∧
          ∀ a ∈ added, ¬ Delivers a := by
      intro c
      split
      · exact ⟨[(r.ov.id, .call c _)], rfl, by simp [Delivers]⟩
      · obtain ⟨answer, log⟩ := posted (invoke os w r.ov.id c).1 r.socket r.pov r.ov
        refine ⟨[(r.ov.id, .call c (os.accepts r.ov.id (w.history r.ov.id) c)),
          (r.ov.id, .call (.postCompletion r.socket r.pov) answer)], ?_, by simp [Delivers]⟩
        rw [log]
        exact List.append_assoc w.log _ _
    unfold Rearm.issue
    split
    · exact rearmed (.wsaRecv r.socket)
    · exact rearmed (.wsaRecvFrom r.socket)
  obtain ⟨added, all, silent⟩ := logged
  rw [emitted, all, List.drop_left]
  exact silent

theorem deliver_silent (udpCtxMap : EndpointId → Option (Option UdpOptions))
    {added : List (EndpointId × Action)} (silent : ∀ a ∈ added, ¬ Delivers a) :
    added.flatMap (deliver udpCtxMap) = added.map fun a => (a.1, .proxy a.2) := by
  induction added with
  | nil => rfl
  | cons a rest ih =>
    obtain ⟨id, a⟩ := a
    have first : deliver udpCtxMap (id, a) = [(id, .proxy a)] := by
      have quiet := silent (id, a) List.mem_cons_self
      cases a with
      | onUdpReceiveComplete d => exact absurd trivial quiet
      | _ => rfl
    rw [List.flatMap_cons, first, ih fun a' member => silent a' (List.mem_cons_of_mem _ member)]
    rfl

/-- A completion whose receive is issued at once is the one step of the UDP half. -/
theorem complete_rearm {s : State} {op : Operation} {data : Bytes} {error : Nat}
    (enabled : Enabled os config s (.complete op data error)) (running : s.udp.freeing = .running) :
    (rearm os (complete os config s op data error).1).1.udp =
        (UdpHandler.step os config s.udp (.complete op data error)).1 ∧
      (complete os config s op data error).2 ++
          (rearm os (complete os config s op data error).1).2 =
        udpOutputs (UdpHandler.step os config s.udp (.complete op data error)).2 := by
  obtain ⟨_, free⟩ := enabled
  have whole := Rearm.finish_complete os config s.udp.proxy op data error
  have grows := grows_completeUntilRearm os config s.udp.proxy op data error
  have atomic : ∀ w, UdpProxy.complete os config s.udp.proxy op data error = w →
      ¬ (s.udp.place.holdsLock ∧ ∃ a ∈ emitted s.udp.proxy w, Delivers a) →
      UdpHandler.step os config s.udp (.complete op data error) =
        ({ s.udp with proxy := w }, (emitted s.udp.proxy w).flatMap (deliver s.udp.udpCtxMap)) := by
    rintro _ rfl unblocked
    simp only [UdpHandler.step, UdpHandler.complete, running, ne_eq, not_true, if_false,
      if_neg unblocked]
  rcases result : Rearm.completeUntilRearm os config s.udp.proxy op data error with ⟨w, left⟩
  rw [result] at whole grows free
  simp only [complete, result]
  cases left with
  | none =>
    rw [atomic w whole.symm free]
    exact ⟨rfl, List.append_nil _⟩
  | some r =>
    have silent := issue_silent os w r
    have parts := emitted_trans grows (grows_issue os w r)
    have unblocked : ¬ (s.udp.place.holdsLock ∧
        ∃ a ∈ emitted s.udp.proxy (Rearm.issue os w r), Delivers a) := by
      rintro ⟨locked, a, member, delivers⟩
      rw [parts] at member
      rcases List.mem_append.mp member with before | after
      · exact free ⟨locked, a, before, delivers⟩
      · exact silent a after delivers
    rw [atomic (Rearm.issue os w r) whole.symm unblocked, parts, List.flatMap_append,
      deliver_silent s.udp.udpCtxMap silent]
    refine ⟨rfl, ?_⟩
    simp only [rearm, udpOutputs, List.map_append]
    rfl

end Atomic

section Others
variable {os : Os} {config : Config}

/-- The place of the driver's thread, as far as it is in an event of the endpoint. -/
def placeAt (id : EndpointId) (place : Place) : Place :=
  if place.endpoint = some id then place else .idle

/-- The receive that the worker thread is about to issue for the endpoint. -/
def workerAt (id : EndpointId) (worker : Option Rearm.Pending) : Option Rearm.Pending :=
  worker.filter fun r => r.ov.id = id

theorem placeAt_ne {id : EndpointId} {place : Place} (elsewhere : place.endpoint ≠ some id) :
    placeAt id place = .idle := if_neg elsewhere

theorem placeAt_self {id : EndpointId} {place : Place} (here : place.endpoint = some id) :
    placeAt id place = place := if_pos here

theorem workerAt_ne {id : EndpointId} {r : Rearm.Pending} (other : r.ov.id ≠ id) :
    workerAt id (some r) = none := by
  simp [workerAt, other]

theorem workerAt_self {id : EndpointId} {r : Rearm.Pending} (own : r.ov.id = id) :
    workerAt id (some r) = some r := by
  simp [workerAt, own]

theorem placeAt_rename (ρ : Socket → Socket) (id : EndpointId) (place : Place) :
    placeAt id (place.rename ρ) = (placeAt id place).rename ρ := by
  have same : (place.rename ρ).endpoint = place.endpoint := by cases place <;> rfl
  unfold placeAt
  rw [same]
  split <;> rfl

/-- Everything of the endpoint in the UDP half is as it was. -/
structure UdpStill (id : EndpointId) (s s₁ : UdpHandler.State) : Prop where
  world : Untouched id s.proxy s₁.proxy
  context : s₁.udpCtxMap id = s.udpCtxMap id
  place : placeAt id s₁.place = placeAt id s.place

structure Still (id : EndpointId) (s s₁ : State) : Prop where
  tcp : s₁.tcp.connInfoMap id = s.tcp.connInfoMap id
  proxyAddress : s₁.tcp.proxyAddress = s.tcp.proxyAddress
  udp : UdpStill id s.udp s₁.udp
  worker : workerAt id s₁.worker = workerAt id s.worker

/-- The endpoint that a step of the driver's thread is for. -/
def driverEndpoint : UdpHandler.Event → Option EndpointId
  | .udpSend id _ => some id
  | .udpReceive id _ => some id
  | .udpClosed id => some id
  | .driver id => some id
  | .complete _ _ _ => none
  | .free => none

theorem still_udp (os : Os) (config : Config) (s : UdpHandler.State) {e : UdpHandler.Event}
    {id j : EndpointId}
    (own : driverEndpoint e = some j) (other : j ≠ id) :
    UdpStill id s (UdpHandler.step os config s e).1 ∧
      atIndex id (UdpHandler.step os config s e).2 = [] := by
  have cases_ := handlerStep os config s e
  generalize UdpHandler.step os config s e = result at cases_ ⊢
  obtain ⟨s', outs⟩ := result
  have start := Untouched.refl id s.proxy
  have idleAt : ∀ {place : Place}, place = .idle → placeAt id place = .idle := by
    rintro _ rfl
    rfl
  have elsewhere : ∀ {place : Place}, place.endpoint = some j → placeAt id place = .idle := by
    intro place here
    apply placeAt_ne
    rw [here]
    exact fun same => other (Option.some_inj.mp same)
  cases cases_ with
  | ignored => exact ⟨⟨start, rfl, rfl⟩, rfl⟩
  | @received k d idle =>
    obtain rfl := Option.some_inj.mp own
    exact ⟨⟨start, rfl, rfl⟩, atIndex_cons_ne other _ _⟩
  | @known k d options idle context =>
    obtain rfl := Option.some_inj.mp own
    exact ⟨⟨start, rfl, (elsewhere rfl).trans (idleAt idle).symm⟩, atIndex_cons_ne other _ _⟩
  | @notOpened k d w idle unknown failed =>
    obtain rfl := Option.some_inj.mp own
    have same := untouched_openSockets (currentOs os s.freeing) start other
    have grows := grows_openSockets (currentOs os s.freeing) s.proxy k
    rw [failed] at same grows
    refine ⟨⟨same, rfl, rfl⟩, ?_⟩
    rw [atIndex_cons_ne other, proxyOutputs_still grows same]
  | @opened k d w t u idle unknown opened =>
    obtain rfl := Option.some_inj.mp own
    have same := untouched_openSockets (currentOs os s.freeing) start other
    have grows := grows_openSockets (currentOs os s.freeing) s.proxy k
    rw [opened] at same grows
    refine ⟨⟨same, rfl, (elsewhere rfl).trans (idleAt idle).symm⟩, ?_⟩
    rw [atIndex_cons_ne other, proxyOutputs_still grows same]
  | @advanced k d stage stage' w t u there notConnecting notFailed result =>
    obtain rfl := Option.some_inj.mp own
    have same := untouched_advance (currentOs os s.freeing) config start other t u stage
    have grows := grows_advance (currentOs os s.freeing) config s.proxy k t u stage
    rw [result] at same grows
    have before : placeAt id s.place = .idle := elsewhere (by rw [there]; rfl)
    exact ⟨⟨same, rfl, (elsewhere rfl).trans before.symm⟩, proxyOutputs_still grows same⟩
  | @gaveUp k d t u there =>
    obtain rfl := Option.some_inj.mp own
    have same := untouched_deleteProxyConnection start other
    have before : placeAt id s.place = .idle := elsewhere (by rw [there]; rfl)
    exact ⟨⟨same, rfl, before.symm⟩,
      proxyOutputs_still (grows_deleteProxyConnection s.proxy k) same⟩
  | @created k d t u there =>
    obtain rfl := Option.some_inj.mp own
    have before : placeAt id s.place = .idle := elsewhere (by rw [there]; rfl)
    exact ⟨⟨start, Function.update_of_ne (Ne.symm other) _ _, (elsewhere rfl).trans before.symm⟩,
      rfl⟩
  | @sent k d w there result =>
    obtain rfl := Option.some_inj.mp own
    have same := untouched_udpSend (currentOs os s.freeing) start other d.buf d.remoteAddress
      (sendAddrLen d.remoteAddress)
    have grows := grows_udpSend (currentOs os s.freeing) s.proxy k d.buf d.remoteAddress
      (sendAddrLen d.remoteAddress)
    rw [result] at same grows
    have before : placeAt id s.place = .idle := elsewhere (by rw [there]; rfl)
    exact ⟨⟨same, rfl, before.symm⟩, proxyOutputs_still grows same⟩
  | @posted k d w there result =>
    obtain rfl := Option.some_inj.mp own
    have same := untouched_udpSend (currentOs os s.freeing) start other d.buf d.remoteAddress
      (sendAddrLen d.remoteAddress)
    have grows := grows_udpSend (currentOs os s.freeing) s.proxy k d.buf d.remoteAddress
      (sendAddrLen d.remoteAddress)
    rw [result] at same grows
    have before : placeAt id s.place = .idle := elsewhere (by rw [there]; rfl)
    have silent : atIndex id (proxyOutputs s.proxy w ++ [(k, .nfUdpPostSend d)]) = [] := by
      rw [atIndex_append, proxyOutputs_still grows same, atIndex_cons_ne other]
      rfl
    exact ⟨⟨same, rfl, before.symm⟩, silent⟩
  | @closes k idle =>
    obtain rfl := Option.some_inj.mp own
    have same := untouched_deleteProxyConnection start other
    refine ⟨⟨same, rfl, (elsewhere rfl).trans (idleAt idle).symm⟩, ?_⟩
    rw [atIndex_cons_ne other, proxyOutputs_still (grows_deleteProxyConnection s.proxy k) same]
  | @closed k there =>
    obtain rfl := Option.some_inj.mp own
    have before : placeAt id s.place = .idle := elsewhere (by rw [there]; rfl)
    exact ⟨⟨start, Function.update_of_ne (Ne.symm other) _ _, before.symm⟩, rfl⟩
  | completed | serviceFreed | tablesCleared | contextsCleared => exact absurd own nofun

theorem udpOutputs_at (outs : List (EndpointId × UdpHandler.Output)) (id : EndpointId) :
    atIndex id (udpOutputs outs) = (atIndex id outs).map .udp :=
  atIndex_map id Output.udp outs

theorem still_drive {s : State} {e : UdpHandler.Event} {id j : EndpointId}
    (own : driverEndpoint e = some j) (other : j ≠ id) :
    Still id s (drive os config s e).1 ∧ atIndex id (drive os config s e).2 = [] := by
  obtain ⟨still, silent⟩ := still_udp os config s.udp own other
  refine ⟨⟨rfl, rfl, still, rfl⟩, ?_⟩
  rw [drive, udpOutputs_at, silent]
  rfl

theorem tcpOutputs_at (outs : List (EndpointId × ConnOutput)) (id : EndpointId) :
    atIndex id (outs.map fun o => (o.1, Output.tcp o.2)) = (atIndex id outs).map .tcp :=
  atIndex_map id Output.tcp outs

/-- The connections of the TCP half are a family. -/
theorem tcp_other (h : TcpRedirect.EventHandler) (e : ConnEvent) {id j : EndpointId}
    (other : j ≠ id) :
    (TcpRedirect.EventHandler.machine.step h (j, e)).1.connInfoMap id = h.connInfoMap id ∧
      (TcpRedirect.EventHandler.machine.step h (j, e)).1.proxyAddress = h.proxyAddress ∧
      atIndex id (TcpRedirect.EventHandler.machine.step h (j, e)).2 = [] := by
  rw [TcpRedirect.handler_step]
  exact ⟨Function.update_of_ne (Ne.symm other) _ _, rfl, atIndex_map_ne other _⟩

/-- An event of another endpoint leaves the endpoint alone and shows nothing of it. -/
theorem still_step {s : State} {e : Event} {id : EndpointId} (coherent : Coherent s)
    (enabled : Enabled os config s e) (other : e.endpoint ≠ id) :
    Still id s (step os config s e).1 ∧ atIndex id (step os config s e).2 = [] := by
  have start := Untouched.refl id s.udp.proxy
  cases e with
  | tcp j e =>
    have elsewhere : j ≠ id := other
    obtain ⟨entry, proxyAddress, silent⟩ := tcp_other s.tcp e elsewhere
    exact ⟨⟨entry, proxyAddress, ⟨start, rfl, rfl⟩, rfl⟩,
      (tcpOutputs_at _ id).trans (congrArg (List.map Output.tcp) silent)⟩
  | udpSend j d | udpReceive j d | udpClosed j | driver j => exact still_drive rfl other
  | complete op data error =>
    have owned := coherent.owned
    rw [enabled.1] at owned
    have same := untouched_completeUntilRearm os config other (owned.named op.pov) data error
    have grows := grows_completeUntilRearm os config s.udp.proxy op data error
    obtain ⟨_, left⟩ := owned_completeUntilRearm os config owned op data error
    refine ⟨⟨rfl, rfl, ⟨same, rfl, rfl⟩, ?_⟩, ?_⟩
    · rw [enabled.1]
      cases found : (Rearm.completeUntilRearm os config s.udp.proxy op data error).2 with
      | none => simp only [step, complete, found]
      | some r =>
        have named : r.ov.id ≠ id := by
          rw [(left r found).2.1]
          exact other
        simp only [step, complete, found]
        exact workerAt_ne named
    · rw [step, complete, udpOutputs_at, deliver_at, emitted_still grows same]
      rfl
  | rearm j =>
    obtain ⟨r, busy, mine⟩ := enabled
    obtain ⟨named, _⟩ := coherent.named r busy
    have elsewhere : r.ov.id ≠ id := mine ▸ other
    have same := untouched_issue os (w := s.udp.proxy) (named ▸ elsewhere) named
    simp only [step, rearm, busy]
    refine ⟨⟨rfl, rfl, ⟨same, rfl, rfl⟩, ?_⟩, ?_⟩
    · rw [busy, workerAt_ne elsewhere]
      rfl
    · rw [udpOutputs_at, proxyOutputs_still (grows_issue os s.udp.proxy r) same]
      rfl

end Others

section Own
variable {ρ : Socket → Socket} {id : EndpointId} {os os' : Os} {config : Config}

theorem agree_openSockets {w w' : World} (system : OsAgree ρ id os os') (agree : Agree ρ id w w') :
    Agree ρ id (openSockets os w id).1 (openSockets os' w' id).1 ∧
      (openSockets os' w' id).2 = (openSockets os w id).2.map (Prod.map ρ ρ) := by
  have tcp : os'.socket id (w'.history id) .stream =
      (os.socket id (w.history id) .stream).map ρ := by
    rw [agree.history]
    exact system.socket _ _
  unfold openSockets
  rw [tcp]
  cases os.socket id (w.history id) .stream with
  | none => exact ⟨agree.record (.opened .stream none), rfl⟩
  | some tcpSocket =>
    have opened := agree.record (.opened .stream (some tcpSocket))
    have udp : os'.socket id ((w'.record id (.opened .stream (some (ρ tcpSocket)))).history id)
        .dgram = (os.socket id ((w.record id (.opened .stream (some tcpSocket))).history id)
          .dgram).map ρ := by
      have renamed := opened.history
      simp only [Action.rename, Option.map_some] at renamed
      rw [renamed]
      exact system.socket _ _
    simp only [Option.map_some, udp]
    cases os.socket id ((w.record id (.opened .stream (some tcpSocket))).history id) .dgram with
    | none => exact ⟨(opened.record (.opened .dgram none)).record (.closed tcpSocket), rfl⟩
    | some udpSocket => exact ⟨opened.record (.opened .dgram (some udpSocket)), rfl⟩

theorem agree_advance (config : Config) {w w' : World} (system : OsAgree ρ id os os')
    (agree : Agree ρ id w w') (tcpSocket udpSocket : Socket) (stage : Creating) :
    Agree ρ id (advance os config w id tcpSocket udpSocket stage).1
        (advance os' config w' id (ρ tcpSocket) (ρ udpSocket) stage).1 ∧
      (advance os' config w' id (ρ tcpSocket) (ρ udpSocket) stage).2 =
        (advance os config w id tcpSocket udpSocket stage).2 := by
  cases stage with
  | opened =>
    exact ⟨(agree.setEntry (some (ProxyData.new config tcpSocket udpSocket))).record .created, rfl⟩
  | stored =>
    obtain ⟨asked, answer⟩ := agree_invoke system agree (.registerSocket tcpSocket)
    simp only [Call.rename] at asked answer
    simp only [advance, answer]
    exact ⟨asked, trivial⟩
  | tcpRegistered =>
    obtain ⟨asked, answer⟩ := agree_invoke system agree (.registerSocket udpSocket)
    simp only [Call.rename] at asked answer
    simp only [advance, answer]
    exact ⟨asked, trivial⟩
  | udpRegistered =>
    obtain ⟨asked, answer⟩ := agree_startConnect system agree tcpSocket config.proxyAddress
      config.proxyAddressLen
    simp only [advance, answer]
    exact ⟨asked, trivial⟩
  | connecting | failed => exact ⟨agree, rfl⟩

/-- The UDP halves of two runs agree at the endpoint. -/
structure UdpAgree (ρ : Socket → Socket) (id : EndpointId) (s s' : UdpHandler.State) : Prop where
  world : Agree ρ id s.proxy s'.proxy
  context : s'.udpCtxMap id = s.udpCtxMap id
  place : placeAt id s'.place = (placeAt id s.place).rename ρ
  running : s.freeing = .running
  running' : s'.freeing = .running

variable {s s' : UdpHandler.State}

theorem agree_udpSend_step (system : OsAgree ρ id os os') (agree : UdpAgree ρ id s s')
    (d : Datagram) :
    UdpAgree ρ id (UdpHandler.udpSend os s id d).1 (UdpHandler.udpSend os' s' id d).1 ∧
      SameOutputs ρ id (UdpHandler.udpSend os s id d).2 (UdpHandler.udpSend os' s' id d).2 := by
  obtain ⟨world, context, place, running, running'⟩ := agree
  obtain ⟨opens, sockets⟩ := agree_openSockets system world
  have grows := grows_openSockets os s.proxy id
  have grows' := grows_openSockets os' s'.proxy id
  have same := proxyOutputs_agree world opens grows grows'
  have system_ : currentOs os s.freeing = os := by rw [running]; rfl
  have system' : currentOs os' s'.freeing = os' := by rw [running']; rfl
  unfold UdpHandler.udpSend
  rw [context, system_, system']
  cases s.udpCtxMap id with
  | some options =>
    exact ⟨⟨world, context, placeAt_rename ρ id (.sending id d), running, running'⟩,
      SameOutputs.nil.cons (.udpSend d)⟩
  | none =>
    rcases result : openSockets os s.proxy id with ⟨w, pair⟩
    rcases result' : openSockets os' s'.proxy id with ⟨w', pair'⟩
    rw [result, result'] at opens sockets same
    obtain rfl : pair' = pair.map (Prod.map ρ ρ) := sockets
    cases pair with
    | none => exact ⟨⟨opens, context, place, running, running'⟩, same.cons (.udpSend d)⟩
    | some pair =>
      exact ⟨⟨opens, context, placeAt_rename ρ id (.creating id d .opened pair.1 pair.2),
        running, running'⟩, same.cons (.udpSend d)⟩

theorem agree_udpClosed (agree : UdpAgree ρ id s s') :
    UdpAgree ρ id (UdpHandler.udpClosed s id).1 (UdpHandler.udpClosed s' id).1 ∧
      SameOutputs ρ id (UdpHandler.udpClosed s id).2 (UdpHandler.udpClosed s' id).2 := by
  obtain ⟨world, context, place, running, running'⟩ := agree
  have closes := agree_deleteProxyConnection world
  have same := proxyOutputs_agree world closes (grows_deleteProxyConnection s.proxy id)
    (grows_deleteProxyConnection s'.proxy id)
  exact ⟨⟨closes, context, placeAt_rename ρ id (.closing id), running, running'⟩,
    same.cons .udpClosed⟩

/-- The driver's thread goes on with an event of the endpoint. -/
theorem agree_goOn (system : OsAgree ρ id os os') (agree : UdpAgree ρ id s s')
    (here : s.place.endpoint = some id) (here' : s'.place.endpoint = some id) :
    UdpAgree ρ id (goOn os config s).1 (goOn os' config s').1 ∧
      SameOutputs ρ id (goOn os config s).2 (goOn os' config s').2 := by
  obtain ⟨world, context, place, running, running'⟩ := agree
  rw [placeAt_self here, placeAt_self here'] at place
  have system_ : currentOs os s.freeing = os := by rw [running]; rfl
  have system' : currentOs os' s'.freeing = os' := by rw [running']; rfl
  have idle : placeAt id Place.idle = (placeAt id Place.idle).rename ρ := rfl
  cases there : s.place with
  | idle =>
    rw [there] at here
    exact absurd here nofun
  | creating j d stage tcpSocket udpSocket =>
    have there' : s'.place = .creating j d stage (ρ tcpSocket) (ρ udpSocket) := by
      rw [place, there]
      rfl
    rw [there] at here
    obtain rfl : j = id := Option.some_inj.mp here
    have advanced : ∀ stage, UdpAgree ρ j
        { s with
          proxy := (advance os config s.proxy j tcpSocket udpSocket stage).1
          place := .creating j d (advance os config s.proxy j tcpSocket udpSocket stage).2
            tcpSocket udpSocket }
        { s' with
          proxy := (advance os' config s'.proxy j (ρ tcpSocket) (ρ udpSocket) stage).1
          place := .creating j d (advance os' config s'.proxy j (ρ tcpSocket) (ρ udpSocket) stage).2
            (ρ tcpSocket) (ρ udpSocket) } ∧
        SameOutputs ρ j
          (proxyOutputs s.proxy (advance os config s.proxy j tcpSocket udpSocket stage).1)
          (proxyOutputs s'.proxy
            (advance os' config s'.proxy j (ρ tcpSocket) (ρ udpSocket) stage).1) := by
      intro stage
      obtain ⟨advances, stages⟩ :=
        agree_advance config system world tcpSocket udpSocket stage
      have same := proxyOutputs_agree world advances
        (grows_advance os config s.proxy j tcpSocket udpSocket stage)
        (grows_advance os' config s'.proxy j (ρ tcpSocket) (ρ udpSocket) stage)
      rw [stages]
      exact ⟨⟨advances, context, placeAt_rename ρ j (.creating j d _ tcpSocket udpSocket), running,
        running'⟩, same⟩
    simp only [goOn, there, there', system_, system']
    cases stage with
    | failed =>
      have closes := agree_deleteProxyConnection world
      exact ⟨⟨closes, context, idle, running, running'⟩, proxyOutputs_agree world closes
        (grows_deleteProxyConnection s.proxy j) (grows_deleteProxyConnection s'.proxy j)⟩
    | connecting =>
      have context' : Function.update s'.udpCtxMap j (some d.options) j =
          Function.update s.udpCtxMap j (some d.options) j := by
        rw [Function.update_self, Function.update_self]
      exact ⟨⟨world, context', placeAt_rename ρ j (.sending j d), running, running'⟩, .nil⟩
    | opened => exact advanced .opened
    | stored => exact advanced .stored
    | tcpRegistered => exact advanced .tcpRegistered
    | udpRegistered => exact advanced .udpRegistered
  | sending j d =>
    have there' : s'.place = .sending j d := by
      rw [place, there]
      rfl
    rw [there] at here
    obtain rfl : j = id := Option.some_inj.mp here
    obtain ⟨sends, sent⟩ := agree_udpSend system world d.buf d.remoteAddress
      (sendAddrLen d.remoteAddress)
    have same := proxyOutputs_agree world sends
      (grows_udpSend os s.proxy j d.buf d.remoteAddress (sendAddrLen d.remoteAddress))
      (grows_udpSend os' s'.proxy j d.buf d.remoteAddress (sendAddrLen d.remoteAddress))
    simp only [goOn, there, there', system_, system', sent]
    refine ⟨⟨sends, context, idle, running, running'⟩, same.append ?_⟩
    split
    · exact .nil
    · exact SameOutputs.nil.cons (.nfUdpPostSend d)
  | closing j =>
    have there' : s'.place = .closing j := by
      rw [place, there]
      rfl
    rw [there] at here
    obtain rfl : j = id := Option.some_inj.mp here
    have context' : Function.update s'.udpCtxMap j none j = Function.update s.udpCtxMap j none j := by
      rw [Function.update_self, Function.update_self]
    simp only [goOn, there, there']
    exact ⟨⟨world, context', idle, running, running'⟩, .nil⟩

end Own

section Runs
variable {ρ : Socket → Socket} {id : EndpointId} {os os' : Os} {config : Config} {s s' s₁ : State}

/-- Two runs that cannot be told apart at the endpoint. -/
structure Related (ρ : Socket → Socket) (id : EndpointId) (s s' : State) : Prop where
  coherent : Coherent s
  coherent' : Coherent s'
  tcp : s'.tcp.connInfoMap id = s.tcp.connInfoMap id
  proxyAddress : s'.tcp.proxyAddress = s.tcp.proxyAddress
  udp : UdpAgree ρ id s.udp s'.udp
  worker : workerAt id s'.worker = (workerAt id s.worker).map (pendingRename ρ)

theorem Related.initial : Related ρ id (State.initial config) (State.initial config) :=
  ⟨.initial, .initial, rfl, rfl, ⟨.initial, rfl, rfl, rfl, rfl⟩, rfl⟩

theorem Related.left (related : Related ρ id s s') (still : Still id s s₁)
    (coherent : Coherent s₁) :
    Related ρ id s₁ s' where
  coherent := coherent
  coherent' := related.coherent'
  tcp := related.tcp.trans still.tcp.symm
  proxyAddress := related.proxyAddress.trans still.proxyAddress.symm
  udp :=
    { world := related.udp.world.left still.udp.world
      context := related.udp.context.trans still.udp.context.symm
      place := by rw [related.udp.place, still.udp.place]
      running := coherent.running
      running' := related.udp.running' }
  worker := by rw [related.worker, still.worker]

theorem Related.right (related : Related ρ id s s') (still : Still id s' s₁)
    (coherent : Coherent s₁) : Related ρ id s s₁ where
  coherent := related.coherent
  coherent' := coherent
  tcp := still.tcp.trans related.tcp
  proxyAddress := still.proxyAddress.trans related.proxyAddress
  udp :=
    { world := related.udp.world.right still.udp.world
      context := still.udp.context.trans related.udp.context
      place := still.udp.place.trans related.udp.place
      running := related.udp.running
      running' := coherent.running }
  worker := still.worker.trans related.worker

/-- The events of one connection move its entry alike in both runs. -/
theorem tcp_same {h h' : TcpRedirect.EventHandler} (proxyAddress : h'.proxyAddress = h.proxyAddress)
    (entry : h'.connInfoMap id = h.connInfoMap id) (e : ConnEvent) :
    (TcpRedirect.EventHandler.machine.step h' (id, e)).1.connInfoMap id =
        (TcpRedirect.EventHandler.machine.step h (id, e)).1.connInfoMap id ∧
      (TcpRedirect.EventHandler.machine.step h' (id, e)).1.proxyAddress =
        (TcpRedirect.EventHandler.machine.step h (id, e)).1.proxyAddress ∧
      atIndex id (TcpRedirect.EventHandler.machine.step h' (id, e)).2 =
        atIndex id (TcpRedirect.EventHandler.machine.step h (id, e)).2 := by
  rw [TcpRedirect.handler_step, TcpRedirect.handler_step]
  simp [family, proxyAddress, entry]

theorem workerAt_rename (ρ : Socket → Socket) (id : EndpointId) (worker : Option Rearm.Pending) :
    workerAt id (worker.map (pendingRename ρ)) = (workerAt id worker).map (pendingRename ρ) := by
  cases worker with
  | none => rfl
  | some r =>
    by_cases own : r.ov.id = id
    · have own' : (pendingRename ρ r).ov.id = id := own
      rw [Option.map_some, workerAt_self own', workerAt_self own]
      rfl
    · have other : (pendingRename ρ r).ov.id ≠ id := own
      rw [Option.map_some, workerAt_ne other, workerAt_ne own]
      rfl

/-- What the UDP halves show is what the handlers show. -/
theorem udpOutputs_same {outs outs' : List (EndpointId × UdpHandler.Output)}
    (same : SameOutputs ρ id outs outs') :
    atIndex id (udpOutputs outs') = (atIndex id (udpOutputs outs)).map (Output.rename ρ) := by
  rw [udpOutputs_at, udpOutputs_at, same, List.map_map, List.map_map]
  rfl

theorem related_drive (os os' : Os) (config : Config) (related : Related ρ id s s')
    {e : UdpHandler.Event} (ofDriver : OfDriver e)
    (agree : UdpAgree ρ id (UdpHandler.step os config s.udp e).1
        (UdpHandler.step os' config s'.udp e).1 ∧
      SameOutputs ρ id (UdpHandler.step os config s.udp e).2
        (UdpHandler.step os' config s'.udp e).2) :
    Related ρ id (drive os config s e).1 (drive os' config s' e).1 ∧
      atIndex id (drive os' config s' e).2 =
        (atIndex id (drive os config s e).2).map (Output.rename ρ) :=
  ⟨⟨coherent_drive related.coherent ofDriver, coherent_drive related.coherent' ofDriver, related.tcp,
    related.proxyAddress, agree.1, related.worker⟩, udpOutputs_same agree.2⟩

/-- The same event of the endpoint in both runs. -/
theorem related_step (system : OsAgree ρ id os os') (injective : Function.Injective ρ)
    (related : Related ρ id s s') {e : Event} (enabled : Enabled os config s e)
    (enabled' : Enabled os' config s' (e.rename ρ)) (own : e.endpoint = id) :
    Related ρ id (step os config s e).1 (step os' config s' (e.rename ρ)).1 ∧
      atIndex id (step os' config s' (e.rename ρ)).2 =
        (atIndex id (step os config s e).2).map (Output.rename ρ) := by
  have coherent₁ := coherent_step related.coherent enabled
  have coherent₁' := coherent_step related.coherent' enabled'
  cases e with
  | tcp j e =>
    obtain rfl : j = id := own
    obtain ⟨entry, proxyAddress, same⟩ := tcp_same related.proxyAddress related.tcp e
    refine ⟨⟨coherent₁, coherent₁', entry, proxyAddress, related.udp, related.worker⟩, ?_⟩
    have shown := tcpOutputs_at (TcpRedirect.EventHandler.machine.step s.tcp (j, e)).2 j
    have shown' := tcpOutputs_at (TcpRedirect.EventHandler.machine.step s'.tcp (j, e)).2 j
    have renamed : (List.map Output.tcp (atIndex j
        (TcpRedirect.EventHandler.machine.step s.tcp (j, e)).2)).map (Output.rename ρ) =
        List.map Output.tcp (atIndex j (TcpRedirect.EventHandler.machine.step s.tcp (j, e)).2) := by
      rw [List.map_map]
      rfl
    rw [same] at shown'
    exact shown'.trans (renamed.symm.trans (congrArg (List.map (Output.rename ρ)) shown.symm))
  | udpSend j d =>
    obtain rfl : j = id := own
    refine related_drive os os' config (e := .udpSend j d) related trivial ?_
    have idle : s.udp.place = .idle := enabled
    have idle' : s'.udp.place = .idle := enabled'
    simp only [UdpHandler.step, idle, idle', if_true]
    exact agree_udpSend_step system related.udp d
  | udpReceive j d =>
    obtain rfl : j = id := own
    refine related_drive os os' config (e := .udpReceive j d) related trivial ?_
    have idle : s.udp.place = .idle := enabled
    have idle' : s'.udp.place = .idle := enabled'
    simp only [UdpHandler.step, idle, idle', if_true]
    exact ⟨related.udp, SameOutputs.nil.cons (.nfUdpPostReceive _ _ _ _)⟩
  | udpClosed j =>
    obtain rfl : j = id := own
    refine related_drive os os' config (e := .udpClosed j) related trivial ?_
    have idle : s.udp.place = .idle := enabled
    have idle' : s'.udp.place = .idle := enabled'
    simp only [UdpHandler.step, idle, idle', if_true]
    exact agree_udpClosed related.udp
  | driver j =>
    obtain rfl : j = id := own
    refine related_drive os os' config (e := .driver j) related trivial ?_
    have here : s.udp.place.endpoint = some j := enabled
    have here' : s'.udp.place.endpoint = some j := enabled'
    simp only [UdpHandler.step, here, here', if_true]
    exact agree_goOn system related.udp here here'
  | complete op data error =>
    have named : ∀ ov, s.udp.proxy.ovData op.pov = some ov → ov.id = id :=
      fun ov hov => (related.coherent.owned.named op.pov ov hov).trans own
    obtain ⟨agrees, left⟩ := agree_completeUntilRearm config system injective
      related.udp.world own named data error
    have shown := emitted_agree related.udp.world agrees
      (grows_completeUntilRearm os config s.udp.proxy op data error)
      (grows_completeUntilRearm os' config s'.udp.proxy (op.rename ρ) data error)
    have deliveries : SameOutputs ρ id
        ((emitted s.udp.proxy
          (Rearm.completeUntilRearm os config s.udp.proxy op data error).1).flatMap
            (deliver s.udp.udpCtxMap))
        ((emitted s'.udp.proxy
          (Rearm.completeUntilRearm os' config s'.udp.proxy (op.rename ρ) data error).1).flatMap
            (deliver s'.udp.udpCtxMap)) := by
      rw [SameOutputs, deliver_at, deliver_at, shown, related.udp.context, List.flatMap_map,
        List.map_flatMap]
      simp only [deliverAt_rename]
    refine ⟨⟨coherent₁, coherent₁', related.tcp, related.proxyAddress,
      ⟨agrees, related.udp.context, related.udp.place, related.udp.running, related.udp.running'⟩,
      ?_⟩, ?_⟩
    · have worker : (step os' config s' ((Event.complete op data error).rename ρ)).1.worker =
          (step os config s (.complete op data error)).1.worker.map (pendingRename ρ) := left
      rw [worker, workerAt_rename]
    · exact udpOutputs_same deliveries
  | rearm j =>
    obtain rfl : j = id := own
    obtain ⟨r, busy, mine⟩ := enabled
    obtain ⟨r', busy', mine'⟩ := enabled'
    obtain ⟨named, _⟩ := related.coherent.named r busy
    obtain rfl : r' = pendingRename ρ r := by
      have worker := related.worker
      rw [busy, busy', workerAt_self mine, workerAt_self mine'] at worker
      exact Option.some_inj.mp worker
    have agrees := agree_issue system related.udp.world (named.symm.trans mine) mine
    have shown := proxyOutputs_agree related.udp.world agrees (grows_issue os s.udp.proxy r)
      (grows_issue os' s'.udp.proxy (pendingRename ρ r))
    have stepped : step os config s (.rearm j) = ({ s with
        udp := { s.udp with proxy := Rearm.issue os s.udp.proxy r }, worker := none },
        udpOutputs (proxyOutputs s.udp.proxy (Rearm.issue os s.udp.proxy r))) := by
      simp only [step, rearm, busy]
    have stepped' : step os' config s' (.rearm j) = ({ s' with
        udp := { s'.udp with proxy := Rearm.issue os' s'.udp.proxy (pendingRename ρ r) }
        worker := none },
        udpOutputs (proxyOutputs s'.udp.proxy
          (Rearm.issue os' s'.udp.proxy (pendingRename ρ r)))) := by
      simp only [step, rearm, busy']
    have renamed : (Event.rearm j).rename ρ = .rearm j := rfl
    rw [renamed, stepped'] at coherent₁' ⊢
    rw [stepped] at coherent₁ ⊢
    exact ⟨⟨coherent₁, coherent₁', related.tcp, related.proxyAddress,
      ⟨agrees, related.udp.context, related.udp.place, related.udp.running,
        related.udp.running'⟩, rfl⟩, udpOutputs_same shown⟩

def concerns (id : EndpointId) (e : Event) : Bool := e.endpoint = id

/-- What is seen of the endpoint, with its sockets renamed. -/
def renamedAt (ρ : Socket → Socket) (id : EndpointId) (o : EndpointId × Output) : Option Output :=
  if o.1 = id then some (o.2.rename ρ) else none

theorem filterMap_renamedAt (ρ : Socket → Socket) (id : EndpointId)
    (outs : List (EndpointId × Output)) :
    outs.filterMap (renamedAt ρ id) = (atIndex id outs).map (Output.rename ρ) := by
  rw [atIndex, List.map_filterMap]
  apply List.filterMap_congr
  intro o _
  by_cases own : o.1 = id
  · simp [renamedAt, own]
  · simp [renamedAt, own]

/-- The handlers unwind the view of every endpoint. -/
theorem unwinds (config : Config) (system : OsAgree ρ id os os')
    (injective : Function.Injective ρ) :
    Unwinding.Unwinds (machine os config) (machine os' config) (Enabled os config)
      (Enabled os' config) (concerns id) (Event.rename ρ) (renamedAt ρ id)
      (fun o => if o.1 = id then some o.2 else none) (Related ρ id) where
  left := by
    intro s s' e related enabled other
    obtain ⟨still, silent⟩ := still_step related.coherent enabled (of_decide_eq_false other)
    refine ⟨related.left still (coherent_step related.coherent enabled), ?_⟩
    have silent' : atIndex id ((machine os config).step s e).2 = [] := silent
    rw [filterMap_renamedAt, silent']
    rfl
  right := by
    intro s s' e related enabled other
    obtain ⟨still, silent⟩ := still_step related.coherent' enabled (of_decide_eq_false other)
    exact ⟨related.right still (coherent_step related.coherent' enabled), silent⟩
  both := by
    intro s s' e related enabled enabled' own
    obtain ⟨related', same⟩ :=
      related_step system injective related enabled enabled' (of_decide_eq_true own)
    refine ⟨related', ?_⟩
    rw [filterMap_renamedAt]
    exact same

/-- Two runs, over systems that answer alike at an endpoint up to the names of sockets,
that contain the same events of the endpoint, do the same for it up to these names, in
the same order, whatever the other events are and wherever they stand. -/
theorem endpoint_isolated (config : Config) (system : OsAgree ρ id os os')
    (injective : Function.Injective ρ) {evs evs' : List Event} (run : IsRun os config evs)
    (run' : IsRun os' config evs')
    (same : evs'.filter (concerns id) = (evs.filter (concerns id)).map (Event.rename ρ)) :
    outputsOf os' config evs' id = (outputsOf os config evs id).map (Output.rename ρ) := by
  have observed := (unwinds config system injective).observed .initial run run' same
  rw [filterMap_renamedAt] at observed
  exact observed

end Runs

section TwoQueries

/-- A system that accepts every call and numbers its sockets from 100. -/
def shiftedOs : Os where
  socket := fun _ history _ => some (history.length + 100)
  accepts := fun _ _ _ => true

theorem shiftedOs_agrees (id : EndpointId) : OsAgree (· + 100) id acceptingOs shiftedOs where
  socket := fun history _ => by simp [shiftedOs, acceptingOs]
  accepts := fun _ _ => rfl

/-- An endpoint sends a query, and its connect succeeds. -/
def queried (id : EndpointId) (tcpSocket : Socket) : List Event :=
  .udpSend id Tables.query :: List.replicate 6 (.driver id) ++
    [.complete ⟨(id, 0), tcpSocket, false⟩ [] 0]

/-- The same while another endpoint has sent one before and closes in between. -/
def queriedBeside : List Event :=
  queried 9 100 ++ [.udpSend 7 Tables.query, .driver 7] ++
    [.complete ⟨(9, 1), 100, false⟩ [] 0] ++ List.replicate 5 (.driver 7) ++
    [.tcp 9 (.tcpSend [1]), .udpClosed 9, .driver 9] ++
    [.complete ⟨(7, 0), 100, false⟩ [] 0]

/-- Endpoint 7 gets the same service in both runs. -/
theorem query_isolated :
    outputsOf shiftedOs Tables.proxyConfig queriedBeside 7 =
      (outputsOf acceptingOs Tables.proxyConfig (queried 7 0) 7).map (Output.rename (· + 100)) :=
  endpoint_isolated Tables.proxyConfig (shiftedOs_agrees 7)
    (fun _ _ same => Nat.add_right_cancel same) (by decide +kernel) (by decide +kernel) rfl

end TwoQueries

end Isolation
