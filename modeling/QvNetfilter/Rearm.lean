import QvNetfilter.ReceiveLoop
import QvNetfilter.Sockets

/-!
# Re-arming a receive

The handler of a receive looks at the table under the lock, and issues the next
receive after it has released it. The driver's thread may run in between. What
follows splits a completion at that point.
-/

namespace Rearm

open Memory Socks Mealy UdpProxy UdpHistory Sockets

/-- A receive that a handler is about to issue. -/
structure Pending where
  socket : Socket
  pov : Pov
  ov : OvData

/-- The world and the receive that the worker thread still has to issue. -/
structure State where
  world : World
  pending : Option Pending

def State.initial : State := ⟨World.initial, none⟩

section Split
variable (os : Os) (config : Config)

/-- The handlers up to the receive that they issue. -/
def onCompleteUntilRearm (w : World) (socket : Socket) (dwTransferred : Nat) (pov : Pov)
    (ov : OvData) (error : Nat) : World × Option Pending :=
  match ov.type with
  | .ovtUdpReceive =>
    if dwTransferred = 0 then (w.deleteOvData pov, none)
    else
      (match relayedDatagram ov.buffer dwTransferred with
        | some d => w.record ov.id (.onUdpReceiveComplete d)
        | none => w,
       some ⟨socket, pov, ov⟩)
  | .ovtTcpReceive =>
    if dwTransferred = 0 then (w.deleteOvData pov, none)
    else (onControlData os config w ov.id ov.buffer dwTransferred, some ⟨socket, pov, ov⟩)
  | _ => (onComplete os config w socket dwTransferred pov ov error, none)

def dispatchUntilRearm (w : World) (op : Operation) (data : Bytes) (error : Nat) :
    World × Option Pending :=
  match w.ovData op.pov with
  | none => (w, none)
  | some ov =>
    if op.queued then onCompleteUntilRearm os config w op.socket 0 op.pov ov 0
    else if ov.type.receives then
      let data := data.take ov.buffer.length
      let ov := { ov with buffer := overwrite ov.buffer data }
      let w := (w.setOv op.pov (some ov)).record ov.id (.received ov.type data)
      onCompleteUntilRearm os config w op.socket data.length op.pov ov error
    else onCompleteUntilRearm os config w op.socket data.length op.pov ov error

/-- The state in which a receive has got these bytes and its handler is to issue the next. -/
def receivedState (w : World) (op : Operation) (ov : OvData) (data : Bytes) (error : Nat) :
    State :=
  let ov' := { ov with buffer := overwrite ov.buffer data }
  let w := ((w.removePending op).setOv op.pov (some ov')).record ov.id (.received ov.type data)
  let (w, r) := onCompleteUntilRearm os config w op.socket data.length op.pov ov' error
  ⟨w, r⟩

def completeUntilRearm (w : World) (op : Operation) (data : Bytes) (error : Nat) :
    World × Option Pending :=
  if op ∈ w.pending then dispatchUntilRearm os config (w.removePending op) op data error
  else (w, none)

/-- `startTcpReceive` or `startUdpReceive` on the `OV_DATA` at hand. -/
def issue (w : World) (r : Pending) : World :=
  match r.ov.type with
  | .ovtTcpReceive => rearmTcpReceive os w r.socket r.ov.id r.pov r.ov
  | _ => rearmUdpReceive os w r.socket r.ov.id r.pov r.ov

inductive Event where
  | createProxyConnection (id : EndpointId)
  | deleteProxyConnection (id : EndpointId)
  | udpSend (id : EndpointId) (buf : Bytes) (remoteAddress : Address) (remoteAddressLen : Nat)
  | complete (op : Operation) (data : Bytes) (error : Nat)
  | rearm
deriving DecidableEq

/-- The driver's thread runs at any time; the worker thread takes a completion only when
it has issued the receive of the last one. -/
def step (s : State) : Event → State
  | .createProxyConnection id => { s with world := (createProxyConnection os config s.world id).1 }
  | .deleteProxyConnection id => { s with world := s.world.deleteProxyConnection id }
  | .udpSend id buf remoteAddress remoteAddressLen =>
    { s with world := (udpSend os s.world id buf remoteAddress remoteAddressLen).1 }
  | .complete op data error =>
    match s.pending with
    | some _ => s
    | none =>
      let (w, r) := completeUntilRearm os config s.world op data error
      ⟨w, r⟩
  | .rearm =>
    match s.pending with
    | some r => ⟨issue os s.world r, none⟩
    | none => s

/-- A step emits the receive that it issues. -/
def machine : Machine State Event Pending where
  step s e := (step os config s e, if e = .rearm then s.pending.toList else [])

/-- What is left to do after the first part of a completion. -/
def finish : World × Option Pending → World
  | (w, none) => w
  | (w, some r) => issue os w r

theorem finish_onComplete (w : World) (socket : Socket) (dwTransferred : Nat) (pov : Pov)
    (ov : OvData) (error : Nat) :
    finish os (onCompleteUntilRearm os config w socket dwTransferred pov ov error) =
      onComplete os config w socket dwTransferred pov ov error := by
  simp only [onCompleteUntilRearm, onComplete]
  cases type : ov.type with
  | ovtUdpReceive =>
    simp only [onUdpReceiveComplete]
    split
    · rfl
    · cases relayedDatagram ov.buffer dwTransferred with
      | none => simp only [finish, issue, type]
      | some d => simp only [finish, issue, type]
  | ovtTcpReceive =>
    simp only [onTcpReceiveComplete]
    split
    · rfl
    · simp only [finish, issue, type]
  | ovtConnect | ovtTcpSend | ovtUdpSend => rfl

/-- A completion whose receive is issued at once is the step of the proxy. -/
theorem finish_complete (w : World) (op : Operation) (data : Bytes) (error : Nat) :
    finish os (completeUntilRearm os config w op data error) =
      complete os config w op data error := by
  simp only [completeUntilRearm, complete]
  split
  · simp only [dispatchUntilRearm, dispatch]
    cases (w.removePending op).ovData op.pov with
    | none => rfl
    | some ov =>
      by_cases queued : op.queued = true
      · simp only [if_pos queued, finish_onComplete]
      · by_cases receives : ov.type.receives = true
        · simp only [if_neg queued, if_pos receives, finish_onComplete]
        · simp only [if_neg queued, if_neg receives, finish_onComplete]
  · rfl

end Split

end Rearm
