import QvNetfilter.Rounds
import QvNetfilter.UdpHistory

/-!
# The flush of the queue

The loop that empties `udpSendPackets` calls `udpSend`, which in every other
state appends to the same list. The model's `flushPackets` is bounded by the
length of the queue; here the loop runs as the source has it, without a bound,
and ends in the same world.
-/

namespace QueueFlush

open Memory Socks UdpProxy UdpHistory Rounds

/-- One round of the loop, if the queue is not empty: the first packet is sent, then
erased. The call comes with the world it is made in. -/
def flushRound (os : Os) (id : EndpointId) (w : World) : Option ((World × UdpPacket) × World) :=
  match w.socketMap id with
  | none => none
  | some pd =>
    match pd.udpSendPackets with
    | [] => none
    | p :: _ =>
      some ((w, p),
        erasePacket (udpSend os w id p.buffer p.remoteAddress p.remoteAddressLen).1 id)

/-- The world in which the loop starts. -/
def entering (w : World) (id : EndpointId) (pd : ProxyData) (addr : Bytes) : World :=
  w.setEntry id (some { pd with
    remoteAddress := pd.remoteAddress.write addr
    remoteAddressLen := addr.length
    proxyState := .psConnected })

section Receives

def receive : Action → Option Unit
  | .call (.wsaRecvFrom _) _ => some ()
  | _ => none

/-- How many receives were started on the relay socket of the endpoint. -/
def receives (w : World) (id : EndpointId) : Nat := (view receive w id).length

variable (os : Os) (w : World) (id : EndpointId)

theorem receives_postClosed (socket : Socket) (pov : Pov) (ov : OvData) :
    receives (postClosed os w socket pov ov) id = receives w id :=
  congrArg List.length (view_postClosed os w socket pov ov (fun _ => rfl) id)

theorem receives_startUdpReceive (socket : Socket) :
    receives (startUdpReceive os w socket id) id = receives w id + 1 := by
  let ov : OvData := ⟨id, .ovtUdpReceive, List.replicate packetSize 0⟩
  have asked : receives (invoke os (w.newOvData ov).1 id (.wsaRecvFrom socket)).1 id =
      receives w id + 1 := by
    have started : view receive (invoke os (w.newOvData ov).1 id (.wsaRecvFrom socket)).1 id =
        _ := view_invoke os (w.newOvData ov).1 id id (.wsaRecvFrom socket)
    rw [shown_self] at started
    exact (congrArg List.length started).trans (List.length_append ..)
  simp only [startUdpReceive, rearmUdpReceive]
  split
  · exact asked
  · rw [receives_postClosed]
    exact asked

end Receives

section Rounds
variable (os : Os) {w : World} {id : EndpointId} {pd : ProxyData}

/-- A datagram writes `udpRecvStarted` only, and starts a receive only when it sets it. -/
theorem sendDatagram_entry (entry : w.socketMap id = some pd) (buf : Bytes)
    (remoteAddress : Address) :
    ∃ started, (sendDatagram os w id pd buf remoteAddress).1.socketMap id =
        some { pd with udpRecvStarted := started } ∧
      receives (sendDatagram os w id pd buf remoteAddress).1 id + pd.udpRecvStarted.toNat =
        receives w id + started.toNat := by
  let datagram := encapsulate buf remoteAddress
  let stored := (w.newOvData ⟨id, .ovtUdpSend, datagram⟩).1
  have sent : receives (invoke os stored id (.wsaSendTo pd.udpSocket datagram pd.remoteAddress
      pd.remoteAddressLen)).1 id = receives w id :=
    congrArg List.length (view_invoke_hidden os stored id id (fun _ => rfl))
  simp only [sendDatagram]
  split
  · split
    · rename_i stopped
      have stopped' : pd.udpRecvStarted = false := by simpa using stopped
      refine ⟨true, by simp, ?_⟩
      rw [receives_startUdpReceive, stopped']
      exact congrArg (· + 1) sent
    · exact ⟨pd.udpRecvStarted, entry, congrArg (· + pd.udpRecvStarted.toNat) sent⟩
  · refine ⟨pd.udpRecvStarted, ?_, ?_⟩
    · rw [postClosed_socketMap]
      exact entry
    · rw [receives_postClosed]
      exact congrArg (· + pd.udpRecvStarted.toNat) sent

/-- What a call of `udpSend` in the loop does: the connection is established, so the
datagram goes out, and the queue is left as it is. -/
def Direct (id : EndpointId) (call : World × UdpPacket) : Prop :=
  ∃ pd pd', call.1.socketMap id = some pd ∧ pd.proxyState = .psConnected ∧
    udpSend os call.1 id call.2.buffer call.2.remoteAddress call.2.remoteAddressLen =
      sendDatagram os call.1 id pd call.2.buffer call.2.remoteAddress ∧
    (udpSend os call.1 id call.2.buffer call.2.remoteAddress
      call.2.remoteAddressLen).1.socketMap id = some pd' ∧
    pd'.proxyState = .psConnected ∧ pd'.udpSendPackets = pd.udpSendPackets

/-- The packets that the loop still has to send. -/
def queued (id : EndpointId) (w : World) : List UdpPacket :=
  match w.socketMap id with
  | none => []
  | some pd => pd.udpSendPackets

/-- The entry is established, and `udpRecvStarted` accounts for the receives that were
started since there were `n` and it was `before`. -/
def Established (id : EndpointId) (n : Nat) (before : Bool) (w : World) : Prop :=
  ∃ pd, w.socketMap id = some pd ∧ pd.proxyState = .psConnected ∧
    receives w id + before.toNat = n + pd.udpRecvStarted.toNat

theorem flushRound_cons (entry : w.socketMap id = some pd) {p : UdpPacket}
    {rest : List UdpPacket} (queue : pd.udpSendPackets = p :: rest) :
    flushRound os id w = some ((w, p),
      erasePacket (udpSend os w id p.buffer p.remoteAddress p.remoteAddressLen).1 id) := by
  simp only [flushRound, entry, queue]

/-- The loop takes the packets in the order of the queue, one in each round. -/
theorem drains (id : EndpointId) (n : Nat) (before : Bool) :
    Drains (flushRound os id) (Established id n before) (queued id) Prod.snd (Direct os id) := by
  constructor
  · rintro w ⟨pd, entry, _, _⟩ empty
    simp only [queued, entry] at empty
    simp only [flushRound, entry, empty]
  · rintro w p rest ⟨pd, entry, established, account⟩ queue
    simp only [queued, entry] at queue
    have direct : udpSend os w id p.buffer p.remoteAddress p.remoteAddressLen =
        sendDatagram os w id pd p.buffer p.remoteAddress := by
      simp [udpSend, entry, established]
    obtain ⟨started, sent, count⟩ := sendDatagram_entry os entry p.buffer p.remoteAddress
    rw [← direct] at sent count
    have erased : (erasePacket (udpSend os w id p.buffer p.remoteAddress
        p.remoteAddressLen).1 id).socketMap id =
        some { pd with udpRecvStarted := started, udpSendPackets := rest } := by
      simp [erasePacket, sent, queue]
    refine ⟨(w, p), _, flushRound_cons os entry queue, ⟨_, erased, established, ?_⟩, ?_, rfl,
      pd, _, entry, established, direct, sent, established, rfl⟩
    · have same : receives (erasePacket (udpSend os w id p.buffer p.remoteAddress
          p.remoteAddressLen).1 id) id =
          receives (udpSend os w id p.buffer p.remoteAddress p.remoteAddressLen).1 id := by
        simp only [erasePacket, sent]
        rfl
      rw [same]
      show _ = n + started.toNat
      omega
    · simp only [queued, erased]

theorem flushPackets_stopped (stopped : flushRound os id w = none) (fuel : Nat) :
    flushPackets os w id fuel = w := by
  cases fuel with
  | zero => rfl
  | succ fuel =>
    cases entry : w.socketMap id with
    | none => simp only [flushPackets, entry]
    | some pd =>
      cases queue : pd.udpSendPackets with
      | nil => simp only [flushPackets, entry, queue]
      | cons p rest =>
        rw [flushRound_cons os entry queue] at stopped
        cases stopped

theorem flushPackets_round {call : World × UdpPacket} {w' : World}
    (round : flushRound os id w = some (call, w')) (fuel : Nat) :
    flushPackets os w id (fuel + 1) = flushPackets os w' id fuel := by
  cases entry : w.socketMap id with
  | none => simp only [flushRound, entry, reduceCtorEq] at round
  | some pd =>
    cases queue : pd.udpSendPackets with
    | nil => simp only [flushRound, entry, queue, reduceCtorEq] at round
    | cons p rest =>
      rw [flushRound_cons os entry queue] at round
      cases round
      simp only [flushPackets, entry, queue]

/-- The bounded loop of the model makes the same rounds. -/
theorem flushPackets_of_loop {calls : List (World × UdpPacket)} {w' : World} (fuel : Nat)
    (ended : loop (flushRound os id) (fuel + 1) w = some (calls, w')) :
    flushPackets os w id fuel = w' := by
  induction fuel generalizing w calls with
  | zero =>
    cases round : flushRound os id w with
    | none =>
      rw [loop_stopped round] at ended
      cases ended
      rfl
    | some next =>
      rw [loop_round round] at ended
      cases ended
  | succ fuel ih =>
    cases round : flushRound os id w with
    | none =>
      rw [loop_stopped round] at ended
      cases ended
      exact flushPackets_stopped os round (fuel + 1)
    | some next =>
      obtain ⟨call, w₁⟩ := next
      rw [loop_round round] at ended
      obtain ⟨⟨later, _⟩, ended', same⟩ := Option.map_eq_some_iff.mp ended
      cases same
      rw [← ih ended']
      exact flushPackets_round os round fuel

end Rounds

/-- Once the ASSOCIATE reply has given the relay's address, the flush ends after as many
rounds as packets were queued and not earlier, whatever the system answers. It has called
`udpSend` for each packet, in the order of the queue and on the established connection,
which leaves the queue alone; it ends with the queue empty, and has started one receive on
the relay socket at most, none if one had been started before. -/
theorem flush_drains (os : Os) (w : World) (id : EndpointId) (pd : ProxyData) (addr : Bytes) :
    ∃ calls pd',
      (∀ fuel, loop (flushRound os id) fuel (entering w id pd addr) =
        if pd.udpSendPackets.length < fuel then some (calls, connected os w id pd (some addr))
        else none) ∧
      calls.map Prod.snd = pd.udpSendPackets ∧
      (∀ call ∈ calls, Direct os id call) ∧
      (connected os w id pd (some addr)).socketMap id = some pd' ∧
      pd'.proxyState = .psConnected ∧ pd'.udpSendPackets = [] ∧
      receives (connected os w id pd (some addr)) id ≤ receives w id + 1 ∧
      (pd.udpRecvStarted = true →
        receives (connected os w id pd (some addr)) id ≤ receives w id) := by
  have entry : (entering w id pd addr).socketMap id = some _ := Function.update_self ..
  have left : queued id (entering w id pd addr) = pd.udpSendPackets := by
    simp only [queued, entry]
  have inv : Established id (receives w id) pd.udpRecvStarted (entering w id pd addr) :=
    ⟨_, entry, rfl, rfl⟩
  obtain ⟨calls, w', ends, runs, items, direct, ⟨pd', entry', established, account⟩, empty⟩ :=
    (drains os id (receives w id) pd.udpRecvStarted).loop inv
  rw [left] at ends runs items
  obtain rfl : connected os w id pd (some addr) = w' :=
    flushPackets_of_loop os pd.udpSendPackets.length (ends _ (Nat.lt_succ_self _))
  simp only [queued, entry'] at empty
  have one := Bool.toNat_le pd'.udpRecvStarted
  refine ⟨calls, pd', fun fuel => ?_, items, direct, entry', established, empty, by omega, ?_⟩
  · split
    · exact ends fuel ‹_›
    · exact runs fuel (Nat.le_of_not_lt ‹_›)
  · intro started
    rw [started, Bool.toNat_true] at account
    omega

end QueueFlush
