import QvNetfilter.Delivery

/-!
# Where datagrams are lost

A datagram that `createProxyConnection` is called for is dropped when that fails;
the queue goes with a connection whose connect has failed; and the flush goes on
after a refused send. Nothing else loses a datagram: as long as the system accepts
those calls, every one is relayed, posted, waiting, or in hand.
-/

namespace DatagramLoss

open Memory Socks Mealy Sockets UdpHandler Tables Delivery
open UdpProxy hiding Event step machine udpSend complete
open Dispatch (Conserved)

section Condition
variable (os : Os) (config : Config)

/-- The call that the next section of `createProxyConnection` makes. -/
def nextCall (tcpSocket udpSocket : Socket) : Creating → Option Call
  | .stored => some (.registerSocket tcpSocket)
  | .tcpRegistered => some (.registerSocket udpSocket)
  | .udpRegistered => some (.connectEx tcpSocket config.proxyAddress config.proxyAddressLen)
  | _ => none

/-- The system opens both sockets of a connection. -/
def Opens (w : World) (id : EndpointId) : Prop :=
  ∃ tcpSocket, os.socket id (w.history id) .stream = some tcpSocket ∧
    os.socket id (w.history id ++ [.opened .stream (some tcpSocket)]) .dgram ≠ none

/-- The calls for a datagram's connection succeed; a connect fails only while nothing is
queued, and no queued datagram is refused. -/
def Accepts (id : EndpointId) (s : State) : Event → Prop
  | .udpSend j d => j = id → d.buf ≠ [] → s.place = .idle → s.udpCtxMap id = none →
      Opens os s.proxy id
  | .driver j => j = id → ∀ d stage tcpSocket udpSocket,
      s.place = .creating id d stage tcpSocket udpSocket → d.buf ≠ [] →
      ∀ c, nextCall config tcpSocket udpSocket stage = some c →
        os.accepts id (s.proxy.history id) c = true
  | .complete op data error =>
      (ConnectFailed s.proxy op error id → waitingOf (s.proxy.socketMap id) = []) ∧
      ∀ bytes, .attempt bytes false ∉
        items (proxyOutputs s.proxy (UdpProxy.complete os config s.proxy op data error)) id
  | _ => True

end Condition

section Step
variable {os : Os} {config : Config} {s : State} {id : EndpointId}

theorem openSockets_of_opens {w : World} (opens : Opens os w id) :
    (openSockets os w id).2 ≠ none := by
  obtain ⟨tcpSocket, tcp, udp⟩ := opens
  have longer : (w.record id (.opened .stream (some tcpSocket))).history id =
      w.history id ++ [.opened .stream (some tcpSocket)] := by
    simp [World.history, World.record]
  simp only [openSockets, tcp, longer]
  split
  · rename_i refused
    exact absurd refused udp
  · intro h
    cases h

/-- A section fails only where its call is refused. -/
theorem nextCall_refused {w w' : World} {tcpSocket udpSocket : Socket} {stage : Creating}
    (notFailed : stage ≠ .failed)
    (result : advance os config w id tcpSocket udpSocket stage = (w', .failed)) :
    ∃ c, nextCall config tcpSocket udpSocket stage = some c ∧
      os.accepts id (w.history id) c = false := by
  have failed : (advance os config w id tcpSocket udpSocket stage).2 = .failed :=
    congrArg Prod.snd result
  cases stage with
  | opened | connecting => exact absurd failed nofun
  | failed => exact absurd rfl notFailed
  | stored =>
    refine ⟨_, rfl, ?_⟩
    by_contra accepted
    have accepts : os.accepts id (w.history id) (.registerSocket tcpSocket) = true := by
      simpa using accepted
    simp [advance, invoke, accepts] at failed
  | tcpRegistered =>
    refine ⟨_, rfl, ?_⟩
    by_contra accepted
    have accepts : os.accepts id (w.history id) (.registerSocket udpSocket) = true := by
      simpa using accepted
    simp [advance, invoke, accepts] at failed
  | udpRegistered =>
    refine ⟨_, rfl, ?_⟩
    by_contra accepted
    have accepts : os.accepts id (w.history id)
        (.connectEx tcpSocket config.proxyAddress config.proxyAddressLen) = true := by
      simpa using accepted
    have same : (w.newOvData ⟨id, .ovtConnect, []⟩).1.history id = w.history id := rfl
    simp [advance, startConnect, invoke, same, accepts] at failed

/-- `createProxyConnection` has not failed for a datagram. -/
def NotFailing (id : EndpointId) (s : State) : Prop :=
  ∀ d tcpSocket udpSocket, s.place = .creating id d .failed tcpSocket udpSocket → d.buf = []

theorem no_loss (running : s.freeing = .running) (notFailing : NotFailing id s) {e : Event}
    (accepts : Accepts os config id s e) (notFree : e ≠ .free) : ¬ Loss os config s id e := by
  intro loss
  cases loss with
  | @notOpened d nonempty idle unknown failed =>
    have opens := accepts rfl nonempty idle unknown
    rw [running] at failed
    exact openSockets_of_opens opens failed
  | @gaveUp d t u nonempty there => exact nonempty (notFailing d t u there)
  | connectFailed failed waits => exact waits (accepts.1 failed)
  | refused bytes shown => exact accepts.2 bytes shown
  | cleared => exact notFree rfl

theorem notFailing_step (running : s.freeing = .running) (notFailing : NotFailing id s) {e : Event}
    (accepts : Accepts os config id s e) (notFree : e ≠ .free) :
    NotFailing id (step os config s e).1 ∧ (step os config s e).1.freeing = .running := by
  have cases_ := handlerStep os config s e
  generalize step os config s e = result at cases_ ⊢
  obtain ⟨s', outs⟩ := result
  cases cases_ with
  | ignored | received | completed => exact ⟨notFailing, running⟩
  | known | created | gaveUp | sent | posted | closes | closed =>
    exact ⟨fun _ _ _ => nofun, running⟩
  | notOpened idle => exact ⟨notFailing, running⟩
  | opened => exact ⟨fun _ _ _ => nofun, running⟩
  | serviceFreed | tablesCleared | contextsCleared => exact absurd rfl notFree
  | @advanced j d stage stage' w t u there notConnecting notFailed result =>
    refine ⟨?_, running⟩
    rintro d' t' u' ⟨⟩
    by_contra nonempty
    rw [running] at result
    obtain ⟨c, next, refused⟩ := nextCall_refused notFailed result
    have refused' : os.accepts id (s.proxy.history id) c = false := refused
    have accepted := accepts rfl _ _ _ _ there nonempty c next
    rw [accepted] at refused'
    exact absurd refused' nofun

end Step

section Runs
variable (os : Os) (config : Config) (id : EndpointId)

/-- The condition at a step, with what it keeps. -/
structure Keeps (outs : List (EndpointId × Output)) (s : State) : Prop where
  sound : Sound s
  running : s.freeing = .running
  notFailing : NotFailing id s
  conserved : Conserved form (items outs id) (desk s id)

variable {os config id}

theorem Keeps.initial : Keeps id [] State.initial :=
  ⟨.initial, rfl, fun _ _ _ => nofun, .initial⟩

theorem Keeps.step {outs : List (EndpointId × Output)} {s : State} {e : Event}
    (keeps : Keeps id outs s) (accepts : Accepts os config id s e) (notFree : e ≠ .free) :
    Keeps id (outs ++ (step os config s e).2) (step os config s e).1 := by
  obtain ⟨sound, running, notFailing, conserved⟩ := keeps
  have safe := no_loss running notFailing accepts notFree
  have move := handler_move os config sound e id
  obtain ⟨notFailing', running'⟩ := notFailing_step running notFailing accepts notFree
  refine ⟨sound_step sound e, running', notFailing', ?_⟩
  rw [items_append]
  exact conserved.move move safe

/-- In a run whose steps meet the condition every datagram passed since the endpoint was
last closed has been relayed or posted, waits in the queue, or is in the hand of the
driver's thread, at every point before `free`. -/
theorem conserved_run {evs : List Event}
    (accepts : (machine os config).Throughout (Accepts os config id) State.initial evs)
    {front back : List Event} (split : evs = front ++ back) (unfreed : .free ∉ front) :
    Conserved form (seen os config front id) (desk (run os config front) id) := by
  subst split
  have within : (machine os config).Throughout
      (fun s e => Accepts os config id s e ∧ e ≠ .free) State.initial front := by
    rintro before e after rfl
    refine ⟨accepts before e (after ++ back) (by simp), ?_⟩
    rintro rfl
    exact unfreed (by simp)
  have keeps := within.outputs_invariant (I := Keeps id)
    (fun outs s e before now => before.step now.1 now.2) .initial
  exact keeps.conserved

end Runs

section LostQuery

/-- A system without a socket to give. -/
def exhaustedOs : Os where
  socket := fun _ _ _ => none
  accepts := fun _ _ _ => true

/-- The first datagram of an endpoint is queued behind its connect. -/
def queuedRun : List Event := .udpSend 7 query :: List.replicate 6 (.driver 7)

/-- A datagram is gone when no socket can be opened, and when the connect has failed. -/
theorem query_lost :
    ¬ Conserved form (seen exhaustedOs proxyConfig [.udpSend 7 query] 7)
        (desk (run exhaustedOs proxyConfig [.udpSend 7 query]) 7) ∧
      ¬ Conserved form
        (seen acceptingOs proxyConfig (queuedRun ++ [.complete ⟨(7, 0), 0, false⟩ [] 10061]) 7)
        (desk (run acceptingOs proxyConfig
          (queuedRun ++ [.complete ⟨(7, 0), 0, false⟩ [] 10061])) 7) := by
  constructor
  · intro conserved
    exact absurd conserved.balance (by decide +kernel)
  · intro conserved
    exact absurd conserved.balance (by decide +kernel)

theorem accepts_driver (config : Config) (id j : EndpointId) (s : State) :
    Accepts acceptingOs config id s (.driver j) :=
  fun _ _ _ _ _ _ _ _ _ => rfl

/-- A completion without an error whose sends are all accepted. -/
theorem accepts_complete {os : Os} {config : Config} {id : EndpointId} {s : State}
    (op : Operation) (data : Bytes) (news : List (Dispatch.Item Datagram Bytes))
    (shows : items (proxyOutputs s.proxy (UdpProxy.complete os config s.proxy op data 0)) id = news)
    (accepted : ∀ bytes, .attempt bytes false ∉ news) :
    Accepts os config id s (.complete op data 0) :=
  ⟨fun failed => absurd rfl failed.failed, shows ▸ accepted⟩

theorem accepts_queued : (machine acceptingOs proxyConfig).Throughout
    (Accepts acceptingOs proxyConfig 7) State.initial queuedRun := by
  intro before e after split
  have member : e ∈ queuedRun := by
    rw [split]
    exact List.mem_append_right _ List.mem_cons_self
  rcases List.mem_cons.mp member with rfl | going
  · intro _ _ _ _
    exact ⟨_, rfl, nofun⟩
  · obtain rfl := List.eq_of_mem_replicate going
    exact accepts_driver proxyConfig 7 7 _

/-- The connect has succeeded: the query still waits for the relay. -/
theorem query_conserved :
    Conserved form
      (seen acceptingOs proxyConfig (queuedRun ++ [.complete ⟨(7, 0), 0, false⟩ [] 0]) 7)
      (desk (run acceptingOs proxyConfig (queuedRun ++ [.complete ⟨(7, 0), 0, false⟩ [] 0])) 7) := by
  have greeted := accepts_queued.concat
    (accepts_complete ⟨(7, 0), 0, false⟩ [] [] (by decide +kernel) (by simp))
  exact conserved_run greeted (List.append_nil _).symm (by decide)

end LostQuery

end DatagramLoss
