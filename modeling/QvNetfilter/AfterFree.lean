import QvNetfilter.CompletionPort
import QvNetfilter.Delivery
import QvNetfilter.Quiescence

/-!
# Events after `free`

`Stop` frees the handler before it stops the driver, so that events may still arrive when
`free` has returned. The port is closed by then if `init` has started the worker thread: an
endpoint that is created gets two sockets, neither of which can be registered, and both are
closed again.
-/

namespace AfterFree

open Memory Socks Mealy UdpHandler Tables Quiescence
open UdpProxy hiding Event step machine udpSend complete
open ServiceStart (IocpService)

section Service
variable (service : IocpService) (os : Os) (config : Config)

/-- An event of the handler on the service that `init` has left behind. Without a worker thread
no completion is handled, and `IOCPService::free` returns with the port open, so that the calls
of the driver's thread are answered after it as before. -/
def serviceStep (s : State) : Event → State × List (EndpointId × Output)
  | .complete op data error =>
    if service.workerThread = .invalidHandleValue then (s, [])
    else step os config s (.complete op data error)
  | .free => step os config s .free
  | e =>
    if service.free.hIocp = .invalidHandleValue then step os config s e
    else
      let (s', outs) := step os config { s with freeing := .running } e
      ({ s' with freeing := s.freeing }, outs)

def serviceMachine : Machine State Event (EndpointId × Output) where
  step := serviceStep service os config

def serviceRun (evs : List Event) : State :=
  (serviceMachine service os config).run State.initial evs

variable {service}

/-- With a worker thread `free` closes the port, which is what the handler reckons with. -/
theorem serviceMachine_started (thread : service.workerThread ≠ .invalidHandleValue) :
    serviceMachine service os config = machine os config := by
  have closed : service.free.hIocp = .invalidHandleValue :=
    congrArg IocpService.hIocp (CompletionPort.free_closes thread)
  have same : serviceStep service os config = step os config := by
    funext s e
    cases e with
    | complete => exact if_neg thread
    | free => rfl
    | udpSend | udpReceive | udpClosed | driver => exact if_pos closed
  rw [serviceMachine, same]
  rfl

end Service

section Sockets
variable {w : World}

theorem openAt_opened (history : List Action) (type : SocketType) (s : Socket) :
    openAt (history ++ [.opened type (some s)]) = openAt history ++ [s] := by
  rw [openAt, List.foldl_concat]
  rfl

theorem openAt_closed (history : List Action) (s : Socket) :
    openAt (history ++ [.closed s]) = (openAt history).erase s := by
  rw [openAt, List.foldl_concat]
  rfl

/-- Opens or closes no socket. -/
def Still : Action → Prop
  | .opened _ (some _) => False
  | .closed _ => False
  | _ => True

theorem openAt_still (history : List Action) {a : Action} (still : Still a) :
    openAt (history ++ [a]) = openAt history := by
  rw [openAt, List.foldl_concat]
  cases a with
  | opened type s =>
    cases s with
    | none => rfl
    | some s => exact absurd still not_false
  | closed s => exact absurd still not_false
  | created | call | received | onUdpReceiveComplete => rfl

theorem history_record_ne {j id : EndpointId} (other : j ≠ id) (a : Action) :
    (w.record j a).history id = w.history id := by
  simp only [World.history, World.record, atIndex_append, atIndex_cons_ne other, atIndex_nil,
    List.append_nil]

/-- Beyond the sockets of the start, an endpoint has these open. -/
def OpenBeyond (base : EndpointId → List Socket) (w : World) (more : EndpointId → List Socket) :
    Prop :=
  ∀ id, (openAt (w.history id)).Perm (base id ++ more id)

variable {base more : EndpointId → List Socket}

theorem OpenBeyond.still (beyond : OpenBeyond base w more) (j : EndpointId) {a : Action}
    (still : Still a) :
    OpenBeyond base (w.record j a) more := by
  intro id
  by_cases own : j = id
  · subst own
    rw [history_record, openAt_still _ still]
    exact beyond j
  · rw [history_record_ne own]
    exact beyond id

theorem OpenBeyond.opened (beyond : OpenBeyond base w more) (j : EndpointId)
    (type : SocketType) (s : Socket) :
    OpenBeyond base (w.record j (.opened type (some s)))
      (Function.update more j (more j ++ [s])) := by
  intro id
  by_cases own : j = id
  · subst own
    rw [history_record, openAt_opened, Function.update_self, ← List.append_assoc]
    exact (beyond j).append_right [s]
  · rw [history_record_ne own, Function.update_of_ne (Ne.symm own)]
    exact beyond id

theorem OpenBeyond.closed (beyond : OpenBeyond base w more) {j : EndpointId} {s : Socket}
    {rest : List Socket} (first : more j = s :: rest) :
    OpenBeyond base (w.record j (.closed s)) (Function.update more j rest) := by
  intro id
  by_cases own : j = id
  · subst own
    have here := beyond j
    rw [first] at here
    have front : (base j ++ s :: rest).Perm (s :: (base j ++ rest)) := List.perm_middle
    rw [history_record, openAt_closed, Function.update_self]
    simpa using (here.trans front).erase s
  · rw [history_record_ne own, Function.update_of_ne (Ne.symm own)]
    exact beyond id

end Sockets

section Steps
variable {os : Os} {config : Config} {base : EndpointId → List Socket} {first : Place}

abbrev nowhere : EndpointId → List Socket := fun _ => []

/-- What is left when `free` has returned with the driver's thread at `first`: the tables are
empty, but for the entry of a connection whose sockets were not registered. -/
inductive Left (base : EndpointId → List Socket) (first : Place) (w : World) : Place → Prop where
  | idle (table : w.socketMap = fun _ => none) (sockets : OpenBeyond base w nowhere) :
      Left base first w .idle
  | closing {j : EndpointId} (table : w.socketMap = fun _ => none)
      (sockets : OpenBeyond base w nowhere) : Left base first w (.closing j)
  | sending {j : EndpointId} {d : Datagram} (hand : first = .sending j d)
      (table : w.socketMap = fun _ => none) (sockets : OpenBeyond base w nowhere) :
      Left base first w (.sending j d)
  | opened {j : EndpointId} {d : Datagram} {tcpSocket udpSocket : Socket}
      (table : w.socketMap = fun _ => none)
      (sockets : OpenBeyond base w (Function.update nowhere j [tcpSocket, udpSocket])) :
      Left base first w (.creating j d .opened tcpSocket udpSocket)
  | stored {j : EndpointId} {d : Datagram} {stage : Creating} {pd : ProxyData}
      (early : stage = .stored ∨ stage = .failed)
      (table : w.socketMap = Function.update (fun _ => none) j (some pd))
      (sockets : OpenBeyond base w (Function.update nowhere j [pd.tcpSocket, pd.udpSocket])) :
      Left base first w (.creating j d stage pd.tcpSocket pd.udpSocket)

/-- Nothing that the system takes: sockets are opened and closed, and none is registered. -/
def Rejected : Action → Prop
  | .call c accepted => accepted = false ∧ ∃ socket, c = .registerSocket socket
  | .received _ _ => False
  | .onUdpReceiveComplete _ => False
  | _ => True

/-- What an event may still do for an endpoint. A datagram is passed on unproxied only if it
was in hand when `free` returned. -/
def Bare (first : Place) (e : Event) (id : EndpointId) : Output → Prop
  | .nfUdpPostSend d => first = .sending id d
  | .nfUdpPostReceive remoteAddress buf len options => ∃ d, e = .udpReceive id d ∧
      remoteAddress = d.remoteAddress.bytes ∧ buf = d.buf ∧ len = d.buf.length ∧
        options = d.options
  | .proxy a => Rejected a
  | _ => True

/-- Every output of a list may still be. -/
def AllBare (first : Place) (e : Event) (outs : List (EndpointId × Output)) : Prop :=
  ∀ id o, (id, o) ∈ outs → Bare first e id o

structure Spent (base : EndpointId → List Socket) (first : Place) (s : State) : Prop where
  freed : s.freeing = .freed
  contexts : s.udpCtxMap = fun _ => none
  left : Left base first s.proxy s.place

theorem proxyOutputs_bare {w w' : World} (j : EndpointId) (actions : List Action) {e : Event}
    (log : w'.log = w.log ++ actions.map (Prod.mk j)) (rejected : ∀ a ∈ actions, Rejected a) :
    AllBare first e (proxyOutputs w w') := by
  intro id o mem
  rw [proxyOutputs, emitted, log, List.drop_left, List.map_map] at mem
  obtain ⟨a, present, same⟩ := List.mem_map.mp mem
  obtain ⟨rfl, rfl⟩ := Prod.mk.inj same
  exact rejected a present

/-- The sockets that `openSockets` has opened stay open if it has opened both. -/
theorem openSockets_left {w w' : World} {j : EndpointId} {e : Event}
    {sockets : Option (Socket × Socket)} (beyond : OpenBeyond base w nowhere)
    (result : openSockets os w j = (w', sockets)) :
    AllBare first e (proxyOutputs w w') ∧
      OpenBeyond base w' (Function.update nowhere j
        ((sockets.map fun pair => [pair.1, pair.2]).getD [])) := by
  have unopened : ∀ type, Still (.opened type none) := fun _ => trivial
  simp only [openSockets] at result
  split at result
  · obtain ⟨rfl, rfl⟩ := Prod.mk.inj result
    constructor
    · exact proxyOutputs_bare j [.opened .stream none] rfl (by simp [Rejected])
    · simpa using beyond.still j (unopened .stream)
  · rename_i tcpSocket _
    have one := beyond.opened j .stream tcpSocket
    rw [nowhere, List.nil_append] at one
    split at result
    · obtain ⟨rfl, rfl⟩ := Prod.mk.inj result
      constructor
      · exact proxyOutputs_bare j
          [.opened .stream (some tcpSocket), .opened .dgram none, .closed tcpSocket]
          (by simp [World.record]) (by simp [Rejected])
      · have closed := (one.still j (unopened .dgram)).closed (Function.update_self j _ nowhere)
        simpa using closed
    · rename_i udpSocket _
      obtain ⟨rfl, rfl⟩ := Prod.mk.inj result
      constructor
      · exact proxyOutputs_bare j [.opened .stream (some tcpSocket), .opened .dgram (some udpSocket)]
          (by simp [World.record]) (by simp [Rejected])
      · simpa using one.opened j .dgram udpSocket

/-- Only the entry of the endpoint is taken, with the sockets that it has. -/
theorem left_deleted {w : World} {j : EndpointId} {pd : ProxyData} {e : Event}
    (table : w.socketMap = Function.update (fun _ => none) j (some pd))
    (sockets : OpenBeyond base w (Function.update nowhere j [pd.tcpSocket, pd.udpSocket])) :
    AllBare first e (proxyOutputs w (w.deleteProxyConnection j)) ∧
      (w.deleteProxyConnection j).socketMap = (fun _ => none) ∧
      OpenBeyond base (w.deleteProxyConnection j) nowhere := by
  have present : w.socketMap j = some pd := by rw [table, Function.update_self]
  simp only [World.deleteProxyConnection, present]
  refine ⟨?_, ?_, ?_⟩
  · exact proxyOutputs_bare j [.closed pd.tcpSocket, .closed pd.udpSocket]
      (by simp [World.record, World.setEntry]) (by simp [Rejected])
  · simp [World.setEntry, World.record, table]
  · have one := sockets.closed (Function.update_self j _ nowhere)
    rw [Function.update_idem] at one
    have two := one.closed (Function.update_self j _ nowhere)
    rw [Function.update_idem, Function.update_eq_self] at two
    exact two

theorem deleteProxyConnection_absent {w : World} {j : EndpointId}
    (table : w.socketMap = fun _ => none) : w.deleteProxyConnection j = w := by
  simp only [World.deleteProxyConnection, table]

theorem AllBare.append {e : Event} {outs more : List (EndpointId × Output)}
    (one : AllBare first e outs) (two : AllBare first e more) : AllBare first e (outs ++ more) :=
  fun id o mem => (List.mem_append.mp mem).elim (one id o) (two id o)

theorem allBare_single {e : Event} {j : EndpointId} {o : Output} (bare : Bare first e j o) :
    AllBare first e [(j, o)] := by
  intro id o' mem
  obtain ⟨rfl, rfl⟩ := Prod.mk.inj (List.mem_singleton.mp mem)
  exact bare

theorem proxyOutputs_same {e : Event} (w : World) : AllBare first e (proxyOutputs w w) :=
  proxyOutputs_bare 0 [] (List.append_nil _).symm (by simp)

theorem AllBare.cons {e : Event} {j : EndpointId} {o : Output} {outs : List (EndpointId × Output)}
    (rest : AllBare first e outs) (bare : Bare first e j o) : AllBare first e ((j, o) :: outs) :=
  (allBare_single bare).append rest

variable {s s' : State} {outs : List (EndpointId × Output)}

/-- One more section of the create, with the port closed: the entry is stored, and then the
first socket is not registered. -/
theorem left_advanced {w w' : World} {j : EndpointId} {d : Datagram} {stage stage' : Creating}
    {tcpSocket udpSocket : Socket} {e : Event} (notFailed : stage ≠ .failed)
    (left : Left base first w (.creating j d stage tcpSocket udpSocket))
    (result : advance (closedPort os) config w j tcpSocket udpSocket stage = (w', stage')) :
    AllBare first e (proxyOutputs w w') ∧
      Left base first w' (.creating j d stage' tcpSocket udpSocket) := by
  cases left with
  | opened table sockets =>
    obtain ⟨rfl, rfl⟩ : storeEntry config w j tcpSocket udpSocket = w' ∧ .stored = stage' :=
      Prod.mk.inj result
    have stored : Left base first (storeEntry config w j tcpSocket udpSocket)
        (.creating j d .stored (ProxyData.new config tcpSocket udpSocket).tcpSocket
          (ProxyData.new config tcpSocket udpSocket).udpSocket) := by
      refine .stored (.inl rfl) ?_ ?_
      · rw [storeEntry_socketMap, table]
      · exact sockets.still j trivial
    exact ⟨proxyOutputs_bare j [.created] rfl (by simp [Rejected]), stored⟩
  | @stored _ _ _ pd early table sockets =>
    obtain rfl := early.resolve_right notFailed
    obtain rfl := advance_closedPort result
    obtain ⟨rfl, _⟩ := Prod.mk.inj result
    constructor
    · exact proxyOutputs_bare j [.call (.registerSocket pd.tcpSocket) false] rfl
        (by simp [Rejected])
    · exact .stored (.inr rfl) table (sockets.still j trivial)

theorem spent_step (spent : Spent base first s) {e : Event}
    (move : HandlerStep os config s e s' outs) :
    Spent base first s' ∧ AllBare first e outs := by
  obtain ⟨freed, contexts, left⟩ := spent
  have closed : currentOs os s.freeing = closedPort os := by rw [freed]; rfl
  have silent : AllBare first e [] := by
    intro id o mem
    cases mem
  cases move with
  | ignored => exact ⟨⟨freed, contexts, left⟩, silent⟩
  | @received j d => exact ⟨⟨freed, contexts, left⟩, allBare_single ⟨d, rfl, rfl, rfl, rfl, rfl⟩⟩
  | known idle context =>
    rw [contexts] at context
    cases context
  | @notOpened j d w idle _ failed =>
    rw [idle] at left
    cases left with
    | idle table sockets =>
      obtain ⟨bare, beyond⟩ := openSockets_left sockets failed
      have kept := openSockets_socketMap (currentOs os s.freeing) s.proxy j
      rw [failed, table] at kept
      rw [Option.map_none, Option.getD_none, Function.update_eq_self] at beyond
      refine ⟨⟨freed, contexts, ?_⟩, bare.cons trivial⟩
      rw [idle]
      exact .idle kept beyond
  | @opened j d w t u idle _ opened =>
    rw [idle] at left
    cases left with
    | idle table sockets =>
      obtain ⟨bare, beyond⟩ := openSockets_left sockets opened
      have kept := openSockets_socketMap (currentOs os s.freeing) s.proxy j
      rw [opened, table] at kept
      exact ⟨⟨freed, contexts, .opened kept beyond⟩, bare.cons trivial⟩
  | advanced there _ notFailed result =>
    rw [there] at left
    rw [closed] at result
    obtain ⟨bare, left'⟩ := left_advanced notFailed left result
    exact ⟨⟨freed, contexts, left'⟩, bare⟩
  | gaveUp there =>
    rw [there] at left
    cases left with
    | stored early table sockets =>
      obtain ⟨bare, table', sockets'⟩ := left_deleted table sockets
      exact ⟨⟨freed, contexts, .idle table' sockets'⟩, bare⟩
  | created there =>
    rw [there] at left
    cases left with
    | stored early => simp at early
  | sent there result =>
    rw [there] at left
    cases left with
    | sending hand table sockets =>
      simp [UdpProxy.udpSend, table] at result
  | posted there result =>
    rw [there] at left
    cases left with
    | sending hand table sockets =>
      simp only [UdpProxy.udpSend, table] at result
      obtain ⟨rfl, _⟩ := Prod.mk.inj result
      exact ⟨⟨freed, contexts, .idle table sockets⟩,
        (proxyOutputs_same s.proxy).append (allBare_single hand)⟩
  | @closes j idle =>
    rw [idle] at left
    cases left with
    | idle table sockets =>
      rw [deleteProxyConnection_absent table]
      exact ⟨⟨freed, contexts, .closing table sockets⟩,
        (proxyOutputs_same s.proxy).cons trivial⟩
  | @closed j there =>
    rw [there] at left
    cases left with
    | closing table sockets =>
      refine ⟨⟨freed, ?_, .idle table sockets⟩, silent⟩
      simp only [contexts]
      exact Function.update_eq_self j _
  | completed running | serviceFreed running =>
    rw [freed] at running
    cases running
  | tablesCleared stopped =>
    rw [freed] at stopped
    cases stopped
  | contextsCleared cleared =>
    rw [freed] at cleared
    cases cleared

end Steps

section Runs
variable {os : Os} {config : Config} {evs : List Event}

/-- The endpoint is as `free` has left it: it is in no table, and every socket that was opened
for it since then is closed. -/
structure AsLeft (before s : State) (id : EndpointId) : Prop where
  entry : s.proxy.socketMap id = none
  context : s.udpCtxMap id = none
  sockets : (openAt (s.proxy.history id)).Perm (openAt (before.proxy.history id))

theorem Spent.asLeft {before s : State} {first : Place}
    (spent : Spent (fun id => openAt (before.proxy.history id)) first s)
    (unlocked : s.place.holdsLock = false) (id : EndpointId) : AsLeft before s id := by
  obtain ⟨_, contexts, left⟩ := spent
  generalize s.place = place at left unlocked
  have nothing : s.proxy.socketMap = (fun _ => none) ∧
      OpenBeyond (fun id => openAt (before.proxy.history id)) s.proxy nowhere := by
    cases left with
    | idle table sockets | closing table sockets | sending _ table sockets =>
      exact ⟨table, sockets⟩
    | opened | stored => cases unlocked
  obtain ⟨table, sockets⟩ := nothing
  exact ⟨by rw [table], by rw [contexts], by simpa using sockets id⟩

/-- `free` returns with the driver's thread between two sections that hold no lock. -/
theorem spent_free (clearing : (run os config evs).freeing = .tablesCleared)
    (unlocked : (run os config evs).place.holdsLock = false) :
    Spent (fun id => openAt ((run os config evs).proxy.history id)) (run os config evs).place
      (run os config (evs ++ [.free])) := by
  have consistent := consistent_run os config evs
  rw [run_concat]
  generalize run os config evs = s at *
  have table : s.proxy.socketMap = fun _ => none := by
    funext id
    by_contra present
    have doomed := consistent.cleared (.inl clearing) id present
    rw [(Stored.doomed_stage doomed).locked] at unlocked
    cases unlocked
  have sockets : OpenBeyond (fun id => openAt (s.proxy.history id)) s.proxy nowhere := by
    intro id
    rw [nowhere, List.append_nil]
  have freed : (step os config s .free).1 =
      { s with udpCtxMap := fun _ => none, freeing := .freed } := by
    simp [step, free, clearing, unlocked]
  rw [freed]
  refine ⟨rfl, rfl, ?_⟩
  cases place : s.place with
  | idle => exact .idle table sockets
  | sending => exact .sending rfl table sockets
  | closing => exact .closing table sockets
  | creating =>
    rw [place] at unlocked
    cases unlocked

theorem spent_run {base : EndpointId → List Socket} {first : Place} {s : State}
    (spent : Spent base first s) (more : List Event) :
    Spent base first ((machine os config).run s more) ∧
      ∀ id o, (id, o) ∈ (machine os config).outputs s more → ∃ e ∈ more, Bare first e id o := by
  induction more generalizing s with
  | nil =>
    refine ⟨spent, ?_⟩
    intro id o mem
    cases mem
  | cons e more ih =>
    obtain ⟨spent', bare⟩ := spent_step spent (handlerStep os config s e)
    obtain ⟨final, later⟩ := ih spent'
    refine ⟨final, ?_⟩
    intro id o mem
    rw [Machine.outputs_cons] at mem
    rcases List.mem_append.mp mem with now | after
    · exact ⟨e, List.mem_cons_self, bare id o now⟩
    · obtain ⟨e', present, bare'⟩ := later id o after
      exact ⟨e', List.mem_cons_of_mem e present, bare'⟩

/-- If `init` has started the worker thread: in every run in which `free` has returned, and
whatever events still come, an endpoint gets nothing but what the driver has indicated, no call
is accepted for it, no datagram is passed on but one that was in hand, and between the events it
is in no table and has the sockets that it had. -/
theorem freed_rests {service : IocpService} (thread : service.workerThread ≠ .invalidHandleValue)
    (clearing : (serviceRun service os config evs).freeing = .tablesCleared)
    (unlocked : (serviceRun service os config evs).place.holdsLock = false) (more : List Event)
    (id : EndpointId) :
    (∀ o ∈ atIndex id ((serviceMachine service os config).outputs
        (serviceRun service os config (evs ++ [.free])) more),
      ∃ e ∈ more, Bare (serviceRun service os config evs).place e id o) ∧
    ((serviceRun service os config (evs ++ [.free] ++ more)).place.holdsLock = false →
      AsLeft (serviceRun service os config evs)
        (serviceRun service os config (evs ++ [.free] ++ more)) id) := by
  have same : ∀ evs, serviceRun service os config evs = run os config evs := by
    intro evs
    rw [serviceRun, serviceMachine_started os config thread, run]
  rw [same] at clearing unlocked
  rw [same, same, same, serviceMachine_started os config thread]
  obtain ⟨spent, bare⟩ := @spent_run os config _ _ _ (spent_free clearing unlocked) more
  constructor
  · intro o mem
    exact bare id o (mem_atIndex.mp mem)
  · have whole : run os config (evs ++ [.free] ++ more) =
        (machine os config).run (run os config (evs ++ [.free])) more := Machine.run_append ..
    intro rests
    rw [whole] at rests ⊢
    exact spent.asLeft rests id

/-- A datagram that comes too late: two sockets are opened and closed again. -/
def lateQuery : List Event := .udpSend 7 query :: List.replicate 3 (.driver 7)

/-- What `init` leaves behind with this outcome of its calls. -/
def started (o : ServiceStart.Outcomes) : IocpService := (IocpService.uninitialised.init o).1

theorem late_query_rests :
    AsLeft (serviceRun (started ServiceStart.succeeding) acceptingOs proxyConfig [.free, .free])
      (serviceRun (started ServiceStart.succeeding) acceptingOs proxyConfig
        ([.free, .free] ++ [.free] ++ lateQuery)) 7 :=
  (freed_rests (by decide) (by decide) (by decide) lateQuery 7).2 (by decide)

/-- Without the worker thread the port is open, and the sockets of the create are registered. -/
example : (serviceRun (started ServiceStart.threadless) acceptingOs proxyConfig
    ([.free, .free] ++ [.free] ++ lateQuery)).place =
      .creating 7 query .udpRegistered 0 1 := by decide +kernel

end Runs

end AfterFree
