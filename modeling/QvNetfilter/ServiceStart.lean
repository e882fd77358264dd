import QvNetfilter.FilterRules
import QvNetfilter.UdpProxy

/-!
# Starting and stopping the service

`NetFilterCore::Start` goes down to the completion port through `EventHandler`,
`UDPProxy` and `IOCPService`. `IOCPService::init` asks for the port alone and
`IOCPService::free` for the worker thread alone, and only `EventHandler::init`
frees what a later layer has failed on.
-/

namespace ServiceStart

open Memory Socks Mealy
open UdpProxy (Config)

section Model

inductive Handle where
  | invalidHandleValue
  | null
  | handle (n : Nat)
deriving DecidableEq

def Handle.isOpen : Handle → Bool
  | .handle _ => true
  | _ => false

structure IocpService where
  hIocp : Handle
  workerThread : Handle
deriving DecidableEq

def IocpService.uninitialised : IocpService := ⟨.invalidHandleValue, .invalidHandleValue⟩

/-- What the calls of one `Start` return: the bytes that `WSAStringToAddress` writes for a
family, the socket and the function pointer of `initExtensions`, and so on. -/
structure Outcomes where
  stringToAddress : String → Nat → Option Bytes
  socket : Bool
  connectEx : Bool
  createIoCompletionPort : Handle
  beginThreadEx : Handle
  nfInit : Bool

/-- The arguments of `Start` without the rules. -/
structure Arguments where
  address : String
  port : Int
  username : Bytes
  password : Bytes

def Arguments.fullAddr (a : Arguments) : String := a.address ++ ":" ++ toString a.port

structure Core where
  gProxyAddress : Address
  connectEx : Bool
  config : Config
  service : IocpService
  filtering : Bool

def Core.initial : Core where
  gProxyAddress := Address.zero
  connectEx := false
  config := ⟨Address.zero, 0, [], []⟩
  service := .uninitialised
  filtering := false

namespace IocpService

def init (s : IocpService) (o : Outcomes) : IocpService × Bool :=
  if s.hIocp ≠ .invalidHandleValue then (s, false)
  else
    let s := { s with hIocp := o.createIoCompletionPort }
    if s.hIocp = .invalidHandleValue then (s, false)
    else
      let hThread := o.beginThreadEx
      (if hThread ≠ .null then { s with workerThread := hThread } else s, true)

/-- The wait for the thread ends: its loop leaves when the stop event is set. -/
def free (s : IocpService) : IocpService :=
  if s.workerThread = .invalidHandleValue then s
  else
    let s := { s with workerThread := .invalidHandleValue }
    if s.hIocp ≠ .invalidHandleValue then { s with hIocp := .invalidHandleValue } else s

end IocpService

def initExtensions (c : Core) (o : Outcomes) : Core × Bool :=
  if !o.socket then (c, false) else ({ c with connectEx := o.connectEx }, o.connectEx)

/-- `UDPProxy::init` -/
def udpProxyInit (c : Core) (proxyAddress : Address) (proxyAddressLen : Nat)
    (user pass : Bytes) (o : Outcomes) : Core × Bool :=
  match initExtensions c o with
  | (c, false) => (c, false)
  | (c, true) =>
    match c.service.init o with
    | (service, false) => ({ c with service := service }, false)
    | (service, true) =>
      ({ c with
          service := service
          config := {
            proxyAddress := c.config.proxyAddress.write (proxyAddress.bytes.take proxyAddressLen)
            proxyAddressLen := proxyAddressLen
            userName := user
            userPassword := pass } }, true)

/-- `EventHandler::free`, as far as the service goes. -/
def eventHandlerFree (c : Core) : Core := { c with service := c.service.free }

/-- `WSAStringToAddress` for IPv4 and then for IPv6, over the zeroed address. -/
def parseAddress (text : String) (o : Outcomes) : Option Address :=
  match o.stringToAddress text afInet with
  | some bytes => some (Address.zero.write bytes)
  | none => (o.stringToAddress text afInet6).map Address.zero.write

/-- `EventHandler::init` -/
def eventHandlerInit (c : Core) (text : String) (username password : Bytes) (o : Outcomes) :
    Core × Bool :=
  match parseAddress text o with
  | none => ({ c with gProxyAddress := Address.zero }, false)
  | some address =>
    let c := { c with gProxyAddress := address }
    let size := if address.saFamily = afInet6 then sizeofSockaddrIn6 else sizeofSockaddrIn
    match udpProxyInit c address size username password o with
    | (c, false) => (eventHandlerFree c, false)
    | (c, true) => (c, true)

/-- `NetFilterCore::Start` up to the rules, which do not change what it returns. -/
def start (c : Core) (a : Arguments) (o : Outcomes) : Core × Bool :=
  match eventHandlerInit c a.fullAddr a.username a.password o with
  | (c, false) => (c, false)
  | (c, true) => if !o.nfInit then (c, false) else ({ c with filtering := true }, true)

def stop (c : Core) : Core := { eventHandlerFree c with filtering := false }

/-- `start` returns what `Start` returns with the rules of any list. -/
theorem start_returns (c : Core) (a : Arguments) (o : Outcomes)
    (rules : List FilterRules.FilterRule) (list : FilterRules.RuleList) :
    (start c a o).2 = (FilterRules.start (eventHandlerInit c a.fullAddr a.username a.password o).2
      o.nfInit rules list).1 := by
  rw [start]
  rcases eventHandlerInit c a.fullAddr a.username a.password o with ⟨c', ready⟩
  cases ready with
  | false => rfl
  | true => cases filters : o.nfInit <;> rfl

inductive Event where
  | start (a : Arguments) (o : Outcomes)
  | stop

def step (c : Core) : Event → Core × List Bool
  | .start a o => ((start c a o).1, [(start c a o).2])
  | .stop => (stop c, [])

def machine : Machine Core Event Bool where
  step := step

def run (evs : List Event) : Core := machine.run Core.initial evs

theorem run_concat (evs : List Event) (e : Event) : run (evs ++ [e]) = (step (run evs) e).1 :=
  machine.run_append Core.initial evs [e]

end Model

section Service

/-- The address can be read and `ConnectEx` is there, so that the port is asked for. -/
def reaches (a : Arguments) (o : Outcomes) : Bool :=
  (parseAddress a.fullAddr o).isSome && o.socket && o.connectEx

/-- What `EventHandler::init` makes of the service, through all layers. -/
def serviceInit (s : IocpService) (a : Arguments) (o : Outcomes) : IocpService × Bool :=
  if (parseAddress a.fullAddr o).isNone then (s, false)
  else if !(o.socket && o.connectEx) then (s.free, false)
  else
    match s.init o with
    | (s, false) => (s.free, false)
    | (s, true) => (s, true)

theorem eventHandlerInit_service (c : Core) (a : Arguments) (o : Outcomes) :
    (eventHandlerInit c a.fullAddr a.username a.password o).1.service =
        (serviceInit c.service a o).1 ∧
      (eventHandlerInit c a.fullAddr a.username a.password o).1.filtering = c.filtering ∧
      (eventHandlerInit c a.fullAddr a.username a.password o).2 =
        (serviceInit c.service a o).2 := by
  simp only [eventHandlerInit, serviceInit]
  cases parseAddress a.fullAddr o with
  | none => exact ⟨rfl, rfl, rfl⟩
  | some address =>
    simp only [udpProxyInit, initExtensions]
    by_cases socket : o.socket = true
    · by_cases extension : o.connectEx = true
      · rcases result : c.service.init o with ⟨service, ready⟩
        cases ready <;> simp [socket, extension, result, eventHandlerFree]
      · simp [socket, extension, eventHandlerFree]
    · simp [socket, eventHandlerFree]

/-- A `Start` reads nothing of the core but its service. -/
theorem start_service (c : Core) (a : Arguments) (o : Outcomes) :
    (start c a o).1.service = (serviceInit c.service a o).1 ∧
      (start c a o).2 = ((serviceInit c.service a o).2 && o.nfInit) ∧
      (start c a o).1.filtering = (c.filtering || (start c a o).2) := by
  obtain ⟨service, filtering, returned⟩ := eventHandlerInit_service c a o
  rw [← service, ← returned, start]
  rcases result : eventHandlerInit c a.fullAddr a.username a.password o with ⟨c', ready⟩
  rw [result] at filtering
  cases ready with
  | false => exact ⟨rfl, rfl, by simpa using filtering⟩
  | true =>
    cases filters : o.nfInit with
    | false => exact ⟨rfl, rfl, by simpa using filtering⟩
    | true => exact ⟨rfl, rfl, by simp⟩

def IocpService.opened (s : IocpService) (o : Outcomes) : IocpService where
  hIocp := o.createIoCompletionPort
  workerThread := if o.beginThreadEx ≠ .null then o.beginThreadEx else s.workerThread

/-- Everything that `EventHandler::init` can do with the service. -/
inductive ServiceStep (a : Arguments) (o : Outcomes) (s : IocpService) :
    IocpService → Bool → Prop where
  | refused (address : parseAddress a.fullAddr o = none) : ServiceStep a o s s false
  | failed (reason : reaches a o = true → s.hIocp = .invalidHandleValue →
      o.createIoCompletionPort = .invalidHandleValue) : ServiceStep a o s s.free false
  | opened (through : reaches a o = true) (idle : s.hIocp = .invalidHandleValue)
      (port : o.createIoCompletionPort ≠ .invalidHandleValue) : ServiceStep a o s (s.opened o) true

theorem serviceStep (s : IocpService) (a : Arguments) (o : Outcomes) :
    ServiceStep a o s (serviceInit s a o).1 (serviceInit s a o).2 := by
  simp only [serviceInit]
  split
  · rename_i address
    exact .refused (Option.isNone_iff_eq_none.mp address)
  · rename_i address
    split
    · rename_i missing
      refine .failed fun through => ?_
      simp_all [reaches]
    · rename_i extension
      have through : reaches a o = true := by
        simp_all [reaches, Option.isSome_iff_ne_none]
      simp only [IocpService.init]
      by_cases idle : s.hIocp = .invalidHandleValue
      · by_cases port : o.createIoCompletionPort = .invalidHandleValue
        · have same : { s with hIocp := Handle.invalidHandleValue } = s := by
            rw [← idle]
          simp only [idle, port, same, ne_eq, not_true, if_false, if_true]
          exact .failed fun _ _ => port
        · simp only [idle, port, ne_eq, not_true, if_false]
          have opened : ServiceStep a o s (s.opened o) true := .opened through idle port
          by_cases thread : o.beginThreadEx = .null
          · simpa [IocpService.opened, thread] using opened
          · simpa [IocpService.opened, thread] using opened
      · simp only [idle, ne_eq, not_false_eq_true, if_true]
        exact .failed fun _ idle' => absurd idle' idle

/-- What a start returns, and what it makes of the service. -/
theorem start_cases (c : Core) (a : Arguments) (o : Outcomes) :
    ((start c a o).2 = false ∧ (start c a o).1.service = c.service ∧
        parseAddress a.fullAddr o = none) ∨
      ((start c a o).2 = false ∧ (start c a o).1.service = c.service.free ∧
        (reaches a o = true → c.service.hIocp = .invalidHandleValue →
          o.createIoCompletionPort = .invalidHandleValue)) ∨
      ((start c a o).2 = o.nfInit ∧ (start c a o).1.service = c.service.opened o ∧
        reaches a o = true ∧ c.service.hIocp = .invalidHandleValue ∧
        o.createIoCompletionPort ≠ .invalidHandleValue) := by
  obtain ⟨service, returned, _⟩ := start_service c a o
  have cases_ := serviceStep c.service a o
  rw [← service] at cases_
  generalize (serviceInit c.service a o).2 = ready at cases_ returned
  generalize (start c a o).1.service = after at cases_
  cases cases_ with
  | refused address => exact .inl ⟨returned, rfl, address⟩
  | failed reason => exact .inr (.inl ⟨returned, rfl, reason⟩)
  | opened through idle port => exact .inr (.inr ⟨returned, rfl, through, idle, port⟩)

end Service

section Cleanup

theorem Handle.isOpen_ne {h : Handle} (isOpen : h.isOpen = true) :
    h ≠ .invalidHandleValue ∧ h ≠ .null := by
  constructor
  · rintro rfl
    exact absurd isOpen nofun
  · rintro rfl
    exact absurd isOpen nofun

/-- With a worker thread `free` closes everything. -/
theorem free_of_thread {s : IocpService} (thread : s.workerThread.isOpen = true) :
    s.free = .uninitialised := by
  obtain ⟨hIocp, workerThread⟩ := s
  have present : workerThread ≠ .invalidHandleValue := (Handle.isOpen_ne thread).1
  simp only [IocpService.free]
  rw [if_neg present]
  by_cases port : hIocp = .invalidHandleValue
  · simp [port, IocpService.uninitialised]
  · simp [port, IocpService.uninitialised]

/-- Without one it closes nothing. -/
theorem free_of_no_thread {s : IocpService} (gone : s.workerThread = .invalidHandleValue) :
    s.free = s := if_pos gone

/-- A failed start while the core is stopped leaves the service uninitialised, so that
the next one goes as on a new object; a successful one has a port and a thread. -/
def StartsCleanly (c : Core) : Event → Prop
  | .stop => True
  | .start a o =>
    ((start c a o).2 = false → c.filtering = false →
      (start c a o).1.service = .uninitialised ∧
      ∀ a' o', (start (start c a o).1 a' o').2 = (start Core.initial a' o').2 ∧
        (start (start c a o).1 a' o').1.service = (start Core.initial a' o').1.service) ∧
    ((start c a o).2 = true → (start c a o).1.service.hIocp.isOpen = true ∧
      (start c a o).1.service.workerThread.isOpen = true)

/-- Where the port is created, the thread starts; the driver is reached if the core was
stopped, and only with a valid port. -/
def Provided (c : Core) : Event → Prop
  | .stop => True
  | .start a o =>
    reaches a o = true → c.service.hIocp = .invalidHandleValue →
      o.createIoCompletionPort ≠ .invalidHandleValue →
      o.beginThreadEx.isOpen = true ∧ (c.filtering = false → o.nfInit = true) ∧
        (o.nfInit = true → o.createIoCompletionPort.isOpen = true)

/-- The service of a core between two calls that have met the condition. -/
def Steady (c : Core) : Prop :=
  c.service = .uninitialised ∨ c.filtering = true ∧
    c.service.hIocp ≠ .invalidHandleValue ∧ c.service.workerThread.isOpen = true

theorem Steady.free {c : Core} (steady : Steady c) : c.service.free = .uninitialised := by
  rcases steady with none | ⟨_, _, thread⟩
  · rw [none]
    rfl
  · exact free_of_thread thread

theorem Steady.stopped {c : Core} (steady : Steady c) (stopped : c.filtering = false) :
    c.service = .uninitialised := by
  rcases steady with none | ⟨filtering, _⟩
  · exact none
  · rw [stopped] at filtering
    exact absurd filtering nofun

theorem Steady.idle {c : Core} (steady : Steady c)
    (idle : c.service.hIocp = .invalidHandleValue) : c.service = .uninitialised := by
  rcases steady with none | ⟨_, port, _⟩
  · exact none
  · exact absurd idle port

/-- What a start returns and makes of the service depends on the service only. -/
theorem start_congr {c c' : Core} (same : c.service = c'.service) (a : Arguments) (o : Outcomes) :
    (start c a o).2 = (start c' a o).2 ∧ (start c a o).1.service = (start c' a o).1.service := by
  obtain ⟨service, returned, _⟩ := start_service c a o
  obtain ⟨service', returned', _⟩ := start_service c' a o
  rw [service, returned, service', returned', same]
  exact ⟨rfl, rfl⟩

theorem startsCleanly_of {c : Core} {a : Arguments} {o : Outcomes}
    (failed : (start c a o).2 = false → c.filtering = false →
      (start c a o).1.service = .uninitialised)
    (started : (start c a o).2 = true → (start c a o).1.service.hIocp.isOpen = true ∧
      (start c a o).1.service.workerThread.isOpen = true) : StartsCleanly c (.start a o) := by
  refine ⟨fun returned stopped => ?_, started⟩
  have none := failed returned stopped
  exact ⟨none, start_congr none⟩

/-- A call that meets the condition cleans up, and keeps the service steady. -/
theorem steady_step {c : Core} {e : Event} (steady : Steady c) (provided : Provided c e) :
    Steady (step c e).1 ∧ StartsCleanly c e := by
  cases e with
  | stop => exact ⟨.inl steady.free, trivial⟩
  | start a o =>
    obtain ⟨_, _, filtering⟩ := start_service c a o
    rcases start_cases c a o with ⟨returned, same, _⟩ | ⟨returned, freed, _⟩ |
      ⟨returned, opened, through, idle, port⟩
    · have still : (start c a o).1.filtering = c.filtering := by
        rw [filtering, returned, Bool.or_false]
      constructor
      · rcases steady with none | running
        · exact .inl (same.trans none)
        · right
          rw [step, still, same]
          exact running
      · apply startsCleanly_of
        · intro _ stopped
          exact same.trans (steady.stopped stopped)
        · intro true_
          rw [returned] at true_
          exact absurd true_ nofun
    · have clean : (start c a o).1.service = .uninitialised := freed.trans steady.free
      constructor
      · exact .inl clean
      · apply startsCleanly_of
        · intro _ _
          exact clean
        · intro true_
          rw [returned] at true_
          exact absurd true_ nofun
    · obtain ⟨thread, driver, valid⟩ := provided through idle port
      have worker : (start c a o).1.service.workerThread = o.beginThreadEx := by
        rw [opened]
        exact if_pos (Handle.isOpen_ne thread).2
      have runs : (start c a o).1.service.workerThread.isOpen = true := by rwa [worker]
      have there : (start c a o).1.service.hIocp = o.createIoCompletionPort := by
        rw [opened]
        rfl
      have filters : (start c a o).1.filtering = true := by
        cases stopped : c.filtering with
        | false => rw [filtering, returned, driver stopped, Bool.or_true]
        | true => rw [filtering, stopped, Bool.true_or]
      constructor
      · exact .inr ⟨filters, there ▸ port, runs⟩
      · apply startsCleanly_of
        · intro false_ stopped
          rw [returned, driver stopped] at false_
          exact absurd false_ nofun
        · intro true_
          rw [there]
          exact ⟨valid (returned ▸ true_), runs⟩

/-- A start from a steady core that cleans up, and that a stop cleans up after, has met
the condition. -/
theorem provided_of_clean {c : Core} {a : Arguments} {o : Outcomes} (steady : Steady c)
    (clean : StartsCleanly c (.start a o))
    (stopped : (stop (start c a o).1).service = .uninitialised) : Provided c (.start a o) := by
  intro through idle port
  obtain ⟨failed, started⟩ := clean
  rcases start_cases c a o with ⟨_, _, refused⟩ | ⟨_, _, reason⟩ | ⟨returned, opened, _, _, _⟩
  · simp [reaches, refused] at through
  · exact absurd (reason through idle) port
  · have portKept : (start c a o).1.service.hIocp = o.createIoCompletionPort := by
      rw [opened]
      rfl
    have worker : (start c a o).1.service.workerThread =
        if o.beginThreadEx ≠ .null then o.beginThreadEx else .invalidHandleValue := by
      rw [opened, steady.idle idle]
      rfl
    have present : (start c a o).1.service.workerThread ≠ .invalidHandleValue := by
      intro gone
      have left : (start c a o).1.service = .uninitialised := by
        rw [← free_of_no_thread gone]
        exact stopped
      rw [left] at portKept
      exact port portKept.symm
    refine ⟨?_, ?_, ?_⟩
    · rw [worker] at present
      cases thread : o.beginThreadEx with
      | handle n => rfl
      | invalidHandleValue | null => simp [thread] at present
    · intro idle_
      by_contra refusal
      have returned' : (start c a o).2 = false := by simpa [returned] using refusal
      have none := (failed returned' idle_).1
      rw [none] at portKept
      exact port portKept.symm
    · intro filters
      rw [← portKept]
      exact (started (returned.trans filters)).1

end Cleanup

section Runs

/-- A call that no address can be read for. -/
def Refused : Event → Prop
  | .stop => False
  | .start a o => parseAddress a.fullAddr o = none

theorem provided_stop (c : Core) : Provided c .stop := trivial

theorem provided_refused {e : Event} (refused : Refused e) (c : Core) : Provided c e := by
  cases e with
  | stop => exact trivial
  | start a o =>
    intro through
    have refused' : parseAddress a.fullAddr o = none := refused
    simp [reaches, refused'] at through

/-- A start whose address is refused shows what was left. -/
theorem clean_of_refused {c : Core} {e : Event} (refused : Refused e)
    (clean : StartsCleanly (stop c) e) : (stop c).service = .uninitialised := by
  cases e with
  | stop => exact absurd refused not_false
  | start a o =>
    have refused' : parseAddress a.fullAddr o = none := refused
    have leaves : serviceInit (stop c).service a o = ((stop c).service, false) :=
      if_pos (by rw [refused']; rfl)
    obtain ⟨same, returned, _⟩ := start_service (stop c) a o
    rw [leaves] at same returned
    exact same.symm.trans (clean.1 returned rfl).1

theorem steady_initial : Steady Core.initial := .inl rfl

theorem steady_run {evs : List Event} (provided : machine.Throughout Provided Core.initial evs) :
    Steady (run evs) :=
  provided.invariant (I := Steady) (fun _ _ steady now => (steady_step steady now).1) steady_initial
    (List.append_nil evs).symm

theorem startsCleanly_run {evs : List Event}
    (provided : machine.Throughout Provided Core.initial evs) :
    machine.Throughout StartsCleanly Core.initial evs := by
  rintro before e after rfl
  have steady := steady_run provided.front
  exact (steady_step steady (provided before e after rfl)).2

/-- A start that fails at once. -/
def refusal : Event :=
  .start ⟨"", 0, [], []⟩ ⟨fun _ _ => none, false, false, .null, .null, false⟩

theorem refusal_refused : Refused refusal := rfl

/-- In every run all starts clean up, also when the run is cut, stopped and followed by a
start with a refused address, if and only if every start of the run meets the condition. -/
theorem startsCleanly_iff (evs : List Event) :
    (∀ front back last, evs = front ++ back → Refused last →
      machine.Throughout StartsCleanly Core.initial (front ++ [.stop] ++ [last])) ↔
    machine.Throughout Provided Core.initial evs := by
  constructor
  · intro clean
    induction evs using List.reverseRecOn with
    | nil => exact .nil _ _
    | append_singleton evs e ih =>
      have before := ih fun front back last split =>
        clean front (back ++ [e]) last (by rw [split, List.append_assoc])
      apply before.concat
      cases e with
      | stop => exact trivial
      | start a o =>
        have whole := clean (evs ++ [.start a o]) [] refusal (List.append_nil _).symm refusal_refused
        have now : StartsCleanly (run evs) (.start a o) :=
          whole evs (.start a o) [.stop, refusal] (by simp)
        have stopped : StartsCleanly (run (evs ++ [Event.start a o] ++ [Event.stop])) refusal :=
          whole (evs ++ [Event.start a o] ++ [Event.stop]) refusal [] rfl
        rw [run_concat, run_concat] at stopped
        exact provided_of_clean (steady_run before) now (clean_of_refused refusal_refused stopped)
  · rintro provided front back last rfl refused
    apply startsCleanly_run
    exact (provided.front.concat (provided_stop _)).concat (provided_refused refused _)

end Runs

section LeftPort

def localProxy : Arguments := ⟨"127.0.0.1", 1080, [], []⟩

/-- Everything succeeds. -/
def succeeding : Outcomes where
  stringToAddress := fun _ family =>
    if family = afInet then some ([2, 0, 0x04, 0x38, 127, 0, 0, 1] ++ List.replicate 8 0) else none
  socket := true
  connectEx := true
  createIoCompletionPort := .handle 1
  beginThreadEx := .handle 2
  nfInit := true

/-- Neither the thread nor the driver starts. -/
def threadless : Outcomes := { succeeding with beginThreadEx := .null, nfInit := false }

/-- `CreateIoCompletionPort` fails with `NULL`. -/
def portless : Outcomes := { succeeding with createIoCompletionPort := .null }

/-- A start without a thread leaves its port behind, and the next start fails also after a
stop; a start without a port succeeds. -/
theorem port_left :
    ¬ machine.Throughout StartsCleanly Core.initial [.start localProxy threadless] ∧
      (start (run [.start localProxy threadless, .stop]) localProxy succeeding).2 = false ∧
      (start Core.initial localProxy succeeding).2 = true ∧
      ¬ machine.Throughout StartsCleanly Core.initial [.start localProxy portless] := by
  refine ⟨fun clean => ?_, by decide +kernel, by decide +kernel, fun clean => ?_⟩
  · obtain ⟨failed, _⟩ := clean [] (.start localProxy threadless) [] rfl
    obtain ⟨none, _⟩ := failed (by decide +kernel) rfl
    exact absurd none (by decide +kernel)
  · obtain ⟨_, started⟩ := clean [] (.start localProxy portless) [] rfl
    obtain ⟨port, _⟩ := started (by decide +kernel)
    exact absurd port (by decide +kernel)

end LeftPort

end ServiceStart
