import QvNetfilter.ServiceStart

/-!
# The events of the plugin

`ProcessEvent` starts the core when a connection is up and stops it when one goes down. A start
on a running core fails, and its cleanup stops the service that was running.
-/

namespace PluginEvents

open Memory Socks Mealy
open ServiceStart hiding Event step machine run run_concat

section Model

/-- A value of `InboundData`; of the port range only the start is read. -/
structure Inbound where
  protocol : String
  address : String
  portFrom : Int
deriving DecidableEq

inductive EventType where
  | connected
  | disconnecting
  | other
deriving DecidableEq

structure EventObject where
  type : EventType
  inboundData : List Inbound
deriving DecidableEq

/-- The port of the first SOCKS inbound, or zero. -/
def socksPort (inboundData : List Inbound) : Int :=
  match inboundData.find? fun i => i.protocol = "socks" with
  | some i => i.portFrom
  | none => 0

/-- The arguments of `core.Start`; there is no user name. -/
def arguments (inboundData : List Inbound) : Arguments :=
  ⟨"127.0.0.1", socksPort inboundData, [], []⟩

/-- An event, and what the calls return that it leads to. -/
structure Event where
  object : EventObject
  outcomes : Outcomes

/-- `ProcessEvent`; what `Start` returns is not looked at. -/
def processEvent (c : Core) (e : Event) : Core × List Bool :=
  match e.object.type with
  | .connected =>
    let (c, started) := start c (arguments e.object.inboundData) e.outcomes
    (c, [started])
  | .disconnecting => (stop c, [])
  | .other => (c, [])

def machine : Machine Core Event Bool where
  step := processEvent

def run (evs : List Event) : Core := machine.run Core.initial evs

theorem run_concat (evs : List Event) (e : Event) :
    run (evs ++ [e]) = (processEvent (run evs) e).1 := machine.run_append Core.initial evs [e]

end Model

section Story

/-- What the events tell, without the calls. -/
structure Story where
  /-- The connections that came up since the last one went down. -/
  streak : ℕ
  /-- The connection that came up last. -/
  latest : Option Event
  /-- The last one that came up while no other was left. -/
  served : Option Event

def Story.tell (s : Story) (e : Event) : Story :=
  match e.object.type with
  | .connected => ⟨s.streak + 1, some e, if s.streak % 2 = 0 then some e else s.served⟩
  | .disconnecting => { s with streak := 0 }
  | .other => s

def story (evs : List Event) : Story := evs.foldl Story.tell ⟨0, none, none⟩

theorem story_concat (evs : List Event) (e : Event) : story (evs ++ [e]) = (story evs).tell e :=
  List.foldl_concat ..

/-- The address of the event can be read, and every call succeeds that a start makes. -/
structure Succeeds (e : Event) : Prop where
  through : reaches (arguments e.object.inboundData) e.outcomes = true
  port : e.outcomes.createIoCompletionPort.isOpen = true
  thread : e.outcomes.beginThreadEx.isOpen = true
  driver : e.outcomes.nfInit = true

/-- The address that a start of the event reads. -/
def addressOf (e : Event) : Option Address :=
  parseAddress (arguments e.object.inboundData).fullAddr e.outcomes

def Running (c : Core) : Prop :=
  c.service.hIocp.isOpen = true ∧ c.service.workerThread.isOpen = true

/-- The proxy client has the address and its length. -/
def Proxies (c : Core) (address : Address) : Prop :=
  c.config.proxyAddressLen = (if address.saFamily = afInet6 then sizeofSockaddrIn6
      else sizeofSockaddrIn) ∧
    c.config.proxyAddress.bytes.take c.config.proxyAddressLen =
      address.bytes.take c.config.proxyAddressLen

/-- What the events have made of the core. -/
structure Follows (s : Story) (c : Core) : Prop where
  stopped : s.streak % 2 = 0 → c.service = .uninitialised
  running : s.streak % 2 = 1 → Running c
  filtering : c.filtering = true ↔ 0 < s.streak
  redirects : ∀ e, s.latest = some e → addressOf e = some c.gProxyAddress
  proxies : ∀ e, s.served = some e → ∃ address, addressOf e = some address ∧ Proxies c address

end Story

section Steps
variable {c : Core} {e : Event} {s : Story}

theorem write_front (a : Address) {b : Bytes} (fits : b.length ≤ nfMaxAddressLength) :
    (a.write b).bytes.take b.length = b := by
  simp only [Address.write, List.take_take, Nat.min_eq_left fits, overwrite_take]

/-- `UDPProxy::init` takes the address when it succeeds, and leaves the old one otherwise. -/
theorem udpProxyInit_config (c : Core) (address : Address) (len : Nat) (user pass : Bytes)
    (o : Outcomes) :
    (udpProxyInit c address len user pass o).1.gProxyAddress = c.gProxyAddress ∧
      ((udpProxyInit c address len user pass o).2 = false →
        (udpProxyInit c address len user pass o).1.config = c.config) ∧
      ((udpProxyInit c address len user pass o).2 = true →
        (udpProxyInit c address len user pass o).1.config.proxyAddressLen = len ∧
        (udpProxyInit c address len user pass o).1.config.proxyAddress =
          c.config.proxyAddress.write (address.bytes.take len)) := by
  simp only [udpProxyInit, initExtensions]
  cases socket : o.socket with
  | false => simp
  | true =>
    cases extension : o.connectEx with
    | false => simp
    | true =>
      rcases result : c.service.init o with ⟨service, ready⟩
      cases ready <;> simp [result]

/-- A start that can read its address redirects to it, whatever follows; the proxy client
gets it only if its own start succeeds. -/
theorem start_address {a : Arguments} {o : Outcomes} {address : Address}
    (parsed : parseAddress a.fullAddr o = some address) :
    (start c a o).1.gProxyAddress = address ∧
      ((eventHandlerInit c a.fullAddr a.username a.password o).2 = false →
        (start c a o).1.config = c.config) ∧
      ((eventHandlerInit c a.fullAddr a.username a.password o).2 = true →
        Proxies (start c a o).1 address) := by
  let size := if address.saFamily = afInet6 then sizeofSockaddrIn6 else sizeofSockaddrIn
  have spec := udpProxyInit_config { c with gProxyAddress := address } address size a.username
    a.password o
  simp only [start, eventHandlerInit, parsed]
  rcases result : udpProxyInit { c with gProxyAddress := address } address size a.username
    a.password o with ⟨c', ready⟩
  rw [result] at spec
  obtain ⟨kept, failed, succeeded⟩ := spec
  cases ready with
  | false =>
    simp only [eventHandlerFree]
    exact ⟨kept, fun _ => failed rfl, by simp⟩
  | true =>
    obtain ⟨len, written⟩ := succeeded rfl
    have fits : (address.bytes.take size).length = size := by
      have within : size ≤ address.bytes.length := by
        rw [address.size]
        simp only [size]
        split <;> decide
      rw [List.length_take, Nat.min_eq_left within]
    have proxies : Proxies c' address := by
      refine ⟨len, ?_⟩
      have front := write_front c.config.proxyAddress (b := address.bytes.take size)
        (by rw [fits]; simp only [size]; split <;> decide)
      rw [fits] at front
      rw [len, written]
      exact front
    cases driver : o.nfInit with
    | false => exact ⟨kept, by simp, fun _ => proxies⟩
    | true => exact ⟨kept, by simp, fun _ => proxies⟩

theorem serviceInit_through {service : IocpService} {a : Arguments} {o : Outcomes}
    (through : reaches a o = true) : serviceInit service a o =
      if (service.init o).2 = true then service.init o else ((service.init o).1.free, false) := by
  simp only [reaches, Bool.and_eq_true] at through
  obtain ⟨⟨parsed, socket⟩, extension⟩ := through
  have address : ¬ (parseAddress a.fullAddr o).isNone = true := by
    rw [Option.isNone_iff_eq_none]
    exact Option.isSome_iff_ne_none.mp parsed
  rw [serviceInit, if_neg address, if_neg (by simp [socket, extension])]
  rcases service.init o with ⟨service', ready⟩
  cases ready with
  | false => rfl
  | true => rfl

/-- On a stopped core a start succeeds. -/
theorem start_stopped (succeeds : Succeeds e) (stopped : c.service = .uninitialised) :
    (serviceInit c.service (arguments e.object.inboundData) e.outcomes).2 = true ∧
      Running (start c (arguments e.object.inboundData) e.outcomes).1 := by
  have port := (Handle.isOpen_ne succeeds.port).1
  have thread := (Handle.isOpen_ne succeeds.thread).2
  have opened : c.service.init e.outcomes =
      (⟨e.outcomes.createIoCompletionPort, e.outcomes.beginThreadEx⟩, true) := by
    rw [stopped]
    simp [IocpService.init, IocpService.uninitialised, port, thread]
  have through := @serviceInit_through c.service _ _ succeeds.through
  rw [opened] at through
  rw [Running, (start_service c _ e.outcomes).1, through]
  exact ⟨rfl, succeeds.port, succeeds.thread⟩

/-- On a running core a start fails, and nothing runs any more. -/
theorem start_running (succeeds : Succeeds e) (running : Running c) :
    (serviceInit c.service (arguments e.object.inboundData) e.outcomes).2 = false ∧
      (start c (arguments e.object.inboundData) e.outcomes).1.service = .uninitialised := by
  have busy : c.service.init e.outcomes = (c.service, false) :=
    if_pos (Handle.isOpen_ne running.1).1
  have through := @serviceInit_through c.service _ _ succeeds.through
  rw [busy] at through
  rw [(start_service c _ e.outcomes).1, through]
  exact ⟨rfl, free_of_thread running.2⟩

theorem Follows.initial : Follows ⟨0, none, none⟩ Core.initial where
  stopped := fun _ => rfl
  running := nofun
  filtering := by simp [Core.initial]
  redirects := nofun
  proxies := nofun

/-- One event keeps what the events have made of the core. -/
theorem follows_step (follows : Follows s c)
    (succeeds : e.object.type = .connected → Succeeds e) :
    Follows (s.tell e) (processEvent c e).1 := by
  cases type : e.object.type with
  | other =>
    simp only [Story.tell, processEvent, type]
    exact follows
  | disconnecting =>
    simp only [Story.tell, processEvent, type]
    have freed : c.service.free = .uninitialised := by
      rcases Nat.mod_two_eq_zero_or_one s.streak with even | odd
      · rw [follows.stopped even]
        rfl
      · exact free_of_thread (follows.running odd).2
    exact ⟨fun _ => freed, nofun, by simp [stop], follows.redirects, follows.proxies⟩
  | connected =>
    have ok := succeeds type
    simp only [Story.tell, processEvent, type]
    obtain ⟨address, parsed⟩ : ∃ address, addressOf e = some address := by
      have through := ok.through
      simp only [reaches, Bool.and_eq_true] at through
      exact Option.isSome_iff_exists.mp through.1.1
    obtain ⟨redirects, kept, taken⟩ := @start_address c _ _ _ parsed
    obtain ⟨_, _, returned⟩ := eventHandlerInit_service c (arguments e.object.inboundData)
      e.outcomes
    obtain ⟨_, result, filtering⟩ := start_service c (arguments e.object.inboundData) e.outcomes
    rw [returned] at kept taken
    have latest : ∀ e', some e = some e' → addressOf e' =
        some (start c (arguments e.object.inboundData) e.outcomes).1.gProxyAddress := by
      intro e' same
      obtain rfl := Option.some_inj.mp same
      rw [redirects, parsed]
    rcases Nat.mod_two_eq_zero_or_one s.streak with even | odd
    · obtain ⟨succeeded, running⟩ := start_stopped ok (follows.stopped even)
      refine ⟨fun even' => ?_, fun _ => running, ?_, latest, ?_⟩
      · simp only at even'
        omega
      · rw [filtering, result, succeeded, ok.driver]
        simp
      · rw [if_pos even]
        intro e' same
        obtain rfl := Option.some_inj.mp same
        exact ⟨address, parsed, taken succeeded⟩
    · obtain ⟨failed, stopped⟩ := start_running ok (follows.running odd)
      refine ⟨fun _ => stopped, fun odd' => ?_, ?_, latest, ?_⟩
      · simp only at odd'
        omega
      · have before : c.filtering = true := follows.filtering.mpr (by omega)
        rw [filtering, before]
        simp
      · rw [if_neg (by omega)]
        intro e' same
        obtain ⟨address', parsed', proxies⟩ := follows.proxies e' same
        refine ⟨address', parsed', ?_⟩
        rw [Proxies, kept failed]
        exact proxies

end Steps

section Runs

/-- However the events come, the service runs after an odd number of connections that came up
since the last one went down, and the driver filters after any; TCP connections are redirected
to the address of the connection that came up last, and the UDP client has that of the last
one that came up while no other was left. -/
theorem follows_run {evs : List Event}
    (succeeds : ∀ e ∈ evs, e.object.type = .connected → Succeeds e) :
    Follows (story evs) (run evs) := by
  induction evs using List.reverseRecOn with
  | nil => exact .initial
  | append_singleton evs e ih =>
    have before := ih fun e' present => succeeds e' (List.mem_append_left _ present)
    rw [story_concat, run_concat]
    exact follows_step before (succeeds e (by simp))

/-- A SOCKS inbound at this port comes up. -/
def comesUp (port : Int) : Event :=
  ⟨⟨.connected, [⟨"http", "127.0.0.1", 8889⟩, ⟨"socks", "127.0.0.1", port⟩]⟩, succeeding⟩

theorem comesUp_succeeds (port : Int) : Succeeds (comesUp port) := ⟨rfl, rfl, rfl, rfl⟩

/-- A second connection without the first one going down leaves no service, but a filter. -/
theorem second_connection_stops :
    (run [comesUp 1088, comesUp 1089]).service = .uninitialised ∧
      (run [comesUp 1088, comesUp 1089]).filtering = true := by
  have follows : Follows (story [comesUp 1088, comesUp 1089])
      (run [comesUp 1088, comesUp 1089]) := by
    apply follows_run
    intro e present _
    rcases List.mem_pair.mp present with rfl | rfl
    · exact comesUp_succeeds 1088
    · exact comesUp_succeeds 1089
  exact ⟨follows.stopped rfl, follows.filtering.mpr (by decide)⟩

end Runs

end PluginEvents
