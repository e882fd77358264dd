import QvNetfilter.Chronicle
import QvNetfilter.ServiceStart

/-!
# The completion port and its worker thread

`IOCPService` as two threads. One calls `init` and `free`, the other runs `workerThread`;
completions arrive at any time. The stop event resets itself when the worker has seen it,
and `free` waits for the thread before it closes the port.
-/

namespace CompletionPort

open Mealy Chronicle
open ServiceStart hiding Event step machine run run_concat

universe u

section Model

/-- Where the thread is that calls `init` and `free`. -/
inductive Caller where
  | idle
  /-- `_beginthreadex` has returned, and `Attach` comes next. -/
  | starting (o : Outcomes)
  /-- `SetEvent` has returned. -/
  | waiting
  /-- The thread has ended, and its handle is closed. -/
  | closing

/-- Where the worker thread is. -/
inductive Worker (α : Type u) where
  | absent
  | polling
  | handling (c : α)
  | checking
  | ended
  /-- `onComplete` was called although no completion was taken. -/
  | astray
deriving DecidableEq

variable {α : Type u}

namespace Worker

def inHand : Worker α → Option α
  | handling c => some c
  | _ => none

def live : Worker α → Bool
  | polling | handling _ | checking => true
  | _ => false

end Worker

structure State (α : Type u) where
  hIocp : Handle
  workerThread : Handle
  stopEvent : Bool
  /-- The completions that the port holds. -/
  queue : List α
  worker : Worker α
  caller : Caller

namespace State

def initial : State α where
  hIocp := .invalidHandleValue
  workerThread := .invalidHandleValue
  stopEvent := false
  queue := []
  worker := .absent
  caller := .idle

def service (s : State α) : IocpService := ⟨s.hIocp, s.workerThread⟩

end State

inductive Event (α : Type u) where
  | init (o : Outcomes)
  | attach
  | free
  | joins
  | closes
  | arrives (c : α)
  | takes
  | timesOut
  | returns
  | checks

inductive Output (α : Type u) where
  | started
  | initReturned (o : Outcomes) (result : Bool)
  | freeReturned
  | queued (c : α)
  | lost (cs : List α)
  | onComplete (c : α)
  | completed (c : α)
  | failed

def init (s : State α) (o : Outcomes) : State α × List (Output α) :=
  if s.hIocp ≠ .invalidHandleValue then (s, [.initReturned o false])
  else
    let s := { s with hIocp := o.createIoCompletionPort }
    if s.hIocp = .invalidHandleValue then (s, [.initReturned o false])
    else
      let s := { s with stopEvent := false }
      if o.beginThreadEx ≠ .null then
        ({ s with worker := .polling, caller := .starting o }, [.started])
      else (s, [.initReturned o true])

/-- `free` up to `WaitForSingleObject` -/
def free (s : State α) : State α × List (Output α) :=
  if s.workerThread = .invalidHandleValue then (s, [.freeReturned])
  else ({ s with stopEvent := true, caller := .waiting }, [])

/-- `free` behind the wait; what the port still holds is lost with it. -/
def closePort (s : State α) : State α × List (Output α) :=
  if s.hIocp ≠ .invalidHandleValue then
    ({ s with hIocp := .invalidHandleValue, queue := [], caller := .idle },
      [.lost s.queue, .freeReturned])
  else ({ s with caller := .idle }, [.freeReturned])

/-- `GetQueuedCompletionStatus` returns a completion, or fails on a handle that is no port. -/
def take (s : State α) : State α × List (Output α) :=
  if s.hIocp.isOpen then
    match s.queue with
    | [] => (s, [])
    | c :: queue => ({ s with queue := queue, worker := .handling c }, [.onComplete c])
  else ({ s with worker := .astray }, [.failed])

/-- An event whose thread is elsewhere does nothing. -/
def step (s : State α) : Event α → State α × List (Output α)
  | .init o =>
    match s.caller with
    | .idle => init s o
    | _ => (s, [])
  | .attach =>
    match s.caller with
    | .starting o =>
      ({ s with workerThread := o.beginThreadEx, caller := .idle }, [.initReturned o true])
    | _ => (s, [])
  | .free =>
    match s.caller with
    | .idle => free s
    | _ => (s, [])
  | .joins =>
    match s.caller, s.worker with
    | .waiting, .ended =>
      ({ s with workerThread := .invalidHandleValue, worker := .absent, caller := .closing }, [])
    | _, _ => (s, [])
  | .closes =>
    match s.caller with
    | .closing => closePort s
    | _ => (s, [])
  | .arrives c =>
    if s.hIocp.isOpen then ({ s with queue := s.queue ++ [c] }, [.queued c]) else (s, [])
  | .takes =>
    match s.worker with
    | .polling => take s
    | _ => (s, [])
  | .timesOut =>
    match s.worker with
    | .polling =>
      if s.hIocp.isOpen && s.queue.isEmpty then ({ s with worker := .checking }, []) else (s, [])
    | _ => (s, [])
  | .returns =>
    match s.worker with
    | .handling c => ({ s with worker := .checking }, [.completed c])
    | _ => (s, [])
  | .checks =>
    match s.worker with
    | .checking =>
      if s.stopEvent then ({ s with stopEvent := false, worker := .ended }, [])
      else ({ s with worker := .polling }, [])
    | _ => (s, [])

def machine : Machine (State α) (Event α) (Output α) where
  step := step

def run (evs : List (Event α)) : State α := machine.run State.initial evs

def outputs (evs : List (Event α)) : List (Output α) := machine.outputs State.initial evs

end Model

section Moves
variable {α : Type u} {s s' : State α} {e : Event α} {outs : List (Output α)}

/-- Everything that an event can do. -/
inductive Move (s : State α) : Event α → State α → List (Output α) → Prop where
  | still (e : Event α) : Move s e s []
  | initFails (o : Outcomes) (idle : s.caller = .idle)
      (reason : s.hIocp = .invalidHandleValue → o.createIoCompletionPort = .invalidHandleValue) :
      Move s (.init o) s [.initReturned o false]
  | withoutThread (o : Outcomes) (idle : s.caller = .idle)
      (closed : s.hIocp = .invalidHandleValue)
      (port : o.createIoCompletionPort ≠ .invalidHandleValue) (none : o.beginThreadEx = .null) :
      Move s (.init o) { s with hIocp := o.createIoCompletionPort, stopEvent := false }
        [.initReturned o true]
  | starts (o : Outcomes) (idle : s.caller = .idle) (closed : s.hIocp = .invalidHandleValue)
      (port : o.createIoCompletionPort ≠ .invalidHandleValue)
      (thread : o.beginThreadEx ≠ .null) : Move s (.init o) { s with
        hIocp := o.createIoCompletionPort
        stopEvent := false
        worker := .polling
        caller := .starting o } [.started]
  | attaches {o : Outcomes} (starting : s.caller = .starting o) :
      Move s .attach { s with workerThread := o.beginThreadEx, caller := .idle }
        [.initReturned o true]
  | freesNothing (idle : s.caller = .idle) (none : s.workerThread = .invalidHandleValue) :
      Move s .free s [.freeReturned]
  | signals (idle : s.caller = .idle) (thread : s.workerThread ≠ .invalidHandleValue) :
      Move s .free { s with stopEvent := true, caller := .waiting } []
  | joins (waiting : s.caller = .waiting) (ended : s.worker = .ended) :
      Move s .joins { s with
        workerThread := .invalidHandleValue
        worker := .absent
        caller := .closing } []
  | closes (closing : s.caller = .closing) (port : s.hIocp ≠ .invalidHandleValue) :
      Move s .closes { s with hIocp := .invalidHandleValue, queue := [], caller := .idle }
        [.lost s.queue, .freeReturned]
  | closesNothing (closing : s.caller = .closing) (closed : s.hIocp = .invalidHandleValue) :
      Move s .closes { s with caller := .idle } [.freeReturned]
  | arrives (c : α) (port : s.hIocp.isOpen = true) :
      Move s (.arrives c) { s with queue := s.queue ++ [c] } [.queued c]
  | takes {c : α} {queue : List α} (polling : s.worker = .polling)
      (port : s.hIocp.isOpen = true) (first : s.queue = c :: queue) :
      Move s .takes { s with queue := queue, worker := .handling c } [.onComplete c]
  | strays (polling : s.worker = .polling) (closed : s.hIocp.isOpen = false) :
      Move s .takes { s with worker := .astray } [.failed]
  | timesOut (polling : s.worker = .polling) (port : s.hIocp.isOpen = true)
      (empty : s.queue = []) : Move s .timesOut { s with worker := .checking } []
  | returns {c : α} (handling : s.worker = .handling c) :
      Move s .returns { s with worker := .checking } [.completed c]
  | ends (checking : s.worker = .checking) (signalled : s.stopEvent = true) :
      Move s .checks { s with stopEvent := false, worker := .ended } []
  | goesOn (checking : s.worker = .checking) (quiet : s.stopEvent = false) :
      Move s .checks { s with worker := .polling } []

theorem move_init (idle : s.caller = .idle) (o : Outcomes) :
    Move s (.init o) (init s o).1 (init s o).2 := by
  simp only [init]
  by_cases closed : s.hIocp = .invalidHandleValue
  · rw [if_neg (not_not.mpr closed)]
    by_cases port : o.createIoCompletionPort = .invalidHandleValue
    · have same : { s with hIocp := o.createIoCompletionPort } = s := by
        rw [port, ← closed]
      simp only [port, if_true]
      rw [← port, same]
      exact .initFails o idle fun _ => port
    · simp only [port, if_false]
      by_cases thread : o.beginThreadEx = .null
      · rw [if_neg (not_not.mpr thread)]
        exact .withoutThread o idle closed port thread
      · rw [if_pos thread]
        exact .starts o idle closed port thread
  · rw [if_pos closed]
    exact .initFails o idle fun closed' => absurd closed' closed

theorem move_step (s : State α) (e : Event α) : Move s e (step s e).1 (step s e).2 := by
  cases e with
  | init o =>
    cases idle : s.caller with
    | idle =>
      simp only [step, idle]
      exact move_init idle o
    | starting | waiting | closing =>
      simp only [step, idle]
      exact .still _
  | attach =>
    cases there : s.caller with
    | starting o =>
      simp only [step, there]
      exact .attaches there
    | idle | waiting | closing =>
      simp only [step, there]
      exact .still _
  | free =>
    cases idle : s.caller with
    | idle =>
      simp only [step, idle, free]
      split
      · rename_i none
        exact .freesNothing idle none
      · rename_i thread
        exact .signals idle thread
    | starting | waiting | closing =>
      simp only [step, idle]
      exact .still _
  | joins =>
    cases waiting : s.caller with
    | waiting =>
      cases ended : s.worker with
      | ended =>
        simp only [step, waiting, ended]
        exact .joins waiting ended
      | _ =>
        simp only [step, waiting, ended]
        exact .still _
    | idle | starting | closing =>
      simp only [step, waiting]
      exact .still _
  | closes =>
    cases closing : s.caller with
    | closing =>
      simp only [step, closing, closePort]
      split
      · rename_i port
        exact .closes closing port
      · rename_i closed
        exact .closesNothing closing (not_not.mp closed)
    | idle | starting | waiting =>
      simp only [step, closing]
      exact .still _
  | arrives c =>
    simp only [step]
    split
    · rename_i port
      exact .arrives c port
    · exact .still _
  | takes =>
    cases polling : s.worker with
    | polling =>
      simp only [step, polling, take]
      split
      · rename_i port
        cases first : s.queue with
        | nil => exact .still _
        | cons c queue => exact .takes polling port first
      · rename_i closed
        exact .strays polling (Bool.eq_false_iff.mpr closed)
    | _ =>
      simp only [step, polling]
      exact .still _
  | timesOut =>
    cases polling : s.worker with
    | polling =>
      simp only [step, polling]
      split
      · rename_i waited
        rw [Bool.and_eq_true, List.isEmpty_iff] at waited
        exact .timesOut polling waited.1 waited.2
      · exact .still _
    | _ =>
      simp only [step, polling]
      exact .still _
  | returns =>
    cases handling : s.worker with
    | handling c =>
      simp only [step, handling]
      exact .returns handling
    | _ =>
      simp only [step, handling]
      exact .still _
  | checks =>
    cases checking : s.worker with
    | checking =>
      simp only [step, checking]
      split
      · rename_i signalled
        exact .ends checking signalled
      · rename_i quiet
        exact .goesOn checking (Bool.eq_false_iff.mpr quiet)
    | _ =>
      simp only [step, checking]
      exact .still _

/-- What every move keeps holds after every run, together with what the run has put out. -/
theorem run_induction {I : State α → List (Output α) → Prop} {permitted : Event α → Prop}
    (initial : I State.initial [])
    (keeps : ∀ {s log e s' outs}, I s log → permitted e → Move s e s' outs →
      I s' (log ++ outs))
    {evs : List (Event α)} (allowed : ∀ e ∈ evs, permitted e) : I (run evs) (outputs evs) := by
  induction evs using List.reverseRecOn with
  | nil => exact initial
  | append_singleton evs e ih =>
    have before := ih fun e' present => allowed e' (List.mem_append_left _ present)
    have one : run (evs ++ [e]) = (step (run evs) e).1 := machine.run_append _ evs [e]
    have more : outputs (evs ++ [e]) = outputs evs ++ (step (run evs) e).2 :=
      machine.outputs_concat _ evs e
    rw [one, more]
    exact keeps before (allowed e (by simp)) (move_step (run evs) e)

end Moves

section Safety
variable {α : Type u} {s s' : State α} {e : Event α} {outs log : List (Output α)}

/-- `CreateIoCompletionPort` returns a port or the value that `init` asks for, never `NULL`,
which `init` would take for a port, and `_beginthreadex` a thread or zero. -/
def Granted : Event α → Prop
  | .init o => o.createIoCompletionPort ≠ .null ∧ o.beginThreadEx ≠ .invalidHandleValue
  | _ => True

instance (e : Event α) : Decidable (Granted e) :=
  match e with
  | .init o => inferInstanceAs (Decidable
      (o.createIoCompletionPort ≠ .null ∧ o.beginThreadEx ≠ .invalidHandleValue))
  | .attach | .free | .joins | .closes | .arrives _ | .takes | .timesOut | .returns | .checks =>
    isTrue trivial

/-- Where the two threads can be at the same time. -/
inductive Sound (s : State α) : Prop where
  | stopped (idle : s.caller = .idle) (absent : s.worker = .absent)
      (none : s.workerThread = .invalidHandleValue)
  | starting {o : Outcomes} (starting : s.caller = .starting o) (live : s.worker.live = true)
      (port : s.hIocp.isOpen = true) (thread : o.beginThreadEx ≠ .invalidHandleValue)
      (quiet : s.stopEvent = false)
  | running (idle : s.caller = .idle) (live : s.worker.live = true)
      (port : s.hIocp.isOpen = true) (thread : s.workerThread ≠ .invalidHandleValue)
      (quiet : s.stopEvent = false)
  | stopping (waiting : s.caller = .waiting) (live : s.worker.live = true)
      (port : s.hIocp.isOpen = true) (signalled : s.stopEvent = true)
  | ended (waiting : s.caller = .waiting) (ended : s.worker = .ended)
  | closing (closing : s.caller = .closing) (absent : s.worker = .absent)
      (none : s.workerThread = .invalidHandleValue)

theorem Sound.initial : Sound (State.initial : State α) := .stopped rfl rfl rfl

theorem isOpen_of_ne {h : Handle} (valid : h ≠ .invalidHandleValue) (present : h ≠ .null) :
    h.isOpen = true := by
  cases h with
  | handle n => rfl
  | invalidHandleValue => exact absurd rfl valid
  | null => exact absurd rfl present

/-- A worker that is at work has its port. -/
theorem Sound.port (sound : Sound s) (live : s.worker.live = true) : s.hIocp.isOpen = true := by
  cases sound with
  | starting _ _ port | running _ _ port | stopping _ _ port => exact port
  | stopped _ absent | closing _ absent =>
    rw [absent] at live
    cases live
  | ended _ ended =>
    rw [ended] at live
    cases live

/-- A worker stays at work from one place to the next. -/
theorem Sound.turn (sound : Sound s) (live : s.worker.live = true) (queue : List α)
    {w : Worker α} (live' : w.live = true) : Sound { s with queue := queue, worker := w } := by
  cases sound with
  | starting there _ port thread quiet => exact .starting there live' port thread quiet
  | running idle _ port thread quiet => exact .running idle live' port thread quiet
  | stopping waiting _ port signalled => exact .stopping waiting live' port signalled
  | stopped _ absent | closing _ absent =>
    rw [absent] at live
    cases live
  | ended _ ended =>
    rw [ended] at live
    cases live

theorem Sound.queue (sound : Sound s) (queue : List α) : Sound { s with queue := queue } := by
  cases sound with
  | stopped idle absent none => exact .stopped idle absent none
  | starting there live port thread quiet => exact .starting there live port thread quiet
  | running idle live port thread quiet => exact .running idle live port thread quiet
  | stopping waiting live port signalled => exact .stopping waiting live port signalled
  | ended waiting ended => exact .ended waiting ended
  | closing there absent none => exact .closing there absent none

/-- Between the calls there is no worker without a port or without a thread handle. -/
theorem Sound.absent (sound : Sound s) (idle : s.caller = .idle)
    (gone : s.hIocp = .invalidHandleValue ∨ s.workerThread = .invalidHandleValue) :
    s.worker = .absent ∧ s.workerThread = .invalidHandleValue := by
  cases sound with
  | stopped _ absent none => exact ⟨absent, none⟩
  | running _ _ port thread =>
    rcases gone with closed | none
    · rw [closed] at port
      cases port
    · exact absurd none thread
  | starting there | stopping there | ended there | closing there =>
    rw [idle] at there
    cases there

theorem Sound.absent_closing (sound : Sound s) (closing : s.caller = .closing) :
    s.worker = .absent ∧ s.workerThread = .invalidHandleValue := by
  cases sound with
  | closing _ absent none => exact ⟨absent, none⟩
  | stopped there | starting there | running there | stopping there | ended there =>
    rw [closing] at there
    cases there

theorem sound_move (sound : Sound s) (granted : Granted e) (move : Move s e s' outs) :
    Sound s' := by
  cases move with
  | still | initFails | freesNothing => exact sound
  | withoutThread o idle closed =>
    obtain ⟨absent, none⟩ := sound.absent idle (.inl closed)
    exact .stopped idle absent none
  | starts o idle closed port thread =>
    exact .starting rfl rfl (isOpen_of_ne port granted.1) granted.2 rfl
  | attaches there =>
    cases sound with
    | starting there' live port thread quiet =>
      rw [there] at there'
      cases there'
      exact .running rfl live port thread quiet
    | stopped there' | running there' | stopping there' | ended there' | closing there' =>
      rw [there] at there'
      cases there'
  | signals idle thread =>
    cases sound with
    | running _ live port _ _ => exact .stopping rfl live port rfl
    | stopped _ _ none => exact absurd none thread
    | starting there | stopping there | ended there | closing there =>
      rw [idle] at there
      cases there
  | joins => exact .closing rfl rfl rfl
  | closes there | closesNothing there =>
    obtain ⟨absent, none⟩ := sound.absent_closing there
    exact .stopped rfl absent none
  | arrives c => exact sound.queue _
  | takes polling => exact sound.turn (by rw [polling]; rfl) _ rfl
  | strays polling closed =>
    have port := sound.port (by rw [polling]; rfl)
    rw [closed] at port
    cases port
  | timesOut polling => exact sound.turn (by rw [polling]; rfl) _ rfl
  | returns handling => exact sound.turn (by rw [handling]; rfl) _ rfl
  | goesOn checking => exact sound.turn (by rw [checking]; rfl) _ rfl
  | ends checking signalled =>
    cases sound with
    | stopping waiting => exact .ended waiting rfl
    | ended waiting => exact .ended waiting rfl
    | starting _ _ _ _ quiet | running _ _ _ _ quiet =>
      rw [signalled] at quiet
      cases quiet
    | stopped _ absent | closing _ absent =>
      rw [checking] at absent
      cases absent

/-- What the outputs say: whether a worker may be at work, and what it handles. -/
def note (p : Bool × Option α) : Output α → Bool × Option α
  | .started => (true, none)
  | .freeReturned => (false, p.2)
  | .onComplete c => (p.1, some c)
  | .completed _ => (p.1, none)
  | _ => p

def status (log : List (Output α)) : Bool × Option α := log.foldl note (false, none)

theorem status_concat (log : List (Output α)) (o : Output α) :
    status (log ++ [o]) = note (status log) o := List.foldl_concat ..

/-- Callbacks come one after the other, behind a start and before `free` returns. -/
def Attended (front : List (Output α)) : Output α → Prop
  | .onComplete _ => status front = (true, none)
  | .completed c => status front = (true, some c)
  | .freeReturned => (status front).2 = none
  | .failed => False
  | _ => True

/-- The outputs know what the worker does. -/
structure Attending (s : State α) (log : List (Output α)) : Prop where
  sound : Sound s
  attended : Preceded Attended log
  hand : (status log).2 = s.worker.inHand
  running : s.worker.live = true → (status log).1 = true

theorem Attending.status (attending : Attending s log) (live : s.worker.live = true) :
    status log = (true, s.worker.inHand) :=
  Prod.ext (attending.running live) attending.hand

/-- `free` returns when there is no worker. -/
theorem Attending.freed (attending : Attending s log) (absent : s.worker = .absent)
    (sound : Sound s') (absent' : s'.worker = .absent) :
    Attending s' (log ++ [.freeReturned]) := by
  have hand : (CompletionPort.status log).2 = none := by
    rw [attending.hand, absent]
    rfl
  refine ⟨sound, attending.attended.concat hand, ?_, fun live => ?_⟩
  · rw [status_concat, absent']
    exact hand
  · rw [absent'] at live
    cases live

/-- A worker at work has begun, and no `free` has returned since. -/
theorem attending_move (attending : Attending s log) (granted : Granted e)
    (move : Move s e s' outs) : Attending s' (log ++ outs) := by
  have sound := sound_move attending.sound granted move
  have plain : ∀ {o : Output α}, Attended log o → note (CompletionPort.status log) o =
      CompletionPort.status log → s'.worker = s.worker → Attending s' (log ++ [o]) := by
    intro o attended same worker
    refine ⟨sound, attending.attended.concat attended, ?_, fun live => ?_⟩
    · rw [status_concat, same, worker]
      exact attending.hand
    · rw [status_concat, same]
      exact attending.running (worker ▸ live)
  have silent : s'.worker.inHand = s.worker.inHand →
      (s'.worker.live = true → s.worker.live = true) → Attending s' (log ++ []) := by
    intro hand live
    rw [List.append_nil]
    exact ⟨sound, attending.attended, attending.hand.trans hand.symm,
      fun live' => attending.running (live live')⟩
  cases move with
  | still | signals => exact silent rfl id
  | initFails | withoutThread | attaches | arrives => exact plain trivial rfl rfl
  | starts o idle closed port thread =>
    refine ⟨sound, attending.attended.concat trivial, ?_, fun _ => ?_⟩
    · rw [status_concat]
      rfl
    · rw [status_concat]
      rfl
  | freesNothing idle none =>
    obtain ⟨absent, _⟩ := attending.sound.absent idle (.inr none)
    exact attending.freed absent sound absent
  | joins waiting ended =>
    apply silent
    · rw [ended]
      rfl
    · intro live
      cases live
  | closes closing port =>
    obtain ⟨absent, none⟩ := attending.sound.absent_closing closing
    have lost : Attending s (log ++ [.lost s.queue]) := by
      refine ⟨attending.sound, attending.attended.concat trivial, ?_, ?_⟩
      · rw [status_concat]
        exact attending.hand
      · rw [status_concat]
        exact attending.running
    have freed := lost.freed absent sound absent
    rwa [List.append_assoc] at freed
  | closesNothing closing closed =>
    obtain ⟨absent, none⟩ := attending.sound.absent_closing closing
    exact attending.freed absent sound absent
  | takes polling port first =>
    have before := attending.status (by rw [polling]; rfl)
    rw [polling] at before
    refine ⟨sound, attending.attended.concat before, ?_, fun _ => ?_⟩
    · rw [status_concat]
      rfl
    · rw [status_concat, before]
      rfl
  | strays polling closed =>
    have port := attending.sound.port (by rw [polling]; rfl)
    rw [closed] at port
    cases port
  | timesOut polling | goesOn polling =>
    apply silent
    · rw [polling]
      rfl
    · intro _
      rw [polling]
      rfl
  | returns handling =>
    have before := attending.status (by rw [handling]; rfl)
    rw [handling] at before
    refine ⟨sound, attending.attended.concat before, ?_, fun _ => ?_⟩
    · rw [status_concat]
      rfl
    · rw [status_concat, before]
      rfl
  | ends checking signalled =>
    apply silent
    · rw [checking]
      rfl
    · intro live
      cases live

theorem attending_run {evs : List (Event α)} (granted : ∀ e ∈ evs, Granted e) :
    Attending (run evs) (outputs evs) := by
  refine @run_induction α Attending Granted ?_ attending_move evs granted
  refine ⟨.initial, .nil _, rfl, fun live => ?_⟩
  cases live

/-- In every interleaving the callbacks come one after the other, each with a completion
that the port gave out, only behind a start and never when `free` has returned. -/
theorem callbacks_attended {evs : List (Event α)} (granted : ∀ e ∈ evs, Granted e) :
    Preceded Attended (outputs evs) := (attending_run granted).attended

/-- A completion is handled while `free` already waits. -/
def stoppedRun : List (Event Nat) :=
  [.init succeeding, .attach, .arrives 5, .takes, .free, .returns, .checks, .joins, .closes]

theorem stopped_attended : Preceded Attended (outputs stoppedRun) :=
  callbacks_attended (by decide)

end Safety

section Refinement
variable {α : Type u} {s s' : State α} {e : Event α} {outs log : List (Output α)}

/-- A call as one step, when it returns. -/
def call (service : IocpService) : Output α → IocpService
  | .initReturned o _ => (service.init o).1
  | .freeReturned => service.free
  | _ => service

/-- The service when every call is one step, after the calls that have returned. -/
def atomic (log : List (Output α)) : IocpService := log.foldl call .uninitialised

/-- A call returns what it would as one step. -/
def Agrees (front : List (Output α)) : Output α → Prop
  | .initReturned o result => result = ((atomic front).init o).2
  | _ => True

theorem atomic_concat (log : List (Output α)) (o : Output α) :
    atomic (log ++ [o]) = call (atomic log) o := List.foldl_concat ..

/-- The two threads together are where the atomic service is, or a call is on its way. -/
structure Refines (s : State α) (log : List (Output α)) : Prop where
  agrees : Preceded Agrees log
  idle : s.caller = .idle → s.service = atomic log
  starting : ∀ o, s.caller = .starting o → (atomic log).hIocp = .invalidHandleValue ∧
    (atomic log).workerThread = s.workerThread ∧ s.hIocp = o.createIoCompletionPort ∧
    o.createIoCompletionPort ≠ .invalidHandleValue ∧ o.beginThreadEx ≠ .null
  waiting : s.caller = .waiting → s.service = atomic log ∧
    s.workerThread ≠ .invalidHandleValue
  closing : s.caller = .closing → (atomic log).hIocp = s.hIocp ∧
    (atomic log).workerThread ≠ .invalidHandleValue ∧ s.workerThread = .invalidHandleValue

theorem init_fails {service : IocpService} {o : Outcomes}
    (reason : service.hIocp = .invalidHandleValue →
      o.createIoCompletionPort = .invalidHandleValue) : service.init o = (service, false) := by
  obtain ⟨hIocp, workerThread⟩ := service
  by_cases closed : hIocp = .invalidHandleValue
  · subst closed
    simp [IocpService.init, reason rfl]
  · simp [IocpService.init, closed]

theorem init_opens {service : IocpService} {o : Outcomes}
    (closed : service.hIocp = .invalidHandleValue)
    (port : o.createIoCompletionPort ≠ .invalidHandleValue) :
    service.init o = (service.opened o, true) := by
  simp only [IocpService.init, IocpService.opened, closed, port, not_true, ne_eq, if_false]
  split
  · rfl
  · rfl

/-- With a thread handle `free` closes whatever there is. -/
theorem free_closes {service : IocpService} (thread : service.workerThread ≠ .invalidHandleValue) :
    service.free = .uninitialised := by
  simp only [IocpService.free, if_neg thread]
  split
  · rfl
  · rename_i closed
    rw [not_not.mp closed]
    rfl

/-- An output that is no return of a call, at a step that the caller takes no part in. -/
theorem Refines.plain (refines : Refines s log) (quiet : ∀ o ∈ outs, Agrees log o ∧
      atomic (log ++ [o]) = atomic log) (one : outs.length ≤ 1) (caller : s'.caller = s.caller)
    (service : s'.service = s.service) : Refines s' (log ++ outs) := by
  have same : atomic (log ++ outs) = atomic log ∧ Preceded Agrees (log ++ outs) := by
    match outs, one with
    | [], _ =>
      rw [List.append_nil]
      exact ⟨rfl, refines.agrees⟩
    | [o], _ =>
      obtain ⟨agrees, atomic⟩ := quiet o List.mem_cons_self
      exact ⟨atomic, refines.agrees.concat agrees⟩
  obtain ⟨hIocp, workerThread⟩ := IocpService.mk.inj service
  refine ⟨same.2, ?_, ?_, ?_, ?_⟩
  · rw [caller, service, same.1]
    exact refines.idle
  · rw [caller, hIocp, workerThread, same.1]
    exact refines.starting
  · rw [caller, service, workerThread, same.1]
    exact refines.waiting
  · rw [caller, hIocp, workerThread, same.1]
    exact refines.closing

/-- A call that returns leaves the caller idle, with the service of the atomic call. -/
theorem Refines.returned (refines : Refines s log) {o : Output α} (agrees : Agrees log o)
    (idle : s'.caller = .idle) (service : s'.service = atomic (log ++ [o])) :
    Refines s' (log ++ [o]) := by
  refine ⟨refines.agrees.concat agrees, fun _ => service, ?_, ?_, ?_⟩
  · intro o there
    rw [idle] at there
    cases there
  · intro there
    rw [idle] at there
    cases there
  · intro there
    rw [idle] at there
    cases there

theorem refines_move (move : Move s e s' outs) (refines : Refines s log) :
    Refines s' (log ++ outs) := by
  have silent : ∀ {s' : State α}, s'.caller = s.caller → s'.service = s.service →
      Refines s' (log ++ []) := fun caller service =>
    refines.plain (by simp) (Nat.zero_le 1) caller service
  have plain : ∀ {s' : State α} {o : Output α}, Agrees log o → call (atomic log) o = atomic log →
      s'.caller = s.caller → s'.service = s.service → Refines s' (log ++ [o]) := by
    intro s' o agrees same caller service
    refine refines.plain (fun o' member => ?_) (by simp) caller service
    obtain rfl := List.mem_singleton.mp member
    exact ⟨agrees, (atomic_concat ..).trans same⟩
  cases move with
  | still | timesOut | ends | goesOn => exact silent rfl rfl
  | arrives | takes | strays | returns => exact plain trivial rfl rfl rfl
  | initFails o idle reason =>
    have fails : (atomic log).init o = (atomic log, false) := by
      rw [← refines.idle idle]
      exact init_fails reason
    apply plain _ _ rfl rfl
    · rw [Agrees, fails]
    · rw [call, fails]
  | withoutThread o idle closed port none =>
    have same := refines.idle idle
    have opens : (atomic log).init o = ((atomic log).opened o, true) := by
      rw [← same]
      exact init_opens closed port
    have agrees : Agrees log (.initReturned o true) := by rw [Agrees, opens]
    refine refines.returned agrees idle ?_
    rw [atomic_concat, call, opens, ← same]
    simp [State.service, IocpService.opened, none]
  | starts o idle closed port thread =>
    have same := refines.idle idle
    have still : atomic (log ++ [.started]) = atomic log := atomic_concat ..
    refine ⟨refines.agrees.concat trivial, by simp, ?_, by simp, by simp⟩
    intro o' there
    cases there
    rw [still, ← same]
    exact ⟨closed, rfl, rfl, port, thread⟩
  | @attaches o there =>
    obtain ⟨closed, thread, hIocp, port, present⟩ := refines.starting o there
    have opens := init_opens closed port
    have agrees : Agrees log (.initReturned o true) := by rw [Agrees, opens]
    refine refines.returned agrees rfl ?_
    rw [atomic_concat, call, opens]
    simp [State.service, IocpService.opened, present, hIocp]
  | freesNothing idle none =>
    have same := refines.idle idle
    have agrees : Agrees log .freeReturned := trivial
    refine plain agrees ?_ rfl rfl
    rw [call, ← same]
    exact if_pos none
  | signals idle thread =>
    have same := refines.idle idle
    rw [List.append_nil]
    exact ⟨refines.agrees, by simp, by simp, fun _ => ⟨same, thread⟩, by simp⟩
  | joins waiting ended =>
    obtain ⟨same, thread⟩ := refines.waiting waiting
    rw [List.append_nil]
    refine ⟨refines.agrees, by simp, by simp, by simp, fun _ => ?_⟩
    rw [← same]
    exact ⟨rfl, thread, rfl⟩
  | closes closing port =>
    obtain ⟨hIocp, thread, none⟩ := refines.closing closing
    have lost : Refines s (log ++ [.lost s.queue]) := plain trivial rfl rfl rfl
    have freed : (atomic (log ++ [.lost s.queue])).free = .uninitialised := by
      rw [atomic_concat]
      exact free_closes thread
    have returned : Refines { s with
        hIocp := .invalidHandleValue, queue := [], caller := .idle }
        (log ++ [.lost s.queue] ++ [.freeReturned]) := by
      refine lost.returned trivial rfl ?_
      rw [atomic_concat, call, freed]
      simp [State.service, IocpService.uninitialised, none]
    rwa [List.append_assoc] at returned
  | closesNothing closing closed =>
    obtain ⟨hIocp, thread, none⟩ := refines.closing closing
    have agrees : Agrees log .freeReturned := trivial
    refine refines.returned agrees rfl ?_
    rw [atomic_concat, call, free_closes thread]
    simp [State.service, IocpService.uninitialised, none, closed]

/-- However the two threads interleave, every call returns what it would as one step, and
between the calls the handles are those that the atomic calls leave. -/
theorem refines_service (evs : List (Event α)) :
    Preceded Agrees (outputs evs) ∧
      ((run evs).caller = .idle → (run evs).service = atomic (outputs evs)) := by
  have refines := @run_induction α Refines (fun _ => True)
    ⟨.nil _, fun _ => rfl, nofun, nofun, nofun⟩ (fun before _ move => refines_move move before)
    evs fun _ _ => trivial
  exact ⟨refines.agrees, refines.idle⟩

end Refinement

end CompletionPort
