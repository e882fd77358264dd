import QvNetfilter.CompletionPort
import QvNetfilter.Progress

/-!
# Stopping the worker thread

`free` waits for the worker thread without a limit. Under a fair schedule of the two threads
it returns.
-/

namespace CompletionPort

open Mealy Chronicle Progress
open ServiceStart hiding Event step machine run run_concat

universe u

section Shutdown
variable {α : Type u} {s s' : State α} {e : Event α} {outs : List (Output α)}

def handled (log : List (Output α)) : List α :=
  log.filterMap fun o => match o with
    | .onComplete c => some c
    | _ => none

/-- While `free` waits, only the worker goes from one place to the next. -/
inductive Turn (s s' : State α) (outs : List (Output α)) : Prop where
  | stays (worker : s'.worker = s.worker) (signal : s'.stopEvent = s.stopEvent)
      (caller : s'.caller = s.caller) (silent : handled outs = [])
      (more : s.queue ≠ [] → s'.queue ≠ [])
  | takes {c : α} (polling : s.worker = .polling) (handling : s'.worker = .handling c)
      (signal : s'.stopEvent = s.stopEvent) (caller : s'.caller = s.caller)
      (one : handled outs = [c])
  | checks (other : s.worker ≠ .checking) (checking : s'.worker = .checking)
      (signal : s'.stopEvent = s.stopEvent) (caller : s'.caller = s.caller)
      (silent : handled outs = [])
  | ends (checking : s.worker = .checking) (ended : s'.worker = .ended)
      (caller : s'.caller = s.caller) (silent : handled outs = [])

theorem turn_move (move : Move s e s' outs) (waiting : s.caller = .waiting)
    (signalled : s.stopEvent = true) (live : s.worker.live = true) (port : s.hIocp.isOpen = true) :
    Turn s s' outs := by
  cases move with
  | still => exact .stays rfl rfl rfl rfl id
  | initFails _ there | withoutThread _ there | starts _ there | attaches there
  | freesNothing there | signals there | closes there | closesNothing there =>
    rw [waiting] at there
    cases there
  | joins _ ended =>
    rw [ended] at live
    cases live
  | arrives c => exact .stays rfl rfl rfl rfl (by simp)
  | takes polling _ first => exact .takes polling rfl rfl rfl rfl
  | strays _ closed =>
    rw [closed] at port
    cases port
  | timesOut there | returns there =>
    have other : s.worker ≠ .checking := by
      rw [there]
      nofun
    exact .checks other rfl rfl rfl rfl
  | ends checking => exact .ends checking rfl rfl rfl
  | goesOn _ quiet =>
    rw [signalled] at quiet
    cases quiet

theorem ended_move (move : Move s e s' outs) (waiting : s.caller = .waiting)
    (ended : s.worker = .ended) :
    (handled outs = [] ∧ s'.caller = .waiting ∧ s'.worker = .ended) ∨
      (handled outs = [] ∧ s'.caller = .closing ∧ s'.worker = .absent ∧
        s'.workerThread = .invalidHandleValue) := by
  cases move with
  | still | arrives => exact .inl ⟨rfl, waiting, ended⟩
  | joins => exact .inr ⟨rfl, rfl, rfl, rfl⟩
  | initFails _ there | withoutThread _ there | starts _ there | attaches there
  | freesNothing there | signals there | closes there | closesNothing there =>
    rw [waiting] at there
    cases there
  | takes there | strays there | timesOut there | returns there | ends there | goesOn there =>
    rw [ended] at there
    cases there

theorem closing_move (move : Move s e s' outs) (closing : s.caller = .closing)
    (absent : s.worker = .absent) (none : s.workerThread = .invalidHandleValue) :
    (handled outs = [] ∧ s'.caller = .closing ∧ s'.worker = .absent ∧
        s'.workerThread = .invalidHandleValue) ∨
      (handled outs = [] ∧ s'.caller = .idle ∧ s'.worker = .absent ∧
        s'.service = .uninitialised) := by
  cases move with
  | still | arrives => exact .inl ⟨rfl, closing, absent, none⟩
  | closes =>
    have freed : IocpService.mk .invalidHandleValue s.workerThread = .uninitialised := by
      rw [none]
      rfl
    exact .inr ⟨rfl, rfl, absent, freed⟩
  | closesNothing _ closed =>
    have freed : IocpService.mk s.hIocp s.workerThread = .uninitialised := by
      rw [none, closed]
      rfl
    exact .inr ⟨rfl, rfl, absent, freed⟩
  | initFails _ there | withoutThread _ there | starts _ there | attaches there
  | freesNothing there | signals there | joins there =>
    rw [closing] at there
    cases there
  | takes there | strays there | timesOut there | returns there | ends there | goesOn there =>
    rw [absent] at there
    cases there

variable (sched : ℕ → Event α)

/-- `free` waits at this moment, the worker is somewhere, and it has handled so many. -/
structure Stopping (bound : ℕ) (place : State α → Prop) (n : ℕ) : Prop where
  waiting : (run (before sched n)).caller = .waiting
  signalled : (run (before sched n)).stopEvent = true
  there : place (run (before sched n))
  calls : (handled (outputs (before sched n))).length ≤ bound

def Polling (s : State α) : Prop := s.worker = .polling

def Ready (s : State α) : Prop := s.worker = .polling ∧ s.queue ≠ []

def Handling (s : State α) : Prop := ∃ c, s.worker = .handling c

def Checking (s : State α) : Prop := s.worker = .checking

/-- The worker thread has ended, and `free` has not gone on yet. -/
structure Ended (bound : ℕ) (n : ℕ) : Prop where
  waiting : (run (before sched n)).caller = .waiting
  ended : (run (before sched n)).worker = .ended
  calls : (handled (outputs (before sched n))).length ≤ bound

/-- `free` is about to close the port. -/
structure Closing (bound : ℕ) (n : ℕ) : Prop where
  closing : (run (before sched n)).caller = .closing
  absent : (run (before sched n)).worker = .absent
  none : (run (before sched n)).workerThread = .invalidHandleValue
  calls : (handled (outputs (before sched n))).length ≤ bound

/-- `free` has returned. -/
structure Freed (bound : ℕ) (n : ℕ) : Prop where
  idle : (run (before sched n)).caller = .idle
  absent : (run (before sched n)).worker = .absent
  freed : (run (before sched n)).service = .uninitialised
  calls : (handled (outputs (before sched n))).length ≤ bound

variable {sched}

theorem run_succ (n : ℕ) :
    run (before sched (n + 1)) = (step (run (before sched n)) (sched n)).1 := by
  rw [before_succ]
  exact machine.run_append ..

theorem outputs_succ (n : ℕ) : outputs (before sched (n + 1)) =
    outputs (before sched n) ++ (step (run (before sched n)) (sched n)).2 := by
  rw [before_succ]
  exact machine.outputs_concat ..

theorem calls_succ {bound more n : ℕ} (calls : (handled (outputs (before sched n))).length ≤ bound)
    (new : (handled (step (run (before sched n)) (sched n)).2).length = more) :
    (handled (outputs (before sched (n + 1)))).length ≤ bound + more := by
  rw [outputs_succ, handled, List.filterMap_append, List.length_append]
  exact Nat.add_le_add calls (Nat.le_of_eq new)

section Stages
variable (granted : ∀ n, Granted (sched n)) {bound : ℕ}
include granted

/-- Where the worker is a moment later. -/
inductive Next (sched : ℕ → Event α) (bound n : ℕ) : Prop where
  | stays (same : (run (before sched (n + 1))).worker = (run (before sched n)).worker)
      (more : (run (before sched n)).queue ≠ [] → (run (before sched (n + 1))).queue ≠ [])
      (stopping : Stopping sched bound (fun _ => True) (n + 1))
  | takes (polling : (run (before sched n)).worker = .polling)
      (stopping : Stopping sched (bound + 1) Handling (n + 1))
  | checks (other : (run (before sched n)).worker ≠ .checking)
      (stopping : Stopping sched bound Checking (n + 1))
  | ends (checking : (run (before sched n)).worker = .checking) (ended : Ended sched bound (n + 1))

theorem sound_before (n : ℕ) : Sound (run (before sched n)) := by
  have allowed : ∀ e ∈ before sched n, Granted e := by
    intro e member
    obtain ⟨k, found⟩ := mem_before sched member
    exact found ▸ granted k
  exact (attending_run allowed).sound

theorem Stopping.next {place : State α → Prop} {n : ℕ} (stopping : Stopping sched bound place n)
    (live : (run (before sched n)).worker.live = true) : Next sched bound n := by
  have port := (sound_before granted n).port live
  have turn := turn_move (move_step _ (sched n)) stopping.waiting stopping.signalled live port
  have waiting := stopping.waiting
  have signalled := stopping.signalled
  rw [← run_succ] at turn
  cases turn with
  | stays worker signal caller silent more =>
    exact .stays worker more ⟨caller.trans waiting, signal.trans signalled, trivial,
      calls_succ stopping.calls (congrArg List.length silent)⟩
  | @takes c polling handling signal caller one =>
    exact .takes polling ⟨caller.trans waiting, signal.trans signalled, ⟨c, handling⟩,
      calls_succ stopping.calls (congrArg List.length one)⟩
  | checks other checking signal caller silent =>
    exact .checks other ⟨caller.trans waiting, signal.trans signalled, checking,
      calls_succ stopping.calls (congrArg List.length silent)⟩
  | ends checking ended caller silent =>
    exact .ends checking ⟨caller.trans waiting, ended,
      calls_succ stopping.calls (congrArg List.length silent)⟩

/-- A worker that polls takes a completion, or finds the port empty for half a second. -/
theorem polling_leadsTo (fair : Recurs sched .timesOut) : LeadsTo (Stopping sched bound Polling)
    (fun n => Stopping sched bound Ready n ∨ Stopping sched (bound + 1) Handling n ∨
      Stopping sched bound Checking n) := by
  apply leadsTo_of_event fair
  intro n stopping
  have there : (run (before sched n)).worker = .polling := stopping.there
  have live : (run (before sched n)).worker.live = true := by
    rw [there]
    rfl
  have port := (sound_before granted n).port live
  cases stopping.next granted live with
  | takes _ handling => exact .inl (.inr (.inl handling))
  | checks _ checking => exact .inl (.inr (.inr checking))
  | ends checking =>
    rw [there] at checking
    cases checking
  | stays same more later =>
    by_cases comes : sched n = .timesOut
    · by_cases empty : (run (before sched n)).queue = []
      · rw [run_succ, comes] at same
        simp [step, there, port, empty] at same
      · exact .inl (.inl { later with there := ⟨same.trans there, more empty⟩ })
    · exact .inr ⟨{ later with there := same.trans there }, comes⟩

theorem ready_leadsTo (fair : Recurs sched .takes) : LeadsTo (Stopping sched bound Ready)
    (fun n => Stopping sched (bound + 1) Handling n ∨ Stopping sched bound Checking n) := by
  apply leadsTo_of_event fair
  intro n stopping
  obtain ⟨there, waits⟩ := stopping.there
  have live : (run (before sched n)).worker.live = true := by
    rw [there]
    rfl
  have port := (sound_before granted n).port live
  cases stopping.next granted live with
  | takes _ handling => exact .inl (.inl handling)
  | checks _ checking => exact .inl (.inr checking)
  | ends checking =>
    rw [there] at checking
    cases checking
  | stays same more later =>
    refine .inr ⟨{ later with there := ⟨same.trans there, more waits⟩ }, fun comes => ?_⟩
    obtain ⟨c, queue, first⟩ := List.exists_cons_of_ne_nil waits
    rw [run_succ, comes] at same
    simp [step, take, there, port, first] at same

theorem handling_leadsTo (fair : Recurs sched .returns) :
    LeadsTo (Stopping sched bound Handling) (Stopping sched bound Checking) := by
  apply leadsTo_of_event fair
  intro n stopping
  obtain ⟨c, there⟩ := stopping.there
  cases stopping.next granted (by rw [there]; rfl) with
  | checks _ checking => exact .inl checking
  | takes polling | ends polling =>
    rw [there] at polling
    cases polling
  | stays same _ later =>
    refine .inr ⟨{ later with there := ⟨c, same.trans there⟩ }, fun comes => ?_⟩
    rw [run_succ, comes] at same
    simp [step, there] at same

theorem checking_leadsTo (fair : Recurs sched .checks) :
    LeadsTo (Stopping sched bound Checking) (Ended sched bound) := by
  apply leadsTo_of_event fair
  intro n stopping
  have there : (run (before sched n)).worker = .checking := stopping.there
  cases stopping.next granted (by rw [there]; rfl) with
  | ends _ ended => exact .inl ended
  | checks other => exact absurd there other
  | takes polling =>
    rw [there] at polling
    cases polling
  | stays same _ later =>
    refine .inr ⟨{ later with there := same.trans there }, fun comes => ?_⟩
    rw [run_succ, comes] at same
    simp [step, there, stopping.signalled] at same

end Stages

/-- When the thread has ended, `free` goes on. -/
theorem ended_leadsTo {bound : ℕ} (fair : Recurs sched .joins) :
    LeadsTo (Ended sched bound) (Closing sched bound) := by
  apply leadsTo_of_event fair
  rintro n ⟨waiting, ended, calls⟩
  have after := @run_succ α sched n
  rcases ended_move (move_step _ (sched n)) waiting ended with ⟨silent, waits, there⟩ |
    ⟨silent, closing, absent, none⟩
  · have calls := calls_succ calls (congrArg List.length silent)
    refine .inr ⟨⟨after ▸ waits, after ▸ there, calls⟩, fun comes => ?_⟩
    rw [comes] at waits
    simp [step, waiting, ended] at waits
  · have calls := calls_succ calls (congrArg List.length silent)
    exact .inl ⟨after ▸ closing, after ▸ absent, after ▸ none, calls⟩

theorem closing_leadsTo {bound : ℕ} (fair : Recurs sched .closes) :
    LeadsTo (Closing sched bound) (Freed sched bound) := by
  apply leadsTo_of_event fair
  rintro n ⟨closing, absent, gone, calls⟩
  have after := @run_succ α sched n
  rcases closing_move (move_step _ (sched n)) closing absent gone with
    ⟨silent, closes, there, gone'⟩ | ⟨silent, idle, there, freed⟩
  · have calls := calls_succ calls (congrArg List.length silent)
    refine .inr ⟨⟨after ▸ closes, after ▸ there, after ▸ gone', calls⟩, fun comes => ?_⟩
    rw [comes] at closes
    by_cases port : (run (before sched n)).hIocp = .invalidHandleValue
    · simp [step, closing, closePort, port] at closes
    · simp [step, closing, closePort, port] at closes
  · have calls := calls_succ calls (congrArg List.length silent)
    exact .inl ⟨after ▸ idle, after ▸ there, after ▸ freed, calls⟩

/-- The worker goes on, and so does a call that nothing keeps waiting. -/
def Fair (sched : ℕ → Event α) : Prop :=
  ∀ e ∈ [.takes, .timesOut, .returns, .checks, .joins, .closes], Recurs sched e

/-- Under every fair schedule a `free` that has set the stop event returns, with no worker and
no open handle left, and after at most one more callback. -/
theorem free_returns (granted : ∀ n, Granted (sched n)) (fair : Fair sched) {n : ℕ}
    (waiting : (run (before sched n)).caller = .waiting) :
    ∃ m, n ≤ m ∧ Freed sched ((handled (outputs (before sched n))).length + 1) m := by
  let calls := (handled (outputs (before sched n))).length
  have closed : LeadsTo (Ended sched (calls + 1)) (Freed sched (calls + 1)) :=
    (ended_leadsTo (fair _ (by simp))).trans (closing_leadsTo (fair _ (by simp)))
  have checked : LeadsTo (Stopping sched (calls + 1) Checking) (Freed sched (calls + 1)) :=
    (checking_leadsTo granted (fair _ (by simp))).trans closed
  have returned : LeadsTo (Stopping sched (calls + 1) Handling) (Freed sched (calls + 1)) :=
    (handling_leadsTo granted (fair _ (by simp))).trans checked
  have checked' : LeadsTo (Stopping sched calls Checking) (Freed sched (calls + 1)) := by
    apply LeadsTo.trans _ checked
    exact .of_imp fun _ stopping => { stopping with calls := Nat.le_succ_of_le stopping.calls }
  have polled : LeadsTo (Stopping sched calls Polling) (Freed sched (calls + 1)) :=
    (polling_leadsTo granted (fair _ (by simp))).trans
      (((ready_leadsTo granted (fair _ (by simp))).trans (returned.or checked')).or
        (returned.or checked'))
  have here : calls ≤ calls := Nat.le_refl calls
  cases sound_before granted n with
  | ended _ ended => exact closed n ⟨waiting, ended, Nat.le_succ calls⟩
  | stopping _ live _ signalled =>
    cases place : (run (before sched n)).worker with
    | polling => exact polled n ⟨waiting, signalled, place, here⟩
    | handling c => exact returned n ⟨waiting, signalled, ⟨c, place⟩, Nat.le_succ calls⟩
    | checking => exact checked' n ⟨waiting, signalled, place, here⟩
    | absent | ended | astray =>
      rw [place] at live
      cases live
  | stopped there | starting there | running there | closing there =>
    rw [waiting] at there
    cases there

/-- The stop event is set while a completion is handled, again and again. -/
def stopping : ℕ → Event Nat := cycle (.init succeeding) [.attach, .arrives 5, .takes, .free,
  .returns, .timesOut, .checks, .joins, .closes]

theorem stopping_returns : ∃ m, 5 ≤ m ∧ (run (before stopping m)).caller = .idle := by
  have granted : ∀ n, Granted (stopping n) := by
    intro n
    have all : ∀ e ∈ [Event.init succeeding, .attach, .arrives 5, .takes, .free, .returns,
      .timesOut, .checks, .joins, .closes], Granted e := by decide
    exact all _ (cycle_mem _ _ n)
  have fair : Fair stopping := by
    intro e member
    apply cycle_recurs
    simp only [List.mem_cons, List.not_mem_nil, or_false] at member
    rcases member with rfl | rfl | rfl | rfl | rfl | rfl <;> simp
  obtain ⟨m, later, freed⟩ := @free_returns Nat stopping granted fair 5 rfl
  exact ⟨m, later, freed.idle⟩

end Shutdown

end CompletionPort
