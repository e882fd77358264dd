import Mathlib.Algebra.GroupWithZero.Nat
import QvNetfilter.ReceiveLoop

/-!
# How outstanding work ends

Closing a socket aborts what is outstanding on it. Once every operation has been aborted, no
record is left; and an endpoint whose sockets are closed comes to rest by itself, whatever its
last completions bring.
-/

namespace Quiescence

open Memory Socks Mealy UdpProxy Ownership Endpoints

section Aborting
variable {os : Os} {config : Config} {w : World} {op : Operation}

/-- An operation that is aborted has zero bytes and an error. -/
def aborted (error : Operation → Nat) (ops : List Operation) : List Event :=
  ops.map fun op => .complete op [] (error op)

/-- What is recorded of an aborted operation. -/
def Quiet : Action → Prop
  | .closed _ => True
  | .received _ data => data = []
  | _ => False

/-- Where the handler of zero bytes leaves everything but the record. -/
def withdrawn (w : World) (ov : OvData) : World :=
  if ov.type = .ovtConnect then w.deleteProxyConnection ov.id else w

theorem onComplete_nothing (w : World) (socket : Socket) (pov : Pov) {ov : OvData} {error : Nat}
    (failed : ov.type = .ovtConnect → error ≠ 0) :
    onComplete os config w socket 0 pov ov error = (withdrawn w ov).deleteOvData pov := by
  simp only [onComplete, withdrawn]
  cases type : ov.type with
  | ovtConnect =>
    simp only [onConnectComplete, if_pos (failed type), if_true]
  | ovtTcpReceive => simp [onTcpReceiveComplete]
  | ovtUdpReceive => simp [onUdpReceiveComplete]
  | ovtTcpSend => simp [onTcpSendComplete]
  | ovtUdpSend => simp [onUdpSendComplete]

theorem withdrawn_spec (w : World) (ov : OvData) :
    (withdrawn w ov).pending = w.pending ∧ (withdrawn w ov).ovData = w.ovData ∧
      ∃ news, (withdrawn w ov).log = w.log ++ news ∧ ∀ a ∈ news, Quiet a.2 := by
  simp only [withdrawn]
  split
  · simp only [World.deleteProxyConnection]
    cases w.socketMap ov.id with
    | none => exact ⟨rfl, rfl, [], (List.append_nil _).symm, by simp⟩
    | some pd =>
      refine ⟨rfl, rfl, [(ov.id, .closed pd.tcpSocket), (ov.id, .closed pd.udpSocket)], ?_, ?_⟩
      · simp [World.setEntry, World.record]
      · intro a present
        rcases List.mem_pair.mp present with rfl | rfl <;> trivial
  · exact ⟨rfl, rfl, [], (List.append_nil _).symm, by simp⟩

/-- What an aborted operation leaves. -/
structure Aborted (w : World) (op : Operation) (w' : World) : Prop where
  pending : w'.pending = w.pending.erase op
  freed : w'.ovData op.pov = none
  others : ∀ pov, w'.ovData pov ≠ none → w.ovData pov ≠ none
  log : ∃ news, w'.log = w.log ++ news ∧ ∀ a ∈ news, Quiet a.2

theorem complete_aborted (owned : Owned w []) (pending : op ∈ w.pending) {error : Nat}
    (failed : error ≠ 0) : Aborted w op (complete os config w op [] error) := by
  have live : w.ovData op.pov ≠ none := (owned.live op.pov).mpr (List.mem_map_of_mem pending)
  obtain ⟨ov, hov⟩ := Option.ne_none_iff_exists'.mp live
  have gone : ∀ {w₁ : World} {ov₁ : OvData}, w₁.pending = w.pending.erase op →
      (∀ pov, w₁.ovData pov ≠ none → w.ovData pov ≠ none) →
      (∃ news, w₁.log = w.log ++ news ∧ ∀ a ∈ news, Quiet a.2) →
      Aborted w op ((withdrawn w₁ ov₁).deleteOvData op.pov) := by
    intro w₁ ov₁ left others log
    obtain ⟨samePending, sameOv, news, more, quiet⟩ := withdrawn_spec w₁ ov₁
    obtain ⟨news', before, quiet'⟩ := log
    refine ⟨samePending.trans left, Function.update_self .., fun pov present => ?_,
      news' ++ news, ?_, ?_⟩
    · by_cases same : pov = op.pov
      · exact absurd ((congrArg _ same).trans (Function.update_self ..)) present
      · have kept : ((withdrawn w₁ ov₁).deleteOvData op.pov).ovData pov = w₁.ovData pov := by
          rw [← sameOv]
          exact Function.update_of_ne same _ _
        exact others pov (kept ▸ present)
    · rw [← List.append_assoc, ← before]
      exact more
    · intro a present
      rcases List.mem_append.mp present with present | present
      · exact quiet' a present
      · exact quiet a present
  have removed : (w.removePending op).ovData op.pov = some ov := hov
  simp only [complete, if_pos pending, dispatch, removed]
  split
  · rename_i queued
    have receives := owned.posted op pending queued ov hov
    rw [onComplete_nothing _ _ _ fun connect => absurd receives (by rw [connect]; decide)]
    exact gone rfl (fun _ present => present) ⟨[], (List.append_nil _).symm, by simp⟩
  · split
    · rw [List.take_nil, List.length_nil, onComplete_nothing _ _ _ fun _ => failed]
      apply gone rfl
      · intro pov present
        by_cases same : pov = op.pov
        · rw [same]
          exact live
        · have kept := Function.update_of_ne same (some { ov with buffer := overwrite ov.buffer [] })
            w.ovData
          exact kept ▸ present
      · refine ⟨[(ov.id, .received ov.type [])], rfl, fun a present => ?_⟩
        obtain rfl := List.mem_singleton.mp present
        exact rfl
    · rw [List.length_nil, onComplete_nothing _ _ _ fun _ => failed]
      exact gone rfl (fun _ present => present) ⟨[], (List.append_nil _).symm, by simp⟩

theorem aborted_run (owned : Owned w []) {ops : List Operation} (all : ops.Perm w.pending)
    {error : Operation → Nat} (failed : ∀ op, error op ≠ 0) :
    ((machine os config).run w (aborted error ops)).pending = [] ∧
      (∀ pov, ((machine os config).run w (aborted error ops)).ovData pov = none) ∧
      ∃ news, ((machine os config).run w (aborted error ops)).log = w.log ++ news ∧
        ∀ a ∈ news, Quiet a.2 := by
  induction ops generalizing w with
  | nil =>
    have none : w.pending = [] := List.nil_perm.mp all
    refine ⟨none, fun pov => ?_, [], (List.append_nil _).symm, by simp⟩
    by_contra present
    have member := (owned.live pov).mp present
    simp [outstanding, none] at member
  | cons op ops ih =>
    have pending : op ∈ w.pending := all.subset List.mem_cons_self
    let w' := complete os config w op [] (error op)
    have one : Aborted w op w' := complete_aborted owned pending (failed op)
    have owned' : Owned w' [] := owned_step os config owned (.complete op [] (error op))
    have rest : ops.Perm w'.pending := by
      rw [one.pending]
      exact (List.cons_perm_iff_perm_erase.mp all).2
    obtain ⟨drained, freed, news, log, quiet⟩ := ih owned' rest
    obtain ⟨news', log', quiet'⟩ := one.log
    refine ⟨drained, freed, news' ++ news, ?_, fun a present => ?_⟩
    · rw [← List.append_assoc, ← log']
      exact log
    · rcases List.mem_append.mp present with present | present
      · exact quiet' a present
      · exact quiet a present

/-- The greeting and the receive that are outstanding after the connect of endpoint 7. -/
def greetedOps : List Operation := [⟨(7, 2), 0, false⟩, ⟨(7, 1), 0, false⟩]

end Aborting

section Rest
variable {os : Os} {config : Config} {w w' : World} {id : EndpointId} {op : Operation}

/-- The sockets of a history that are open. -/
def openAt (history : List Action) : List Socket :=
  history.foldl (fun sockets a => match a with
    | .opened _ (some s) => sockets ++ [s]
    | .closed s => sockets.erase s
    | _ => sockets) []

/-- The socket that a call is made on; a completion is posted to the port. -/
def socketOf : Call → Option Socket
  | .registerSocket s | .connectEx s _ _ | .wsaSend s _ | .wsaSendTo s _ _ _ | .wsaRecv s
  | .wsaRecvFrom s => some s
  | .postCompletion _ _ => none

/-- The system refuses every call on a socket for an endpoint that has none open: no handle
value of its closed sockets has been given to another endpoint meanwhile. -/
def Deaf (os : Os) (id : EndpointId) : Prop :=
  ∀ history c, openAt history = [] → socketOf c ≠ none → os.accepts id history c = false

/-- The endpoint has no entry and no open socket. -/
structure Shut (w : World) (id : EndpointId) : Prop where
  entry : w.socketMap id = none
  sockets : openAt (w.history id) = []

/-- No socket is opened, and no call on one is accepted. -/
def Mute : Action → Prop
  | .opened _ (some _) => False
  | .call c true => socketOf c = none
  | _ => True

/-- A posted completion is the last one of its record, a direct one may be the last but one. -/
def weight (op : Operation) : Nat := if op.queued then 1 else 2

/-- The completions that an endpoint can still have. -/
def rank (w : World) (id : EndpointId) : Nat := ((workOf id w.pending).map weight).sum

theorem openAt_mute {history news : List Action} (none : openAt history = [])
    (mute : ∀ a ∈ news, Mute a) : openAt (history ++ news) = [] := by
  induction news using List.reverseRecOn with
  | nil => simpa using none
  | append_singleton news a ih =>
    have before := ih fun b present => mute b (List.mem_append_left _ present)
    have last := mute a (by simp)
    rw [← List.append_assoc, openAt, List.foldl_concat]
    change (match a with
      | .opened _ (some s) => openAt (history ++ news) ++ [s]
      | .closed s => (openAt (history ++ news)).erase s
      | _ => openAt (history ++ news)) = []
    rw [before]
    cases a with
    | opened type s =>
      cases s with
      | none => rfl
      | some s => exact absurd last not_false
    | _ => rfl

theorem weight_pos (op : Operation) : 0 < weight op := by
  unfold weight
  split
  · omega
  · omega

/-- What one completion of a shut endpoint leaves: its record is freed, or its receive was
refused and is posted as a completion of zero bytes. -/
structure Retired (w : World) (op : Operation) (w' : World) : Prop where
  entry : w'.socketMap = w.socketMap
  pending : w'.pending = w.pending.erase op ∨ op.queued = false ∧
    w'.pending = w.pending.erase op ++ [⟨op.pov, op.socket, true⟩]
  history : ∃ news, w'.history op.pov.1 = w.history op.pov.1 ++ news ∧ ∀ a ∈ news, Mute a

theorem Retired.shut (retired : Retired w op w') (shut : Shut w op.pov.1) :
    Shut w' op.pov.1 := by
  obtain ⟨news, more, mute⟩ := retired.history
  refine ⟨?_, ?_⟩
  · rw [retired.entry]
    exact shut.entry
  · rw [more]
    exact openAt_mute shut.sockets mute

theorem rank_append (id : EndpointId) (xs ys : List Operation) :
    ((workOf id (xs ++ ys)).map weight).sum =
      ((workOf id xs).map weight).sum + ((workOf id ys).map weight).sum := by
  rw [workOf, List.filter_append, List.map_append, List.sum_append]
  rfl

theorem Retired.rank (retired : Retired w op w') (pending : op ∈ w.pending) :
    rank w' op.pov.1 < rank w op.pov.1 := by
  have own : workOf op.pov.1 [op] = [op] := by simp [workOf]
  have split : Quiescence.rank w op.pov.1 =
      weight op + ((workOf op.pov.1 (w.pending.erase op)).map weight).sum := by
    have same : Quiescence.rank w op.pov.1 =
        ((workOf op.pov.1 (op :: w.pending.erase op)).map weight).sum :=
      List.Perm.sum_nat (((List.perm_cons_erase pending).filter _).map weight)
    have front := rank_append op.pov.1 [op] (w.pending.erase op)
    rw [own] at front
    rw [List.map_singleton, List.sum_singleton, List.singleton_append] at front
    rw [same, front]
  rw [split, Quiescence.rank]
  rcases retired.pending with left | ⟨direct, left⟩
  · have positive := weight_pos op
    rw [left]
    omega
  · have two : weight op = 2 := if_neg (by rw [direct]; decide)
    have one : ((workOf op.pov.1 [⟨op.pov, op.socket, true⟩]).map weight).sum = 1 := by
      simp [workOf, weight]
    rw [left, rank_append, one, two]
    omega

theorem history_record (w : World) (id : EndpointId) (a : Action) :
    (w.record id a).history id = w.history id ++ [a] := by
  simp [World.history, World.record]

theorem withdrawn_shut {ov : OvData} (none : w.socketMap ov.id = none) : withdrawn w ov = w := by
  simp only [withdrawn, World.deleteProxyConnection, none, ite_self]

/-- The handler frees the record of the operation. -/
theorem retired_freed {w₁ : World} (entry : w₁.socketMap = w.socketMap)
    (pending : w₁.pending = w.pending.erase op)
    (history : ∃ news, w₁.history op.pov.1 = w.history op.pov.1 ++ news ∧ ∀ a ∈ news, Mute a) :
    Retired w op (w₁.deleteOvData op.pov) := ⟨entry, .inl pending, history⟩

/-- The handler issues the receive again, and the system refuses it. -/
theorem retired_posted {w₁ : World} (deaf : Deaf os op.pov.1) (entry : w₁.socketMap = w.socketMap)
    (direct : op.queued = false) (pending : w₁.pending = w.pending.erase op) {news : List Action}
    (history : w₁.history op.pov.1 = w.history op.pov.1 ++ news) (mute : ∀ a ∈ news, Mute a)
    (shut : openAt (w.history op.pov.1) = []) {ov : OvData} (own : ov.id = op.pov.1) :
    Retired w op (rearmTcpReceive os w₁ op.socket op.pov.1 op.pov ov) ∧
      Retired w op (rearmUdpReceive os w₁ op.socket op.pov.1 op.pov ov) := by
  have closed : openAt (w₁.history op.pov.1) = [] := by
    rw [history]
    exact openAt_mute shut mute
  have posted : ∀ c, socketOf c ≠ none → Retired w op
      (postClosed os (w₁.record op.pov.1 (.call c false)) op.socket op.pov ov) := by
    intro c socket
    simp only [postClosed, invoke, own]
    have more : ∀ accepted, ∃ news, ((w₁.record op.pov.1 (.call c false)).record op.pov.1
        (.call (.postCompletion op.socket op.pov) accepted)).history op.pov.1 =
          w.history op.pov.1 ++ news ∧ ∀ a ∈ news, Mute a := by
      intro accepted
      refine ⟨news ++ [.call c false, .call (.postCompletion op.socket op.pov) accepted], ?_, ?_⟩
      · rw [history_record, history_record, history]
        simp
      · intro a present
        rcases List.mem_append.mp present with present | present
        · exact mute a present
        · rcases List.mem_pair.mp present with rfl | rfl
          · trivial
          · cases accepted <;> trivial
    split
    · refine ⟨entry, .inr ⟨direct, ?_⟩, more _⟩
      simp [World.addPending, World.record, World.setOv, pending]
    · exact ⟨entry, .inl pending, more _⟩
  constructor
  · have refused := deaf _ (.wsaRecv op.socket) closed (by simp [socketOf])
    simp only [rearmTcpReceive, invoke, refused, Bool.false_eq_true, if_false]
    exact posted _ (by simp [socketOf])
  · have refused := deaf _ (.wsaRecvFrom op.socket) closed (by simp [socketOf])
    simp only [rearmUdpReceive, invoke, refused, Bool.false_eq_true, if_false]
    exact posted _ (by simp [socketOf])

theorem complete_retired (owned : Owned w []) (deaf : Deaf os op.pov.1) (shut : Shut w op.pov.1)
    (pending : op ∈ w.pending) (data : Bytes) (error : Nat) :
    Retired w op (complete os config w op data error) := by
  have live : w.ovData op.pov ≠ none := (owned.live op.pov).mpr (List.mem_map_of_mem pending)
  obtain ⟨ov, hov⟩ := Option.ne_none_iff_exists'.mp live
  have own : ov.id = op.pov.1 := owned.named op.pov ov hov
  have unknown : w.socketMap ov.id = none := own ▸ shut.entry
  have removed : (w.removePending op).ovData op.pov = some ov := hov
  have silent : ∃ news, w.history op.pov.1 = w.history op.pov.1 ++ news ∧ ∀ a ∈ news, Mute a :=
    ⟨[], (List.append_nil _).symm, by simp⟩
  have freed : Retired w op ((w.removePending op).deleteOvData op.pov) :=
    retired_freed rfl rfl silent
  simp only [complete, if_pos pending, dispatch, removed]
  split
  · rename_i queued
    have receives := owned.posted op pending queued ov hov
    rw [onComplete_nothing _ _ _ fun connect => absurd receives (by rw [connect]; decide),
      withdrawn_shut (w := w.removePending op) unknown]
    exact freed
  · rename_i direct
    have direct : op.queued = false := Bool.eq_false_iff.mpr direct
    split
    · rename_i receives
      let taken := data.take ov.buffer.length
      let ov' : OvData := { ov with buffer := overwrite ov.buffer taken }
      let w₁ := ((w.removePending op).setOv op.pov (some ov')).record ov.id
        (.received ov.type taken)
      have history : w₁.history op.pov.1 = w.history op.pov.1 ++ [.received ov.type taken] := by
        rw [← own]
        exact history_record ..
      have mute : ∀ a ∈ [Action.received ov.type taken], Mute a := by
        intro a present
        obtain rfl := List.mem_singleton.mp present
        trivial
      change Retired w op (onComplete os config w₁ op.socket taken.length op.pov ov' error)
      cases type : ov.type with
      | ovtConnect | ovtTcpSend | ovtUdpSend =>
        rw [type] at receives
        cases receives
      | ovtTcpReceive =>
        simp only [onComplete, ov', type, onTcpReceiveComplete]
        split
        · exact retired_freed rfl rfl ⟨_, history, mute⟩
        · have still : onControlData os config w₁ ov.id (overwrite ov.buffer taken) taken.length =
              w₁ := by
            have none : w₁.socketMap ov.id = Option.none := unknown
            simp only [onControlData, none]
          rw [still, own]
          exact (@retired_posted os w op w₁ deaf rfl direct rfl _ history mute
            shut.sockets _ rfl).1
      | ovtUdpReceive =>
        simp only [onComplete, ov', type, onUdpReceiveComplete]
        split
        · exact retired_freed rfl rfl ⟨_, history, mute⟩
        · cases relayedDatagram (overwrite ov.buffer taken) taken.length with
          | none =>
            rw [own]
            exact (@retired_posted os w op w₁ deaf rfl direct rfl _ history mute
              shut.sockets _ rfl).2
          | some d =>
            have history' : (w₁.record ov.id (.onUdpReceiveComplete d)).history op.pov.1 =
                w.history op.pov.1 ++ [.received ov.type taken, .onUdpReceiveComplete d] := by
              rw [own, history_record, history]
              simp
            have mute' : ∀ a ∈ [Action.received ov.type taken, .onUdpReceiveComplete d],
                Mute a := by
              intro a present
              rcases List.mem_pair.mp present with rfl | rfl <;> trivial
            rw [own] at history' ⊢
            exact (@retired_posted os w op (w₁.record op.pov.1 (.onUdpReceiveComplete d)) deaf rfl
              direct rfl _ history' mute' shut.sockets _ rfl).2
    · rename_i other
      cases type : ov.type with
      | ovtTcpReceive | ovtUdpReceive =>
        rw [type] at other
        exact absurd rfl other
      | ovtTcpSend => simpa only [onComplete, type, onTcpSendComplete] using freed
      | ovtUdpSend => simpa only [onComplete, type, onUdpSendComplete] using freed
      | ovtConnect =>
        have gone : (w.removePending op).socketMap ov.id = none := unknown
        simp only [onComplete, type, onConnectComplete, World.deleteProxyConnection, gone]
        split
        · exact freed
        · exact freed

section Runs
variable (os config) (id)

/-- The event is a completion of the endpoint that the port gives out. -/
def Completes (w : World) : Event → Prop
  | .complete op _ _ => op ∈ w.pending ∧ op.pov.1 = id
  | _ => False

instance (w : World) (e : Event) : Decidable (Completes id w e) :=
  match e with
  | .complete op _ _ => inferInstanceAs (Decidable (op ∈ w.pending ∧ op.pov.1 = id))
  | .createProxyConnection _ | .deleteProxyConnection _ | .udpSend _ _ _ _ => isFalse not_false

/-- The completions of the endpoint in a run. -/
def completions (w : World) : List Event → Nat
  | [] => 0
  | e :: rest => (if Completes id w e then 1 else 0) + completions (step os config w e) rest

variable {os config id}

theorem shut_step (owned : Owned w []) (deaf : Deaf os id) (shut : Shut w id) {e : Event}
    (other : e ≠ .createProxyConnection id) :
    Shut (step os config w e) id ∧ (if Completes id w e then 1 else 0) +
      rank (step os config w e) id ≤ rank w id ∧
      ∃ news, (step os config w e).history id = w.history id ++ news ∧ ∀ a ∈ news, Mute a := by
  have still : step os config w e = w → ¬ Completes id w e →
      Shut (step os config w e) id ∧ (if Completes id w e then 1 else 0) +
        rank (step os config w e) id ≤ rank w id ∧
        ∃ news, (step os config w e).history id = w.history id ++ news ∧ ∀ a ∈ news, Mute a := by
    intro same no
    rw [same, if_neg no]
    exact ⟨shut, by omega, [], (List.append_nil _).symm, by simp⟩
  by_cases own : endpoint e = id
  · cases e with
    | createProxyConnection j => exact absurd (congrArg _ own) other
    | deleteProxyConnection j =>
      obtain rfl : j = id := own
      exact still (by simp [step, World.deleteProxyConnection, shut.entry]) not_false
    | udpSend j buf remoteAddress remoteAddressLen =>
      obtain rfl : j = id := own
      exact still (by simp [step, udpSend, shut.entry]) not_false
    | complete op data error =>
      obtain rfl : op.pov.1 = id := own
      by_cases pending : op ∈ w.pending
      · have retired := @complete_retired os config w op owned deaf shut pending data error
        have falls := retired.rank pending
        have yes : Completes op.pov.1 w (.complete op data error) := ⟨pending, rfl⟩
        rw [if_pos yes]
        exact ⟨retired.shut shut, by simp only [step]; omega, retired.history⟩
      · exact still (if_neg pending) fun completes => pending completes.1
  · have untouched := untouched_step os config owned own
    have no : ¬ Completes id w e := by
      intro completes
      cases e with
      | complete op data error => exact own completes.2
      | _ => exact completes
    rw [if_neg no, rank, untouched.work, rank]
    refine ⟨⟨untouched.entry.trans shut.entry, ?_⟩, by omega, [], ?_, by simp⟩
    · rw [untouched.history]
      exact shut.sockets
    · rw [untouched.history, List.append_nil]

theorem shut_run (owned : Owned w []) (deaf : Deaf os id) (shut : Shut w id) {more : List Event}
    (other : .createProxyConnection id ∉ more) :
    Shut ((machine os config).run w more) id ∧
      completions os config id w more + rank ((machine os config).run w more) id ≤ rank w id ∧
      ∃ news, ((machine os config).run w more).history id = w.history id ++ news ∧
        ∀ a ∈ news, Mute a := by
  induction more generalizing w with
  | nil => exact ⟨shut, by simp [completions], [], (List.append_nil _).symm, by simp⟩
  | cons e rest ih =>
    have first : e ≠ .createProxyConnection id := by
      rintro rfl
      exact other List.mem_cons_self
    have later : .createProxyConnection id ∉ rest := fun present =>
      other (List.mem_cons_of_mem e present)
    obtain ⟨shut', falls, news, history, mute⟩ :=
      @shut_step os config w id owned deaf shut e first
    obtain ⟨shut'', falls', news', history', mute'⟩ :=
      ih (owned_step os config owned e) shut' later
    refine ⟨shut'', ?_, news ++ news', ?_, fun a present => ?_⟩
    · have first : completions os config id w (e :: rest) =
          (if Completes id w e then 1 else 0) + completions os config id (step os config w e) rest :=
        rfl
      have same : (machine os config).run w (e :: rest) =
          (machine os config).run (step os config w e) rest := rfl
      rw [first, same]
      omega
    · rw [← List.append_assoc, ← history]
      exact history'
    · rcases List.mem_append.mp present with present | present
      · exact mute a present
      · exact mute' a present

/-- From every reachable state in which an endpoint has neither an entry nor an open socket,
until it is created again: its outstanding operations have at most as many completions as their
rank, no call on a socket is accepted for it, and when none is left no record of it is. -/
theorem shut_endpoint_rests {evs more : List Event} (deaf : Deaf os id)
    (shut : Shut ((machine os config).run World.initial evs) id)
    (other : .createProxyConnection id ∉ more) :
    completions os config id ((machine os config).run World.initial evs) more +
        rank ((machine os config).run World.initial (evs ++ more)) id ≤
          rank ((machine os config).run World.initial evs) id ∧
      (∃ news, ((machine os config).run World.initial (evs ++ more)).history id =
        ((machine os config).run World.initial evs).history id ++ news ∧ ∀ a ∈ news, Mute a) ∧
      (rank ((machine os config).run World.initial (evs ++ more)) id = 0 →
        ∀ n, ((machine os config).run World.initial (evs ++ more)).ovData (id, n) = none) := by
  have owned := owned_run os config evs
  obtain ⟨_, falls, history⟩ := @shut_run os config _ id owned deaf shut more other
  rw [← Machine.run_append] at falls history
  refine ⟨falls, history, fun resting n => ?_⟩
  by_contra present
  have member := ((owned_run os config (evs ++ more)).live (id, n)).mp present
  obtain ⟨op, pending, same⟩ := List.mem_map.mp member
  have work : op ∈ workOf id ((machine os config).run World.initial (evs ++ more)).pending :=
    List.mem_filter.mpr ⟨pending, decide_eq_true (by rw [same])⟩
  have zero := List.sum_eq_zero_iff_forall_eq_nat.mp resting (weight op) (List.mem_map_of_mem work)
  have positive := weight_pos op
  omega

/-- A system that refuses every call on a socket of an endpoint that has none open. -/
def strictOs : Os where
  socket := fun _ history _ => some history.length
  accepts := fun _ history c => !decide (openAt history = [] ∧ socketOf c ≠ none)

theorem strictOs_deaf (id : EndpointId) : Deaf strictOs id := by
  intro history c none socket
  have both : openAt history = [] ∧ socketOf c ≠ Option.none := ⟨none, socket⟩
  simp [strictOs, both]

/-- The endpoint closes while its receive is outstanding. -/
def closedRun : List Event := Handshake.greetedRun ++ [.deleteProxyConnection 7]

/-- The receive brings data after all; issuing it again is refused and posted. -/
def lastEvents : List Event :=
  [.complete ⟨(7, 2), 0, false⟩ [5, 0] 0, .complete ⟨(7, 2), 0, true⟩ [] 0]

theorem closed_rests :
    completions strictOs ReceiveLoop.anonymousConfig 7
      ((machine strictOs ReceiveLoop.anonymousConfig).run World.initial closedRun) lastEvents ≤
        rank ((machine strictOs ReceiveLoop.anonymousConfig).run World.initial closedRun) 7 := by
  have shut : Shut ((machine strictOs ReceiveLoop.anonymousConfig).run World.initial closedRun) 7 :=
    ⟨by decide +kernel, by decide +kernel⟩
  have rests := @shut_endpoint_rests strictOs ReceiveLoop.anonymousConfig 7 closedRun lastEvents
    (strictOs_deaf 7) shut (by decide)
  exact Nat.le_trans (Nat.le_add_right _ _) rests.1

end Runs

end Rest

end Quiescence
