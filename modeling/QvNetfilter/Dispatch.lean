import QvNetfilter.Mealy

/-!
# Dispatch in order, with a fallback

Jobs are passed to a desk one at a time. A job in hand is relayed, put at the end
of a queue, or handed back by another route; the queue is flushed front to back.
Every attempt to relay may be refused. An account says what has become of each
job that was passed, in the order of passing; the moves of a desk keep it.
-/

namespace Dispatch

universe u v

/-- What can be seen of a desk: an attempt shows the form of a job only. -/
inductive Item (α : Type u) (β : Type v) where
  | passed (job : α)
  | attempt (form : β) (accepted : Bool)
  | posted (job : α)
  | closed
deriving DecidableEq

structure Desk (α : Type u) (β : Type v) where
  waiting : List β
  inHand : List α

variable {α : Type u} {β : Type v}

def passed (tr : List (Item α β)) : List α :=
  tr.filterMap fun
    | .passed job => some job
    | _ => none

def attempts (tr : List (Item α β)) : List (β × Bool) :=
  tr.filterMap fun
    | .attempt form accepted => some (form, accepted)
    | _ => none

def posted (tr : List (Item α β)) : List α :=
  tr.filterMap fun
    | .posted job => some job
    | _ => none

/-- The forms that an attempt was accepted for. -/
def relayed (tr : List (Item α β)) : List β :=
  (attempts tr).filterMap fun a => if a.2 then some a.1 else none

section Fates

/-- The end of a job. -/
inductive Fate where
  | relayed
  | refused
  | posted (attempted : Bool)
  | dropped
deriving DecidableEq

/-- The answer to the one attempt that was made for the job, if one was made. -/
def Fate.answer : Fate → Option Bool
  | .relayed => some true
  | .refused => some false
  | .posted attempted => if attempted then some false else none
  | .dropped => none

def Fate.isPosted : Fate → Bool
  | .posted _ => true
  | _ => false

/-- The job went one of its two ways. -/
def Fate.kept : Fate → Bool
  | .relayed => true
  | .posted _ => true
  | _ => false

variable (form : α → β)

def answers (settled : List (α × Fate)) : List (β × Bool) :=
  settled.filterMap fun s => s.2.answer.map fun accepted => (form s.1, accepted)

def postings (settled : List (α × Fate)) : List α :=
  settled.filterMap fun s => if s.2.isPosted then some s.1 else none

/-- Every passed job is settled, waiting or in hand, in the order of passing; the settled
ones account for all attempts and all postings. -/
structure Account (tr : List (Item α β)) (desk : Desk α β) (settled : List (α × Fate))
    (queued : List α) : Prop where
  passed : passed tr = settled.map Prod.fst ++ queued ++ desk.inHand
  attempts : attempts tr = answers form settled
  posted : posted tr = postings settled
  waiting : desk.waiting = queued.map form

variable {form}

theorem Account.initial : Account form ([] : List (Item α β)) ⟨[], []⟩ [] [] :=
  ⟨rfl, rfl, rfl, rfl⟩

/-- The accepted attempts are a part of the settled jobs, in their order. -/
theorem accepted_sublist (form : α → β) (settled : List (α × Fate)) :
    ((answers form settled).filterMap fun a => if a.2 then some a.1 else none).Sublist
      ((settled.map Prod.fst).map form) := by
  induction settled with
  | nil => exact List.Sublist.slnil
  | cons s rest ih =>
    obtain ⟨job, fate⟩ := s
    cases fate with
    | relayed => exact ih.cons_cons (form job)
    | refused => exact ih.cons (form job)
    | dropped => exact ih.cons (form job)
    | posted attempted => cases attempted <;> exact ih.cons (form job)

/-- What is relayed comes in the order of passing, each job once at most. -/
theorem Account.relayed_sublist {tr : List (Item α β)} {desk : Desk α β}
    {settled : List (α × Fate)} {queued : List α} (account : Account form tr desk settled queued) :
    (relayed tr).Sublist ((Dispatch.passed tr).map form) := by
  have front := accepted_sublist form settled
  rw [relayed, account.attempts, account.passed, List.map_append, List.map_append,
    List.append_assoc]
  exact front.trans (List.sublist_append_left _ _)

/-- Where every settled job was kept, the numbers balance. -/
theorem kept_length (form : α → β) {settled : List (α × Fate)}
    (kept : ∀ s ∈ settled, s.2.kept = true) :
    settled.length =
      ((answers form settled).filterMap fun a => if a.2 then some a.1 else none).length +
        (postings settled).length := by
  induction settled with
  | nil => rfl
  | cons s rest ih =>
    have kept_rest := ih fun s' member => kept s' (List.mem_cons_of_mem s member)
    obtain ⟨job, fate⟩ := s
    have kept_first : fate.kept = true := kept (job, fate) List.mem_cons_self
    rw [List.length_cons, kept_rest]
    cases fate with
    | relayed => exact (Nat.succ_add _ _).symm
    | posted attempted => cases attempted <;> rfl
    | refused => exact absurd kept_first nofun
    | dropped => exact absurd kept_first nofun

/-- More jobs are settled, from the front of what was not. -/
theorem Account.settle {tr news : List (Item α β)} {desk desk' : Desk α β}
    {settled more : List (α × Fate)} {queued queued' : List α}
    (account : Account form tr desk settled queued)
    (jobs : queued ++ desk.inHand ++ Dispatch.passed news =
      more.map Prod.fst ++ queued' ++ desk'.inHand)
    (attempts : Dispatch.attempts news = answers form more)
    (posted : Dispatch.posted news = postings more) (waiting : desk'.waiting = queued'.map form) :
    Account form (tr ++ news) desk' (settled ++ more) queued' where
  passed := by
    have all : Dispatch.passed (tr ++ news) = Dispatch.passed tr ++ Dispatch.passed news :=
      List.filterMap_append ..
    rw [all, account.passed, List.append_assoc, List.append_assoc, ← List.append_assoc queued, jobs]
    simp only [List.map_append, List.append_assoc]
  attempts := by
    have all : Dispatch.attempts (tr ++ news) = Dispatch.attempts tr ++ Dispatch.attempts news :=
      List.filterMap_append ..
    rw [all, account.attempts, attempts]
    exact List.filterMap_append.symm
  posted := by
    have all : Dispatch.posted (tr ++ news) = Dispatch.posted tr ++ Dispatch.posted news :=
      List.filterMap_append ..
    rw [all, account.posted, posted]
    exact List.filterMap_append.symm
  waiting := waiting

end Fates

section Moves
variable (form : α → β) (Loss : Prop)

/-- What a desk can do at once. The moves that lose a job need a reason. -/
inductive Move : Desk α β → List (Item α β) → Desk α β → Prop where
  | stay (desk : Desk α β) : Move desk [] desk
  | take (waiting : List β) (job : α) : Move ⟨waiting, []⟩ [.passed job] ⟨waiting, [job]⟩
  | turnAway (job : α) (loss : Loss) : Move ⟨[], []⟩ [.passed job] ⟨[], []⟩
  | giveUp (waiting : List β) (job : α) (loss : Loss) : Move ⟨waiting, [job]⟩ [] ⟨[], []⟩
  | lose (waiting : List β) (inHand : List α) (loss : Loss) : Move ⟨waiting, inHand⟩ [] ⟨[], inHand⟩
  | close (waiting : List β) : Move ⟨waiting, []⟩ [.closed] ⟨[], []⟩
  | queue (waiting : List β) (job : α) : Move ⟨waiting, [job]⟩ [] ⟨waiting ++ [form job], []⟩
  | relay (job : α) : Move ⟨[], [job]⟩ [.attempt (form job) true] ⟨[], []⟩
  | post (job : α) : Move ⟨[], [job]⟩ [.posted job] ⟨[], []⟩
  | refer (job : α) : Move ⟨[], [job]⟩ [.attempt (form job) false, .posted job] ⟨[], []⟩
  | flush (waiting : List β) (inHand : List α) (accepted : List Bool)
      (each : accepted.length = waiting.length) (refused : false ∈ accepted → Loss) :
      Move ⟨waiting, inHand⟩ (List.zipWith .attempt waiting accepted) ⟨[], inHand⟩

variable {form Loss}

/-- What the flush makes of a queued job. -/
def flushed (accepted : Bool) : Fate := if accepted then .relayed else .refused

theorem attempts_flush {queued : List α} {accepted : List Bool}
    (each : accepted.length = queued.length) :
    attempts (List.zipWith .attempt (queued.map form) accepted : List (Item α β)) =
      answers form (queued.zip (accepted.map flushed)) := by
  induction queued generalizing accepted with
  | nil => rfl
  | cons job queued ih =>
    cases accepted with
    | nil => exact absurd each (by simp)
    | cons a accepted =>
      have rest := ih (Nat.succ.inj each)
      cases a with
      | true => exact congrArg (List.cons (form job, true)) rest
      | false => exact congrArg (List.cons (form job, false)) rest

theorem flush_silent (waiting : List β) (accepted : List Bool) :
    passed (List.zipWith .attempt waiting accepted : List (Item α β)) = [] ∧
      posted (List.zipWith .attempt waiting accepted : List (Item α β)) = [] := by
  induction waiting generalizing accepted with
  | nil => exact ⟨rfl, rfl⟩
  | cons b waiting ih =>
    cases accepted with
    | nil => exact ⟨rfl, rfl⟩
    | cons a accepted => exact ih accepted

/-- The flush attempts all that waits, in order. -/
theorem flush_attempts {waiting : List β} {accepted : List Bool}
    (each : accepted.length = waiting.length) :
    (attempts (List.zipWith .attempt waiting accepted : List (Item α β))).map Prod.fst = waiting := by
  induction waiting generalizing accepted with
  | nil => rfl
  | cons b waiting ih =>
    cases accepted with
    | nil => exact absurd each (by simp)
    | cons a accepted => exact congrArg (List.cons b) (ih (Nat.succ.inj each))

theorem flush_open (waiting : List β) (accepted : List Bool) :
    (.closed : Item α β) ∉ List.zipWith .attempt waiting accepted := by
  induction waiting generalizing accepted with
  | nil => exact List.not_mem_nil
  | cons b waiting ih =>
    cases accepted with
    | nil => exact List.not_mem_nil
    | cons a accepted =>
      intro closed
      rcases List.mem_cons.mp closed with first | later
      · exact absurd first nofun
      · exact ih accepted later

/-- A refusal in the flush shows. -/
theorem flush_refused {waiting : List β} {accepted : List Bool}
    (each : accepted.length = waiting.length) (refused : false ∈ accepted) :
    ∃ b, (.attempt b false : Item α β) ∈ List.zipWith .attempt waiting accepted := by
  induction waiting generalizing accepted with
  | nil =>
    obtain rfl := List.length_eq_zero_iff.mp each
    exact absurd refused List.not_mem_nil
  | cons b waiting ih =>
    cases accepted with
    | nil => exact absurd refused List.not_mem_nil
    | cons a accepted =>
      rcases List.mem_cons.mp refused with rfl | later
      · exact ⟨b, List.mem_cons_self⟩
      · obtain ⟨b', member⟩ := ih (Nat.succ.inj each) later
        exact ⟨b', List.mem_cons_of_mem _ member⟩

theorem postings_flush (queued : List α) (accepted : List Bool) :
    postings (queued.zip (accepted.map flushed)) = [] := by
  induction queued generalizing accepted with
  | nil => rfl
  | cons job queued ih =>
    cases accepted with
    | nil => rfl
    | cons a accepted => cases a <;> exact ih accepted

theorem postings_dropped (jobs : List α) : postings (jobs.map (·, Fate.dropped)) = [] := by
  induction jobs with
  | nil => rfl
  | cons job jobs ih => exact ih

theorem answers_dropped (jobs : List α) : answers form (jobs.map (·, Fate.dropped)) = [] := by
  induction jobs with
  | nil => rfl
  | cons job jobs ih => exact ih

/-- A move keeps the account; without a reason to lose a job it settles jobs that are kept,
unless the desk closes. -/
theorem Move.account {tr news : List (Item α β)} {desk desk' : Desk α β}
    {settled : List (α × Fate)} {queued : List α} (move : Move form Loss desk news desk')
    (account : Account form tr desk settled queued) :
    ∃ more queued', Account form (tr ++ news) desk' (settled ++ more) queued' ∧
      (¬ Loss → .closed ∉ news → ∀ s ∈ more, s.2.kept = true) := by
  have waiting := account.waiting
  cases move with
  | stay =>
    exact ⟨[], queued, account.settle (by simp [passed]) rfl rfl waiting, fun _ _ => by simp⟩
  | take w job =>
    exact ⟨[], queued, account.settle (by simp [passed]) rfl rfl waiting, fun _ _ => by simp⟩
  | turnAway job loss =>
    obtain rfl : queued = [] := List.map_eq_nil_iff.mp waiting.symm
    exact ⟨[(job, .dropped)], [], account.settle rfl rfl rfl rfl, fun safe => absurd loss safe⟩
  | giveUp w job loss =>
    refine ⟨(queued ++ [job]).map (·, .dropped), [], account.settle ?_ ?_ ?_ rfl,
      fun safe => absurd loss safe⟩
    · simp [passed, Function.comp_def]
    · rw [answers_dropped]
      rfl
    · rw [postings_dropped]
      rfl
  | lose w inHand loss =>
    refine ⟨queued.map (·, .dropped), [], account.settle ?_ ?_ ?_ rfl, fun safe => absurd loss safe⟩
    · simp [passed, Function.comp_def]
    · rw [answers_dropped]
      rfl
    · rw [postings_dropped]
      rfl
  | close w =>
    refine ⟨queued.map (·, .dropped), [], account.settle ?_ ?_ ?_ rfl,
      fun _ notClosed => absurd List.mem_cons_self notClosed⟩
    · simp [passed, Function.comp_def]
    · rw [answers_dropped]
      rfl
    · rw [postings_dropped]
      rfl
  | queue w job =>
    refine ⟨[], queued ++ [job], account.settle (by simp [passed]) rfl rfl ?_, fun _ _ => by simp⟩
    rw [List.map_append, ← waiting]
    rfl
  | relay job =>
    obtain rfl : queued = [] := List.map_eq_nil_iff.mp waiting.symm
    exact ⟨[(job, .relayed)], [], account.settle rfl rfl rfl rfl, fun _ _ => by simp [Fate.kept]⟩
  | post job =>
    obtain rfl : queued = [] := List.map_eq_nil_iff.mp waiting.symm
    exact ⟨[(job, .posted false)], [], account.settle rfl rfl rfl rfl,
      fun _ _ => by simp [Fate.kept]⟩
  | refer job =>
    obtain rfl : queued = [] := List.map_eq_nil_iff.mp waiting.symm
    exact ⟨[(job, .posted true)], [], account.settle rfl rfl rfl rfl,
      fun _ _ => by simp [Fate.kept]⟩
  | flush w inHand accepted each refused =>
    subst waiting
    have each' : accepted.length = queued.length := by rw [each, List.length_map]
    obtain ⟨noPassed, noPosted⟩ := flush_silent (queued.map form) accepted
    refine ⟨queued.zip (accepted.map flushed), [], account.settle ?_ (attempts_flush each') ?_ rfl,
      fun safe _ => ?_⟩
    · rw [noPassed, List.map_fst_zip (by simp [each'])]
      simp
    · rw [noPosted, postings_flush]
    · rintro ⟨job, fate⟩ member
      obtain ⟨a, present, rfl⟩ := List.mem_map.mp (List.of_mem_zip member).2
      cases a with
      | true => rfl
      | false => exact absurd (refused present) safe

/-- Without a job in hand nothing is queued. -/
theorem Move.unqueued {news : List (Item α β)} {waiting : List β}
    (move : Move form Loss ⟨[], []⟩ news ⟨waiting, []⟩) : waiting = [] := by
  cases move with
  | stay | turnAway | lose | close | flush => rfl

/-- Only the close of a desk shows as such, and it leaves the desk empty. -/
theorem Move.closes {news : List (Item α β)} {desk desk' : Desk α β}
    (move : Move form Loss desk news desk') (closing : .closed ∈ news) :
    news = [.closed] ∧ desk' = ⟨[], []⟩ := by
  cases move with
  | close w => exact ⟨rfl, rfl⟩
  | flush w inHand accepted each refused => exact absurd closing (flush_open w accepted)
  | stay | take | turnAway | giveUp | lose | queue | relay | post | refer => simp at closing

end Moves

section Conservation
variable {form : α → β}

def isOpen : Item α β → Bool
  | .closed => false
  | _ => true

/-- What was seen since the desk was closed last. -/
def sinceClosed (tr : List (Item α β)) : List (Item α β) := tr.rtakeWhile isOpen

/-- Every job passed since then was relayed or posted, is waiting, or is in hand. -/
def Conserved (form : α → β) (tr : List (Item α β)) (desk : Desk α β) : Prop :=
  ∃ settled queued, Account form (sinceClosed tr) desk settled queued ∧
    ∀ s ∈ settled, s.2.kept = true

theorem Conserved.initial : Conserved form ([] : List (Item α β)) ⟨[], []⟩ :=
  ⟨[], [], .initial, by simp⟩

/-- Nothing that was passed since the last close is missing. -/
theorem Conserved.balance {tr : List (Item α β)} {desk : Desk α β}
    (conserved : Conserved form tr desk) :
    (passed (sinceClosed tr)).length = (relayed (sinceClosed tr)).length +
      (posted (sinceClosed tr)).length + desk.waiting.length + desk.inHand.length := by
  obtain ⟨settled, queued, account, kept⟩ := conserved
  have settled_length := kept_length form kept
  rw [account.passed, relayed, account.attempts, account.posted, account.waiting]
  simp only [List.length_append, List.length_map]
  omega

theorem Conserved.move {Loss : Prop} {tr news : List (Item α β)} {desk desk' : Desk α β}
    (conserved : Conserved form tr desk) (move : Move form Loss desk news desk') (safe : ¬ Loss) :
    Conserved form (tr ++ news) desk' := by
  by_cases closing : .closed ∈ news
  · obtain ⟨rfl, rfl⟩ := move.closes closing
    have none : sinceClosed (tr ++ [.closed]) = [] :=
      List.rtakeWhile_concat_neg _ _ _ (by simp [isOpen])
    refine ⟨[], [], ?_, by simp⟩
    rw [none]
    exact .initial
  · obtain ⟨settled, queued, account, kept⟩ := conserved
    obtain ⟨more, queued', account', kept'⟩ := move.account account
    have pass : ∀ item ∈ news, isOpen item = true := by
      intro item member
      cases item with
      | closed => exact absurd member closing
      | _ => rfl
    refine ⟨settled ++ more, queued', ?_, ?_⟩
    · rw [sinceClosed, Mealy.rtakeWhile_append tr pass]
      exact account'
    · intro s member
      rcases List.mem_append.mp member with old | new
      · exact kept s old
      · exact kept' safe closing s new

end Conservation

end Dispatch
