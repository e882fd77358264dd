import Mathlib.Algebra.Order.BigOperators.Group.Finset
import Mathlib.Data.Fintype.BigOperators
import QvNetfilter.Mealy

/-!
# Threads with locks

The code of a thread is cut down to what concerns other threads: the scopes in which it
holds a lock, the tables that it touches, and the threads whose end it waits for. What the
code computes is left open, so that a branch may go either way and a loop may run any number
of times. A lock is held in a scope, and given back where the scope ends.
-/

namespace Locking

universe u

inductive Code (Th L R : Type u) where
  | skip
  | access (table : R)
  | seq (first second : Code Th L R)
  | choose (left right : Code Th L R)
  | loop (body : Code Th L R)
  | locked (l : L) (body : Code Th L R)
  | join (thread : Th)

/-- What a thread has still to do. -/
inductive Item (Th L R : Type u) where
  | code (c : Code Th L R)
  | unlock (l : L)

section Stacks
variable {Th L R : Type u}

/-- The locks that the thread holds. -/
def held : List (Item Th L R) → List L
  | [] => []
  | .code _ :: rest => held rest
  | .unlock l :: rest => l :: held rest

namespace Code

/-- The threads that have ended when the code has. -/
def joins : Code Th L R → List Th
  | .seq first second => first.joins ++ second.joins
  | .locked _ body => body.joins
  | .join thread => [thread]
  | .skip => []
  | .access _ => []
  | .choose _ _ => []
  | .loop _ => []

/-- The steps that the code takes at most when its loops are left at once. -/
def weight : Code Th L R → Nat
  | .skip => 1
  | .access _ => 1
  | .seq first second => first.weight + second.weight + 1
  | .choose left right => left.weight + right.weight + 1
  | .loop body => body.weight + 1
  | .locked _ body => body.weight + 2
  | .join _ => 1

/-- One piece of code after the other. -/
def seqs : List (Code Th L R) → Code Th L R
  | [] => .skip
  | [c] => c
  | c :: rest => .seq c (seqs rest)

/-- One of several pieces of code. -/
def oneOf : List (Code Th L R) → Code Th L R
  | [] => .skip
  | [c] => c
  | c :: rest => .choose c (oneOf rest)

/-- The code may be left out. -/
abbrev optional (c : Code Th L R) : Code Th L R := .choose .skip c

end Code

def weight : List (Item Th L R) → Nat
  | [] => 0
  | .code c :: rest => c.weight + weight rest
  | .unlock _ :: rest => weight rest + 1

end Stacks

/-- What a thread's code has to meet, with the locks that are held and the threads that have
ended; that more threads have ended never hurts. -/
structure Condition (Th L R : Type u) where
  holds : Th → List L → List Th → Code Th L R → Prop
  mono : ∀ {thread locks ended ended' c}, ended ⊆ ended' → holds thread locks ended c →
    holds thread locks ended' c

section Conditions
variable {Th L R : Type u} {P : Condition Th L R} {thread : Th}

/-- Every piece of the code meets the condition where it stands. -/
def Everywhere (P : Condition Th L R) (thread : Th) (locks : List L) (ended : List Th)
    (c : Code Th L R) : Prop :=
  P.holds thread locks ended c ∧ match c with
    | .seq first second => Everywhere P thread locks ended first ∧
        Everywhere P thread locks (ended ++ first.joins) second
    | .choose left right => Everywhere P thread locks ended left ∧
        Everywhere P thread locks ended right
    | .loop body => Everywhere P thread locks ended body
    | .locked l body => Everywhere P thread (l :: locks) ended body
    | .skip => True
    | .access _ => True
    | .join _ => True

theorem Everywhere.here {locks : List L} {ended : List Th} {c : Code Th L R}
    (all : Everywhere P thread locks ended c) : P.holds thread locks ended c := by
  cases c <;> exact all.1

instance decidableEverywhere
    [∀ thread locks ended c, Decidable (P.holds thread locks ended c)] (thread : Th) :
    ∀ (locks : List L) (ended : List Th) (c : Code Th L R),
      Decidable (Everywhere P thread locks ended c)
  | locks, ended, .seq first second =>
    have := decidableEverywhere thread locks ended first
    have := decidableEverywhere thread locks (ended ++ first.joins) second
    inferInstanceAs (Decidable (P.holds thread locks ended (.seq first second) ∧ _ ∧ _))
  | locks, ended, .choose left right =>
    have := decidableEverywhere thread locks ended left
    have := decidableEverywhere thread locks ended right
    inferInstanceAs (Decidable (P.holds thread locks ended (.choose left right) ∧ _ ∧ _))
  | locks, ended, .loop body =>
    have := decidableEverywhere thread locks ended body
    inferInstanceAs (Decidable (P.holds thread locks ended (.loop body) ∧ _))
  | locks, ended, .locked l body =>
    have := decidableEverywhere thread (l :: locks) ended body
    inferInstanceAs (Decidable (P.holds thread locks ended (.locked l body) ∧ _))
  | locks, ended, .skip => inferInstanceAs (Decidable (P.holds thread locks ended .skip ∧ True))
  | locks, ended, .access table =>
    inferInstanceAs (Decidable (P.holds thread locks ended (.access table) ∧ True))
  | locks, ended, .join other =>
    inferInstanceAs (Decidable (P.holds thread locks ended (.join other) ∧ True))

/-- Whatever a thread has still to do meets the condition. -/
def Ahead (P : Condition Th L R) (thread : Th) : List Th → List (Item Th L R) → Prop
  | _, [] => True
  | ended, .code c :: rest =>
    Everywhere P thread (held rest) ended c ∧ Ahead P thread (ended ++ c.joins) rest
  | ended, .unlock _ :: rest => Ahead P thread ended rest

theorem append_mono {ended ended' : List Th} (more : ended ⊆ ended') (joined : List Th) :
    ended ++ joined ⊆ ended' ++ joined :=
  List.append_subset.mpr ⟨List.subset_append_of_subset_left joined more,
    List.subset_append_right ended' joined⟩

theorem Everywhere.mono {locks : List L} {ended ended' : List Th} {c : Code Th L R}
    (all : Everywhere P thread locks ended c) (more : ended ⊆ ended') :
    Everywhere P thread locks ended' c := by
  induction c generalizing locks ended ended' with
  | seq first second ihFirst ihSecond =>
    obtain ⟨here, early, late⟩ := all
    exact ⟨P.mono more here, ihFirst early more,
      ihSecond late (append_mono more _)⟩
  | choose left right ihLeft ihRight =>
    obtain ⟨here, one, two⟩ := all
    exact ⟨P.mono more here, ihLeft one more, ihRight two more⟩
  | loop body ih => exact ⟨P.mono more all.1, ih all.2 more⟩
  | locked l body ih => exact ⟨P.mono more all.1, ih all.2 more⟩
  | skip | access | join => exact ⟨P.mono more all.1, trivial⟩

theorem Ahead.mono {ended ended' : List Th} {stack : List (Item Th L R)}
    (ahead : Ahead P thread ended stack) (more : ended ⊆ ended') :
    Ahead P thread ended' stack := by
  induction stack generalizing ended ended' with
  | nil => trivial
  | cons item rest ih =>
    cases item with
    | code c => exact ⟨ahead.1.mono more, ih ahead.2 (append_mono more _)⟩
    | unlock l => exact ih ahead more

end Conditions

/-- What every thread has still to do. -/
abbrev Threads (Th L R : Type u) := Th → List (Item Th L R)

/-- A thread's turn, with the branch that it takes and whether it stays in a loop. -/
structure Turn (Th : Type u) where
  thread : Th
  left : Bool
  again : Bool

section States
variable {Th L R : Type u} {P : Condition Th L R} {s : Threads Th L R}

/-- A lock is held by one thread. -/
def Exclusive (s : Threads Th L R) : Prop :=
  ∀ l i j, l ∈ held (s i) → l ∈ held (s j) → i = j

/-- The locks are held by one thread each, and everything ahead meets its condition, given the
threads that have ended. -/
structure Sound (P : Condition Th L R) (s : Threads Th L R) : Prop where
  exclusive : Exclusive s
  ahead : ∀ thread, ∃ ended, (∀ other ∈ ended, s other = []) ∧ Ahead P thread ended (s thread)

theorem Sound.initial {program : Th → Code Th L R}
    (meets : ∀ thread, Everywhere P thread [] [] (program thread)) :
    Sound P (fun thread => [.code (program thread)]) := by
  constructor
  · intro l i j mem
    cases mem
  · intro thread
    exact ⟨[], by simp, meets thread, trivial⟩

theorem unfinished_of_held {thread : Th} {l : L} (mem : l ∈ held (s thread)) :
    s thread ≠ [] := by
  intro ended
  rw [ended] at mem
  cases mem

/-- The thread is about to touch the table. -/
def Standing (s : Threads Th L R) (thread : Th) (table : R) : Prop :=
  ∃ rest, s thread = .code (.access table) :: rest

/-- Two threads are about to touch the same table. -/
def Conflict (s : Threads Th L R) (table : R) (i j : Th) : Prop :=
  i ≠ j ∧ Standing s i table ∧ Standing s j table

/-- The table that the thread is about to touch. -/
def touches (s : Threads Th L R) (thread : Th) : Option R :=
  match s thread with
  | .code (.access table) :: _ => some table
  | _ => none

theorem standing_iff {thread : Th} {table : R} :
    Standing s thread table ↔ touches s thread = some table := by
  constructor
  · rintro ⟨rest, there⟩
    rw [touches, there]
  · intro found
    simp only [touches] at found
    split at found
    · rename_i there
      obtain rfl := Option.some_inj.mp found
      exact ⟨_, there⟩
    · cases found

instance [DecidableEq R] (thread : Th) (table : R) : Decidable (Standing s thread table) :=
  decidable_of_iff _ standing_iff.symm

instance [DecidableEq Th] [DecidableEq R] (table : R) (i j : Th) :
    Decidable (Conflict s table i j) :=
  inferInstanceAs (Decidable (_ ∧ _ ∧ _))

theorem Sound.standing (sound : Sound P s) {thread : Th} {table : R}
    (standing : Standing s thread table) : ∃ ended, (∀ other ∈ ended, s other = []) ∧
      P.holds thread (held (s thread)) ended (.access table) := by
  obtain ⟨rest, there⟩ := standing
  obtain ⟨ended, all, ahead⟩ := sound.ahead thread
  rw [there] at ahead ⊢
  exact ⟨ended, all, ahead.1.1⟩

end States

section Machine
variable {Th L R : Type u} [Fintype Th] [DecidableEq Th] [DecidableEq L]

/-- Nobody else holds the lock, and the thread holds it only if it may enter it twice. -/
def MayEnter (recursive : L → Bool) (s : Threads Th L R) (thread : Th) (l : L) : Prop :=
  (∀ other, l ∈ held (s other) → other = thread) ∧ (l ∈ held (s thread) → recursive l = true)

instance (recursive : L → Bool) (s : Threads Th L R) (thread : Th) (l : L) :
    Decidable (MayEnter recursive s thread l) :=
  inferInstanceAs (Decidable (_ ∧ _))

/-- The rest of a thread after its turn, if it is not blocked. -/
def next (recursive : L → Bool) (s : Threads Th L R) (turn : Turn Th) :
    List (Item Th L R) → Option (List (Item Th L R))
  | [] => none
  | .unlock _ :: rest => some rest
  | .code .skip :: rest => some rest
  | .code (.access _) :: rest => some rest
  | .code (.seq first second) :: rest => some (.code first :: .code second :: rest)
  | .code (.choose left right) :: rest =>
    some (.code (if turn.left then left else right) :: rest)
  | .code (.loop body) :: rest =>
    some (if turn.again then .code body :: .code (.loop body) :: rest else rest)
  | .code (.locked l body) :: rest =>
    if MayEnter recursive s turn.thread l then some (.code body :: .unlock l :: rest) else none
  | .code (.join thread) :: rest => if (s thread).isEmpty then some rest else none

def machine (recursive : L → Bool) : Mealy.Machine (Threads Th L R) (Turn Th) Unit where
  step s turn :=
    match next recursive s turn (s turn.thread) with
    | none => (s, [])
    | some rest => (Function.update s turn.thread rest, [])

end Machine

section Invariants
variable {Th L R : Type u} [Fintype Th] [DecidableEq Th] [DecidableEq L]
  {recursive : L → Bool} {s : Threads Th L R} {turn : Turn Th}

/-- Everything that a turn can do. -/
inductive Turned (recursive : L → Bool) (s : Threads Th L R) (turn : Turn Th) :
    List (Item Th L R) → List (Item Th L R) → Prop where
  | unlock {l rest} : Turned recursive s turn (.unlock l :: rest) rest
  | skip {rest} : Turned recursive s turn (.code .skip :: rest) rest
  | access {table rest} : Turned recursive s turn (.code (.access table) :: rest) rest
  | seq {first second rest} : Turned recursive s turn (.code (.seq first second) :: rest)
      (.code first :: .code second :: rest)
  | left {left right rest} :
      Turned recursive s turn (.code (.choose left right) :: rest) (.code left :: rest)
  | right {left right rest} :
      Turned recursive s turn (.code (.choose left right) :: rest) (.code right :: rest)
  | again {body rest} (stays : turn.again = true) :
      Turned recursive s turn (.code (.loop body) :: rest)
        (.code body :: .code (.loop body) :: rest)
  | leaves {body rest} : Turned recursive s turn (.code (.loop body) :: rest) rest
  | locked {l body rest} (may : MayEnter recursive s turn.thread l) :
      Turned recursive s turn (.code (.locked l body) :: rest) (.code body :: .unlock l :: rest)
  | join {thread rest} (ended : s thread = []) :
      Turned recursive s turn (.code (.join thread) :: rest) rest

theorem turned_next {stack rest : List (Item Th L R)}
    (turned : next recursive s turn stack = some rest) : Turned recursive s turn stack rest := by
  cases stack with
  | nil => cases turned
  | cons item more =>
    cases item with
    | unlock l =>
      obtain rfl := Option.some_inj.mp turned
      exact .unlock
    | code c =>
      cases c with
      | skip =>
        obtain rfl := Option.some_inj.mp turned
        exact .skip
      | access table =>
        obtain rfl := Option.some_inj.mp turned
        exact .access
      | seq first second =>
        obtain rfl := Option.some_inj.mp turned
        exact .seq
      | choose left right =>
        obtain rfl := Option.some_inj.mp turned
        split
        · exact .left
        · exact .right
      | loop body =>
        obtain rfl := Option.some_inj.mp turned
        split
        · rename_i stays
          exact .again stays
        · exact .leaves
      | locked l body =>
        simp only [next, Option.ite_none_right_eq_some] at turned
        obtain ⟨may, same⟩ := turned
        obtain rfl := Option.some_inj.mp same
        exact .locked may
      | join thread =>
        simp only [next, Option.ite_none_right_eq_some] at turned
        obtain ⟨ended, same⟩ := turned
        obtain rfl := Option.some_inj.mp same
        exact .join (List.isEmpty_iff.mp ended)

/-- A turn takes a lock that nobody else holds, or no lock. -/
theorem held_next {stack rest : List (Item Th L R)}
    (turned : next recursive s turn stack = some rest) {l : L} (mem : l ∈ held rest) :
    l ∈ held stack ∨ ∀ other, l ∈ held (s other) → other = turn.thread := by
  cases turned_next turned with
  | unlock => exact .inl (List.mem_cons_of_mem _ mem)
  | locked may =>
    rcases List.mem_cons.mp mem with rfl | mem
    · exact .inr may.1
    · exact .inl mem
  | skip | access | seq | left | right | again | leaves | join => exact .inl mem

/-- What is ahead after a turn, with the thread that it has waited for. -/
theorem ahead_next {P : Condition Th L R} {ended : List Th} {stack rest : List (Item Th L R)}
    (all : ∀ other ∈ ended, s other = []) (ahead : Ahead P turn.thread ended stack)
    (turned : next recursive s turn stack = some rest) :
    ∃ ended', (∀ other ∈ ended', s other = []) ∧ Ahead P turn.thread ended' rest := by
  cases turned_next turned with
  | unlock => exact ⟨ended, all, ahead⟩
  | skip | access | leaves =>
    obtain ⟨_, later⟩ := ahead
    rw [Code.joins, List.append_nil] at later
    exact ⟨ended, all, later⟩
  | seq =>
    obtain ⟨here, later⟩ := ahead
    rw [Code.joins, ← List.append_assoc] at later
    exact ⟨ended, all, here.2.1, here.2.2, later⟩
  | left =>
    obtain ⟨here, later⟩ := ahead
    rw [Code.joins, List.append_nil] at later
    exact ⟨ended, all, here.2.1, later.mono (List.subset_append_left ..)⟩
  | right =>
    obtain ⟨here, later⟩ := ahead
    rw [Code.joins, List.append_nil] at later
    exact ⟨ended, all, here.2.2, later.mono (List.subset_append_left ..)⟩
  | @again body _ stays =>
    obtain ⟨here, later⟩ := ahead
    rw [Code.joins, List.append_nil] at later
    have further : ended ⊆ ended ++ body.joins := List.subset_append_left ..
    exact ⟨ended, all, here.2, here.mono further,
      later.mono (List.subset_append_of_subset_left [] further)⟩
  | locked may => exact ⟨ended, all, ahead.1.2, ahead.2⟩
  | @join thread _ finished =>
    refine ⟨ended ++ [thread], ?_, ahead.2⟩
    intro other mem
    rcases List.mem_append.mp mem with before | now
    · exact all other before
    · obtain rfl := List.mem_singleton.mp now
      exact finished

/-- A turn that leaves its loop brings the thread nearer to its end. -/
theorem weight_next {stack rest : List (Item Th L R)} (leaves : turn.again = false)
    (turned : next recursive s turn stack = some rest) : weight rest < weight stack := by
  cases turned_next turned with
  | unlock => exact Nat.lt_succ_self _
  | again stays =>
    rw [leaves] at stays
    cases stays
  | skip | access | seq | left | right | leaves | locked | join =>
    simp only [weight, Code.weight]
    omega

theorem step_none (blocked : next recursive s turn (s turn.thread) = none) :
    ((machine recursive).step s turn).1 = s := by
  simp only [machine, blocked]

theorem step_some {rest : List (Item Th L R)}
    (turned : next recursive s turn (s turn.thread) = some rest) :
    ((machine recursive).step s turn).1 = Function.update s turn.thread rest := by
  simp only [machine, turned]

theorem Sound.step {P : Condition Th L R} (sound : Sound P s) (turn : Turn Th) :
    Sound P ((machine recursive).step s turn).1 := by
  cases turned : next recursive s turn (s turn.thread) with
  | none =>
    rw [step_none turned]
    exact sound
  | some rest =>
    rw [step_some turned]
    obtain ⟨exclusive, ahead⟩ := sound
    have taken : ∀ l j, l ∈ held rest → l ∈ held (s j) → j = turn.thread := by
      intro l j mem other
      rcases held_next turned mem with before | alone
      · exact exclusive l j turn.thread other before
      · exact alone j other
    constructor
    · intro l i j first second
      by_cases own : i = turn.thread <;> by_cases own' : j = turn.thread
      · rw [own, own']
      · subst own
        rw [Function.update_self] at first
        rw [Function.update_of_ne own'] at second
        exact (taken l j first second).symm
      · subst own'
        rw [Function.update_of_ne own] at first
        rw [Function.update_self] at second
        exact taken l i second first
      · rw [Function.update_of_ne own] at first
        rw [Function.update_of_ne own'] at second
        exact exclusive l i j first second
    · intro thread
      have stays : ∀ other, s other = [] → Function.update s turn.thread rest other = [] := by
        intro other gone
        by_cases own : other = turn.thread
        · rw [← own, gone] at turned
          cases turned
        · rw [Function.update_of_ne own, gone]
      obtain ⟨ended, all, there⟩ := ahead thread
      by_cases own : thread = turn.thread
      · subst own
        obtain ⟨ended', all', there'⟩ := ahead_next all there turned
        rw [Function.update_self]
        exact ⟨ended', fun other mem => stays other (all' other mem), there'⟩
      · rw [Function.update_of_ne own]
        exact ⟨ended, fun other mem => stays other (all other mem), there⟩

theorem Sound.run {P : Condition Th L R} (sound : Sound P s)
    (turns : List (Turn Th)) : Sound P ((machine recursive).run s turns) := by
  induction turns generalizing s with
  | nil => exact sound
  | cons turn turns ih => exact ih (sound.step turn)

end Invariants

section Order
variable {Th L R : Type u}

/-- An order of the locks and one of the threads. -/
structure Order (Th L : Type u) where
  recursive : L → Bool
  rank : L → Nat
  bound : Nat
  bounded : ∀ l, rank l < bound
  level : Th → Nat

/-- A lock is entered again, or it is above all that are held; a thread waits for lower ones,
and holds nothing then. -/
def ordered (order : Order Th L) : Condition Th L R where
  holds thread locks _ c :=
    match c with
    | .locked l _ => (l ∈ locks ∧ order.recursive l = true) ∨
        ∀ l' ∈ locks, order.rank l' < order.rank l
    | .join other => locks = [] ∧ order.level other < order.level thread
    | _ => True
  mono _ holds := holds

instance [DecidableEq Th] [DecidableEq L] (order : Order Th L) (thread : Th) (locks : List L)
    (ended : List Th) :
    ∀ c : Code Th L R, Decidable ((ordered order).holds thread locks ended c)
  | .locked l _ => inferInstanceAs (Decidable ((l ∈ locks ∧ order.recursive l = true) ∨
      ∀ l' ∈ locks, order.rank l' < order.rank l))
  | .join other =>
    inferInstanceAs (Decidable (locks = [] ∧ order.level other < order.level thread))
  | .skip => isTrue trivial
  | .access _ => isTrue trivial
  | .seq _ _ => isTrue trivial
  | .choose _ _ => isTrue trivial
  | .loop _ => isTrue trivial

variable [Fintype Th] [DecidableEq Th] [DecidableEq L] {order : Order Th L} {s : Threads Th L R}

/-- The thread is not blocked, whatever its turn brings. -/
def Free (recursive : L → Bool) (s : Threads Th L R) (thread : Th) : Prop :=
  ∀ left again, next recursive s ⟨thread, left, again⟩ (s thread) ≠ none

/-- What a thread waits for. -/
theorem free_or_waits (sound : Sound (ordered order) s) {thread : Th}
    (unfinished : s thread ≠ []) : Free order.recursive s thread ∨
      (∃ l holder, l ∈ held (s holder) ∧ ∀ l' ∈ held (s thread), order.rank l' < order.rank l) ∨
      (held (s thread) = [] ∧ ∃ other, s other ≠ [] ∧ order.level other < order.level thread) := by
  obtain ⟨ended, _, ahead⟩ := sound.ahead thread
  cases stack : s thread with
  | nil => exact absurd stack unfinished
  | cons item rest =>
    rw [stack] at ahead
    cases item with
    | unlock l =>
      left
      intro left again
      rw [stack]
      simp [next]
    | code c =>
      have here : (ordered order).holds thread (held rest) ended c := ahead.1.here
      cases c with
      | skip | access | seq | choose | loop =>
        left
        intro left again
        rw [stack]
        simp [next]
      | locked l body =>
        by_cases may : MayEnter order.recursive s thread l
        · left
          intro left again
          rw [stack]
          simp [next, may]
        · right
          left
          have own : held (s thread) = held rest := by rw [stack]; rfl
          have below : ∀ l' ∈ held rest, order.rank l' < order.rank l := by
            rcases here with ⟨entered, twice⟩ | below
            · rw [← own] at entered
              exact absurd ⟨fun other mem => sound.exclusive l other thread mem entered,
                fun _ => twice⟩ may
            · exact below
          have fresh : l ∉ held (s thread) := by
            rw [own]
            exact fun mem => Nat.lt_irrefl _ (below l mem)
          obtain ⟨holder, mem⟩ : ∃ holder, l ∈ held (s holder) := by
            by_contra none
            exact may ⟨fun other mem => absurd ⟨other, mem⟩ none, fun mem => absurd mem fresh⟩
          exact ⟨l, holder, mem, below⟩
      | join other =>
        obtain ⟨none, lower⟩ := here
        by_cases ended : s other = []
        · left
          intro left again
          rw [stack]
          simp [next, ended]
        · exact .inr (.inr ⟨none, other, ended, lower⟩)

/-- Whoever holds a lock is not blocked, or waits for somebody who is not: the induction is
on the locks above. -/
theorem free_of_holder (sound : Sound (ordered order) s) (n : Nat) {l : L} {holder : Th}
    (mem : l ∈ held (s holder)) (near : order.bound ≤ order.rank l + n) :
    ∃ thread, s thread ≠ [] ∧ Free order.recursive s thread := by
  induction n generalizing l holder with
  | zero =>
    have bounded := order.bounded l
    omega
  | succ n ih =>
    have unfinished := unfinished_of_held mem
    rcases free_or_waits sound unfinished with free | ⟨l', holder', mem', below⟩ | ⟨none, _⟩
    · exact ⟨holder, unfinished, free⟩
    · have above := below l mem
      exact ih mem' (by omega)
    · rw [none] at mem
      cases mem

/-- As long as a thread has not ended, some thread is not blocked. -/
theorem exists_free (sound : Sound (ordered order) s) {thread : Th} (unfinished : s thread ≠ []) :
    ∃ free, s free ≠ [] ∧ Free order.recursive s free := by
  induction level : order.level thread using Nat.strong_induction_on generalizing thread with
  | _ n ih =>
    rcases free_or_waits sound unfinished with free | ⟨l, holder, mem, _⟩ | ⟨_, other, more, lower⟩
    · exact ⟨thread, unfinished, free⟩
    · exact free_of_holder sound order.bound mem (Nat.le_add_left ..)
    · exact ih (order.level other) (level ▸ lower) more rfl

/-- The threads take turns and leave their loops, while the data decides the branches. -/
def drive (recursive : L → Bool) (data : Threads Th L R → Th → Bool) (s : Threads Th L R) :
    List Th → Threads Th L R
  | [] => s
  | thread :: rest =>
    drive recursive data ((machine recursive).step s ⟨thread, data s thread, false⟩).1 rest

/-- From every such state, and however the branches are taken, the threads can take turns
such that all of them end. -/
theorem everyone_ends (sound : Sound (ordered order) s) (data : Threads Th L R → Th → Bool) :
    ∃ schedule, ∀ thread, drive order.recursive data s schedule thread = [] := by
  induction total : ∑ thread, weight (s thread) using Nat.strong_induction_on generalizing s with
  | _ n ih =>
    by_cases ended : ∀ thread, s thread = []
    · exact ⟨[], ended⟩
    · obtain ⟨thread, unfinished⟩ := not_forall.mp ended
      obtain ⟨runner, _, free⟩ := exists_free sound unfinished
      let turn : Turn Th := ⟨runner, data s runner, false⟩
      obtain ⟨rest, turned⟩ := Option.ne_none_iff_exists'.mp (free (data s runner) false)
      have after : ((machine order.recursive).step s turn).1 = Function.update s runner rest :=
        step_some turned
      have less : ∑ thread, weight (Function.update s runner rest thread) < n := by
        rw [← total]
        apply Finset.sum_lt_sum
        · intro other _
          by_cases own : other = runner
          · subst own
            rw [Function.update_self]
            exact (weight_next rfl turned).le
          · rw [Function.update_of_ne own]
        · refine ⟨runner, Finset.mem_univ runner, ?_⟩
          rw [Function.update_self]
          exact weight_next rfl turned
      have later : Sound (ordered order) (Function.update s runner rest) := after ▸ sound.step turn
      obtain ⟨schedule, all⟩ := ih _ less later rfl
      refine ⟨runner :: schedule, ?_⟩
      intro other
      change drive order.recursive data ((machine order.recursive).step s turn).1 schedule other = []
      rw [after]
      exact all other

end Order

end Locking
