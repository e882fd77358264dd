import Mathlib.Data.List.DropRight
import Mathlib.Logic.Function.Basic

/-!
# Machines with outputs

A machine consumes one event at a time and emits a list of outputs. Its trace
pairs every event with what it emitted, so that a property of a run can speak
of the order of inputs and outputs together. A family runs one copy of a
machine for every index; seen from one index, the run of the family is the run
of a single machine over the events addressed to that index.
-/

namespace Mealy

universe u v w x

/-- An element of a list is its last one or lies before the last one. -/
theorem split_last {α : Type*} {front xs ys : List α} {last a : α}
    (split : front ++ [last] = xs ++ a :: ys) :
    (a = last ∧ xs = front) ∨ ∃ ys', ys = ys' ++ [last] ∧ front = xs ++ a :: ys' := by
  rcases List.eq_nil_or_concat ys with rfl | ⟨ys', b, rfl⟩
  · obtain ⟨hfront, hlast⟩ := List.append_inj' split rfl
    exact Or.inl ⟨(List.cons.inj hlast).1.symm, hfront.symm⟩
  · rw [List.concat_eq_append, ← List.cons_append, ← List.append_assoc] at split
    obtain ⟨hfront, hlast⟩ := List.append_inj' split rfl
    obtain ⟨rfl, _⟩ := List.cons.inj hlast
    exact Or.inr ⟨ys', List.concat_eq_append, hfront⟩

/-- An element that the front of a list lacks lies in its back. -/
theorem split_beyond {α : Type*} {front back xs ys : List α} {a : α}
    (split : front ++ back = xs ++ a :: ys) (lacks : a ∉ front) :
    ∃ mid, xs = front ++ mid ∧ back = mid ++ a :: ys := by
  rcases List.append_eq_append_iff.mp split with h | ⟨mid, hfront, hback⟩
  · exact h
  · cases mid with
    | nil => exact ⟨[], by simpa using hfront.symm, by simpa using hback.symm⟩
    | cons b mid =>
      obtain ⟨rfl, _⟩ := List.cons.inj hback
      exact absurd (hfront ▸ List.mem_append_right _ List.mem_cons_self) lacks

/-- What passes the test behind a list belongs to the part that passes it. -/
theorem rtakeWhile_append {α : Type*} {p : α → Bool} (xs : List α) {news : List α}
    (pass : ∀ a ∈ news, p a = true) :
    (xs ++ news).rtakeWhile p = xs.rtakeWhile p ++ news := by
  have pass' : ∀ a ∈ news.reverse, p a = true := fun a ha => pass a (List.mem_reverse.mp ha)
  simp [List.rtakeWhile, List.takeWhile_append_of_pos pass']

structure Machine (σ : Type u) (ε : Type v) (ω : Type w) where
  step : σ → ε → σ × List ω

namespace Machine
variable {σ : Type u} {ε : Type v} {ω : Type w} (M : Machine σ ε ω)

/-- The state after a list of events. -/
def run (s : σ) : List ε → σ
  | [] => s
  | e :: rest => run (M.step s e).1 rest

/-- Every event of a run with what it emitted. -/
def trace (s : σ) : List ε → List (ε × List ω)
  | [] => []
  | e :: rest => (e, (M.step s e).2) :: trace (M.step s e).1 rest

@[simp] theorem run_nil (s : σ) : M.run s [] = s := rfl

@[simp] theorem run_cons (s : σ) (e : ε) (rest : List ε) :
    M.run s (e :: rest) = M.run (M.step s e).1 rest := rfl

@[simp] theorem trace_nil (s : σ) : M.trace s [] = [] := rfl

@[simp] theorem trace_cons (s : σ) (e : ε) (rest : List ε) :
    M.trace s (e :: rest) = (e, (M.step s e).2) :: M.trace (M.step s e).1 rest := rfl

theorem run_append (s : σ) (xs ys : List ε) :
    M.run s (xs ++ ys) = M.run (M.run s xs) ys := by
  induction xs generalizing s with
  | nil => rfl
  | cons e rest ih => exact ih (M.step s e).1

theorem trace_append (s : σ) (xs ys : List ε) :
    M.trace s (xs ++ ys) = M.trace s xs ++ M.trace (M.run s xs) ys := by
  induction xs generalizing s with
  | nil => rfl
  | cons e rest ih => simp only [List.cons_append, trace_cons, run_cons, ih]

theorem trace_events (s : σ) (evs : List ε) : (M.trace s evs).map Prod.fst = evs := by
  induction evs generalizing s with
  | nil => rfl
  | cons e rest ih => simp only [trace_cons, List.map_cons, ih]

/-- Everything that a run has emitted. -/
def outputs (s : σ) (evs : List ε) : List ω := (M.trace s evs).flatMap Prod.snd

theorem outputs_append (s : σ) (xs ys : List ε) :
    M.outputs s (xs ++ ys) = M.outputs s xs ++ M.outputs (M.run s xs) ys := by
  rw [outputs, trace_append, List.flatMap_append]
  rfl

theorem outputs_cons (s : σ) (e : ε) (rest : List ε) :
    M.outputs s (e :: rest) = (M.step s e).2 ++ M.outputs (M.step s e).1 rest := rfl

theorem outputs_concat (s : σ) (evs : List ε) (e : ε) :
    M.outputs s (evs ++ [e]) = M.outputs s evs ++ (M.step (M.run s evs) e).2 := by
  simp [outputs, trace_append]

/-- What every permitted step preserves holds after every run of permitted events. -/
theorem run_invariant {I : σ → Prop} {permitted : ε → Prop}
    (preserves : ∀ s e, I s → permitted e → I (M.step s e).1)
    {s : σ} (initial : I s) {evs : List ε} (allowed : ∀ e ∈ evs, permitted e) :
    I (M.run s evs) := by
  induction evs generalizing s with
  | nil => exact initial
  | cons e rest ih =>
    exact ih (preserves s e initial (allowed e List.mem_cons_self))
      (fun e' he => allowed e' (List.mem_cons_of_mem e he))

/-- The condition `P` holds at every step of a run. -/
def Throughout (P : σ → ε → Prop) (s : σ) (evs : List ε) : Prop :=
  ∀ before e after, evs = before ++ e :: after → P (M.run s before) e

variable {M}

theorem Throughout.nil (P : σ → ε → Prop) (s : σ) : M.Throughout P s [] :=
  fun before e after split => by simp at split

theorem Throughout.front {P : σ → ε → Prop} {s : σ} {front back : List ε}
    (all : M.Throughout P s (front ++ back)) : M.Throughout P s front := by
  rintro before e after rfl
  exact all before e (after ++ back) (by simp)

theorem Throughout.back {P : σ → ε → Prop} {s : σ} {front back : List ε}
    (all : M.Throughout P s (front ++ back)) : M.Throughout P (M.run s front) back := by
  rintro before e after rfl
  rw [← M.run_append]
  exact all (front ++ before) e after (List.append_assoc ..).symm

theorem Throughout.first {P : σ → ε → Prop} {s : σ} {e : ε} {rest : List ε}
    (all : M.Throughout P s (e :: rest)) : P s e :=
  all [] e rest rfl

theorem Throughout.rest {P : σ → ε → Prop} {s : σ} {e : ε} {rest : List ε}
    (all : M.Throughout P s (e :: rest)) : M.Throughout P (M.step s e).1 rest :=
  @Throughout.back _ _ _ M P s [e] rest all

theorem Throughout.cons_iff {P : σ → ε → Prop} {s : σ} {e : ε} {rest : List ε} :
    M.Throughout P s (e :: rest) ↔ P s e ∧ M.Throughout P (M.step s e).1 rest := by
  constructor
  · intro all
    exact ⟨all.first, all.rest⟩
  · rintro ⟨first, rest_⟩ before e' after split
    cases before with
    | nil =>
      obtain ⟨rfl, _⟩ := List.cons.inj split
      exact first
    | cons d before =>
      obtain ⟨rfl, split'⟩ := List.cons.inj split
      exact rest_ before e' after split'

instance decidableThroughout {P : σ → ε → Prop} [∀ s e, Decidable (P s e)] :
    ∀ (s : σ) (evs : List ε), Decidable (M.Throughout P s evs)
  | s, [] => isTrue (.nil P s)
  | s, e :: rest =>
    have : Decidable (M.Throughout P (M.step s e).1 rest) := decidableThroughout _ rest
    decidable_of_iff (P s e ∧ M.Throughout P (M.step s e).1 rest) Throughout.cons_iff.symm

theorem Throughout.concat {P : σ → ε → Prop} {s : σ} {evs : List ε} {e : ε}
    (all : M.Throughout P s evs) (last : P (M.run s evs) e) :
    M.Throughout P s (evs ++ [e]) := by
  intro before e' after split
  rcases split_last split with ⟨rfl, rfl⟩ | ⟨after', _, rfl⟩
  · exact last
  · exact all before e' after' rfl

/-- What every step under the condition preserves holds in every state that a run of such
steps reaches. -/
theorem Throughout.invariant {P : σ → ε → Prop} {I : σ → Prop}
    (preserves : ∀ s e, I s → P s e → I (M.step s e).1) {s : σ} (initial : I s) {evs : List ε}
    (all : M.Throughout P s evs) {front back : List ε} (split : evs = front ++ back) :
    I (M.run s front) := by
  subst split
  have within := all.front
  clear all
  induction front using List.reverseRecOn with
  | nil => exact initial
  | append_singleton front e ih =>
    have before := ih within.front
    rw [M.run_append]
    exact preserves _ e before (within front e [] rfl)

/-- The same for a property of the state and of what has been emitted so far. -/
theorem Throughout.outputs_invariant {P : σ → ε → Prop} {I : List ω → σ → Prop}
    (preserves : ∀ outs s e, I outs s → P s e → I (outs ++ (M.step s e).2) (M.step s e).1)
    {s : σ} (initial : I [] s) {evs : List ε} (all : M.Throughout P s evs) :
    I (M.outputs s evs) (M.run s evs) := by
  induction evs using List.reverseRecOn with
  | nil => exact initial
  | append_singleton evs e ih =>
    have before := ih all.front
    rw [M.run_append, M.outputs_concat]
    exact preserves _ _ e before (all evs e [] rfl)

variable (M)

/-- A prefix of a trace is the trace of a prefix. -/
theorem trace_prefix {s : σ} {evs : List ε} {xs ys : List (ε × List ω)}
    (split : M.trace s evs = xs ++ ys) :
    ∃ before after, evs = before ++ after ∧ xs = M.trace s before ∧
      ys = M.trace (M.run s before) after := by
  induction xs generalizing s evs with
  | nil => exact ⟨[], evs, rfl, rfl, split.symm⟩
  | cons x xs ih =>
    cases evs with
    | nil => simp at split
    | cons e rest =>
      simp only [trace_cons, List.cons_append, List.cons.injEq] at split
      obtain ⟨rfl, tail⟩ := split
      obtain ⟨before, after, rfl, rfl, hys⟩ := ih tail
      exact ⟨e :: before, after, rfl, rfl, hys⟩

/-- A step of a run starts in the state that the events before it reach. -/
theorem trace_split {s : σ} {evs : List ε} {xs ys : List (ε × List ω)} {e : ε} {os : List ω}
    (split : M.trace s evs = xs ++ (e, os) :: ys) :
    ∃ before after, evs = before ++ e :: after ∧ xs = M.trace s before ∧
      os = (M.step (M.run s before) e).2 := by
  obtain ⟨before, after, rfl, hxs, hys⟩ := M.trace_prefix split
  cases after with
  | nil => simp at hys
  | cons d after =>
    simp only [trace_cons, List.cons.injEq, Prod.mk.injEq] at hys
    obtain ⟨⟨rfl, rfl⟩, _⟩ := hys
    exact ⟨before, after, rfl, hxs, rfl⟩

end Machine

section Family
variable {ι : Type x} [DecidableEq ι] {σ : Type u} {ε : Type v} {ω : Type w}

/-- One machine for every index; an event moves the component it is addressed to. -/
def family (M : Machine σ ε ω) : Machine (ι → σ) (ι × ε) (ι × ω) where
  step s e := (Function.update s e.1 (M.step (s e.1) e.2).1,
    (M.step (s e.1) e.2).2.map (Prod.mk e.1))

/-- The entries of a list that are addressed to one index. -/
def atIndex {α : Type*} (i : ι) (xs : List (ι × α)) : List α :=
  xs.filterMap (fun x => if x.1 = i then some x.2 else none)

/-- The part of a family's trace that one index sees. -/
def traceAt (i : ι) (tr : List ((ι × ε) × List (ι × ω))) : List (ε × List ω) :=
  tr.filterMap (fun x => if x.1.1 = i then some (x.1.2, atIndex i x.2) else none)

@[simp] theorem atIndex_nil {α : Type*} (i : ι) : atIndex i ([] : List (ι × α)) = [] := rfl

@[simp] theorem atIndex_cons_self {α : Type*} (i : ι) (a : α) (rest : List (ι × α)) :
    atIndex i ((i, a) :: rest) = a :: atIndex i rest := by
  simp [atIndex]

theorem atIndex_cons_ne {α : Type*} {i j : ι} (h : j ≠ i) (a : α) (rest : List (ι × α)) :
    atIndex i ((j, a) :: rest) = atIndex i rest := by
  simp [atIndex, h]

@[simp] theorem atIndex_append {α : Type*} (i : ι) (xs ys : List (ι × α)) :
    atIndex i (xs ++ ys) = atIndex i xs ++ atIndex i ys := by
  simp [atIndex]

theorem mem_atIndex {α : Type*} {i : ι} {a : α} {xs : List (ι × α)} :
    a ∈ atIndex i xs ↔ (i, a) ∈ xs := by
  simp only [atIndex, List.mem_filterMap]
  constructor
  · rintro ⟨⟨j, b⟩, hmem, h⟩
    by_cases hj : j = i
    · simp only [hj, if_true, Option.some.injEq] at h
      exact h ▸ hj ▸ hmem
    · simp [hj] at h
  · intro h
    exact ⟨(i, a), h, by simp⟩

/-- An entry seen from an index sits in the whole list, between what lies
before and after it. -/
theorem atIndex_split {α : Type*} {i : ι} {a : α} {xs : List (ι × α)} {as bs : List α}
    (split : atIndex i xs = as ++ a :: bs) :
    ∃ pre post, xs = pre ++ (i, a) :: post ∧ atIndex i pre = as ∧ atIndex i post = bs := by
  obtain ⟨pre, rest, rfl, hpre, hrest⟩ := List.filterMap_eq_append_iff.mp split
  obtain ⟨skipped, ⟨j, b⟩, post, rfl, hskipped, hb, hpost⟩ :=
    List.filterMap_eq_cons_iff.mp hrest
  by_cases hj : j = i
  · subst hj
    obtain rfl : b = a := by simpa using hb
    refine ⟨pre ++ skipped, post, by simp, ?_, hpost⟩
    have hnil : atIndex j skipped = [] := List.filterMap_eq_nil_iff.mpr hskipped
    rw [atIndex_append, hnil, List.append_nil]
    exact hpre
  · simp [hj] at hb

@[simp] theorem atIndex_map_self {α : Type*} (i : ι) (xs : List α) :
    atIndex i (xs.map (Prod.mk i)) = xs := by
  induction xs with
  | nil => rfl
  | cons a rest ih => rw [List.map_cons, atIndex_cons_self, ih]

theorem atIndex_map {α β : Type*} (i : ι) (f : α → β) (xs : List (ι × α)) :
    atIndex i (xs.map fun x => (x.1, f x.2)) = (atIndex i xs).map f := by
  simp only [atIndex, List.filterMap_map, List.map_filterMap]
  refine List.filterMap_congr fun x _ => ?_
  by_cases own : x.1 = i
  · simp [own]
  · simp [own]

/-- The component at an index runs over the events addressed to it. -/
theorem family_run (M : Machine σ ε ω) (s : ι → σ) (i : ι) (evs : List (ι × ε)) :
    (family M).run s evs i = M.run (s i) (atIndex i evs) := by
  induction evs generalizing s with
  | nil => rfl
  | cons e rest ih =>
    obtain ⟨j, e⟩ := e
    rw [Machine.run_cons, ih]
    by_cases hj : j = i
    · subst hj
      simp [family]
    · simp [family, atIndex_cons_ne hj, Function.update_of_ne (Ne.symm hj)]

/-- An index sees exactly the trace of its own component. -/
theorem family_trace (M : Machine σ ε ω) (s : ι → σ) (i : ι) (evs : List (ι × ε)) :
    traceAt i ((family M).trace s evs) = M.trace (s i) (atIndex i evs) := by
  induction evs generalizing s with
  | nil => rfl
  | cons e rest ih =>
    obtain ⟨j, e⟩ := e
    rw [Machine.trace_cons]
    by_cases hj : j = i
    · subst hj
      have tail := ih ((family M).step s (j, e)).1
      rw [atIndex_cons_self, Machine.trace_cons]
      simp only [traceAt, List.filterMap_cons, if_true]
      simp only [traceAt] at tail
      rw [tail]
      simp [family]
    · have tail := ih ((family M).step s (j, e)).1
      rw [atIndex_cons_ne hj]
      simp only [traceAt, List.filterMap_cons, if_neg hj] at tail ⊢
      rw [tail]
      simp [family, Function.update_of_ne (Ne.symm hj)]

theorem atIndex_map_ne {α : Type*} {i j : ι} (h : j ≠ i) (xs : List α) :
    atIndex i (xs.map (Prod.mk j)) = [] := by
  induction xs with
  | nil => rfl
  | cons a rest ih => rw [List.map_cons, atIndex_cons_ne h, ih]

/-- Seen through `view`, every step of `N` under the invariant `I` moves one
component as `M` says, and emits at that component only. -/
structure Components {S : Type*} (N : Machine S (ι × ε) (ι × ω)) (M : Machine σ ε ω)
    (I : S → Prop) (view : S → ι → σ) : Prop where
  preserved : ∀ s e, I s → I (N.step s e).1
  moves : ∀ s e, I s → view (N.step s e).1 = ((family M).step (view s) e).1
  emits : ∀ s e, I s → (N.step s e).2 = ((family M).step (view s) e).2

namespace Components
variable {S : Type*} {N : Machine S (ι × ε) (ι × ω)} {M : Machine σ ε ω} {I : S → Prop}
  {view : S → ι → σ}

theorem run (components : Components N M I view) {s : S} (inv : I s) (i : ι)
    (evs : List (ι × ε)) : view (N.run s evs) i = M.run (view s i) (atIndex i evs) := by
  rw [← family_run]
  induction evs generalizing s with
  | nil => rfl
  | cons e rest ih =>
    have tail := ih (components.preserved s e inv)
    rwa [components.moves s e inv] at tail

theorem trace (components : Components N M I view) {s : S} (inv : I s) (i : ι)
    (evs : List (ι × ε)) :
    traceAt i (N.trace s evs) = M.trace (view s i) (atIndex i evs) := by
  have whole : N.trace s evs = (family M).trace (view s) evs := by
    induction evs generalizing s with
    | nil => rfl
    | cons e rest ih =>
      have tail := ih (components.preserved s e inv)
      rw [components.moves s e inv] at tail
      rw [Machine.trace_cons, Machine.trace_cons, tail, components.emits s e inv]
  rw [whole, family_trace]

end Components

end Family

end Mealy
