import QvNetfilter.Mealy

/-!
# Unwinding

Two runs are compared by what one observer sees of them. Some events are the
observer's own and the others are not; an unwinding relates the states of the two
runs so that an event of somebody else keeps the relation and shows nothing, and
the same event of the observer keeps it and shows the same. Then runs with the same
events of the observer look the same.
-/

namespace Unwinding

open Mealy

universe u v w x

variable {σ : Type u} {ε : Type v} {ω : Type w} {β : Type x}

/-- The relation `R` unwinds the observer's view, between steps under `P` of the one machine
and steps under `P'` of the other, which knows the events under new names. -/
structure Unwinds (M M' : Machine σ ε ω) (P P' : σ → ε → Prop) (own : ε → Bool) (rename : ε → ε)
    (see see' : ω → Option β) (R : σ → σ → Prop) : Prop where
  left : ∀ {s s' e}, R s s' → P s e → own e = false →
    R (M.step s e).1 s' ∧ (M.step s e).2.filterMap see = []
  right : ∀ {s s' e}, R s s' → P' s' e → own e = false →
    R s (M'.step s' e).1 ∧ (M'.step s' e).2.filterMap see' = []
  both : ∀ {s s' e}, R s s' → P s e → P' s' (rename e) → own e = true →
    R (M.step s e).1 (M'.step s' (rename e)).1 ∧
      (M'.step s' (rename e)).2.filterMap see' = (M.step s e).2.filterMap see

namespace Unwinds
variable {M M' : Machine σ ε ω} {P P' : σ → ε → Prop} {own : ε → Bool} {rename : ε → ε}
  {see see' : ω → Option β} {R : σ → σ → Prop}

/-- Events of others in the second run. -/
theorem skip (unwinds : Unwinds M M' P P' own rename see see' R) {s s' : σ} (related : R s s')
    {evs : List ε} (others : ∀ e ∈ evs, own e = false) (all : M'.Throughout P' s' evs) :
    R s (M'.run s' evs) ∧ (M'.outputs s' evs).filterMap see' = [] := by
  induction evs generalizing s' with
  | nil => exact ⟨related, rfl⟩
  | cons e rest ih =>
    have other := others e List.mem_cons_self
    obtain ⟨related', silent⟩ := unwinds.right related all.first other
    have others' : ∀ e' ∈ rest, own e' = false :=
      fun e' member => others e' (List.mem_cons_of_mem e member)
    obtain ⟨related_rest, silent_rest⟩ := ih related' others' all.rest
    refine ⟨related_rest, ?_⟩
    rw [M'.outputs_cons, List.filterMap_append, silent, silent_rest]
    rfl

/-- Runs with the same events of the observer look the same to it. -/
theorem observed (unwinds : Unwinds M M' P P' own rename see see' R) {s s' : σ}
    (related : R s s') {evs evs' : List ε} (all : M.Throughout P s evs)
    (all' : M'.Throughout P' s' evs')
    (same : evs'.filter own = (evs.filter own).map rename) :
    (M'.outputs s' evs').filterMap see' = (M.outputs s evs).filterMap see := by
  induction evs generalizing s s' evs' with
  | nil =>
    have others : ∀ e ∈ evs', own e = false := by
      intro e member
      exact Bool.eq_false_iff.mpr (List.filter_eq_nil_iff.mp same e member)
    exact (unwinds.skip related others all').2
  | cons e rest ih =>
    rw [M.outputs_cons, List.filterMap_append]
    cases mine : own e with
    | false =>
      obtain ⟨related', silent⟩ := unwinds.left related all.first mine
      rw [List.filter_cons_of_neg (by simp [mine])] at same
      rw [silent, List.nil_append]
      exact ih related' all.rest all' same
    | true =>
      rw [List.filter_cons_of_pos mine, List.map_cons] at same
      obtain ⟨skipped, rest', rfl, others, _, same'⟩ := List.filter_eq_cons_iff.mp same
      have others' : ∀ e' ∈ skipped, own e' = false :=
        fun e' member => Bool.eq_false_iff.mpr (others e' member)
      obtain ⟨related₁, silent⟩ := unwinds.skip related others' all'.front
      have now := all'.back
      obtain ⟨related₂, shown⟩ := unwinds.both related₁ all.first now.first mine
      have later := ih related₂ all.rest now.rest same'
      rw [M'.outputs_append, List.filterMap_append, silent, List.nil_append, M'.outputs_cons,
        List.filterMap_append, shown, later]

end Unwinds

end Unwinding
