import Mathlib.Data.List.Basic
import Mathlib.Data.Nat.Basic

/-!
# Progress under a schedule

A schedule names one event for every moment. A condition leads to another one if the other
holds at some later moment whenever the first one does; one event that keeps coming is enough
for that, if it brings the other condition about and no event breaks the first one before.
-/

namespace Progress

universe u

section Conditions
variable {P Q R : ℕ → Prop}

def LeadsTo (P Q : ℕ → Prop) : Prop := ∀ n, P n → ∃ m, n ≤ m ∧ Q m

theorem LeadsTo.of_imp (implies : ∀ n, P n → Q n) : LeadsTo P Q :=
  fun n holds => ⟨n, Nat.le_refl n, implies n holds⟩

theorem LeadsTo.trans (first : LeadsTo P Q) (second : LeadsTo Q R) : LeadsTo P R := by
  intro n holds
  obtain ⟨m, later, holds'⟩ := first n holds
  obtain ⟨k, later', holds''⟩ := second m holds'
  exact ⟨k, Nat.le_trans later later', holds''⟩

theorem LeadsTo.or (first : LeadsTo P R) (second : LeadsTo Q R) :
    LeadsTo (fun n => P n ∨ Q n) R := by
  intro n holds
  rcases holds with holds | holds
  · exact first n holds
  · exact second n holds

end Conditions

section Schedules
variable {ε : Type u} (sched : ℕ → ε)

/-- The events before a moment. -/
def before (n : ℕ) : List ε := (List.range n).map sched

theorem before_succ (n : ℕ) : before sched (n + 1) = before sched n ++ [sched n] := by
  rw [before, List.range_succ, List.map_append]
  rfl

theorem mem_before {n : ℕ} {e : ε} (member : e ∈ before sched n) : ∃ k, sched k = e := by
  obtain ⟨k, _, found⟩ := List.mem_map.mp member
  exact ⟨k, found⟩

/-- The event comes again and again. -/
def Recurs (e : ε) : Prop := ∀ n, ∃ m, n ≤ m ∧ sched m = e

variable {sched}

/-- The condition stays until the event comes, and the event brings about the other one. -/
theorem leadsTo_of_event {e : ε} {P Q : ℕ → Prop} (recurs : Recurs sched e)
    (next : ∀ n, P n → Q (n + 1) ∨ P (n + 1) ∧ sched n ≠ e) : LeadsTo P Q := by
  intro n holds
  obtain ⟨m, later, comes⟩ := recurs n
  -- up to the event the condition stays, unless the other one holds earlier
  have kept : ∀ k, (∃ j, n ≤ j ∧ Q j) ∨ P (n + k) := by
    intro k
    induction k with
    | zero => exact Or.inr holds
    | succ k ih =>
      rcases ih with reached | holds'
      · exact Or.inl reached
      · rcases next (n + k) holds' with reached | ⟨holds'', _⟩
        · exact Or.inl ⟨n + k + 1, by omega, reached⟩
        · exact Or.inr holds''
  rcases kept (m - n) with reached | holds'
  · exact reached
  · have same : n + (m - n) = m := by omega
    rw [same] at holds'
    rcases next m holds' with reached | ⟨_, other⟩
    · exact ⟨m + 1, by omega, reached⟩
    · exact absurd comes other

/-- The events of a list, over and over. -/
def cycle (e : ε) (rest : List ε) (n : ℕ) : ε := (e :: rest).getD (n % (rest.length + 1)) e

theorem cycle_mem (e : ε) (rest : List ε) (n : ℕ) : cycle e rest n ∈ e :: rest := by
  have inside : n % (rest.length + 1) < (e :: rest).length := Nat.mod_lt _ (by omega)
  rw [cycle, List.getD_eq_getElem?_getD, List.getElem?_eq_getElem inside]
  exact List.getElem_mem inside

theorem cycle_recurs {e : ε} {rest : List ε} {e' : ε} (member : e' ∈ e :: rest) :
    Recurs (cycle e rest) e' := by
  obtain ⟨k, inside, found⟩ := List.getElem_of_mem member
  intro n
  refine ⟨n * (rest.length + 1) + k, ?_, ?_⟩
  · have grows : n * 1 ≤ n * (rest.length + 1) := Nat.mul_le_mul_left n (by omega)
    omega
  · have place : (n * (rest.length + 1) + k) % (rest.length + 1) = k := by
      rw [Nat.add_comm, Nat.add_mul_mod_self_right]
      exact Nat.mod_eq_of_lt (by simpa using inside)
    rw [cycle, place, List.getD_eq_getElem?_getD, List.getElem?_eq_getElem inside]
    exact found

end Schedules

end Progress
