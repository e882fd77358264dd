import Mathlib.Data.List.Basic

/-!
# Loops by rounds

A `while` loop over a state: its body is one round, which returns what it worked
on, and stops where the condition of the loop fails. A loop drains when the rest
of its work is a list of which every round takes the first item; it then ends
after as many rounds as there are items, and not before.
-/

namespace Rounds

section Loop
variable {State Call : Type*} (body : State → Option (Call × State))

/-- The rounds of a loop, `none` if it is still running when the fuel is spent. -/
def loop : Nat → State → Option (List Call × State)
  | 0, _ => none
  | fuel + 1, s =>
    match body s with
    | none => some ([], s)
    | some (call, s') => (loop fuel s').map fun result => (call :: result.1, result.2)

variable {body}

theorem loop_stopped {s : State} (stopped : body s = none) (fuel : Nat) :
    loop body (fuel + 1) s = some ([], s) := by
  simp only [loop, stopped]

theorem loop_round {s s' : State} {call : Call} (round : body s = some (call, s')) (fuel : Nat) :
    loop body (fuel + 1) s = (loop body fuel s').map fun result => (call :: result.1, result.2) := by
  simp only [loop, round]

end Loop

section Draining
variable {State Call Item : Type*}

/-- Every round takes the first item that is left and keeps the invariant. -/
structure Drains (body : State → Option (Call × State)) (Inv : State → Prop)
    (left : State → List Item) (item : Call → Item) (Good : Call → Prop) : Prop where
  stops : ∀ s, Inv s → left s = [] → body s = none
  rounds : ∀ s first rest, Inv s → left s = first :: rest → ∃ call s',
    body s = some (call, s') ∧ Inv s' ∧ left s' = rest ∧ item call = first ∧ Good call

variable {body : State → Option (Call × State)} {Inv : State → Prop}
  {left : State → List Item} {item : Call → Item} {Good : Call → Prop}

/-- A draining loop needs one round for each item, and one look at the condition after
the last. -/
theorem Drains.loop (drains : Drains body Inv left item Good) {s : State} (inv : Inv s) :
    ∃ calls s', (∀ fuel, (left s).length < fuel → loop body fuel s = some (calls, s')) ∧
      (∀ fuel, fuel ≤ (left s).length → loop body fuel s = none) ∧
      calls.map item = left s ∧ (∀ call ∈ calls, Good call) ∧ Inv s' ∧ left s' = [] := by
  generalize hleft : left s = items
  induction items generalizing s with
  | nil =>
    have stopped := drains.stops s inv hleft
    refine ⟨[], s, ?_, ?_, rfl, by simp, inv, hleft⟩
    · intro fuel enough
      obtain ⟨fuel, rfl⟩ := Nat.exists_eq_succ_of_ne_zero (Nat.ne_of_gt enough)
      exact loop_stopped stopped fuel
    · intro fuel few
      obtain rfl : fuel = 0 := Nat.le_zero.mp few
      rfl
  | cons first rest ih =>
    obtain ⟨call, s₁, round, inv₁, hrest, took, good⟩ := drains.rounds s first rest inv hleft
    obtain ⟨calls, s', ends, runs, items, goods, inv', empty⟩ := ih inv₁ hrest
    refine ⟨call :: calls, s', ?_, ?_, ?_, ?_, inv', empty⟩
    · intro fuel enough
      rw [List.length_cons] at enough
      obtain ⟨fuel, rfl⟩ : ∃ n, fuel = n + 1 := ⟨fuel - 1, by omega⟩
      rw [loop_round round, ends fuel (by omega)]
      rfl
    · intro fuel few
      rw [List.length_cons] at few
      cases fuel with
      | zero => rfl
      | succ fuel =>
        rw [loop_round round, runs fuel (by omega)]
        rfl
    · rw [List.map_cons, took, items]
    · intro call' member
      rcases List.mem_cons.mp member with rfl | later
      · exact good
      · exact goods call' later

end Draining

end Rounds
