import Mathlib.Data.List.Basic

/-!
# A party that answers a stream

The party reads one message after another off a stream of bytes and gives one reply for
each. It is in a phase that decides which message comes next; every message leads to a
later phase. Bytes that arrive in pieces are kept until a message is complete.
-/

namespace Dialogue

universe u v w

/-- A message is framed at the front of the stream; what follows it is kept, and bytes that
arrive behind it change nothing. -/
structure Party (β : Type u) (φ : Type v) (μ : Type w) where
  frame : φ → List β → Option (μ × List β)
  reply : φ → μ → List β × φ
  rank : φ → Nat
  advances : ∀ {p s m rest}, frame p s = some (m, rest) → rank (reply p m).2 < rank p
  stable : ∀ {p s m rest}, frame p s = some (m, rest) →
    ∀ more, frame p (s ++ more) = some (m, rest ++ more)

namespace Party
variable {β : Type u} {φ : Type v} {μ : Type w} (P : Party β φ μ)

/-- The replies to the messages of a stream and the phase behind them, at most `fuel`
messages. -/
def answer : Nat → φ → List β → List (List β) × φ
  | 0, p, _ => ([], p)
  | fuel + 1, p, s =>
    match P.frame p s with
    | none => ([], p)
    | some (m, rest) =>
      let later := answer fuel (P.reply p m).2 rest
      ((P.reply p m).1 :: later.1, later.2)

/-- There are no more messages than the rank of the phase. -/
def serve (p : φ) (s : List β) : List (List β) × φ := P.answer (P.rank p) p s

variable {P} {p : φ} {s rest : List β} {m : μ}

theorem answer_enough {n k : Nat} (enough : P.rank p ≤ n) (enough' : P.rank p ≤ k) :
    P.answer n p s = P.answer k p s := by
  induction n generalizing k p s with
  | zero =>
    cases k with
    | zero => rfl
    | succ k =>
      cases found : P.frame p s with
      | none => simp only [answer, found]
      | some next =>
        obtain ⟨m, rest⟩ := next
        have later := P.advances found
        omega
  | succ n ih =>
    cases found : P.frame p s with
    | none => cases k <;> simp only [answer, found]
    | some next =>
      obtain ⟨m, rest⟩ := next
      have later := P.advances found
      cases k with
      | zero => omega
      | succ k =>
        have same : P.answer n (P.reply p m).2 rest = P.answer k (P.reply p m).2 rest :=
          ih (by omega) (by omega)
        simp only [answer, found, same]

theorem serve_waits (none : P.frame p s = none) : P.serve p s = ([], p) := by
  unfold serve
  cases P.rank p with
  | zero => rfl
  | succ n => simp only [answer, none]

theorem serve_reads (found : P.frame p s = some (m, rest)) :
    P.serve p s = ((P.reply p m).1 :: (P.serve (P.reply p m).2 rest).1,
      (P.serve (P.reply p m).2 rest).2) := by
  have later := P.advances found
  obtain ⟨n, hn⟩ : ∃ n, P.rank p = n + 1 := ⟨P.rank p - 1, by omega⟩
  have same : P.answer n (P.reply p m).2 rest = P.serve (P.reply p m).2 rest :=
    answer_enough (by omega) (Nat.le_refl _)
  unfold serve at same ⊢
  simp only [hn, answer, found, same]

/-- Induction over the messages of a stream. -/
theorem serve_induction {motive : φ → List β → Prop}
    (waits : ∀ p s, P.frame p s = none → motive p s)
    (reads : ∀ p s m rest, P.frame p s = some (m, rest) → motive (P.reply p m).2 rest →
      motive p s) (p : φ) (s : List β) : motive p s := by
  generalize hn : P.rank p = n
  induction n using Nat.strongRecOn generalizing p s with
  | ind n ih =>
    cases found : P.frame p s with
    | none => exact waits p s found
    | some next =>
      obtain ⟨m, rest⟩ := next
      have later := P.advances found
      exact reads p s m rest found (ih _ (hn ▸ later) _ rest rfl)

/-- What has been replied is not taken back when more arrives. -/
theorem serve_grows (P : Party β φ μ) (p : φ) (s more : List β) :
    (P.serve p s).1 <+: (P.serve p (s ++ more)).1 := by
  induction p, s using P.serve_induction with
  | waits p s none =>
    rw [serve_waits none]
    exact List.nil_prefix
  | reads p s m rest found ih =>
    rw [serve_reads found, serve_reads (P.stable found more)]
    exact (List.prefix_cons_inj _).mpr ih

end Party

end Dialogue
