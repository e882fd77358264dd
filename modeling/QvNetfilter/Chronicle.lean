import QvNetfilter.Mealy

/-!
# Records of what happened

A record is a list that grows at its end. A condition on a record speaks of every item
and of what stands before it, so that it holds of a longer record if it held before
and the new item meets it.
-/

namespace Chronicle

universe u v

section Conditions
variable {α : Type u} {P Q : List α → α → Prop} {log : List α}

/-- Every item meets the condition at its place in the record. -/
def Preceded (P : List α → α → Prop) (log : List α) : Prop :=
  ∀ front a back, log = front ++ a :: back → P front a

theorem Preceded.nil (P : List α → α → Prop) : Preceded P [] := by
  intro front a back split
  simp at split

theorem Preceded.concat {a : α} (all : Preceded P log) (last : P log a) :
    Preceded P (log ++ [a]) := by
  intro front b back split
  rcases Mealy.split_last split with ⟨rfl, rfl⟩ | ⟨back', _, before⟩
  · exact last
  · exact all front b back' before

theorem Preceded.front {more : List α} (all : Preceded P (log ++ more)) : Preceded P log := by
  intro front a back split
  apply all front a (back ++ more)
  rw [split, List.append_assoc, List.cons_append]

theorem Preceded.last {a : α} (all : Preceded P (log ++ [a])) : P log a := all log a [] rfl

/-- A record may be continued by one whose items meet a condition that only looks back to
its own beginning. -/
theorem Preceded.append {more : List α} (all : Preceded P log) (also : Preceded Q more)
    (further : ∀ front a, Q front a → P (log ++ front) a) : Preceded P (log ++ more) := by
  induction more using List.reverseRecOn with
  | nil => simpa using all
  | append_singleton more a ih =>
    rw [← List.append_assoc]
    exact (ih also.front).concat (further more a also.last)

/-- The condition at the places behind `front`. -/
def precededFrom (P : List α → α → Prop) (front : List α) : List α → Prop
  | [] => True
  | a :: rest => P front a ∧ precededFrom P (front ++ [a]) rest

theorem precededFrom_iff (front rest : List α) : precededFrom P front rest ↔
    ∀ between a back, rest = between ++ a :: back → P (front ++ between) a := by
  induction rest generalizing front with
  | nil =>
    constructor
    · intro _ between a back split
      simp at split
    · intro _
      trivial
  | cons b rest ih =>
    constructor
    · rintro ⟨here, later⟩ between a back split
      cases between with
      | nil =>
        obtain ⟨rfl, _⟩ := List.cons.inj split
        rwa [List.append_nil]
      | cons c between =>
        obtain ⟨rfl, split'⟩ := List.cons.inj split
        have there := (ih (front ++ [b])).mp later between a back split'
        rwa [List.append_assoc] at there
    · intro all
      constructor
      · have here := all [] b rest rfl
        rwa [List.append_nil] at here
      · apply (ih (front ++ [b])).mpr
        rintro between a back rfl
        rw [List.append_assoc]
        exact all (b :: between) a back rfl

instance decidablePrecededFrom [∀ front a, Decidable (P front a)] :
    ∀ front rest, Decidable (precededFrom P front rest)
  | _, [] => isTrue trivial
  | front, a :: rest =>
    have : Decidable (precededFrom P (front ++ [a]) rest) := decidablePrecededFrom _ rest
    inferInstanceAs (Decidable (P front a ∧ precededFrom P (front ++ [a]) rest))

instance [∀ front a, Decidable (P front a)] (log : List α) : Decidable (Preceded P log) :=
  decidable_of_iff (precededFrom P [] log) (precededFrom_iff [] log)

end Conditions

section Custody
variable {ι : Type u} {α : Type v} [DecidableEq α]

/-- What an owner does with a handle. -/
inductive Move (α : Type v) where
  | acquire (h : α)
  | use (h : α)
  | release (h : α)
deriving DecidableEq

/-- Who has a handle after one more move. -/
def pass (holder : α → Option ι) : ι × Move α → α → Option ι
  | (i, .acquire h) => Function.update holder h (some i)
  | (_, .use _) => holder
  | (_, .release h) => Function.update holder h none

def holder (log : List (ι × Move α)) : α → Option ι := log.foldl pass fun _ => none

theorem holder_concat (log : List (ι × Move α)) (m : ι × Move α) :
    holder (log ++ [m]) = pass (holder log) m := by
  simp [holder]

/-- A handle is handed out while nobody has it, and is used and given back by the owner
who has it. -/
def Allowed (front : List (ι × Move α)) : ι × Move α → Prop
  | (_, .acquire h) => holder front h = none
  | (i, .use h) => holder front h = some i
  | (i, .release h) => holder front h = some i

/-- Only what whoever hands out the handles has to see to. -/
def Fresh (front : List (ι × Move α)) : ι × Move α → Prop
  | (_, .acquire h) => holder front h = none
  | _ => True

instance [DecidableEq ι] (front : List (ι × Move α)) (m : ι × Move α) : Decidable (Fresh front m) :=
  match m with
  | (_, .acquire h) => inferInstanceAs (Decidable (holder front h = none))
  | (_, .use _) => isTrue trivial
  | (_, .release _) => isTrue trivial

/-- Every owner has exactly the handles of a table, each of them once. -/
structure Kept (held : ι → List α) (log : List (ι × Move α)) : Prop where
  holds : ∀ i h, holder log h = some i ↔ h ∈ held i
  once : ∀ i, (held i).Nodup
  allowed : Preceded Allowed log

variable {held : ι → List α} {log : List (ι × Move α)} {i : ι} {h : α}

theorem Kept.nil : Kept (fun _ : ι => ([] : List α)) [] where
  holds := fun _ _ => by simp [holder]
  once := fun _ => List.nodup_nil
  allowed := .nil _

theorem Kept.perm {held' : ι → List α} (kept : Kept held log)
    (same : ∀ i, (held i).Perm (held' i)) : Kept held' log where
  holds := fun i h => (kept.holds i h).trans (same i).mem_iff
  once := fun i => (same i).nodup_iff.mp (kept.once i)
  allowed := kept.allowed

/-- A handle that somebody has is nobody else's. -/
theorem Kept.unshared (kept : Kept held log) {j : ι} (mine : h ∈ held i) (yours : h ∈ held j) :
    i = j := by
  have first := (kept.holds i h).mpr mine
  have second := (kept.holds j h).mpr yours
  exact Option.some_inj.mp (first.symm.trans second)

theorem Kept.use (kept : Kept held log) (mine : h ∈ held i) :
    Kept held (log ++ [(i, .use h)]) where
  holds := fun j g => by
    rw [holder_concat]
    exact kept.holds j g
  once := kept.once
  allowed := kept.allowed.concat ((kept.holds i h).mpr mine)

/-- As long as nobody acquires it, a handle that was free stays free. -/
theorem holder_free (front between : List (ι × Move α)) (free : holder front h = none)
    (unacquired : ∀ j, (j, Move.acquire h) ∉ between) :
    holder (front ++ between) h = none := by
  induction between using List.reverseRecOn with
  | nil => rwa [List.append_nil]
  | append_singleton between m ih =>
    have before := ih fun j present => unacquired j (List.mem_append_left _ present)
    rw [← List.append_assoc, holder_concat]
    obtain ⟨j, m⟩ := m
    cases m with
    | use g => exact before
    | acquire g =>
      have other : h ≠ g := by
        rintro rfl
        exact unacquired j (by simp)
      simp only [pass, Function.update_of_ne other, before]
    | release g =>
      simp only [pass]
      by_cases same : h = g
      · rw [same, Function.update_self]
      · rw [Function.update_of_ne same, before]

/-- Between a release and the next use or release of the same handle it has been
acquired again. -/
theorem acquired_between (allowed : Preceded Allowed log) {front between back : List (ι × Move α)}
    {j : ι} {m : Move α} (again : m = .use h ∨ m = .release h)
    (split : log = front ++ (i, .release h) :: between ++ (j, m) :: back) :
    ∃ k, (k, .acquire h) ∈ between := by
  by_contra never
  have free : holder (front ++ [(i, Move.release h)]) h = none := by
    rw [holder_concat]
    exact Function.update_self ..
  have still := holder_free _ between free (not_exists.mp never)
  have whole : front ++ (i, Move.release h) :: between =
      front ++ [(i, Move.release h)] ++ between := by simp
  have there := allowed _ (j, m) back split
  rw [whole] at there
  rcases again with rfl | rfl
  · exact absurd (still.symm.trans there) nofun
  · exact absurd (still.symm.trans there) nofun

variable [DecidableEq ι]

theorem Kept.acquire (kept : Kept held log) (i : ι) (fresh : holder log h = none) :
    Kept (Function.update held i (held i ++ [h])) (log ++ [(i, .acquire h)]) := by
  have absent : ∀ j, h ∉ held j := by
    intro j present
    rw [(kept.holds j h).mpr present] at fresh
    exact absurd fresh nofun
  refine ⟨fun j g => ?_, fun j => ?_, kept.allowed.concat fresh⟩
  · simp only [holder_concat, pass]
    by_cases same : g = h
    · subst same
      by_cases own : j = i
      · subst own
        simp
      · simp [Function.update_of_ne own, absent j, Ne.symm own]
    · rw [Function.update_of_ne same, kept.holds j g]
      by_cases own : j = i
      · subst own
        simp [same]
      · simp [Function.update_of_ne own]
  · by_cases own : j = i
    · subst own
      rw [Function.update_self]
      apply List.nodup_append.mpr
      refine ⟨kept.once j, by simp, ?_⟩
      rintro g present _ last rfl
      obtain rfl := List.mem_singleton.mp last
      exact absent j present
    · rw [Function.update_of_ne own]
      exact kept.once j

theorem Kept.release (kept : Kept held log) (mine : h ∈ held i) :
    Kept (Function.update held i ((held i).erase h)) (log ++ [(i, .release h)]) := by
  refine ⟨fun j g => ?_, fun j => ?_, kept.allowed.concat ((kept.holds i h).mpr mine)⟩
  · simp only [holder_concat, pass]
    by_cases same : g = h
    · subst same
      simp only [Function.update_self]
      by_cases own : j = i
      · subst own
        simp [(kept.once j).not_mem_erase]
      · have foreign : g ∉ held j := fun yours => own (kept.unshared yours mine)
        simp [Function.update_of_ne own, foreign]
    · rw [Function.update_of_ne same, kept.holds j g]
      by_cases own : j = i
      · subst own
        simp [List.mem_erase_of_ne same]
      · simp [Function.update_of_ne own]
  · by_cases own : j = i
    · subst own
      rw [Function.update_self]
      exact (kept.once j).erase h
    · rw [Function.update_of_ne own]
      exact kept.once j

end Custody

end Chronicle
