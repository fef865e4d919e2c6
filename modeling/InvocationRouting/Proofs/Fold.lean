import Mathlib.Data.List.Basic

/-!
# Proofs.Fold — what many steps leave in one part of a state

A step may change several parts of a state. If what it does to one part can be told from what it
carries for that part, then so can what a run does, whatever happens to the other parts meanwhile.

* `foldl_part` : what the steps carry is put into the part, one after another;
* `foldl_carried`, `foldl_carried_or` : where steps overwrite the part, what was carried last counts;
* `foldl_overwrite`, `foldl_overwrite_or` : the same where a test says which steps write.
-/

namespace InvocationRouting

variable {σ α β γ : Type}

/-- If each step puts what it carries, or nothing, into one part of a state, then a run puts there
what its steps carry, one after another. -/
theorem foldl_part (step : σ → α → σ) (part : σ → β) (carried? : α → Option γ) (put : β → γ → β)
    (law : ∀ s a, part (step s a) = ((carried? a).map (put (part s))).getD (part s))
    (items : List α) (s : σ) :
    part (items.foldl step s) = (items.filterMap carried?).foldl put (part s) := by
  induction items generalizing s with
  | nil => rfl
  | cons a rest ih =>
      rw [List.foldl_cons, ih, law, List.filterMap_cons]
      cases carried? a <;> rfl

/-- What is overwritten again and again is in the end what was written last. -/
theorem foldl_overwritten (items : List β) (initial : β) :
    items.foldl (fun _ b => b) initial = items.getLast?.getD initial := by
  induction items generalizing initial with
  | nil => rfl
  | cons b rest ih => rw [List.foldl_cons, ih, List.getLast?_cons, Option.getD_some]

theorem foldl_carried (step : σ → α → σ) (part : σ → β) (carried? : α → Option β)
    (law : ∀ s a, part (step s a) = (carried? a).getD (part s)) (items : List α) (s : σ) :
    part (items.foldl step s) = (items.filterMap carried?).getLast?.getD (part s) := by
  rw [← foldl_overwritten]
  refine foldl_part step part carried? _ ?_ items s
  intro s a
  rw [law, Option.map_id']

/-- A part that may be without a value is overwritten with values only. -/
theorem foldl_carried_or (step : σ → α → σ) (part : σ → Option β) (carried? : α → Option β)
    (law : ∀ s a, part (step s a) = (carried? a).or (part s)) (items : List α) (s : σ) :
    part (items.foldl step s) = (items.filterMap carried?).getLast?.or (part s) := by
  have run : part (items.foldl step s) =
      ((items.filterMap carried?).map some).foldl (fun _ b => b) (part s) := by
    rw [List.foldl_map]
    refine foldl_part step part carried? (fun _ b => some b) ?_ items s
    intro s a
    rw [law]
    cases carried? a <;> rfl
  rw [run, foldl_overwritten, List.getLast?_map]
  cases (items.filterMap carried?).getLast? <;> rfl

/-- What is carried by the steps that pass a test, and by no others. -/
theorem filterMap_ite (writes : α → Bool) (written : α → β) (items : List α) :
    items.filterMap (fun a => if writes a then some (written a) else none) =
      (items.filter writes).map written := by
  rw [← List.filterMap_eq_map, List.filterMap_filter]
  rfl

/-- What a fold keeps in one place is what the last item that writes there has left. -/
theorem foldl_overwrite (step : σ → α → σ) (view : σ → β) (writes : α → Bool) (written : α → β)
    (law : ∀ s a, view (step s a) = if writes a then written a else view s)
    (items : List α) (s : σ) :
    view (items.foldl step s) = ((items.filter writes).getLast?.map written).getD (view s) := by
  rw [← List.getLast?_map, ← filterMap_ite]
  refine foldl_carried step view _ ?_ items s
  intro s a
  rw [law]
  split <;> rfl

theorem foldl_overwrite_or (step : σ → α → σ) (view : σ → Option β) (writes : α → Bool)
    (written : α → β)
    (law : ∀ s a, view (step s a) = if writes a then some (written a) else view s)
    (items : List α) (s : σ) :
    view (items.foldl step s) = ((items.filter writes).getLast?.map written).or (view s) := by
  rw [← List.getLast?_map, ← filterMap_ite]
  refine foldl_carried_or step view _ ?_ items s
  intro s a
  rw [law]
  split <;> rfl

end InvocationRouting
