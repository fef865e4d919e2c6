import InvocationRouting.Proofs.Interleaving.Step

/-!
# Proofs.Interleaving.Schedule — actions in a row

* `Machine.acts?` : the machine after a whole schedule;
* `keeps_along` : what every action keeps is kept by a whole schedule;
* `reachable_acts?` : schedules lead to reachable machines.
-/

namespace InvocationRouting
namespace Machine

/-- The machine after actions in a row, if all of them are possible. -/
def acts? : Machine → List Action → Option Machine
  | m, [] => some m
  | m, action :: rest => (m.act? action).bind fun m' => acts? m' rest

theorem acts?_cons (m : Machine) (action : Action) (rest : List Action) :
    m.acts? (action :: rest) = (m.act? action).bind fun m' => m'.acts? rest := rfl

theorem acts?_append (m : Machine) (before after : List Action) :
    m.acts? (before ++ after) = (m.acts? before).bind fun m' => m'.acts? after := by
  induction before generalizing m with
  | nil => rfl
  | cons action rest ih =>
      rw [List.cons_append, acts?_cons, acts?_cons]
      cases m.act? action with
      | none => rfl
      | some m' => exact ih m'

/-- What every action keeps in reachable machines is kept by a whole schedule. -/
theorem keeps_along {P : Machine → Prop}
    (keep : ∀ m m' action, m.Reachable → P m → m.act? action = some m' → P m')
    {m m' : Machine} (actions : List Action) (reachable : m.Reachable) (holds : P m)
    (leads : m.acts? actions = some m') : P m' := by
  induction actions generalizing m with
  | nil =>
      cases leads
      exact holds
  | cons action rest ih =>
      rw [acts?_cons, Option.bind_eq_some_iff] at leads
      rcases leads with ⟨middle, acted, rest⟩
      exact ih (.act action reachable acted) (keep m middle action reachable holds acted) rest

/-- Schedules lead to reachable machines. -/
theorem reachable_acts? {m m' : Machine} {actions : List Action} (reachable : m.Reachable)
    (leads : m.acts? actions = some m') : m'.Reachable :=
  keeps_along (fun _ _ action _ before acted => .act action before acted) actions reachable
    reachable leads

/-! ## A method to ask for -/

/-- A method under one of its parameter names. -/
def sampleMethod (parameter : String) : Method :=
  ⟨⟨0, "shop::ReviewHandler"⟩, "Show", [⟨parameter, "i64"⟩]⟩

/-- What is registered for the method. -/
def sampleRegistration : Registration :=
  ⟨0, ⟨sampleMethod "id", "Review", "Show", [⟨"id", none⟩], .empty, []⟩⟩

end Machine
end InvocationRouting
