import InvocationRouting.Proofs.Method.Identity
import InvocationRouting.Registry.Provider

/-!
# Proofs.Registry.FirstAction — the first action for a method

* `Descriptor.IsFirstAction` : what it means to be the first action for a method;
* `firstAction?_eq_some_iff`, `firstAction?_eq_none_iff` : the search finds it exactly if there is
  one;
* `firstAction?_append_of_some` : it stays the first when more routes are registered;
* `Provider.Numbered` : numbers tell registrations apart.
-/

namespace InvocationRouting
namespace Descriptor

/-- The registration stands among the descriptors, is for the method, and no action before it is. -/
def IsFirstAction (descriptors : List Descriptor) (method : Method) (registration : Registration) :
    Prop :=
  ∃ before after, descriptors = before ++ action registration :: after ∧
    (registration.target.method == method) = true ∧
    ∀ earlier, action earlier ∈ before → (earlier.target.method == method) = false

/-- None of the actions is for the method. -/
def NoAction (descriptors : List Descriptor) (method : Method) : Prop :=
  ∀ registration, action registration ∈ descriptors →
    (registration.target.method == method) = false

theorem mem_filterMap_registration? {descriptors : List Descriptor} {registration : Registration} :
    registration ∈ descriptors.filterMap registration? ↔ action registration ∈ descriptors := by
  rw [List.mem_filterMap]
  constructor
  · rintro ⟨descriptor, member, h⟩
    cases descriptor with
    | action found =>
        cases h
        exact member
    | endpoint name values => cases h
  · intro member
    exact ⟨action registration, member, rfl⟩

theorem firstAction?_append (descriptors more : List Descriptor) (method : Method) :
    firstAction? (descriptors ++ more) method =
      (firstAction? descriptors method).or (firstAction? more method) := by
  unfold firstAction?
  rw [List.filterMap_append, List.find?_append]

/-- What is the first action stays so when more routes are registered. -/
theorem firstAction?_append_of_some {descriptors : List Descriptor} {method : Method}
    {registration : Registration} (h : firstAction? descriptors method = some registration)
    (more : List Descriptor) :
    firstAction? (descriptors ++ more) method = some registration := by
  rw [firstAction?_append, h, Option.some_or]

/-- The search goes by the identity of the method alone. -/
theorem firstAction?_congr {a b : Method} (h : a.identity = b.identity)
    (descriptors : List Descriptor) : firstAction? descriptors a = firstAction? descriptors b := by
  unfold firstAction?
  simp only [Method.beq_congr_right h]

theorem firstAction?_eq_none_iff {descriptors : List Descriptor} {method : Method} :
    firstAction? descriptors method = none ↔ NoAction descriptors method := by
  unfold firstAction? NoAction
  simp only [List.find?_eq_none, mem_filterMap_registration?, Bool.not_eq_true]

theorem firstAction?_cons_action (registration : Registration) (rest : List Descriptor)
    (method : Method) :
    firstAction? (action registration :: rest) method =
      if registration.target.method == method then some registration
      else firstAction? rest method := by
  by_cases h : (registration.target.method == method) = true <;>
    simp [firstAction?, registration?, h]

theorem firstAction?_cons_endpoint (name : String) (values : RouteValues)
    (rest : List Descriptor) (method : Method) :
    firstAction? (endpoint name values :: rest) method = firstAction? rest method := rfl

/-- The search finds the first action, whatever stands around it. -/
theorem firstAction?_eq_some_iff {descriptors : List Descriptor} {method : Method}
    {registration : Registration} :
    firstAction? descriptors method = some registration ↔
      IsFirstAction descriptors method registration := by
  constructor
  · intro h
    induction descriptors with
    | nil => cases h
    | cons descriptor rest ih =>
        cases descriptor with
        | action first =>
            rw [firstAction?_cons_action] at h
            by_cases hit : (first.target.method == method) = true
            · rw [if_pos hit] at h
              cases h
              exact ⟨[], rest, rfl, hit, by simp⟩
            · rw [if_neg hit] at h
              rcases ih h with ⟨before, after, rfl, found, none⟩
              refine ⟨action first :: before, after, rfl, found, ?_⟩
              intro earlier member
              rcases List.mem_cons.1 member with same | member
              · cases same
                simpa using hit
              · exact none earlier member
        | endpoint name values =>
            -- An endpoint joins those before, where only actions count.
            rcases ih h with ⟨before, after, rfl, found, none⟩
            refine ⟨endpoint name values :: before, after, rfl, found, ?_⟩
            intro earlier member
            rcases List.mem_cons.1 member with same | member
            · cases same
            · exact none earlier member
  · rintro ⟨before, after, rfl, found, none⟩
    have nothing : firstAction? before method = Option.none := firstAction?_eq_none_iff.2 none
    rw [firstAction?_append, nothing, Option.none_or, firstAction?_cons_action]
    simp [found]

end Descriptor

/-! ## Numbers of registrations -/

namespace Provider

/-- Every action has the number of the actions before it. -/
def Numbered (descriptors : List Descriptor) : Prop :=
  ∀ before registration after, descriptors = before ++ .action registration :: after →
    registration.number = (before.filterMap Descriptor.registration?).length

theorem numbered_empty : Numbered empty.descriptors := by
  intro before registration after h
  simp [empty] at h

/-- A route that is appended leaves the numbers before it alone. -/
theorem numbered_append {descriptors : List Descriptor} (numbered : Numbered descriptors)
    {descriptor : Descriptor}
    (last : ∀ registration, descriptor = .action registration →
      registration.number = (descriptors.filterMap Descriptor.registration?).length) :
    Numbered (descriptors ++ [descriptor]) := by
  intro before registration after h
  -- The action is the one that was appended, or it stood there before.
  rcases List.eq_nil_or_concat after with rfl | ⟨front, back, rfl⟩
  · have parts := List.append_inj' h rfl
    rw [← parts.1]
    exact last registration (List.singleton_inj.1 parts.2)
  · rw [List.concat_eq_append, ← List.cons_append, ← List.append_assoc] at h
    have parts := List.append_inj' h rfl
    exact numbered before registration front parts.1

theorem numbered_register {provider : Provider} (numbered : Numbered provider.descriptors)
    (target : DispatchTarget) : Numbered (provider.register target).descriptors := by
  apply numbered_append numbered
  rintro registration ⟨rfl⟩
  rfl

theorem numbered_registerEndpoint {provider : Provider} (numbered : Numbered provider.descriptors)
    (name : String) (values : RouteValues) :
    Numbered (provider.registerEndpoint name values).descriptors := by
  apply numbered_append numbered
  rintro registration ⟨⟩

end Provider
end InvocationRouting
