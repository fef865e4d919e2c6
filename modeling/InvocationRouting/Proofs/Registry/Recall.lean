import InvocationRouting.Proofs.Registry.FirstAction
import InvocationRouting.Registry.Cache

/-!
# Proofs.Registry.Recall — what a cache remembers is what a search would find

A cache is never told when a route is registered. It need not be: a route that is appended does not
come before the first action for any method.

* `Cache.Faithful` : each remembered registration is the first action for its method;
* `faithful_append`, `faithful_resolve` : registering and looking up keep a cache faithful;
* `resolve_result` : a faithful cache answers like a search.
-/

namespace InvocationRouting
namespace Cache

/-- Each remembered registration is the first action for its method among the descriptors. -/
def Faithful (descriptors : List Descriptor) (cache : Cache) : Prop :=
  ∀ method registration, cache.find? method = some registration →
    Descriptor.firstAction? descriptors method = some registration

/-- What a search among the descriptors answers. -/
def searchResult (descriptors : List Descriptor) (method : Method) :
    Except ResolveError Registration :=
  match Descriptor.firstAction? descriptors method with
  | some registration => .ok registration
  | none => .error (.targetNotFound method)

theorem faithful_empty (descriptors : List Descriptor) : Faithful descriptors empty := by
  intro method registration h
  cases h

/-- A registered route does not make a cache wrong. -/
theorem faithful_append {descriptors : List Descriptor} {cache : Cache}
    (faithful : Faithful descriptors cache) (more : List Descriptor) :
    Faithful (descriptors ++ more) cache := by
  intro method registration h
  exact Descriptor.firstAction?_append_of_some (faithful method registration h) more

section Resolve

variable {descriptors : List Descriptor} {cache : Cache} {method : Method}

/-- A remembered registration is answered without a search. -/
theorem resolve_of_find?_some {registration : Registration}
    (h : cache.find? method = some registration) :
    cache.resolve descriptors method =
      (⟨[.cacheHit method], .ok registration⟩, { cache with hits := cache.hits + 1 }) := by
  simp only [resolve, h]

/-- What is not remembered is searched for. -/
theorem resolve_result_of_find?_none (h : cache.find? method = none) :
    (cache.resolve descriptors method).1.result = searchResult descriptors method := by
  unfold resolve searchResult
  rw [h]
  cases Descriptor.firstAction? descriptors method <;> rfl

/-- Looking up a method only adds to what is remembered, and what it adds is the first action. -/
theorem resolved_resolve :
    (cache.resolve descriptors method).2.resolved =
      match cache.find? method with
      | some _ => cache.resolved
      | none =>
          match Descriptor.firstAction? descriptors method with
          | some registration => (method.identity, registration) :: cache.resolved
          | none => cache.resolved := by
  unfold resolve
  cases cache.find? method with
  | some registration => rfl
  | none => cases Descriptor.firstAction? descriptors method <;> rfl

/-- A faithful cache answers like a search. -/
theorem resolve_result (faithful : Faithful descriptors cache) :
    (cache.resolve descriptors method).1.result = searchResult descriptors method := by
  cases h : cache.find? method with
  | some registration =>
      rw [resolve_of_find?_some h, searchResult, faithful method registration h]
  | none => exact resolve_result_of_find?_none h

/-- Looking up a method keeps a cache faithful. -/
theorem faithful_resolve (faithful : Faithful descriptors cache) :
    Faithful descriptors (cache.resolve descriptors method).2 := by
  intro other registration h
  rw [find?, resolved_resolve] at h
  cases remembered : cache.find? method with
  | some found =>
      rw [remembered] at h
      exact faithful other registration h
  | none =>
      rw [remembered] at h
      cases found : Descriptor.firstAction? descriptors method with
      | none =>
          rw [found] at h
          exact faithful other registration h
      | some first =>
          rw [found] at h
          -- The new entry answers for every declaration of the method.
          by_cases same : other.identity = method.identity
          · rw [same, List.lookup_cons_self] at h
            cases h
            rw [Descriptor.firstAction?_congr same, found]
          · have differs : (other.identity == method.identity) = false := by simpa using same
            rw [List.lookup_cons, differs] at h
            exact faithful other registration h

end Resolve

end Cache
end InvocationRouting
