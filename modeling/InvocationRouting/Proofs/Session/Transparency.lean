import InvocationRouting.Proofs.Registry.Recall
import InvocationRouting.Session

/-!
# Proofs.Session.Transparency — caches cannot be told from searches

Whatever a session is asked for, in whatever order and through whichever resolvers, its answers are
those that resolvers without any memory would give.

* `Session.Sound` : all caches are faithful to the provider, and registrations are numbered;
* `sound_handle`, `sound_run` : requests keep a session sound;
* `session_transparent` : what a sound session answers.
-/

namespace InvocationRouting

/-! ## One resolution -/

namespace Settings

variable (settings : Settings) (descriptors : List Descriptor) (cache : Cache)
  (invocation : Invocation)

/-- A resolution uses a cache for nothing but the answer for one method. -/
theorem resolve_result :
    (settings.resolve descriptors cache invocation).1.result =
      match (invocation.analyze settings.depthLimit).result with
      | .error e => .error e
      | .ok analysis =>
          (cache.resolve descriptors analysis.method).1.result.map fun registration =>
            (Merger.ofSettings settings).merge registration.target analysis.arguments := by
  unfold resolve
  cases analyzed : (invocation.analyze settings.depthLimit).result with
  | error e => simp only [analyzed]
  | ok analysis =>
      simp only [analyzed, Cache.dispatch, Traced.mapTrace]
      cases (cache.resolve descriptors analysis.method).1.result <;> simp only [Except.map]

/-- A resolution changes a cache as the lookup of one method does, or not at all. -/
theorem resolve_cache :
    (settings.resolve descriptors cache invocation).2 =
      match (invocation.analyze settings.depthLimit).result with
      | .error _ => cache
      | .ok analysis => (cache.resolve descriptors analysis.method).2 := by
  unfold resolve
  cases analyzed : (invocation.analyze settings.depthLimit).result with
  | error e => simp only [analyzed]
  | ok analysis =>
      simp only [analyzed, Cache.dispatch, Traced.mapTrace]
      cases (cache.resolve descriptors analysis.method).1.result <;> simp only

variable {settings descriptors cache invocation}

/-- A faithful cache gives the result that an empty one gives. -/
theorem resolve_result_of_faithful (faithful : cache.Faithful descriptors) :
    (settings.resolve descriptors cache invocation).1.result =
      (settings.resolve descriptors .empty invocation).1.result := by
  rw [resolve_result, resolve_result]
  cases (invocation.analyze settings.depthLimit).result with
  | error e => rfl
  | ok analysis =>
      simp only
      rw [Cache.resolve_result faithful, Cache.resolve_result (Cache.faithful_empty descriptors)]

theorem faithful_resolve (faithful : cache.Faithful descriptors) :
    (settings.resolve descriptors cache invocation).2.Faithful descriptors := by
  rw [resolve_cache]
  cases (invocation.analyze settings.depthLimit).result with
  | error e => exact faithful
  | ok analysis => exact Cache.faithful_resolve faithful

end Settings

/-! ## Sound sessions -/

namespace Session

/-- All caches are faithful to the provider, and its registrations are numbered. -/
structure Sound (session : Session) : Prop where
  faithful : ∀ cache ∈ session.caches, cache.Faithful session.provider.descriptors
  numbered : Provider.Numbered session.provider.descriptors

theorem sound_start (settings : Settings) : Sound (start settings) where
  faithful := by
    intro cache member
    rw [List.mem_singleton.1 member]
    exact Cache.faithful_empty _
  numbered := Provider.numbered_empty

variable {session : Session}

/-- The cache of any resolver is faithful. -/
theorem Sound.faithful_cacheOf (sound : Sound session) (resolver : Resolver) :
    (session.cacheOf resolver).Faithful session.provider.descriptors := by
  unfold cacheOf
  cases h : session.caches[resolver.cache]? with
  | none => exact Cache.faithful_empty _
  | some cache => exact sound.faithful cache (List.mem_of_getElem? h)

/-- A faithful cache may take the place of another. -/
theorem Sound.withCache (sound : Sound session) (resolver : Resolver) {cache : Cache}
    (faithful : cache.Faithful session.provider.descriptors) :
    Sound (session.withCache resolver cache) where
  faithful := by
    intro other member
    rcases List.mem_or_eq_of_mem_set member with old | rfl
    · exact sound.faithful other old
    · exact faithful
  numbered := sound.numbered

theorem Sound.addResolver (sound : Sound session) (settings : Settings) (share : Option Nat) :
    Sound (session.addResolver settings share) := by
  unfold Session.addResolver
  split
  · exact ⟨sound.faithful, sound.numbered⟩
  · refine ⟨?_, sound.numbered⟩
    intro cache member
    rcases List.mem_append.1 member with old | new
    · exact sound.faithful cache old
    · rw [List.mem_singleton.1 new]
      exact Cache.faithful_empty _

/-- One request keeps a session sound. -/
theorem sound_handle (sound : Sound session) (request : Request) :
    Sound (session.handle request).2.2 := by
  cases request with
  -- Registering touches no cache, and what is appended is never the first of two.
  | register target =>
      refine ⟨?_, Provider.numbered_register sound.numbered target⟩
      intro cache member
      exact Cache.faithful_append (sound.faithful cache member) _
  | registerEndpoint name values =>
      refine ⟨?_, Provider.numbered_registerEndpoint sound.numbered name values⟩
      intro cache member
      exact Cache.faithful_append (sound.faithful cache member) _
  | snapshot => exact ⟨sound.faithful, sound.numbered⟩
  | addResolver settings share => exact sound.addResolver settings share
  | cloneResolver number =>
      simp only [handle]
      split
      · exact ⟨sound.faithful, sound.numbered⟩
      · exact sound
  | resolve number invocation =>
      simp only [handle]
      split
      · next resolver _ =>
          exact sound.withCache resolver
            (Settings.faithful_resolve (sound.faithful_cacheOf resolver))
      · exact sound
  | dispatch number method =>
      simp only [handle]
      split
      · next resolver _ =>
          exact sound.withCache resolver (Cache.faithful_resolve (sound.faithful_cacheOf resolver))
      · exact sound

theorem run_cons (request : Request) (requests : List Request) :
    (session.run (request :: requests)).2 = ((session.handle request).2.2.run requests).2 := rfl

/-- Requests keep a session sound. -/
theorem sound_run (sound : Sound session) (requests : List Request) :
    Sound (session.run requests).2 := by
  induction requests generalizing session with
  | nil => exact sound
  | cons request requests ih =>
      rw [run_cons]
      exact ih (sound_handle sound request)

/-! ## What requests leave alone -/

/-- A resolver keeps its number, its settings and its cache. -/
theorem getElem?_resolvers_handle {number : Nat} {resolver : Resolver}
    (known : session.resolvers[number]? = some resolver) (request : Request) :
    (session.handle request).2.2.resolvers[number]? = some resolver := by
  -- Resolvers are only ever appended.
  have kept : session.resolvers <+: (session.handle request).2.2.resolvers := by
    cases request with
    | register target => exact List.prefix_rfl
    | registerEndpoint name values => exact List.prefix_rfl
    | snapshot => exact List.prefix_rfl
    | addResolver settings share =>
        simp only [handle, addResolver]
        split <;> exact List.prefix_append _ _
    | cloneResolver number =>
        simp only [handle]
        split
        · exact List.prefix_append _ _
        · exact List.prefix_rfl
    | resolve number invocation =>
        simp only [handle]
        split <;> exact List.prefix_rfl
    | dispatch number method =>
        simp only [handle]
        split <;> exact List.prefix_rfl
  rcases List.getElem?_eq_some_iff.1 known with ⟨bound, rfl⟩
  exact List.prefix_iff_getElem?.1 kept number bound

theorem getElem?_resolvers_run {number : Nat} {resolver : Resolver}
    (known : session.resolvers[number]? = some resolver) (requests : List Request) :
    (session.run requests).2.resolvers[number]? = some resolver := by
  induction requests generalizing session with
  | nil => exact known
  | cons request requests ih =>
      rw [run_cons]
      exact ih (getElem?_resolvers_handle known request)

/-- A request that registers no action for a method does not change which is the first. -/
theorem firstAction?_handle {method : Method} {request : Request}
    (other : ∀ target, request = .register target → (target.method == method) = false) :
    Descriptor.firstAction? (session.handle request).2.2.provider.descriptors method =
      Descriptor.firstAction? session.provider.descriptors method := by
  cases request with
  | register target =>
      have missing : Descriptor.firstAction?
          [.action (session.provider.nextRegistration target)] method = none := by
        rw [Descriptor.firstAction?_cons_action, Provider.nextRegistration, other target rfl]
        rfl
      simp only [handle, Provider.register, Provider.push]
      rw [Descriptor.firstAction?_append, missing, Option.or_none]
  | registerEndpoint name values =>
      simp only [handle, Provider.registerEndpoint, Provider.push]
      rw [Descriptor.firstAction?_append, Descriptor.firstAction?_cons_endpoint]
      exact Option.or_none
  | snapshot => rfl
  | addResolver settings share =>
      simp only [handle, addResolver]
      split <;> rfl
  | cloneResolver number =>
      simp only [handle]
      split <;> rfl
  | resolve number invocation =>
      simp only [handle]
      split <;> rfl
  | dispatch number method =>
      simp only [handle]
      split <;> rfl

theorem firstAction?_run {method : Method} {requests : List Request}
    (others : ∀ target, .register target ∈ requests → (target.method == method) = false) :
    Descriptor.firstAction? (session.run requests).2.provider.descriptors method =
      Descriptor.firstAction? session.provider.descriptors method := by
  induction requests generalizing session with
  | nil => rfl
  | cons request requests ih =>
      rw [run_cons, ih]
      · apply firstAction?_handle
        rintro target rfl
        exact others target List.mem_cons_self
      · intro target member
        exact others target (List.mem_cons_of_mem _ member)

/-! ## Answers -/

variable {number : Nat} {resolver : Resolver}

/-- A sound session resolves like one that remembers nothing. -/
theorem Sound.handle_resolve (sound : Sound session)
    (known : session.resolvers[number]? = some resolver) (invocation : Invocation) :
    (session.handle (.resolve number invocation)).1 =
      .resolved
        (resolver.settings.resolve session.provider.descriptors .empty invocation).1.result := by
  simp only [handle, known]
  rw [Settings.resolve_result_of_faithful (sound.faithful_cacheOf resolver)]

/-- A sound session finds a target like a search among the routes. -/
theorem Sound.handle_dispatch (sound : Sound session)
    (known : session.resolvers[number]? = some resolver) (method : Method) :
    (session.handle (.dispatch number method)).1 =
      .dispatched (Cache.searchResult session.provider.descriptors method) := by
  simp only [handle, known, Cache.dispatch, Traced.mapTrace]
  rw [Cache.resolve_result (sound.faithful_cacheOf resolver)]

/-- A search answers with the first action for the method, or says that there is none. -/
theorem searchResult_cases (descriptors : List Descriptor) (method : Method) :
    (∃ registration, Descriptor.IsFirstAction descriptors method registration ∧
        Cache.searchResult descriptors method = .ok registration) ∨
      (Descriptor.NoAction descriptors method ∧
        Cache.searchResult descriptors method = .error (.targetNotFound method)) := by
  unfold Cache.searchResult
  cases h : Descriptor.firstAction? descriptors method with
  | some registration => exact .inl ⟨registration, Descriptor.firstAction?_eq_some_iff.1 h, rfl⟩
  | none => exact .inr ⟨Descriptor.firstAction?_eq_none_iff.1 h, rfl⟩

/-- **Transparency.** After any requests whatever, a resolver

* resolves every invocation as it would with an empty cache;
* answers for every method with the first action that is registered for it, and with nothing but
  the error if there is none;
* does not change that answer when routes other than actions for the method are registered, or when
  anything else happens.

Registrations are told apart by their numbers, so that the answer is one registration and not just
an equal one. -/
theorem session_transparent (settings : Settings) (requests : List Request) (number : Nat)
    (resolver : Resolver)
    (known : ((start settings).run requests).2.resolvers[number]? = some resolver) :
    let session := ((start settings).run requests).2
    Provider.Numbered session.provider.descriptors ∧
      (∀ invocation, (session.handle (.resolve number invocation)).1 = .resolved
        (resolver.settings.resolve session.provider.descriptors .empty invocation).1.result) ∧
      (∀ method,
        (∃ registration,
          Descriptor.IsFirstAction session.provider.descriptors method registration ∧
            (session.handle (.dispatch number method)).1 = .dispatched (.ok registration)) ∨
        (Descriptor.NoAction session.provider.descriptors method ∧
          (session.handle (.dispatch number method)).1 =
            .dispatched (.error (.targetNotFound method)))) ∧
      (∀ method others,
        (∀ target, .register target ∈ others → (target.method == method) = false) →
          ((session.run others).2.handle (.dispatch number method)).1 =
            (session.handle (.dispatch number method)).1) := by
  intro session
  have sound : Sound session := sound_run (sound_start settings) requests
  refine ⟨sound.numbered, sound.handle_resolve known, ?_, ?_⟩
  · intro method
    rw [sound.handle_dispatch known]
    rcases searchResult_cases session.provider.descriptors method with
      ⟨registration, first, result⟩ | ⟨missing, result⟩
    · exact .inl ⟨registration, first, by rw [result]⟩
    · exact .inr ⟨missing, by rw [result]⟩
  · -- Both answers are those of a search, and the searches find the same.
    intro method others irrelevant
    have sound' : Sound (session.run others).2 := sound_run sound others
    rw [sound'.handle_dispatch (getElem?_resolvers_run known others), sound.handle_dispatch known]
    unfold Cache.searchResult
    rw [firstAction?_run irrelevant]

/-- A method that callers may know under another parameter name. -/
def reviewMethod (parameter : String) : Method :=
  ⟨⟨0, "shop::ReviewHandler"⟩, "Show", [⟨parameter, "i64"⟩]⟩

/-- A target for the method. -/
def reviewTarget (actionName : String) : DispatchTarget :=
  ⟨reviewMethod "id", "Review", actionName, [⟨"id", none⟩], .empty, []⟩

/-- The method is missed, registered, found, and registered once more, and a second resolver comes
to share the cache. -/
def reviewRequests : List Request :=
  [.dispatch 0 (reviewMethod "id"), .register (reviewTarget "First"),
    .dispatch 0 (reviewMethod "id"), .register (reviewTarget "Second"),
    .addResolver .default (some 0)]

/-- A call of the method from a place that has another name for its parameter. -/
def reviewCall : Invocation :=
  .call ⟨0, "shop::ReviewHandler"⟩ (reviewMethod "review") [.constant (.string "7")]

/-- What the first resolver has found answers a search and a call of the second one, which have the
first target although another one is registered by now. -/
theorem session_transparent_review :
    let session := ((start .default).run reviewRequests).2
    session.resolvers[1]? = some ⟨.default, 0⟩ ∧
      (session.cacheOf ⟨.default, 0⟩).find? (reviewMethod "review") =
        some ⟨0, reviewTarget "First"⟩ ∧
      (session.handle (.dispatch 1 (reviewMethod "review"))).1 =
        .dispatched (.ok ⟨0, reviewTarget "First"⟩) ∧
      ∃ route, (session.handle (.resolve 1 reviewCall)).1 = .resolved (.ok route) ∧
        route.actionName = "First" ∧ route.values.entries = [("id", .string "7")] := by
  intro session
  have known : session.resolvers[1]? = some ⟨.default, 0⟩ := rfl
  have first : Descriptor.firstAction? session.provider.descriptors (reviewMethod "review") =
      some ⟨0, reviewTarget "First"⟩ := rfl
  rcases session_transparent .default reviewRequests 1 ⟨.default, 0⟩ known with
    ⟨-, resolved, dispatched, -⟩
  refine ⟨known, rfl, ?_, _, resolved reviewCall, rfl, rfl⟩
  rcases dispatched (reviewMethod "review") with ⟨registration, isFirst, answer⟩ | ⟨missing, -⟩
  · have same := (Descriptor.firstAction?_eq_some_iff.2 isFirst).symm.trans first
    cases same
    exact answer
  · have none := Descriptor.firstAction?_eq_none_iff.2 missing
    rw [first] at none
    cases none

end Session
end InvocationRouting
