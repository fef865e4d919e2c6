import InvocationRouting.Proofs.Session.Transparency

/-!
# Proofs.Session.Caches — the caches that resolvers share

A resolver knows its cache by number. This file says that the number is good, and what requests do
to the cache behind it.

* `Session.Seated` : every resolver has a cache, which requests keep so (`seated_run`);
* `cacheOf_withCache`, `withCache_cacheOf` : a cache is read back where it was put;
* `find?_cacheOf_run` : what a cache remembers, it remembers for good.
-/

namespace InvocationRouting

/-! ## One cache -/

/-- A lookup forgets nothing. -/
theorem Cache.find?_resolve {cache : Cache} {method : Method} {registration : Registration}
    (found : cache.find? method = some registration) (descriptors : List Descriptor)
    (other : Method) :
    (cache.resolve descriptors other).2.find? method = some registration := by
  unfold Cache.find?
  rw [Cache.resolved_resolve]
  cases remembered : cache.find? other with
  | some _ => exact found
  | none =>
      cases Descriptor.firstAction? descriptors other with
      | none => exact found
      | some first =>
          -- What is added is for a method that was not remembered.
          have differs : (method.identity == other.identity) = false := by
            rw [beq_eq_false_iff_ne]
            intro same
            unfold Cache.find? at found remembered
            rw [same, remembered] at found
            cases found
          rw [List.lookup_cons, differs]
          exact found

theorem Settings.find?_resolve {cache : Cache} {method : Method} {registration : Registration}
    (found : cache.find? method = some registration) (settings : Settings)
    (descriptors : List Descriptor) (invocation : Invocation) :
    (settings.resolve descriptors cache invocation).2.find? method = some registration := by
  rw [Settings.resolve_cache]
  cases (invocation.analyze settings.depthLimit).result with
  | error e => exact found
  | ok analysis => exact Cache.find?_resolve found descriptors analysis.method

namespace Session

variable {session : Session} {resolver : Resolver}

/-! ## Reading back -/

/-- The cache of a resolver may be put where it is. -/
theorem withCache_cacheOf (session : Session) (resolver : Resolver) :
    session.withCache resolver (session.cacheOf resolver) = session := by
  have same : session.caches.set resolver.cache (session.cacheOf resolver) = session.caches := by
    unfold cacheOf
    cases h : session.caches[resolver.cache]? with
    | none => exact List.set_eq_of_length_le (List.getElem?_eq_none_iff.1 h)
    | some cache =>
        rcases List.getElem?_eq_some_iff.1 h with ⟨bound, rfl⟩
        exact List.set_getElem_self bound
  unfold withCache
  rw [same]

theorem cacheOf_withCache (seated : resolver.cache < session.caches.length) (cache : Cache) :
    (session.withCache resolver cache).cacheOf resolver = cache := by
  unfold cacheOf withCache
  rw [List.getElem?_set_self seated]
  rfl

/-! ## Seats -/

/-- Every resolver has a cache. -/
def Seated (session : Session) : Prop :=
  ∀ resolver ∈ session.resolvers, resolver.cache < session.caches.length

theorem seated_start (settings : Settings) : Seated (start settings) := by
  intro resolver member
  rw [List.mem_singleton.1 member]
  exact Nat.one_pos

theorem Seated.withCache (seated : Seated session) (resolver : Resolver) (cache : Cache) :
    Seated (session.withCache resolver cache) := by
  intro other member
  have bound := seated other member
  simpa only [Session.withCache, List.length_set] using bound

/-- A new resolver has the cache of another one, or a new cache. -/
theorem Seated.pushResolver (seated : Seated session)
    (seat : resolver.cache < session.caches.length) : Seated (session.pushResolver resolver) := by
  intro other member
  rcases List.mem_append.1 member with old | new
  · exact seated other old
  · rw [List.mem_singleton.1 new]
    exact seat

theorem Seated.addResolver (seated : Seated session) (settings : Settings) (share : Option Nat) :
    Seated (session.addResolver settings share) := by
  unfold Session.addResolver
  split
  · next other shared =>
      rcases Option.bind_eq_some_iff.1 shared with ⟨number, -, known⟩
      exact seated.pushResolver (seated other (List.mem_of_getElem? known))
  · have grown : session.caches.length < (session.caches ++ [Cache.empty]).length := by simp
    apply Seated.pushResolver
    · exact fun other member => Nat.lt_trans (seated other member) grown
    · exact grown

/-- One request leaves every resolver its cache. -/
theorem seated_handle (seated : Seated session) (request : Request) :
    Seated (session.handle request).2.2 := by
  cases request with
  | register target => exact seated
  | registerEndpoint name values => exact seated
  | snapshot => exact seated
  | addResolver settings share => exact seated.addResolver settings share
  | cloneResolver number =>
      simp only [handle]
      split
      · next other known => exact seated.pushResolver (seated other (List.mem_of_getElem? known))
      · exact seated
  | resolve number invocation =>
      simp only [handle]
      split
      · exact seated.withCache _ _
      · exact seated
  | dispatch number method =>
      simp only [handle]
      split
      · exact seated.withCache _ _
      · exact seated

theorem seated_run (seated : Seated session) (requests : List Request) :
    Seated (session.run requests).2 := by
  induction requests generalizing session with
  | nil => exact seated
  | cons request requests ih =>
      rw [run_cons]
      exact ih (seated_handle seated request)

/-! ## Memory -/

variable {method : Method} {registration : Registration}

/-- Where there is no cache, nothing is remembered. -/
theorem seat_of_find? (found : (session.cacheOf resolver).find? method = some registration) :
    resolver.cache < session.caches.length := by
  rcases Nat.lt_or_ge resolver.cache session.caches.length with seat | far
  · exact seat
  · unfold cacheOf at found
    rw [List.getElem?_eq_none far] at found
    cases found

/-- A cache that knows as much may take the place of another. -/
theorem find?_cacheOf_withCache {other : Resolver} {cache : Cache}
    (kept : ∀ found, (session.cacheOf other).find? method = some found →
      cache.find? method = some found)
    (found : (session.cacheOf resolver).find? method = some registration) :
    ((session.withCache other cache).cacheOf resolver).find? method = some registration := by
  by_cases same : other.cache = resolver.cache
  · have replaced : (session.withCache other cache).cacheOf resolver = cache := by
      unfold Session.withCache
      rw [same]
      exact cacheOf_withCache (seat_of_find? found) cache
    rw [replaced]
    apply kept
    unfold cacheOf at found ⊢
    rw [same]
    exact found
  · unfold cacheOf Session.withCache
    rw [List.getElem?_set_ne same]
    exact found

/-- One request makes no cache forget anything. -/
theorem find?_cacheOf_handle
    (found : (session.cacheOf resolver).find? method = some registration) (request : Request) :
    ((session.handle request).2.2.cacheOf resolver).find? method = some registration := by
  cases request with
  | register target => exact found
  | registerEndpoint name values => exact found
  | snapshot => exact found
  | addResolver settings share =>
      simp only [handle, addResolver]
      split
      · exact found
      · -- A new cache comes after all others.
        simp only [cacheOf, pushResolver]
        rw [List.getElem?_append_left (seat_of_find? found)]
        exact found
  | cloneResolver number =>
      simp only [handle]
      split <;> exact found
  | resolve number invocation =>
      simp only [handle]
      split
      · exact find?_cacheOf_withCache (fun _ known => Settings.find?_resolve known _ _ _) found
      · exact found
  | dispatch number other =>
      simp only [handle]
      split
      · exact find?_cacheOf_withCache (fun _ known => Cache.find?_resolve known _ _) found
      · exact found

theorem find?_cacheOf_run
    (found : (session.cacheOf resolver).find? method = some registration)
    (requests : List Request) :
    ((session.run requests).2.cacheOf resolver).find? method = some registration := by
  induction requests generalizing session with
  | nil => exact found
  | cons request requests ih =>
      rw [run_cons]
      exact ih (find?_cacheOf_handle found request)

end Session
end InvocationRouting
