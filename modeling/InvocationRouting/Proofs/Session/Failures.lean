import InvocationRouting.Proofs.Analysis.Faults
import InvocationRouting.Proofs.Session.Caches

/-!
# Proofs.Session.Failures — which error a session answers, and what it leaves behind

Several things may be wrong with one invocation. A resolution reports the first of them in the order
of its stages, and only the last stage touches a cache.

* `Cache.Missed`, `Cache.Answered` : what a lookup leaves behind;
* `Cache.missed_resolve`, `Cache.answered_resolve` : every lookup does one or the other;
* `Session.Ending`, `Sound.ending` : the three ways in which a resolution can end;
* `resolve_fails_in_order` : the answers of a session, and the session afterwards.
-/

namespace InvocationRouting

/-! ## One lookup -/

namespace Cache

/-- A search was made in vain: it was counted, and nothing is remembered that was not. -/
structure Missed (before after : Cache) : Prop where
  resolved : after.resolved = before.resolved
  hits : after.hits = before.hits
  misses : after.misses = before.misses + 1
  scans : after.scans = before.scans + 1

/-- A method was found: a hit or a miss was counted, and nothing is remembered besides what was,
unless the method was not and now is. -/
structure Answered (method : Method) (before after : Cache) : Prop where
  counted : after.hits = before.hits + 1 ∧ after.misses = before.misses ∨
    after.hits = before.hits ∧ after.misses = before.misses + 1
  remembered : after.resolved = before.resolved ∨
    before.find? method = none ∧
      ∃ registration, after.resolved = (method.identity, registration) :: before.resolved

variable {descriptors : List Descriptor} {cache : Cache} {method : Method}

/-- A faithful cache remembers nothing where a search would find nothing. -/
theorem Faithful.find?_eq_none (faithful : Faithful descriptors cache)
    (missing : Descriptor.firstAction? descriptors method = none) : cache.find? method = none := by
  apply Option.eq_none_iff_forall_ne_some.2
  intro registration remembered
  rw [faithful method registration remembered] at missing
  cases missing

theorem missed_resolve (unknown : cache.find? method = none)
    (missing : Descriptor.firstAction? descriptors method = none) :
    Missed cache (cache.resolve descriptors method).2 := by
  unfold resolve
  simp only [unknown, missing]
  exact ⟨rfl, rfl, rfl, rfl⟩

theorem answered_resolve {registration : Registration}
    (found : (cache.resolve descriptors method).1.result = .ok registration) :
    Answered method cache (cache.resolve descriptors method).2 := by
  unfold resolve at found ⊢
  cases known : cache.find? method with
  | some remembered => exact ⟨.inl ⟨rfl, rfl⟩, .inl rfl⟩
  | none =>
      cases first : Descriptor.firstAction? descriptors method with
      | some action => exact ⟨.inr ⟨rfl, rfl⟩, .inr ⟨known, action, rfl⟩⟩
      | none =>
          simp only [known, first] at found
          cases found

end Cache

/-! ## One request -/

namespace Session

variable {session : Session} {number : Nat} {resolver : Resolver} {invocation : Invocation}

/-- A resolution that fails in its analysis leaves the session as it was. -/
theorem handle_resolve_of_error (known : session.resolvers[number]? = some resolver)
    {e : ResolveError}
    (failed : (invocation.analyze resolver.settings.depthLimit).result = .error e) :
    (session.handle (.resolve number invocation)).1 = .resolved (.error e) ∧
      (session.handle (.resolve number invocation)).2.2 = session := by
  have result := Settings.resolve_result resolver.settings session.provider.descriptors
    (session.cacheOf resolver) invocation
  have cache := Settings.resolve_cache resolver.settings session.provider.descriptors
    (session.cacheOf resolver) invocation
  rw [failed] at result cache
  simp only [handle, known]
  rw [result, cache, withCache_cacheOf]
  exact ⟨rfl, rfl⟩

/-- A resolution whose analysis succeeds answers what the cache finds, and changes that cache. -/
theorem handle_resolve_of_ok (known : session.resolvers[number]? = some resolver)
    {analysis : Analysis}
    (analyzed : (invocation.analyze resolver.settings.depthLimit).result = .ok analysis) :
    (session.handle (.resolve number invocation)).1 = .resolved
        (((session.cacheOf resolver).resolve session.provider.descriptors
          analysis.method).1.result.map fun registration =>
            (Merger.ofSettings resolver.settings).merge registration.target analysis.arguments) ∧
      (session.handle (.resolve number invocation)).2.2 = session.withCache resolver
        ((session.cacheOf resolver).resolve session.provider.descriptors analysis.method).2 := by
  have result := Settings.resolve_result resolver.settings session.provider.descriptors
    (session.cacheOf resolver) invocation
  have cache := Settings.resolve_cache resolver.settings session.provider.descriptors
    (session.cacheOf resolver) invocation
  rw [analyzed] at result cache
  simp only [handle, known]
  rw [result, cache]
  exact ⟨rfl, rfl⟩

/-- Nothing runs in a resolution whose call does not fit its method. -/
theorem computations_handle_resolve (known : session.resolvers[number]? = some resolver)
    (fault : invocation.body.shapeFault?.isSome ∨ invocation.body.receiverFault?.isSome ∨
      invocation.body.arityFault?.isSome) :
    (session.handle (.resolve number invocation)).2.1.filterMap Occurrence.computation? = [] := by
  have whole := Settings.computations_resolve resolver.settings session.provider.descriptors
    (session.cacheOf resolver) invocation
  have silent : (invocation.analyze resolver.settings.depthLimit).computations.trace = [] := by
    rw [invocation.computations_analyze]
    exact Expr.computations_analyze_of_fault _ fault
  have trace : (resolver.settings.resolve session.provider.descriptors
      (session.cacheOf resolver) invocation).1.computations.trace = [] := by
    rw [whole]
    unfold Traced.andThen
    cases (invocation.analyze resolver.settings.depthLimit).computations.result <;>
      simp [silent, Traced.ofExcept]
  simp only [handle, known]
  exact trace

/-- How the resolution of a body can end, with which answer and in which session: before the last
stage, in it, or with a route. -/
inductive Ending (session : Session) (resolver : Resolver) (body : Expr) (answer : Answer)
    (after : Session) : Prop where
  | early (e : ResolveError)
      (fault : (body.earlyFaults resolver.settings.depthLimit).head? = some e)
      (answered : answer = .resolved (.error e))
      (untouched : after = session)
  | late (method : Method)
      (called : body.calledMethod? = some method)
      (analyzed : body.earlyFaults resolver.settings.depthLimit = [])
      (fault : body.targetFault? session.provider.descriptors = some (.targetNotFound method))
      (answered : answer = .resolved (.error (.targetNotFound method)))
      (elsewhere : after = session.withCache resolver (after.cacheOf resolver))
      (missed : (session.cacheOf resolver).Missed (after.cacheOf resolver))
  | route (method : Method) (route : Route)
      (called : body.calledMethod? = some method)
      (analyzed : body.earlyFaults resolver.settings.depthLimit = [])
      (registered : body.targetFault? session.provider.descriptors = none)
      (answered : answer = .resolved (.ok route))
      (elsewhere : after = session.withCache resolver (after.cacheOf resolver))
      (found : (session.cacheOf resolver).Answered method (after.cacheOf resolver))

/-- Every resolution ends in one of these ways. -/
theorem Sound.ending (sound : Sound session) (known : session.resolvers[number]? = some resolver)
    (seat : resolver.cache < session.caches.length) (invocation : Invocation) :
    Ending session resolver invocation.body (session.handle (.resolve number invocation)).1
      (session.handle (.resolve number invocation)).2.2 := by
  have faithful := sound.faithful_cacheOf resolver
  have failure := invocation.failure?_analyze resolver.settings.depthLimit
  cases result : (invocation.analyze resolver.settings.depthLimit).result with
  | error e =>
      rw [Traced.failure?_eq_some_iff.2 result] at failure
      rcases handle_resolve_of_error known result with ⟨answered, untouched⟩
      exact .early e failure.symm answered untouched
  | ok analysis =>
      -- Nothing is wrong so far, and what is left is the lookup.
      rw [Traced.failure?_eq_none_iff.2 ⟨analysis, result⟩] at failure
      have analyzed := List.head?_eq_none_iff.1 failure.symm
      have body := (invocation.result_analyze resolver.settings.depthLimit).symm.trans result
      have called := Expr.calledMethod?_of_analyze _ body
      have fault := Expr.targetFault?_of_calledMethod? called session.provider.descriptors
      have lookup : ((session.cacheOf resolver).resolve session.provider.descriptors
          analysis.method).1.result =
            Cache.searchResult session.provider.descriptors analysis.method :=
        Cache.resolve_result faithful
      rcases handle_resolve_of_ok known result with ⟨answered, left⟩
      -- What is left behind differs in the one cache.
      have cache := cacheOf_withCache seat ((session.cacheOf resolver).resolve
        session.provider.descriptors analysis.method).2
      rw [← left] at cache
      have elsewhere := left
      rw [← cache] at elsewhere
      unfold Cache.searchResult at lookup
      cases first : Descriptor.firstAction? session.provider.descriptors analysis.method with
      | none =>
          rw [first] at lookup fault
          rw [lookup] at answered
          have missed := Cache.missed_resolve (faithful.find?_eq_none first) first
          rw [← cache] at missed
          exact .late analysis.method called analyzed fault answered elsewhere missed
      | some registration =>
          rw [first] at lookup fault
          rw [lookup] at answered
          have found := Cache.answered_resolve lookup
          rw [← cache] at found
          exact .route analysis.method _ called analyzed fault answered elsewhere found

namespace Ending

variable {body : Expr} {answer : Answer} {after : Session}

/-- The first of all faults is answered. -/
theorem answer_eq_error_iff (ending : Ending session resolver body answer after)
    (e : ResolveError) :
    answer = .resolved (.error e) ↔
      (body.faults resolver.settings.depthLimit session.provider.descriptors).head? = some e := by
  cases ending with
  | early first fault answered _ =>
      have reported : (body.faults resolver.settings.depthLimit
          session.provider.descriptors).head? = some first := by
        rw [Expr.faults, List.head?_append, fault, Option.some_or]
      simp [answered, reported]
  | late method _ analyzed fault answered _ _ => simp [answered, Expr.faults, analyzed, fault]
  | route _ _ _ analyzed registered answered _ _ =>
      simp [answered, Expr.faults, analyzed, registered]

/-- There is a route where there is no fault. -/
theorem faults_eq_nil_iff (ending : Ending session resolver body answer after) :
    body.faults resolver.settings.depthLimit session.provider.descriptors = [] ↔
      ∃ route, answer = .resolved (.ok route) := by
  -- An answer that is no route is an error, and errors are answered for faults only.
  rw [← List.head?_eq_none_iff, Option.eq_none_iff_forall_ne_some]
  simp only [Ne, ← ending.answer_eq_error_iff]
  cases ending with
  | early _ _ answered _ => simp [answered]
  | late _ _ _ _ answered _ _ => simp [answered]
  | route _ _ _ _ _ answered _ _ => simp [answered]

/-- A fault before the last stage changes nothing. -/
theorem untouched_of_early (ending : Ending session resolver body answer after)
    (early : body.earlyFaults resolver.settings.depthLimit ≠ []) : after = session := by
  cases ending with
  | early _ _ _ untouched => exact untouched
  | late _ _ analyzed _ _ _ _ => exact absurd analyzed early
  | route _ _ _ analyzed _ _ _ _ => exact absurd analyzed early

/-- A search in vain is made in the last stage only. -/
theorem missed_of_targetNotFound (ending : Ending session resolver body answer after)
    {method : Method} (missing : answer = .resolved (.error (.targetNotFound method))) :
    body.calledMethod? = some method ∧
      after = session.withCache resolver (after.cacheOf resolver) ∧
      (session.cacheOf resolver).Missed (after.cacheOf resolver) := by
  cases ending with
  | early e fault answered _ =>
      have same : e = .targetNotFound method := by simpa [answered] using missing
      have member : e ∈ body.earlyFaults resolver.settings.depthLimit := List.mem_of_mem_head? fault
      rw [same] at member
      exact absurd member (body.targetNotFound_notMem_earlyFaults _ method)
  | late other called _ _ answered elsewhere missed =>
      have same : other = method := by simpa [answered] using missing
      exact ⟨same ▸ called, elsewhere, missed⟩
  | route _ _ _ _ _ answered _ _ =>
      rw [answered] at missing
      cases missing

/-- A route is found in the last stage only. -/
theorem answered_of_route (ending : Ending session resolver body answer after) {route : Route}
    (resolved : answer = .resolved (.ok route)) :
    ∃ method, body.calledMethod? = some method ∧
      after = session.withCache resolver (after.cacheOf resolver) ∧
      (session.cacheOf resolver).Answered method (after.cacheOf resolver) := by
  cases ending with
  | early _ _ answered _ =>
      rw [answered] at resolved
      cases resolved
  | late _ _ _ _ answered _ _ =>
      rw [answered] at resolved
      cases resolved
  | route method _ called _ _ _ elsewhere found => exact ⟨method, called, elsewhere, found⟩

end Ending

/-- **Failures.** After any requests whatever, let a resolver be asked to resolve an invocation.

* It answers the first of all faults, and a route if there is none.
* Unless the body is a call with a receiver and the right number of arguments, nothing runs.
* A fault before the last stage leaves the whole session as it was.
* If the answer is that there is no target, it is about the method that is called, one search in
  vain is counted in the cache of the resolver, and nothing else has changed but the gates there.
* If the answer is a route, the lookup of the method that is called is counted in the cache of the
  resolver as a hit or as a miss, the method may now be remembered there, and nothing else has
  changed but the gates and the searches there. -/
theorem resolve_fails_in_order (settings : Settings) (requests : List Request) (number : Nat)
    (resolver : Resolver)
    (known : ((start settings).run requests).2.resolvers[number]? = some resolver)
    (invocation : Invocation) :
    let session := ((start settings).run requests).2
    let answer := (session.handle (.resolve number invocation)).1
    let after := (session.handle (.resolve number invocation)).2.2
    let body := invocation.body
    let early := body.earlyFaults resolver.settings.depthLimit
    let faults := body.faults resolver.settings.depthLimit session.provider.descriptors
    (∀ e, answer = .resolved (.error e) ↔ faults.head? = some e) ∧
    (faults = [] ↔ ∃ route, answer = .resolved (.ok route)) ∧
    (body.shapeFault?.isSome ∨ body.receiverFault?.isSome ∨ body.arityFault?.isSome →
      (session.handle (.resolve number invocation)).2.1.filterMap Occurrence.computation? = []) ∧
    (early ≠ [] → after = session) ∧
    (∀ method, answer = .resolved (.error (.targetNotFound method)) →
      body.calledMethod? = some method ∧
        after = session.withCache resolver (after.cacheOf resolver) ∧
        (session.cacheOf resolver).Missed (after.cacheOf resolver)) ∧
    (∀ route, answer = .resolved (.ok route) →
      ∃ method, body.calledMethod? = some method ∧
        after = session.withCache resolver (after.cacheOf resolver) ∧
        (session.cacheOf resolver).Answered method (after.cacheOf resolver)) := by
  intro session answer after body early faults
  have sound : Sound session := sound_run (sound_start settings) requests
  have seat : resolver.cache < session.caches.length :=
    seated_run (seated_start settings) requests resolver (List.mem_of_getElem? known)
  have ending : Ending session resolver body answer after := sound.ending known seat invocation
  refine ⟨ending.answer_eq_error_iff, ending.faults_eq_nil_iff, ?_, ?_, ?_, ?_⟩
  · exact fun fault => computations_handle_resolve known fault
  · exact ending.untouched_of_early
  · exact fun _ missing => ending.missed_of_targetNotFound missing
  · exact fun _ resolved => ending.answered_of_route resolved

/-- A method that shows or hides a page. -/
def pageMethod (name parameter : String) : Method :=
  ⟨⟨0, "shop::PageHandler"⟩, name, [⟨parameter, "i64"⟩]⟩

/-- A target for one of the methods. -/
def pageTarget : DispatchTarget :=
  ⟨pageMethod "Show" "id", "Page", "Show", [⟨"id", none⟩], .empty, []⟩

/-- One argument too many, the first of them without a value, for a method without a target. -/
def faultyBody : Expr :=
  .call (some .parameter) (pageMethod "Hide" "id")
    [.deferred ⟨"lookup", .computation, .error (.custom "gone")⟩, .parameter]

/-- Of three faults at once the number of arguments is reported: nothing has run, and nothing was
counted. -/
theorem resolve_fails_in_order_faultyBody :
    let session := ((start .default).run [.register pageTarget]).2
    let handled := session.handle (.resolve 0 ⟨⟨0, "shop::PageHandler"⟩, faultyBody⟩)
    session.resolvers[0]? = some ⟨.default, 0⟩ ∧
      (faultyBody.faults Settings.default.depthLimit session.provider.descriptors).length = 3 ∧
      handled.1 = .resolved (.error (.invalidShape (Expr.arityReason (pageMethod "Hide" "id")
        [.deferred ⟨"lookup", .computation, .error (.custom "gone")⟩, .parameter]))) ∧
      handled.2.1.filterMap Occurrence.computation? = [] ∧ handled.2.2 = session := by
  intro session handled
  have known : session.resolvers[0]? = some ⟨.default, 0⟩ := rfl
  rcases resolve_fails_in_order .default [.register pageTarget] 0 ⟨.default, 0⟩ known
    ⟨⟨0, "shop::PageHandler"⟩, faultyBody⟩ with ⟨reported, -, silent, untouched, -, -⟩
  refine ⟨known, rfl, (reported _).2 rfl, silent (.inr (.inr rfl)), untouched ?_⟩
  exact List.cons_ne_nil _ _

end Session
end InvocationRouting
