import InvocationRouting.Proofs.Analysis.Names
import InvocationRouting.Proofs.Session.Failures

/-!
# Proofs.Session.CallSite — the names that callers use do not matter

A caller may know the parameters of a method under other names than those of the registered target.
No answer depends on them, and a cache that has learned the method from one caller answers all.

* `Cache.find?_resolve_self` : a method that was found is remembered;
* `Session.handle_resolve_congr` : two callers get one answer;
* `Session.handle_resolve_remembered` : a method that is remembered is not searched for;
* `Session.handle_resolve_later` : what one caller has taught a cache answers the other;
* `call_site_names_irrelevant` : both, and where the keys of a route come from.
-/

namespace InvocationRouting

/-! ## One lookup -/

/-- A registered declaration of a method has as many parameters as any other. -/
theorem Descriptor.IsFirstAction.arity_eq {descriptors : List Descriptor} {method : Method}
    {registration : Registration} (first : IsFirstAction descriptors method registration) :
    registration.target.method.arity = method.arity := by
  rcases first with ⟨_, _, _, target, _⟩
  exact Method.arity_eq_of_identity (Method.beq_iff.1 target)

namespace Cache

variable {descriptors : List Descriptor} {cache : Cache} {method : Method}

/-- A method that was found is remembered. -/
theorem find?_resolve_self {registration : Registration}
    (found : (cache.resolve descriptors method).1.result = .ok registration) :
    (cache.resolve descriptors method).2.find? method = some registration := by
  unfold resolve at found ⊢
  cases known : cache.find? method with
  | some remembered =>
      simp only [known] at found
      rw [← Except.ok.inj found]
      exact known
  | none =>
      cases first : Descriptor.firstAction? descriptors method with
      | some action =>
          simp only [known, first] at found
          rw [← Except.ok.inj found]
          exact List.lookup_cons_self
      | none =>
          simp only [known, first] at found
          cases found

/-- Declarations of one method are remembered as one. -/
theorem find?_congr {a b : Method} (same : a.identity = b.identity) (cache : Cache) :
    cache.find? a = cache.find? b := by
  unfold find?
  rw [same]

end Cache

/-! ## Requests -/

namespace Session

variable {session : Session} {number : Nat} {resolver : Resolver} {invocation : Invocation}

/-- A merge with the target of a method does not depend on the names at the call. -/
theorem merge_of_sameArguments {descriptors : List Descriptor} {registration : Registration}
    {a b : Analysis} (same : a.SameArguments b)
    (first : Descriptor.IsFirstAction descriptors a.method registration) (merger : Merger) :
    merger.merge registration.target a.arguments =
      merger.merge registration.target b.arguments := by
  exact merger.merge_congr (first.arity_eq ▸ same.declared) same.unnamed

/-- A route is that of the first action for the method, which is remembered from then on. -/
theorem Sound.of_handle_resolve_ok (sound : Sound session)
    (known : session.resolvers[number]? = some resolver)
    (seat : resolver.cache < session.caches.length) {route : Route}
    (answered : (session.handle (.resolve number invocation)).1 = .resolved (.ok route)) :
    ∃ analysis registration,
      (invocation.analyze resolver.settings.depthLimit).result = .ok analysis ∧
      Descriptor.IsFirstAction session.provider.descriptors analysis.method registration ∧
      route = (Merger.ofSettings resolver.settings).merge registration.target analysis.arguments ∧
      ((session.handle (.resolve number invocation)).2.2.cacheOf resolver).find? analysis.method =
        some registration := by
  cases result : (invocation.analyze resolver.settings.depthLimit).result with
  | error e =>
      rw [(handle_resolve_of_error known result).1] at answered
      cases answered
  | ok analysis =>
      rcases handle_resolve_of_ok known result with ⟨answered', left⟩
      rw [answered'] at answered
      have lookup : ((session.cacheOf resolver).resolve session.provider.descriptors
          analysis.method).1.result =
            Cache.searchResult session.provider.descriptors analysis.method :=
        Cache.resolve_result (sound.faithful_cacheOf resolver)
      rcases searchResult_cases session.provider.descriptors analysis.method with
        ⟨registration, first, found⟩ | ⟨_, missing⟩
      · rw [lookup, found] at answered
        cases answered
        refine ⟨analysis, registration, rfl, first, rfl, ?_⟩
        rw [left, cacheOf_withCache seat]
        exact Cache.find?_resolve_self (lookup.trans found)
      · rw [lookup, missing] at answered
        cases answered

/-- Two calls of one method with the same arguments get one answer. -/
theorem Sound.handle_resolve_congr (sound : Sound session)
    (known : session.resolvers[number]? = some resolver) {method method' : Method}
    (same : method.identity = method'.identity) (handler handler' : HandlerType)
    (receiver receiver' : Expr) (arguments : List Expr) :
    (∃ route,
      (session.handle (.resolve number
        ⟨handler, .call (some receiver) method arguments⟩)).1 = .resolved (.ok route) ∧
      (session.handle (.resolve number
        ⟨handler', .call (some receiver') method' arguments⟩)).1 = .resolved (.ok route)) ∨
    (∃ e e', e.SameKind e' ∧
      (session.handle (.resolve number
        ⟨handler, .call (some receiver) method arguments⟩)).1 = .resolved (.error e) ∧
      (session.handle (.resolve number
        ⟨handler', .call (some receiver') method' arguments⟩)).1 = .resolved (.error e')) := by
  rcases Expr.analyze_call_congr resolver.settings.depthLimit same receiver receiver' arguments with
    ⟨a, b, first, second, rfl, rfl, related⟩ | ⟨e, e', first, second, kind⟩
  · rw [← Invocation.result_analyze _ ⟨handler, _⟩] at first
    rw [← Invocation.result_analyze _ ⟨handler', _⟩] at second
    have faithful := sound.faithful_cacheOf resolver
    rw [(handle_resolve_of_ok known first).1, (handle_resolve_of_ok known second).1,
      Cache.resolve_result faithful, Cache.resolve_result faithful]
    unfold Cache.searchResult
    rw [← Descriptor.firstAction?_congr same]
    cases found : Descriptor.firstAction? session.provider.descriptors a.method with
    | some registration =>
        have target := Descriptor.firstAction?_eq_some_iff.1 found
        have merged := merge_of_sameArguments related target (Merger.ofSettings resolver.settings)
        exact .inl ⟨_, rfl, congrArg (fun route => Answer.resolved (.ok route)) merged.symm⟩
    | none => exact .inr ⟨_, _, .targetNotFound _ _, rfl, rfl⟩
  · rw [← Invocation.result_analyze _ ⟨handler, _⟩] at first
    rw [← Invocation.result_analyze _ ⟨handler', _⟩] at second
    exact .inr ⟨e, e', kind, (handle_resolve_of_error known first).1,
      (handle_resolve_of_error known second).1⟩

/-- A method that is remembered is not searched for: its lookup is a hit. -/
theorem handle_resolve_remembered (known : session.resolvers[number]? = some resolver)
    {analysis : Analysis} {registration : Registration}
    (analyzed : (invocation.analyze resolver.settings.depthLimit).result = .ok analysis)
    (remembered : (session.cacheOf resolver).find? analysis.method = some registration) :
    (session.handle (.resolve number invocation)).1 = .resolved (.ok
        ((Merger.ofSettings resolver.settings).merge registration.target analysis.arguments)) ∧
      (session.handle (.resolve number invocation)).2.2 = session.withCache resolver
        { session.cacheOf resolver with hits := (session.cacheOf resolver).hits + 1 } := by
  rcases handle_resolve_of_ok known analyzed with ⟨answered, left⟩
  rw [Cache.resolve_of_find?_some remembered] at answered left
  exact ⟨answered, left⟩

/-- What one caller has taught a cache answers the other, whatever happens in between. -/
theorem handle_resolve_later (known : session.resolvers[number]? = some resolver)
    {descriptors : List Descriptor} {a b : Analysis} {registration : Registration}
    (first : Descriptor.IsFirstAction descriptors a.method registration)
    (remembered : (session.cacheOf resolver).find? a.method = some registration)
    (analyzed : (invocation.analyze resolver.settings.depthLimit).result = .ok b)
    (related : a.SameArguments b) (later : List Request) :
    let session' := (session.run later).2
    (session'.cacheOf resolver).find? b.method = some registration ∧
      (session'.handle (.resolve number invocation)).1 = .resolved (.ok
        ((Merger.ofSettings resolver.settings).merge registration.target a.arguments)) ∧
      (session'.handle (.resolve number invocation)).2.2 = session'.withCache resolver
        { session'.cacheOf resolver with hits := (session'.cacheOf resolver).hits + 1 } := by
  intro session'
  have remembered' : (session'.cacheOf resolver).find? b.method = some registration := by
    rw [Cache.find?_congr related.identity.symm]
    exact find?_cacheOf_run remembered later
  have hit := handle_resolve_remembered (getElem?_resolvers_run known later) analyzed remembered'
  rw [← merge_of_sameArguments related first] at hit
  exact ⟨remembered', hit⟩

/-- **Call sites.** After any requests whatever, let two callers ask a resolver for one method with
the same arguments, each under a declaration of their own.

* They get the same route, entry by entry and spelling by spelling, or errors of the same kind, with
  equal evaluation errors.
* In a route, every argument is written under the key that the registered target has for its
  position; every key is one of these, or that of a constraint or of a default of the target.
* Once one caller has got a route, the target is remembered for both. Whatever happens then, the
  other gets the same route, and all that this changes is the number of hits. -/
theorem call_site_names_irrelevant (settings : Settings) (requests : List Request) (number : Nat)
    (resolver : Resolver)
    (known : ((start settings).run requests).2.resolvers[number]? = some resolver)
    (handler handler' : HandlerType) (receiver receiver' : Expr) (method method' : Method)
    (arguments : List Expr) (same : (method == method') = true) :
    let session := ((start settings).run requests).2
    let call : Request := .resolve number ⟨handler, .call (some receiver) method arguments⟩
    let call' : Request := .resolve number ⟨handler', .call (some receiver') method' arguments⟩
    ((∃ route, (session.handle call).1 = .resolved (.ok route) ∧
        (session.handle call').1 = .resolved (.ok route)) ∨
      (∃ e e', e.SameKind e' ∧ (session.handle call).1 = .resolved (.error e) ∧
        (session.handle call').1 = .resolved (.error e'))) ∧
    ∀ route, (session.handle call).1 = .resolved (.ok route) →
      ∃ registration values,
        Descriptor.IsFirstAction session.provider.descriptors method registration ∧
        (Expr.argumentValues resolver.settings.depthLimit 0 method.parameters arguments).result =
          .ok values ∧
        route = (Merger.ofSettings resolver.settings).merge registration.target values ∧
        (∀ argument ∈ values,
          (Merger.declaredKeys registration.target)[argument.position]? =
            some (Merger.argumentKey registration.target argument)) ∧
        (∀ entry ∈ route.values.entries,
          entry.1 ∈ Merger.declaredKeys registration.target ∨
            entry.1 ∈ registration.target.constraints.map (·.key) ∨
            entry.1 ∈ registration.target.defaults.entries.map (·.1)) ∧
        ∀ later,
          let session' := ((session.handle call).2.2.run later).2
          (session'.cacheOf resolver).find? method' = some registration ∧
            (session'.handle call').1 = .resolved (.ok route) ∧
            (session'.handle call').2.2 = session'.withCache resolver
              { session'.cacheOf resolver with hits := (session'.cacheOf resolver).hits + 1 } := by
  intro session call call'
  have identity := Method.beq_iff.1 same
  have sound : Sound session := sound_run (sound_start settings) requests
  have seat : resolver.cache < session.caches.length :=
    seated_run (seated_start settings) requests resolver (List.mem_of_getElem? known)
  refine ⟨sound.handle_resolve_congr known identity handler handler' receiver receiver' arguments,
    ?_⟩
  intro route answered
  rcases sound.of_handle_resolve_ok known seat answered with
    ⟨analysis, registration, analyzed, first, rfl, remembered⟩
  rw [Invocation.result_analyze] at analyzed
  rcases Expr.analyze_eq_ok _ analyzed with ⟨_, _, called, arity, values⟩
  cases called
  -- The other call is analyzed like this one, whenever it is made.
  rcases Expr.analyze_call_congr resolver.settings.depthLimit identity receiver receiver' arguments
    with ⟨a, b, one, other, -, names, related⟩ | ⟨e, _, failed, _, _⟩
  · rw [analyzed] at one
    cases one
    have declared : ∀ argument ∈ analysis.arguments,
        argument.position < registration.target.method.arity := first.arity_eq ▸ related.declared
    rw [← Invocation.result_analyze _ ⟨handler', _⟩] at other
    subst names
    refine ⟨registration, analysis.arguments, first, values, rfl, ?_, ?_, ?_⟩
    · exact fun argument member => Merger.argumentKey_declared (declared argument member)
    · exact fun entry member => Merger.key_of_mem_merge _ declared member
    · have known' := getElem?_resolvers_handle known call
      exact handle_resolve_later known' first remembered other related
  · rw [analyzed] at failed
    cases failed

/-- A method with three parameters, under the names that someone has for them. -/
def listMethod (first second third : String) : Method :=
  ⟨⟨0, "shop::ListHandler"⟩, "List",
    [⟨first, "i64"⟩, ⟨second, "Option<i64>"⟩, ⟨third, "String"⟩]⟩

/-- A target for the method, with a binding for its last parameter. -/
def listTarget : DispatchTarget :=
  ⟨listMethod "page" "size" "sort", "List", "List",
    [⟨"page", none⟩, ⟨"size", none⟩, ⟨"sort", some "order"⟩], .empty, []⟩

/-- A call of the method from a place where the parameters have the given names. The second argument
is null and is dropped. -/
def listCall (first second third : String) : Invocation :=
  .call ⟨0, "shop::ListHandler"⟩ (listMethod first second third)
    [.constant (.bool true), .constant .null,
      .deferred ⟨"sort", .computation, .ok (.string "asc")⟩]

/-- A caller who has the registered names for other parameters gets the registered keys, and gets
them from the cache. -/
theorem call_site_names_irrelevant_shuffled :
    let session := ((start .default).run [.register listTarget]).2
    let after := (session.handle (.resolve 0 (listCall "page" "size" "sort"))).2.2
    session.resolvers[0]? = some ⟨.default, 0⟩ ∧
      (listMethod "page" "size" "sort" == listMethod "sort" "x" "page") = true ∧
      ∃ route, (session.handle (.resolve 0 (listCall "page" "size" "sort"))).1 =
          .resolved (.ok route) ∧
        route.values.entries = [("page", .bool true), ("order", .string "asc")] ∧
        (after.handle (.resolve 0 (listCall "sort" "x" "page"))).1 = .resolved (.ok route) := by
  intro session after
  have known : session.resolvers[0]? = some ⟨.default, 0⟩ := rfl
  have same : (listMethod "page" "size" "sort" == listMethod "sort" "x" "page") = true := by decide
  rcases call_site_names_irrelevant .default [.register listTarget] 0 ⟨.default, 0⟩ known
    ⟨0, "shop::ListHandler"⟩ ⟨0, "shop::ListHandler"⟩ .parameter .parameter _ _
    [.constant (.bool true), .constant .null,
      .deferred ⟨"sort", .computation, .ok (.string "asc")⟩] same with ⟨-, resolved⟩
  rcases resolved _ rfl with ⟨_, _, -, -, -, -, -, remembered⟩
  exact ⟨known, same, _, rfl, rfl, (remembered []).2.1⟩

end Session
end InvocationRouting
