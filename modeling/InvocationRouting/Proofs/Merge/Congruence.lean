import InvocationRouting.Proofs.Merge.Precedence
import InvocationRouting.Proofs.Route.Agreement
import InvocationRouting.Proofs.Target.Builder

/-!
# Proofs.Merge.Congruence — equal targets and arguments give equal routes

Equality of targets does not look at the names of parameters, at the spelling of keys of defaults or
at their order, and merging reads all three. For targets that a builder has put together this makes
no difference: their bindings tell the names, policies go by folded keys, and each gap is filled by
at most one default.

* `DispatchTarget.same_iff` : what equality of targets says;
* `argumentKey_congr` : arguments are written under the same keys;
* `agree_writeArguments`, `agree_applyConstraints`, `agree_fillDefaults` : each source keeps
  dictionaries equal;
* `merge_respects_equality` : merged routes are equal.
-/

namespace InvocationRouting

theorem DispatchTarget.same_iff {a b : DispatchTarget} :
    a.same b = true ↔
      a.method.identity = b.method.identity ∧ a.handlerName = b.handlerName ∧
        a.actionName = b.actionName ∧ a.bindings = b.bindings ∧ a.defaults.Agree b.defaults ∧
        a.constraints = b.constraints := by
  have defaults : (a.defaults == b.defaults) = true ↔ a.defaults.Agree b.defaults :=
    RouteValues.same_iff_agree
  simp only [same, Bool.and_eq_true, Method.beq_iff, beq_iff_eq, defaults, and_assoc]

theorem ArgumentValue.beq_iff {a b : ArgumentValue} :
    (a == b) = true ↔
      a.position = b.position ∧ a.parameter = b.parameter ∧ a.value.same b.value = true := by
  have unfolded : (a == b) = a.same b := rfl
  simp only [unfolded, same, Bool.and_eq_true, beq_iff_eq, and_assoc]

namespace Merger

variable {merger : Merger} {target target' : DispatchTarget}
  {arguments arguments' : List ArgumentValue} {values values' : RouteValues}

/-! ## Arguments -/

/-- The registered names are all that merging reads of a declaration. -/
theorem parameterName_eq (target : DispatchTarget) (argument : ArgumentValue) :
    parameterName target argument =
      (target.method.parameterNames[argument.position]?).getD argument.parameter := by
  unfold parameterName Method.parameterNames
  rw [List.getElem?_map]
  cases target.method.parameters[argument.position]? <;> rfl

/-- Where the declared names and the bindings agree, equal arguments have the same key. -/
theorem argumentKey_congr (names : target.method.parameterNames = target'.method.parameterNames)
    (bindings : target.bindings = target'.bindings) {argument argument' : ArgumentValue}
    (position : argument.position = argument'.position)
    (parameter : argument.parameter = argument'.parameter) :
    argumentKey target argument = argumentKey target' argument' := by
  have name : parameterName target argument = parameterName target' argument' := by
    rw [parameterName_eq, parameterName_eq, names, position, parameter]
  simp only [argumentKey, DispatchTarget.bindingFor?, name, bindings]

theorem agree_writeArguments
    (names : target.method.parameterNames = target'.method.parameterNames)
    (bindings : target.bindings = target'.bindings) (equal : (arguments == arguments') = true)
    (h : values.Agree values') :
    (writeArguments target arguments values).Agree (writeArguments target' arguments' values') := by
  induction arguments generalizing arguments' values values' with
  | nil =>
      cases arguments' with
      | nil => exact h
      | cons argument' rest' => cases equal
  | cons argument rest ih =>
      cases arguments' with
      | nil => cases equal
      | cons argument' rest' =>
          rw [List.cons_beq_cons, Bool.and_eq_true, ArgumentValue.beq_iff] at equal
          rcases equal with ⟨⟨position, parameter, value⟩, others⟩
          have key := argumentKey_congr names bindings position parameter
          have written : (values.insert (argumentKey target argument) argument.value).Agree
              (values'.insert (argumentKey target' argument') argument'.value) :=
            key ▸ h.insert (argumentKey target argument) value
          have rest := ih others written
          exact rest

/-! ## Constraints and defaults -/

theorem agree_applyConstraints (constraints : List RouteConstraint) {route route' : Route}
    (h : route.values.Agree route'.values) :
    (merger.applyConstraints constraints route).values.Agree
      (merger.applyConstraints constraints route').values := by
  rw [applyConstraints_values, applyConstraints_values]
  exact h.extend _

/-- Whatever the order of the defaults, they fill the same gaps with equal values. -/
theorem agree_fillDefaults {defaults defaults' : RouteValues} {order order' : List RouteEntry}
    (complete : order.Perm defaults.entries) (complete' : order'.Perm defaults'.entries)
    (same : defaults.Agree defaults') (h : values.Agree values') :
    (merger.fillDefaults order values).Agree (merger.fillDefaults order' values') := by
  intro key
  rw [get?_fillDefaults, get?_fillDefaults, RouteEntry.find?_perm defaults.distinct complete,
    RouteEntry.find?_perm defaults'.distinct complete']
  refine (h key).or ?_
  -- Whether the policy admits a default can be told from the key that is asked for.
  split
  · exact same key
  · exact Value.Alike.refl none

/-! ## Merged routes -/

/-- **Congruence.** Let two built targets be equal, and the arguments as well, as far as equality
looks at them. Then merging gives equal routes with the same names, in whatever orders the defaults
are handed out. -/
theorem merge_respects_equality (merger : Merger) {target target' : DispatchTarget}
    (built : target.Built) (built' : target'.Built) (same : target.same target' = true)
    {arguments arguments' : List ArgumentValue} (equal : (arguments == arguments') = true)
    {order order' : List RouteEntry} (complete : order.Perm target.defaults.entries)
    (complete' : order'.Perm target'.defaults.entries) :
    (merger.mergeInOrder target arguments order).same
        (merger.mergeInOrder target' arguments' order') = true ∧
      (merger.mergeInOrder target arguments order).handlerName =
        (merger.mergeInOrder target' arguments' order').handlerName ∧
      (merger.mergeInOrder target arguments order).actionName =
        (merger.mergeInOrder target' arguments' order').actionName := by
  rcases DispatchTarget.same_iff.1 same with
    ⟨identity, handlerName, actionName, bindings, defaults, constraints⟩
  -- Equality says nothing about declared names, but a builder has put them in front of the bindings.
  have arity : target.method.arity = target'.method.arity :=
    Method.arity_eq_of_identity identity
  have names : target.method.parameterNames = target'.method.parameterNames :=
    built.parameterNames_eq built' bindings arity
  have handler : (merger.mergeInOrder target arguments order).handlerName =
      (merger.mergeInOrder target' arguments' order').handlerName := by
    simp only [mergeInOrder, applyConstraints_handlerName, handlerName, constraints]
  have action : (merger.mergeInOrder target arguments order).actionName =
      (merger.mergeInOrder target' arguments' order').actionName := by
    simp only [mergeInOrder, applyConstraints_actionName, actionName, constraints]
  have values : (merger.mergeInOrder target arguments order).values.Agree
      (merger.mergeInOrder target' arguments' order').values := by
    have written : (writeArguments target arguments .empty).Agree
        (writeArguments target' arguments' .empty) :=
      agree_writeArguments names bindings equal fun _ => .refl none
    simp only [mergeInOrder, constraints]
    refine agree_fillDefaults complete complete' defaults ?_
    exact agree_applyConstraints target'.constraints written
  have equalValues := RouteValues.same_iff_agree.2 values
  refine ⟨?_, handler, action⟩
  simp only [Route.same, handler, action, beq_self_eq_true, Bool.true_and]
  exact equalValues

/-- A method of one parameter. -/
def showItem : Method :=
  ⟨⟨0, "shop::ItemHandler"⟩, "Show", [⟨"id", "i64"⟩]⟩

/-- A target that was bound before its defaults were set. -/
def boundFirst : DispatchTarget :=
  ((TargetBuilder.start showItem "Item").run
    [.bindParameter "id" "Item", .defaultValue "Area" (.string "shop"),
      .defaultValue "Rank" (.number (.float (.zero false)))]).build

/-- A target that was bound after its defaults were set, in another order, under other spellings and
with the other zero. -/
def boundLast : DispatchTarget :=
  ((TargetBuilder.start showItem "Item").run
    [.defaultValue "rank" (.number (.float (.zero true))), .defaultValue "AREA" (.string "shop"),
      .bindParameter "id" "Item"]).build

/-- The two targets are equal without being identical, and so are their routes. -/
theorem merge_respects_equality_respelled :
    boundFirst.Built ∧ boundLast.Built ∧ boundFirst.same boundLast = true ∧
      (([⟨0, "item", .number (.float (.zero true))⟩] : List ArgumentValue) ==
        [⟨0, "item", .number (.float (.zero false))⟩]) = true ∧
      boundFirst.defaults.entries.reverse.Perm boundFirst.defaults.entries ∧
      boundLast.defaults.entries.Perm boundLast.defaults.entries ∧
      (default.mergeInOrder boundFirst [⟨0, "item", .number (.float (.zero true))⟩]
        boundFirst.defaults.entries.reverse).same
        (default.mergeInOrder boundLast [⟨0, "item", .number (.float (.zero false))⟩]
          boundLast.defaults.entries) = true := by
  have built : boundFirst.Built := ⟨_, _, _, rfl⟩
  have built' : boundLast.Built := ⟨_, _, _, rfl⟩
  have same : boundFirst.same boundLast = true := by decide +kernel
  have equal : (([⟨0, "item", .number (.float (.zero true))⟩] : List ArgumentValue) ==
      [⟨0, "item", .number (.float (.zero false))⟩]) = true := by decide +kernel
  have complete := boundFirst.defaults.entries.reverse_perm
  have complete' := List.Perm.refl boundLast.defaults.entries
  have routes := merge_respects_equality default built built' same equal complete complete'
  exact ⟨built, built', same, equal, complete, complete', routes.1⟩

end Merger
end InvocationRouting
