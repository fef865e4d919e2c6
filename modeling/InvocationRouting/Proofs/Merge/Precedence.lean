import InvocationRouting.Merge
import InvocationRouting.Proofs.Route.Dictionary

/-!
# Proofs.Merge.Precedence — which source decides a route value

Merging writes arguments, constraints and defaults one after another. This file says what comes of
it, key by key and without writing anything:

* `Merger.effectiveKey` : the key that stands for an argument, which is the one that merging takes
  (`argumentKey_eq_effectiveKey`);
* `Merger.valueFor?` : the value under a key, where constraints go before arguments and arguments
  before defaults, and within a source the **last** one counts;
* `Merger.spellingFor?` : the spelling of a key, where the **first** writer counts, so that the
  sources stand in another order;
* `Merger.handlerNameFor`, `Merger.actionNameFor` : the names;
* `merge_precedence` : a merged route has these values, spellings and names, in whatever order the
  defaults are handed out.
-/

namespace InvocationRouting
namespace Merger

/-! ## The law -/

/-- The last constraint that puts a value under the key. Under the keys of names there is none. -/
def constraintFor? (merger : Merger) (target : DispatchTarget) (key : String) :
    Option RouteConstraint :=
  if RouteKey.same key merger.handlerKey || RouteKey.same key merger.actionKey then none
  else (target.constraints.filter fun c => c.hasValue && RouteKey.same c.key key).getLast?

/-- The key that stands for an argument. Its parameter is the one that is registered at its
position, or the caller's past the last of them, and a key that is bound to the parameter takes the
place of its name. -/
def effectiveKey (target : DispatchTarget) (argument : ArgumentValue) : String :=
  let parameter :=
    if registered : argument.position < target.method.parameters.length then
      target.method.parameters[argument.position].name
    else argument.parameter
  match target.bindings.find? fun binding => binding.name == parameter with
  | some ⟨_, some key⟩ => key
  | some ⟨_, none⟩ => parameter
  | none => parameter

/-- The last argument under the key. -/
def argumentFor? (target : DispatchTarget) (arguments : List ArgumentValue) (key : String) :
    Option ArgumentValue :=
  (arguments.filter fun a => RouteKey.same (effectiveKey target a) key).getLast?

/-- The default under the key, if the policy admits it. -/
def defaultFor? (merger : Merger) (target : DispatchTarget) (key : String) : Option Value :=
  match merger.policy with
  | .all =>
      if RouteKey.same key merger.handlerKey || RouteKey.same key merger.actionKey then none
      else target.defaults.get? key
  | .areaOnly => if RouteKey.same key merger.areaKey then target.defaults.get? key else none
  | .none => none

/-- The route value under a key: that of a constraint, or else of an argument, or else a default. -/
def valueFor? (merger : Merger) (target : DispatchTarget) (arguments : List ArgumentValue)
    (key : String) : Option Value :=
  ((merger.constraintFor? target key).map fun c => .string c.value).or
    (((argumentFor? target arguments key).map (·.value)).or (merger.defaultFor? target key))

/-- The spelling of a key: that of the first argument under it, or else of the first constraint, or
else of the default. -/
def spellingFor? (merger : Merger) (target : DispatchTarget) (arguments : List ArgumentValue)
    (key : String) : Option String :=
  ((arguments.find? fun a => RouteKey.same (effectiveKey target a) key).map
      (effectiveKey target)).or
    (((if merger.isNameKey key then none
        else target.constraints.find? fun c => c.hasValue && RouteKey.same c.key key).map
          (·.key)).or
      (if merger.admitsDefault key then target.defaults.spelling? key else none))

/-- The handler name: the value of the last constraint under the handler key, if there is one. -/
def handlerNameFor (merger : Merger) (target : DispatchTarget) : String :=
  ((target.constraints.filter fun c =>
      c.hasValue && RouteKey.same c.key merger.handlerKey).getLast?.map (·.value)).getD
    target.handlerName

/-- The action name: the value of the last constraint under the action key, if there is one. Where
both keys are one, all constraints under it are for the handler name. -/
def actionNameFor (merger : Merger) (target : DispatchTarget) : String :=
  ((target.constraints.filter fun c =>
      c.hasValue && !RouteKey.same c.key merger.handlerKey &&
        RouteKey.same c.key merger.actionKey).getLast?.map (·.value)).getD
    target.actionName

/-! ## Keys of names -/

variable {merger : Merger}

theorem isNameKey_congr {a b : String} (h : RouteKey.same a b = true) :
    merger.isNameKey a = merger.isNameKey b := by
  simp only [isNameKey, RouteKey.same_congr_left h]

theorem admitsDefault_congr {a b : String} (h : RouteKey.same a b = true) :
    merger.admitsDefault a = merger.admitsDefault b := by
  simp only [admitsDefault, isNameKey_congr h, RouteKey.same_congr_left h]

/-! ## Arguments -/

theorem argumentKey_eq_effectiveKey (target : DispatchTarget) :
    argumentKey target = effectiveKey target := by
  funext argument
  have parameter : parameterName target argument =
      if registered : argument.position < target.method.parameters.length then
        target.method.parameters[argument.position].name
      else argument.parameter := by
    unfold parameterName
    split
    · next known =>
        rcases List.getElem?_eq_some_iff.1 known with ⟨registered, rfl⟩
        rw [dif_pos registered]
    · next missing => rw [dif_neg (Nat.not_lt.2 (List.getElem?_eq_none_iff.1 missing))]
  simp only [argumentKey, effectiveKey, ← parameter, DispatchTarget.bindingFor?,
    ParameterBinding.find?]
  cases target.bindings.find? fun binding => binding.name == parameterName target argument with
  | none => rfl
  | some binding =>
      rcases binding with ⟨name, _ | key⟩ <;> rfl

/-- Arguments are written like any other entries. -/
theorem writeArguments_eq_extend (target : DispatchTarget) (arguments : List ArgumentValue)
    (values : RouteValues) :
    writeArguments target arguments values =
      values.extend (arguments.map fun a => (argumentKey target a, a.value)) := by
  unfold writeArguments RouteValues.extend
  rw [List.foldl_map]

/-! ## Constraints -/

/-- Does a constraint write a route value, and no name? -/
def writesValue (merger : Merger) (c : RouteConstraint) : Bool :=
  c.hasValue && !merger.isNameKey c.key

/-- One constraint changes one of the names, or writes one entry, or does nothing. -/
theorem applyConstraint_values (route : Route) (c : RouteConstraint) :
    (merger.applyConstraint route c).values =
      if merger.writesValue c then route.values.insert c.key (.string c.value)
      else route.values := by
  unfold applyConstraint writesValue isNameKey
  cases c.hasValue <;> cases RouteKey.same c.key merger.handlerKey <;>
    cases RouteKey.same c.key merger.actionKey <;> rfl

theorem applyConstraint_handlerName (route : Route) (c : RouteConstraint) :
    (merger.applyConstraint route c).handlerName =
      if c.hasValue && RouteKey.same c.key merger.handlerKey then c.value
      else route.handlerName := by
  unfold applyConstraint
  cases c.hasValue <;> cases RouteKey.same c.key merger.handlerKey <;>
    cases RouteKey.same c.key merger.actionKey <;> rfl

theorem applyConstraint_actionName (route : Route) (c : RouteConstraint) :
    (merger.applyConstraint route c).actionName =
      if c.hasValue && !RouteKey.same c.key merger.handlerKey &&
          RouteKey.same c.key merger.actionKey then c.value
      else route.actionName := by
  unfold applyConstraint
  cases c.hasValue <;> cases RouteKey.same c.key merger.handlerKey <;>
    cases RouteKey.same c.key merger.actionKey <;> rfl

theorem applyConstraints_handlerName (constraints : List RouteConstraint) (route : Route) :
    (merger.applyConstraints constraints route).handlerName =
      ((constraints.filter fun c =>
          c.hasValue && RouteKey.same c.key merger.handlerKey).getLast?.map (·.value)).getD
        route.handlerName :=
  foldl_overwrite merger.applyConstraint Route.handlerName _ RouteConstraint.value
    applyConstraint_handlerName constraints route

theorem applyConstraints_actionName (constraints : List RouteConstraint) (route : Route) :
    (merger.applyConstraints constraints route).actionName =
      ((constraints.filter fun c =>
          c.hasValue && !RouteKey.same c.key merger.handlerKey &&
            RouteKey.same c.key merger.actionKey).getLast?.map (·.value)).getD
        route.actionName :=
  foldl_overwrite merger.applyConstraint Route.actionName _ RouteConstraint.value
    applyConstraint_actionName constraints route

/-- Constraints that name nothing are written like any other entries. -/
theorem applyConstraints_values (constraints : List RouteConstraint) (route : Route) :
    (merger.applyConstraints constraints route).values =
      route.values.extend
        ((constraints.filter merger.writesValue).map fun c => (c.key, .string c.value)) := by
  rw [← filterMap_ite]
  refine foldl_part merger.applyConstraint Route.values _ _ ?_ constraints route
  intro route c
  rw [applyConstraint_values]
  split <;> rfl

/-- Of the constraints under one key either all name something or none does. -/
theorem filter_writesValue (constraints : List RouteConstraint) (key : String) :
    (constraints.filter merger.writesValue).filter (fun c => RouteKey.same c.key key) =
      if merger.isNameKey key then []
      else constraints.filter fun c => c.hasValue && RouteKey.same c.key key := by
  rw [List.filter_filter]
  by_cases named : merger.isNameKey key = true
  · rw [if_pos named, List.filter_eq_nil_iff]
    intro c _ writes
    simp only [writesValue, Bool.and_eq_true, Bool.not_eq_true'] at writes
    -- Being the key of a name does not depend on the spelling.
    have named' : merger.isNameKey c.key = true := (isNameKey_congr writes.1).trans named
    rw [writes.2.2] at named'
    cases named'
  · rw [if_neg named]
    apply List.filter_congr
    intro c _
    by_cases hit : RouteKey.same c.key key = true
    · have unnamed : merger.isNameKey c.key = false := by
        rw [isNameKey_congr hit]
        simpa using named
      simp [writesValue, hit, unnamed]
    · simp [hit]

/-! ## Defaults -/

/-- Filling gaps adds the first default of each admitted key that has no entry. -/
theorem find?_fillDefaults (defaults : List RouteEntry) (values : RouteValues) (key : String) :
    RouteEntry.find? (merger.fillDefaults defaults values).entries key =
      (RouteEntry.find? values.entries key).or
        (if merger.admitsDefault key then RouteEntry.find? defaults key else none) := by
  unfold fillDefaults
  induction defaults generalizing values with
  | nil => simp [RouteEntry.find?]
  | cons entry rest ih =>
      rw [List.foldl_cons, ih]
      by_cases hit : RouteKey.same entry.1 key = true
      · rw [admitsDefault_congr hit]
        by_cases admitted : merger.admitsDefault key = true
        · have first : RouteEntry.find? (entry :: rest) key = some entry := by
            simp [RouteEntry.find?, hit]
          simp [admitted, RouteValues.find?_insertIfAbsent, first, hit]
        · simp [admitted]
      · -- A default under another key neither fills nor uncovers anything here.
        have keeps : RouteEntry.find? (if merger.admitsDefault entry.1 then
            values.insertIfAbsent entry.1 entry.2 else values).entries key =
              RouteEntry.find? values.entries key := by
          split <;> simp [RouteValues.find?_insertIfAbsent, hit]
        have skip : RouteEntry.find? (entry :: rest) key = RouteEntry.find? rest key := by
          simp [RouteEntry.find?, hit]
        rw [keeps, skip]

theorem get?_fillDefaults (defaults : List RouteEntry) (values : RouteValues) (key : String) :
    (merger.fillDefaults defaults values).get? key =
      (values.get? key).or
        (if merger.admitsDefault key then (RouteEntry.find? defaults key).map (·.2) else none) := by
  unfold RouteValues.get?
  rw [find?_fillDefaults, Option.map_or]
  congr 1
  split <;> rfl

theorem spelling?_fillDefaults (defaults : List RouteEntry) (values : RouteValues) (key : String) :
    (merger.fillDefaults defaults values).spelling? key =
      (values.spelling? key).or
        (if merger.admitsDefault key then (RouteEntry.find? defaults key).map (·.1) else none) := by
  unfold RouteValues.spelling?
  rw [find?_fillDefaults, Option.map_or]
  congr 1
  split <;> rfl

/-- The default under a key is the one that the policy admits. -/
theorem defaultFor?_eq (target : DispatchTarget) (key : String) :
    merger.defaultFor? target key =
      if merger.admitsDefault key then target.defaults.get? key else none := by
  unfold defaultFor? admitsDefault isNameKey
  cases merger.policy with
  | all =>
      cases RouteKey.same key merger.handlerKey <;> cases RouteKey.same key merger.actionKey <;> rfl
  | areaOnly => rfl
  | none => rfl

/-! ## Merged routes -/

section

variable (merger) (target : DispatchTarget) (arguments : List ArgumentValue)
  {order : List RouteEntry}

theorem get?_merge (complete : order.Perm target.defaults.entries) (key : String) :
    (merger.mergeInOrder target arguments order).values.get? key =
      merger.valueFor? target arguments key := by
  have fromArguments : (writeArguments target arguments .empty).get? key =
      (argumentFor? target arguments key).map (·.value) := by
    rw [writeArguments_eq_extend, argumentKey_eq_effectiveKey, RouteValues.get?_extend,
      List.filter_map, List.getLast?_map]
    simp [argumentFor?, Function.comp_def]
  have fromDefaults : RouteEntry.find? order key = RouteEntry.find? target.defaults.entries key :=
    RouteEntry.find?_perm target.defaults.distinct complete key
  simp only [mergeInOrder]
  rw [get?_fillDefaults, applyConstraints_values, RouteValues.get?_extend, fromArguments,
    fromDefaults, valueFor?, defaultFor?_eq, Option.or_assoc]
  congr 1
  -- Left are the constraints: the last one that writes a value under the key.
  rw [List.filter_map, List.getLast?_map]
  simp only [Function.comp_def]
  rw [filter_writesValue, constraintFor?]
  unfold isNameKey
  split <;> simp [Function.comp_def]

theorem spelling?_merge (complete : order.Perm target.defaults.entries) (key : String) :
    (merger.mergeInOrder target arguments order).values.spelling? key =
      merger.spellingFor? target arguments key := by
  have fromArguments : (writeArguments target arguments .empty).spelling? key =
      (arguments.find? fun a => RouteKey.same (effectiveKey target a) key).map
        (effectiveKey target) := by
    rw [writeArguments_eq_extend, argumentKey_eq_effectiveKey, RouteValues.spelling?_extend]
    simp [RouteEntry.find?, List.find?_map, Function.comp_def]
  have fromDefaults : RouteEntry.find? order key = RouteEntry.find? target.defaults.entries key :=
    RouteEntry.find?_perm target.defaults.distinct complete key
  simp only [mergeInOrder]
  rw [spelling?_fillDefaults, applyConstraints_values, RouteValues.spelling?_extend, fromArguments,
    fromDefaults, spellingFor?, Option.or_assoc]
  congr 2
  -- The first match of a filtered list is the head of a list that is filtered twice.
  rw [RouteEntry.find?, List.find?_map, ← List.head?_filter, Function.comp_def, filter_writesValue]
  split <;> simp [List.head?_filter, Function.comp_def]

end

/-- **Precedence.** Whatever the merger, the target and the arguments, and in whatever order the
defaults are handed out, a merged route has under each key the value and the spelling that the law
gives, and the names that the constraints give. `Merger.merge` is the case of the order in which the
defaults were written. -/
theorem merge_precedence (merger : Merger) (target : DispatchTarget)
    (arguments : List ArgumentValue) (order : List RouteEntry)
    (complete : order.Perm target.defaults.entries) :
    (∀ key, (merger.mergeInOrder target arguments order).values.get? key =
        merger.valueFor? target arguments key) ∧
      (∀ key, (merger.mergeInOrder target arguments order).values.spelling? key =
        merger.spellingFor? target arguments key) ∧
      (merger.mergeInOrder target arguments order).handlerName = merger.handlerNameFor target ∧
      (merger.mergeInOrder target arguments order).actionName = merger.actionNameFor target := by
  refine ⟨?_, ?_, ?_, ?_⟩
  · intro key
    exact get?_merge merger target arguments complete key
  · intro key
    exact spelling?_merge merger target arguments complete key
  · exact applyConstraints_handlerName target.constraints _
  · exact applyConstraints_actionName target.constraints _

/-- A target whose parameter, defaults and constraints meet under spellings of few keys. -/
def collidingTarget : DispatchTarget where
  method := ⟨⟨0, "shop::ItemHandler"⟩, "Show", [⟨"id", "i64"⟩]⟩
  handlerName := "Item"
  actionName := "Show"
  bindings := [⟨"id", some "Item"⟩]
  defaults := .ofList [("ITEM", .null), ("Format", .bool true)]
  constraints := [⟨"ACTION", "Edit"⟩, ⟨"item", "42"⟩, ⟨"iTem", ""⟩]

/-- The constraint decides the value, the argument before it the spelling, and the defaults may be
handed out in any order. -/
theorem merge_precedence_colliding :
    collidingTarget.defaults.entries.reverse.Perm collidingTarget.defaults.entries ∧
      (default.mergeInOrder collidingTarget [⟨0, "key", .bool false⟩, ⟨1, "iTEM", .null⟩]
        collidingTarget.defaults.entries.reverse).values.get? "ITEM" = some (.string "42") ∧
      (default.mergeInOrder collidingTarget [⟨0, "key", .bool false⟩, ⟨1, "iTEM", .null⟩]
        collidingTarget.defaults.entries.reverse).values.spelling? "ITEM" = some "Item" ∧
      (default.mergeInOrder collidingTarget [⟨0, "key", .bool false⟩, ⟨1, "iTEM", .null⟩]
        collidingTarget.defaults.entries.reverse).actionName = "Edit" := by
  have complete := collidingTarget.defaults.entries.reverse_perm
  rcases merge_precedence default collidingTarget [⟨0, "key", .bool false⟩, ⟨1, "iTEM", .null⟩]
    collidingTarget.defaults.entries.reverse complete with ⟨value, spelling, -, action⟩
  have constraint : constraintFor? default collidingTarget "ITEM" = some ⟨"item", "42"⟩ := by
    decide +kernel
  have value' : valueFor? default collidingTarget [⟨0, "key", .bool false⟩, ⟨1, "iTEM", .null⟩]
      "ITEM" = some (.string "42") := by
    simp [valueFor?, constraint]
  have spelling' : spellingFor? default collidingTarget
      [⟨0, "key", .bool false⟩, ⟨1, "iTEM", .null⟩] "ITEM" = some "Item" := by
    decide +kernel
  have action' : actionNameFor default collidingTarget = "Edit" := by
    decide +kernel
  exact ⟨complete, (value "ITEM").trans value', (spelling "ITEM").trans spelling',
    action.trans action'⟩

end Merger
end InvocationRouting
