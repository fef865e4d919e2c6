import Mathlib.Data.List.Nodup
import InvocationRouting.Proofs.Fold
import InvocationRouting.Proofs.Target.Builder

/-!
# Proofs.Target.Steps — the target that a run of steps builds

Each step changes one part of a builder, and steps of one kind all change the same part. What a run
leaves in a part can therefore be told from the steps of one kind, in their order, and does not
depend on how they are interleaved with the others.

* `BuildStep.Kind` : the parts that steps change;
* `bindAll` : a run of bindings, with `find?_bindAll` and `bindingNames_bindAll` for what it leaves;
* `run_bindings` and its likes : what a run leaves in each part, with nothing said about the others;
* `apply_comm`, `run_congr` : steps of different kinds commute;
* `run_builds` : the target after any steps.
-/

namespace InvocationRouting

/-! ## Kinds of steps -/

namespace BuildStep

/-- What a step may change. -/
inductive Kind where
  | handlerName
  | actionName
  | bindings
  | defaults
  | constraints
  deriving DecidableEq

def kind : BuildStep → Kind
  | .handlerName _ => .handlerName
  | .actionName _ => .actionName
  | .bindParameter _ _ => .bindings
  | .defaultValue _ _ => .defaults
  | .constraint _ _ => .constraints

/-! What a step of one kind carries, and nothing for steps of the other kinds. -/

def handlerName? : BuildStep → Option String
  | .handlerName name => some name
  | _ => none

def actionName? : BuildStep → Option String
  | .actionName name => some name
  | _ => none

def binding? : BuildStep → Option (String × String)
  | .bindParameter parameter bindingName => some (parameter, bindingName)
  | _ => none

def default? : BuildStep → Option RouteEntry
  | .defaultValue key value => some (key, value)
  | _ => none

def constraint? : BuildStep → Option RouteConstraint
  | .constraint key value => some ⟨key, value⟩
  | _ => none

/-- A step carries something for one part at most. -/
theorem carries_only (step : BuildStep) :
    (step.kind ≠ .handlerName → step.handlerName? = none) ∧
      (step.kind ≠ .actionName → step.actionName? = none) ∧
      (step.kind ≠ .bindings → step.binding? = none) ∧
      (step.kind ≠ .defaults → step.default? = none) ∧
      (step.kind ≠ .constraints → step.constraint? = none) := by
  cases step <;> simp [kind, handlerName?, actionName?, binding?, default?, constraint?]

theorem filterMap_filter_kind {β : Type} {carried? : BuildStep → Option β} {kind : Kind}
    (only : ∀ step, step.kind ≠ kind → carried? step = none) (steps : List BuildStep) :
    (steps.filter fun step => step.kind = kind).filterMap carried? = steps.filterMap carried? := by
  rw [List.filterMap_filter]
  refine List.filterMap_congr fun step _ => ?_
  -- A step of another kind carries nothing, and so it may be left out.
  by_cases hit : step.kind = kind
  · simp [hit]
  · simp [hit, only step hit]

/-- The key of the last step that binds the parameter, if there is one. -/
def lastBinding? (steps : List BuildStep) (parameter : String) : Option String :=
  ((steps.filterMap binding?).filter fun pair => pair.1 == parameter).getLast?.map (·.2)

/-- The parameters that steps bind, in the order of the steps. -/
def boundParameters (steps : List BuildStep) : List String :=
  (steps.filterMap binding?).map (·.1)

end BuildStep

attribute [ext] TargetBuilder

namespace TargetBuilder

/-! ## Bindings -/

/-- Binds one parameter after another. -/
def bindAll (bindings : List ParameterBinding) (pairs : List (String × String)) :
    List ParameterBinding :=
  pairs.foldl (fun bindings pair => bind pair.1 pair.2 bindings) bindings

variable {bindings : List ParameterBinding} {pairs : List (String × String)}

theorem bindAll_cons (bindings : List ParameterBinding) (pair : String × String)
    (rest : List (String × String)) :
    bindAll bindings (pair :: rest) = bindAll (bind pair.1 pair.2 bindings) rest := rfl

theorem find?_bind (parameter bindingName other : String) (bindings : List ParameterBinding) :
    ParameterBinding.find? (bind parameter bindingName bindings) other =
      if parameter = other then some bindingName else ParameterBinding.find? bindings other := by
  induction bindings with
  | nil =>
      by_cases h : parameter = other <;> simp [bind, ParameterBinding.find?, h]
  | cons binding rest ih =>
      by_cases hit : binding.name = parameter
      · by_cases h : parameter = other <;> simp [bind, ParameterBinding.find?, hit, h]
      · have step : bind parameter bindingName (binding :: rest) =
            binding :: bind parameter bindingName rest := if_neg hit
        rw [step]
        by_cases found : binding.name = other
        · -- The search ends at the head, and the head is not the one that changes.
          have h : ¬ parameter = other := fun h => hit (found.trans h.symm)
          simp [ParameterBinding.find?, found, h]
        · have skip (l : List ParameterBinding) : ParameterBinding.find? (binding :: l) other =
              ParameterBinding.find? l other := by
            simp [ParameterBinding.find?, found]
          rw [skip, skip, ih]

/-- The last key that a parameter is bound to counts. -/
theorem find?_bindAll (bindings : List ParameterBinding) (pairs : List (String × String))
    (parameter : String) :
    ParameterBinding.find? (bindAll bindings pairs) parameter =
      ((pairs.filter fun pair => pair.1 == parameter).getLast?.map (·.2)).or
        (ParameterBinding.find? bindings parameter) := by
  refine foldl_overwrite_or (fun bindings pair => bind pair.1 pair.2 bindings)
    (fun bindings => ParameterBinding.find? bindings parameter) (fun pair => pair.1 == parameter)
    (·.2) ?_ pairs bindings
  intro bindings pair
  rw [find?_bind]
  simp only [beq_iff_eq]

/-- New names are appended, each once, in the order in which they are bound first. -/
theorem bindingNames_bindAll (bindings : List ParameterBinding) (pairs : List (String × String)) :
    bindingNames (bindAll bindings pairs) =
      bindingNames bindings ++
        ((pairs.map (·.1)).filter fun name => name ∉ bindingNames bindings).eraseDups := by
  induction pairs generalizing bindings with
  | nil => simp [bindAll]
  | cons pair rest ih =>
      rw [bindAll_cons, ih, bindingNames_bind]
      by_cases known : pair.1 ∈ bindingNames bindings
      · simp [known]
      · -- What is new after the head is what is new before it, without the head.
        have later : (rest.map (·.1)).filter
              (fun name => name ∉ bindingNames bindings ++ [pair.1]) =
            ((rest.map (·.1)).filter fun name => name ∉ bindingNames bindings).filter
              fun name => !name == pair.1 := by
          rw [List.filter_filter]
          refine List.filter_congr fun name _ => ?_
          by_cases h : name = pair.1 <;> simp [h]
        rw [if_neg known, later, List.map_cons, List.filter_cons_of_pos (by simpa using known),
          List.eraseDups_cons, List.append_assoc, List.singleton_append]

theorem nodup_bind (parameter bindingName : String) (distinct : (bindingNames bindings).Nodup) :
    (bindingNames (bind parameter bindingName bindings)).Nodup := by
  rw [bindingNames_bind]
  split
  · exact distinct
  · next fresh =>
      exact distinct.append (List.nodup_singleton _) (List.disjoint_singleton.2 fresh)

theorem nodup_bindAll (distinct : (bindingNames bindings).Nodup) :
    (bindingNames (bindAll bindings pairs)).Nodup := by
  induction pairs generalizing bindings with
  | nil => exact distinct
  | cons pair rest ih => exact ih (nodup_bind pair.1 pair.2 distinct)

/-- Where no name is repeated, each binding is the one that is found for its name. -/
theorem find?_of_mem (distinct : (bindingNames bindings).Nodup) {binding : ParameterBinding}
    (member : binding ∈ bindings) :
    ParameterBinding.find? bindings binding.name = binding.bindingName := by
  induction bindings with
  | nil => cases member
  | cons first rest ih =>
      rw [bindingNames_cons, List.nodup_cons] at distinct
      rcases List.mem_cons.1 member with rfl | later
      · simp [ParameterBinding.find?]
      · have other : ¬ first.name = binding.name := by
          intro same
          exact distinct.1 (same ▸ List.mem_map_of_mem later)
        have found := ih distinct.2 later
        simpa [ParameterBinding.find?, other] using found

theorem effectiveName_eq (distinct : (bindingNames bindings).Nodup) {binding : ParameterBinding}
    (member : binding ∈ bindings) :
    binding.effectiveName =
      (ParameterBinding.find? bindings binding.name).getD binding.name := by
  rw [find?_of_mem distinct member, ParameterBinding.effectiveName]

/-! ## Runs, part by part -/

theorem find?_start (method : Method) (handlerName parameter : String) :
    ParameterBinding.find? (start method handlerName).bindings parameter = none := by
  rw [ParameterBinding.find?, Option.bind_eq_none_iff]
  intro binding found
  -- Whatever is found among the declared parameters has no key in its place yet.
  rcases List.mem_map.1 (List.mem_of_find?_eq_some found) with ⟨name, -, rfl⟩
  rfl

section

variable (builder : TargetBuilder) (steps : List BuildStep)

theorem run_method : (builder.run steps).method = builder.method := by
  induction steps generalizing builder with
  | nil => rfl
  | cons step rest ih =>
      have first : (builder.apply step).method = builder.method := by cases step <;> rfl
      exact (ih (builder.apply step)).trans first

theorem run_handlerName : (builder.run steps).handlerName =
    (steps.filterMap (·.handlerName?)).getLast?.getD builder.handlerName := by
  refine foldl_carried apply (·.handlerName) (·.handlerName?) ?_ steps builder
  intro builder step
  cases step <;> rfl

theorem run_actionName : (builder.run steps).actionName =
    (steps.filterMap (·.actionName?)).getLast?.or builder.actionName := by
  refine foldl_carried_or apply (·.actionName) (·.actionName?) ?_ steps builder
  intro builder step
  cases step <;> rfl

theorem run_bindings : (builder.run steps).bindings =
    bindAll builder.bindings (steps.filterMap (·.binding?)) := by
  refine foldl_part apply (·.bindings) (·.binding?) _ ?_ steps builder
  intro builder step
  cases step <;> rfl

theorem run_defaults : (builder.run steps).defaults =
    builder.defaults.extend (steps.filterMap (·.default?)) := by
  refine foldl_part apply (·.defaults) (·.default?) _ ?_ steps builder
  intro builder step
  cases step <;> rfl

theorem run_constraints : (builder.run steps).constraints =
    builder.constraints ++ steps.filterMap (·.constraint?) := by
  induction steps generalizing builder with
  | nil => exact (List.append_nil _).symm
  | cons step rest ih =>
      refine (ih (builder.apply step)).trans ?_
      cases step with
      | constraint key value => exact List.append_assoc _ _ _
      | _ => rfl

end

/-! ## Steps of different kinds -/

theorem apply_comm (builder : TargetBuilder) {s t : BuildStep} (apart : s.kind ≠ t.kind) :
    (builder.apply s).apply t = (builder.apply t).apply s := by
  cases s <;> cases t <;> first | rfl | exact absurd rfl apart

/-- Runs with the same steps of each kind, in whatever order of kinds, leave the same builder. -/
theorem run_congr (builder : TargetBuilder) {steps steps' : List BuildStep}
    (same : ∀ kind, (steps.filter fun step => step.kind = kind) =
      steps'.filter fun step => step.kind = kind) :
    builder.run steps = builder.run steps' := by
  have carried {β : Type} (carried? : BuildStep → Option β) (kind : BuildStep.Kind)
      (only : ∀ step, step.kind ≠ kind → carried? step = none) :
      steps.filterMap carried? = steps'.filterMap carried? := by
    rw [← BuildStep.filterMap_filter_kind only, same, BuildStep.filterMap_filter_kind only]
  apply TargetBuilder.ext
  case method => rw [run_method, run_method]
  case handlerName =>
    rw [run_handlerName, run_handlerName,
      carried (·.handlerName?) .handlerName fun step => step.carries_only.1]
  case actionName =>
    rw [run_actionName, run_actionName,
      carried (·.actionName?) .actionName fun step => step.carries_only.2.1]
  case bindings =>
    rw [run_bindings, run_bindings,
      carried (·.binding?) .bindings fun step => step.carries_only.2.2.1]
  case defaults =>
    rw [run_defaults, run_defaults,
      carried (·.default?) .defaults fun step => step.carries_only.2.2.2.1]
  case constraints =>
    rw [run_constraints, run_constraints,
      carried (·.constraint?) .constraints fun step => step.carries_only.2.2.2.2]

/-! ## Targets -/

/-- **What a run builds.** Let a method declare parameters of different names, and take any steps.

* The bindings are for the declared parameters, in their order, and then for each other parameter
  that is bound, once, in the order in which they are bound first; no name is repeated;
* the key in the place of a name is that of the last step that binds it, and there is none without
  such a step; for each declared parameter there is a binding, and for every binding that key, or
  else the name, is the one under which the parameter appears;
* the names are those of the last step for them, or else those at the start;
* the constraints are those of the steps, in their order, and the defaults are what their steps
  leave when they are written in order;
* steps of different kinds commute: two of them have the same effect in either order, and so have
  all runs with the same steps of each kind. -/
theorem run_builds (method : Method) (distinct : method.parameterNames.Nodup)
    (handlerName : String) (steps : List BuildStep) :
    let target := ((start method handlerName).run steps).build
    (bindingNames target.bindings = method.parameterNames ++
        ((BuildStep.boundParameters steps).filter
          fun name => name ∉ method.parameterNames).eraseDups ∧
      (bindingNames target.bindings).Nodup) ∧
    (∀ parameter, target.bindingFor? parameter = BuildStep.lastBinding? steps parameter) ∧
    (∀ parameter ∈ method.parameterNames, ∃ binding ∈ target.bindings, binding.name = parameter) ∧
    (∀ binding ∈ target.bindings,
      binding.effectiveName = (target.bindingFor? binding.name).getD binding.name) ∧
    target.handlerName = (steps.filterMap (·.handlerName?)).getLast?.getD handlerName ∧
    target.actionName = (steps.filterMap (·.actionName?)).getLast?.getD method.name ∧
    target.constraints = steps.filterMap (·.constraint?) ∧
    target.defaults = RouteValues.ofList (steps.filterMap (·.default?)) ∧
    target.method = method ∧
    (∀ (builder : TargetBuilder) (s t : BuildStep), s.kind ≠ t.kind →
      (builder.apply s).apply t = (builder.apply t).apply s) ∧
    (∀ steps' : List BuildStep,
      (∀ kind, (steps'.filter fun step => step.kind = kind) =
        steps.filter fun step => step.kind = kind) →
      ((start method handlerName).run steps').build = target) := by
  intro target
  have bindings : target.bindings = bindAll (start method handlerName).bindings
      (steps.filterMap (·.binding?)) := run_bindings _ steps
  have names := bindingNames_bindAll (start method handlerName).bindings
    (steps.filterMap (·.binding?))
  rw [bindingNames_start, ← bindings] at names
  have unrepeated : (bindingNames target.bindings).Nodup :=
    bindings ▸ nodup_bindAll ((bindingNames_start method handlerName).symm ▸ distinct)
  refine ⟨⟨names, unrepeated⟩, ?_, ?_, ?_, ?_, ?_, ?_, ?_, ?_, ?_, ?_⟩
  · intro parameter
    rw [DispatchTarget.bindingFor?, bindings, find?_bindAll, find?_start, Option.or_none]
    rfl
  · intro parameter declared
    have member : parameter ∈ bindingNames target.bindings :=
      names ▸ List.mem_append_left _ declared
    exact List.mem_map.1 member
  · intro binding member
    exact effectiveName_eq unrepeated member
  · exact run_handlerName _ steps
  · -- A builder without an action name takes that of its method.
    have action := run_actionName (start method handlerName) steps
    have method' : ((start method handlerName).run steps).method = method := run_method _ steps
    rw [show (start method handlerName).actionName = none from rfl, Option.or_none] at action
    exact congr (congrArg Option.getD action) (congrArg Method.name method')
  · exact run_constraints _ steps
  · exact run_defaults _ steps
  · exact run_method _ steps
  · intro builder s t apart
    exact apply_comm builder apart
  · intro steps' same
    exact congrArg build (run_congr _ same)

/-- A method with two parameters. -/
def listing : Method :=
  ⟨⟨0, "shop::ItemHandler"⟩, "List", [⟨"id", "i64"⟩, ⟨"page", "u32"⟩]⟩

/-- Steps of all kinds in turns. A declared parameter and another one are bound twice each. -/
def mixedSteps : List BuildStep :=
  [.bindParameter "sort" "order", .constraint "area" "shop", .bindParameter "page" "p",
    .defaultValue "Lang" .null, .bindParameter "Page" "q", .actionName "Browse",
    .bindParameter "sort" "by", .handlerName "Shop", .bindParameter "page" "number",
    .defaultValue "LANG" (.bool true), .constraint "area" ""]

/-- The same steps, one kind after another. -/
def groupedSteps : List BuildStep :=
  [.handlerName "Shop", .actionName "Browse", .bindParameter "sort" "order",
    .bindParameter "page" "p", .bindParameter "Page" "q", .bindParameter "sort" "by",
    .bindParameter "page" "number", .defaultValue "Lang" .null, .defaultValue "LANG" (.bool true),
    .constraint "area" "shop", .constraint "area" ""]

theorem run_builds_mixedSteps :
    let target := ((start listing "Item").run mixedSteps).build
    listing.parameterNames.Nodup ∧
      bindingNames target.bindings = ["id", "page", "sort", "Page"] ∧
      target.bindingFor? "page" = some "number" ∧ target.bindingFor? "id" = none ∧
      (∃ binding ∈ target.bindings, binding.name = "id") ∧
      target.handlerName = "Shop" ∧ target.actionName = "Browse" ∧
      target.constraints = [⟨"area", "shop"⟩, ⟨"area", ""⟩] ∧
      target.defaults = RouteValues.ofList [("Lang", .null), ("LANG", .bool true)] ∧
      ((start listing "Item").apply (.handlerName "Shop")).apply (.actionName "Browse") =
        ((start listing "Item").apply (.actionName "Browse")).apply (.handlerName "Shop") ∧
      ((start listing "Item").run groupedSteps).build = target := by
  intro target
  have distinct : listing.parameterNames.Nodup := by decide
  rcases run_builds listing distinct "Item" mixedSteps with
    ⟨⟨names, -⟩, found, declared, -, handler, action, constraints, defaults, -, comm, congr⟩
  have apart : (BuildStep.handlerName "Shop").kind ≠ (BuildStep.actionName "Browse").kind := by
    decide
  have new : (BuildStep.boundParameters mixedSteps).filter
      (fun name => name ∉ listing.parameterNames) = ["sort", "Page", "sort"] := by decide
  have grouped (kind : BuildStep.Kind) : (groupedSteps.filter fun step => step.kind = kind) =
      mixedSteps.filter fun step => step.kind = kind := by
    cases kind <;> rfl
  refine ⟨distinct, names.trans ?_, (found "page").trans ?_, (found "id").trans ?_,
    declared "id" (by decide), handler, action, constraints, defaults, comm _ _ _ apart,
    congr groupedSteps grouped⟩
  · rw [new]
    rfl
  · rfl
  · rfl

end TargetBuilder
end InvocationRouting
