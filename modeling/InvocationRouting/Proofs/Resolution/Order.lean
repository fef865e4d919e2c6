import InvocationRouting.Proofs.Evaluation.Order
import InvocationRouting.Resolver

/-!
# Proofs.Resolution.Order — deferred computations of an invocation run at most once

An analysis evaluates the arguments of a call one after another, and a resolution runs nothing
besides. Whatever is evaluated, analyzed or resolved, computations therefore run from left to right,
each at most once, and the first failure is the result.

* `Traced.computations` : the computations that run, among all that happens;
* `Expr.runsInOrder_analyze`, `Invocation.runsInOrder_analyze` : the analysis of a body and of an
  invocation;
* `Settings.runsInOrder_resolve` : the resolution of an invocation;
* `deferred_runs_in_order` : all of them.
-/

namespace InvocationRouting

variable {ε ε' α β : Type}

/-! ## What runs among all that happens -/

namespace Traced

/-- The computations that run, without what is logged. -/
def computations (x : Traced Occurrence ε α) : Traced Deferred ε α :=
  ⟨x.trace.filterMap Occurrence.computation?, x.result⟩

variable (x : Traced Occurrence ε α)

@[simp] theorem computations_logged (event : Event) :
    (note (.logged event) : Traced Occurrence ε Unit).computations = done () := rfl

@[simp] theorem computations_map (f : α → β) :
    (x.map f).computations = x.computations.map f := rfl

@[simp] theorem computations_mapError (f : ε → ε') :
    (x.mapError f).computations = x.computations.mapError f := rfl

@[simp] theorem computations_mapTrace_ran (y : Traced Deferred ε α) :
    (y.mapTrace .ran).computations = y := by
  have all : (y.trace.map Occurrence.ran).filterMap Occurrence.computation? = y.trace := by
    simp [List.filterMap_map, Function.comp_def, Occurrence.computation?]
  simp only [computations, mapTrace, all]

@[simp] theorem computations_andThen (f : α → Traced Occurrence ε β) :
    (x.andThen f).computations = x.computations.andThen fun a => (f a).computations := by
  cases h : x.result with
  | error e => simp only [computations, andThen, h]
  | ok a => simp only [computations, andThen, h, List.filterMap_append]

end Traced

/-! ## Analysis -/

namespace Expr

variable (limit : Nat)

/-- An argument that is no constant is evaluated. -/
theorem computations_argumentValue {argument : Expr} (evaluated : argument.isConstant = false)
    (declared : Parameter) :
    (argumentValue limit declared argument).computations = argument.evaluate limit := by
  cases argument with
  | constant value => cases evaluated
  | _ => simp [argumentValue]

theorem runsInOrder_argumentValue (declared : Parameter) (start : Nat) (argument : Expr) :
    RunsInOrder id (Place.numbered start argument.places)
      (argumentValue limit declared argument).computations
      fun labels => (argumentValue limit declared (argument.relabel labels start)).computations := by
  cases constant : argument.isConstant with
  | false =>
      have evaluated (labels : Nat → String) :
          (argument.relabel labels start).isConstant = false := by
        rw [isConstant_relabel, constant]
      simp only [computations_argumentValue limit constant,
        computations_argumentValue limit (evaluated _)]
      exact runsInOrder_evaluateAt (some limit) 0 start argument
  | true =>
      cases argument with
      | constant value => exact .done value
      | _ => cases constant

theorem runsInOrder_argumentValues (position start : Nat) (parameters : List Parameter)
    (arguments : List Expr) :
    RunsInOrder id (Place.numbered start (placesElements arguments))
      (argumentValues limit position parameters arguments).computations
      fun labels => (argumentValues limit position parameters
        (relabelElements labels start arguments)).computations := by
  induction arguments generalizing position start parameters with
  | nil => cases parameters <;> exact .done []
  | cons argument arguments ih =>
      cases parameters with
      | nil => exact .done []
      | cons declared parameters =>
          simp only [relabelElements, argumentValues, placesElements, Place.numbered_append,
            Traced.computations_andThen, Traced.computations_map]
          exact (runsInOrder_argumentValue limit declared start argument).andThen fun v =>
            (ih (position + 1) _ parameters).map _

theorem runsInOrder_analyze (body : Expr) :
    RunsInOrder .evaluation body.argumentListing (body.analyze limit).computations
      fun labels => ((body.relabel labels 0).analyze limit).computations := by
  cases body with
  | call receiver method arguments =>
      cases receiver with
      | none => exact .fail _
      | some receiver =>
          simp only [relabel, analyze, argumentListing, length_relabelElements, Nat.zero_add]
          by_cases arity : method.arity = arguments.length
          · simp only [if_pos arity, Traced.computations_map, Traced.computations_mapError]
            have arguments :=
              runsInOrder_argumentValues limit 0 receiver.places.length method.parameters arguments
            exact (arguments.mapError ResolveError.evaluation).map _
          · simp only [if_neg arity, arityReason, length_relabelElements]
            exact .fail _
  | _ => exact .fail _

end Expr

namespace Invocation

variable (limit : Nat) (invocation : Invocation)

/-- Only the body of an invocation is evaluated. -/
theorem computations_analyze :
    (invocation.analyze limit).computations = (invocation.body.analyze limit).computations := by
  have silent (analysis : Analysis) :
      (if analysis.method.declaringType == invocation.handler then Traced.done analysis
        else (Traced.note (.logged (.handlerDiffers analysis.method invocation.handler))).map
          fun _ => analysis : Traced Occurrence ResolveError Analysis).computations =
        .done analysis := by
    split <;> rfl
  simp only [analyze, Traced.computations_andThen, silent, Traced.done_andThen]

theorem runsInOrder_analyze :
    RunsInOrder .evaluation invocation.body.argumentListing
      (invocation.analyze limit).computations
      fun labels => ((invocation.relabel labels).analyze limit).computations := by
  simp only [computations_analyze]
  exact invocation.body.runsInOrder_analyze limit

end Invocation

/-! ## Resolution -/

namespace Settings

variable (settings : Settings) (descriptors : List Descriptor) (cache : Cache)
  (invocation : Invocation)

/-- Nothing runs in a resolution once the invocation is analyzed. -/
theorem computations_resolve :
    (settings.resolve descriptors cache invocation).1.computations =
      (invocation.analyze settings.depthLimit).computations.andThen fun analysis =>
        .ofExcept ((cache.resolve descriptors analysis.method).1.result.map fun registration =>
          (Merger.ofSettings settings).merge registration.target analysis.arguments) := by
  unfold resolve
  cases analyzed : (invocation.analyze settings.depthLimit).result with
  | error e =>
      simp [Traced.computations, Traced.andThen, analyzed, List.filterMap_cons,
        Occurrence.computation?]
  | ok analysis =>
      cases found : (cache.resolve descriptors analysis.method).1.result <;>
        simp [Traced.computations, Traced.andThen, Traced.ofExcept, Traced.mapTrace, analyzed,
          Cache.dispatch, found, List.filterMap_cons, Occurrence.computation?, Except.map]

theorem runsInOrder_resolve :
    RunsInOrder .evaluation invocation.body.argumentListing
      (settings.resolve descriptors cache invocation).1.computations
      fun labels =>
        (settings.resolve descriptors cache (invocation.relabel labels)).1.computations := by
  simp only [computations_resolve]
  exact (invocation.runsInOrder_analyze settings.depthLimit).andThen_silent fun _ => .ofExcept _

end Settings

/-- **Order.** Under any limit and settings, whatever the descriptors and the cache,

* evaluation runs computations of the expression outside calls, and analysis and resolution run
  computations of the arguments outside further calls;
* they run from left to right and each place at most once: what runs is a sublist of the listing,
  whose numbers ascend and which new labels reach by number;
* all but the last of them give a value, and a failure of the last is the result. -/
theorem deferred_runs_in_order (limit : Nat) (e : Expr) (invocation : Invocation)
    (settings : Settings) (descriptors : List Descriptor) (cache : Cache) :
    ((e.listing.Pairwise fun p q => p.2 < q.2) ∧
      ∀ labels, (e.relabel labels 0).listing =
        e.listing.map fun entry => (entry.1.relabel (labels entry.2), entry.2)) ∧
    ((e.argumentListing.Pairwise fun p q => p.2 < q.2) ∧
      ∀ labels, (e.relabel labels 0).argumentListing =
        e.argumentListing.map fun entry => (entry.1.relabel (labels entry.2), entry.2)) ∧
    RunsInOrder id e.listing (e.evaluate limit)
      (fun labels => (e.relabel labels 0).evaluate limit) ∧
    RunsInOrder .evaluation e.argumentListing (e.analyze limit).computations
      (fun labels => ((e.relabel labels 0).analyze limit).computations) ∧
    RunsInOrder .evaluation invocation.body.argumentListing
      (invocation.analyze limit).computations
      (fun labels => ((invocation.relabel labels).analyze limit).computations) ∧
    RunsInOrder .evaluation invocation.body.argumentListing
      (settings.resolve descriptors cache invocation).1.computations
      (fun labels =>
        (settings.resolve descriptors cache (invocation.relabel labels)).1.computations) := by
  refine ⟨⟨Place.numbered_ascending, ?_⟩, ⟨e.argumentListing_ascending, ?_⟩, ?_, ?_, ?_, ?_⟩
  · exact fun labels => e.listing_relabel labels
  · exact fun labels => e.argumentListing_relabel labels
  · exact e.runsInOrder_evaluateAt (some limit) 0 0
  · exact e.runsInOrder_analyze limit
  · exact invocation.runsInOrder_analyze limit
  · exact settings.runsInOrder_resolve descriptors cache invocation

end InvocationRouting
