import InvocationRouting.Proofs.Method.Identity
import InvocationRouting.Target.Builder

/-!
# Proofs.Target.Builder — what a builder keeps

Steps change bindings in place or append new ones. The names of the bindings therefore start with
the declared parameters, in their order, whatever the steps.

* `Built` : targets that a builder has put together;
* `Declares` : the bindings of a builder start with the declared parameters;
* `declares_apply`, `declares_run` : one step keeps this, and so do many;
* `Built.parameterNames_eq` : of a built target, the bindings and the number of parameters tell the
  declared names.
-/

namespace InvocationRouting

namespace TargetBuilder

/-- The names of bindings, in order. -/
def bindingNames (bindings : List ParameterBinding) : List String :=
  bindings.map (·.name)

@[simp] theorem bindingNames_cons (binding : ParameterBinding) (rest : List ParameterBinding) :
    bindingNames (binding :: rest) = binding.name :: bindingNames rest := rfl

/-- The names of the bindings start with the declared parameters. -/
def Declares (builder : TargetBuilder) : Prop :=
  builder.method.parameterNames <+: bindingNames builder.bindings

/-- Binding a parameter renames no binding, and adds one at the end if there is none of that
name. -/
theorem bindingNames_bind (parameter bindingName : String) (bindings : List ParameterBinding) :
    bindingNames (bind parameter bindingName bindings) =
      if parameter ∈ bindingNames bindings then bindingNames bindings
      else bindingNames bindings ++ [parameter] := by
  induction bindings with
  | nil => rfl
  | cons binding rest ih =>
      by_cases hit : binding.name = parameter
      · simp [bind, hit]
      · have other : ¬ parameter = binding.name := fun h => hit h.symm
        have step : bind parameter bindingName (binding :: rest) =
            binding :: bind parameter bindingName rest := if_neg hit
        rw [step, bindingNames_cons, bindingNames_cons, ih]
        by_cases known : parameter ∈ bindingNames rest <;> simp [known, other]

theorem bindingNames_prefix_bind (parameter bindingName : String)
    (bindings : List ParameterBinding) :
    bindingNames bindings <+: bindingNames (bind parameter bindingName bindings) := by
  rw [bindingNames_bind]
  split
  · exact List.prefix_rfl
  · exact List.prefix_append _ _

theorem bindingNames_start (method : Method) (handlerName : String) :
    bindingNames (start method handlerName).bindings = method.parameterNames := by
  simp [start, bindingNames, Function.comp_def]

theorem declares_start (method : Method) (handlerName : String) :
    (start method handlerName).Declares := by
  rw [Declares, bindingNames_start]
  exact List.prefix_rfl

theorem declares_apply {builder : TargetBuilder} (h : builder.Declares) (step : BuildStep) :
    (builder.apply step).Declares := by
  cases step with
  | bindParameter parameter bindingName =>
      exact h.trans (bindingNames_prefix_bind parameter bindingName builder.bindings)
  | _ => exact h

/-- However many steps, the bindings still start with the declared parameters. -/
theorem declares_run {builder : TargetBuilder} (h : builder.Declares) (steps : List BuildStep) :
    (builder.run steps).Declares := by
  induction steps generalizing builder with
  | nil => exact h
  | cons step rest ih => exact ih (declares_apply h step)

end TargetBuilder

namespace DispatchTarget

/-- Targets that a builder has put together, step by step. -/
def Built (target : DispatchTarget) : Prop :=
  ∃ method handlerName steps,
    target = ((TargetBuilder.start method handlerName).run steps).build

variable {target target' : DispatchTarget}

/-- The declared names are the first of the names that are bound. -/
theorem Built.parameterNames_eq_take (h : target.Built) :
    target.method.parameterNames =
      (TargetBuilder.bindingNames target.bindings).take target.method.arity := by
  rcases h with ⟨method, handlerName, steps, rfl⟩
  have declares := TargetBuilder.declares_run
    (TargetBuilder.declares_start method handlerName) steps
  have arity (method : Method) : method.parameterNames.length = method.arity := List.length_map _
  exact arity _ ▸ List.prefix_iff_eq_take.1 declares

/-- Built targets with the same bindings and as many parameters declare the same names. -/
theorem Built.parameterNames_eq (h : target.Built) (h' : target'.Built)
    (bindings : target.bindings = target'.bindings)
    (arity : target.method.arity = target'.method.arity) :
    target.method.parameterNames = target'.method.parameterNames := by
  rw [h.parameterNames_eq_take, h'.parameterNames_eq_take, bindings, arity]

end DispatchTarget
end InvocationRouting
