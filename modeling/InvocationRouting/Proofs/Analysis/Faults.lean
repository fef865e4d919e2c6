import InvocationRouting.Proofs.Registry.FirstAction
import InvocationRouting.Proofs.Resolution.Order

/-!
# Proofs.Analysis.Faults — the first fault of an invocation counts

An invocation may be wrong in several ways at once. Here each way is looked at on its own, whatever
else may be wrong. Analysis reports the first of them in a fixed order.

* `Expr.shapeFault?`, `Expr.receiverFault?`, `Expr.arityFault?`, `Expr.argumentFault?` : what may be
  wrong with a body;
* `Expr.targetFault?` : no registered action is for the method;
* `Expr.earlyFaults`, `Expr.faults` : all that is wrong, in the order of the stages;
* `Expr.failure?_analyze`, `Invocation.failure?_analyze` : analysis fails with the first early
  fault;
* `Expr.analyze_eq_ok` : otherwise it answers with the method that is called and its arguments.
-/

namespace InvocationRouting

variable {ω ε ε' α β : Type}

/-! ## Failures -/

namespace Traced

/-- Why there is no result, if there is none. -/
def failure? (x : Traced ω ε α) : Option ε :=
  match x.result with
  | .ok _ => none
  | .error e => some e

theorem failure?_eq_some_iff {x : Traced ω ε α} {e : ε} :
    x.failure? = some e ↔ x.result = .error e := by
  unfold failure?
  cases x.result <;> simp

theorem failure?_eq_none_iff {x : Traced ω ε α} : x.failure? = none ↔ ∃ a, x.result = .ok a := by
  unfold failure?
  cases x.result <;> simp

@[simp] theorem failure?_map (x : Traced ω ε α) (f : α → β) : (x.map f).failure? = x.failure? := by
  unfold failure? map
  cases x.result <;> rfl

@[simp] theorem failure?_mapError (x : Traced ω ε α) (f : ε → ε') :
    (x.mapError f).failure? = x.failure?.map f := by
  unfold failure? mapError
  cases x.result <;> rfl

theorem failure?_andThen (x : Traced ω ε α) (f : α → Traced ω ε β) :
    (x.andThen f).failure? =
      match x.result with
      | .ok a => (f a).failure?
      | .error e => some e := by
  unfold failure? andThen
  cases x.result <;> rfl

end Traced

/-! ## Faults, each on its own -/

namespace Expr

/-- The method that a body calls, if it is a call. -/
def calledMethod? : Expr → Option Method
  | call _ method _ => some method
  | _ => none

/-- The body is no method call. -/
def shapeFault? (body : Expr) : Option ResolveError :=
  if body.isCall then none else some (.invalidShape body.noCallReason)

/-- The call has no receiver. -/
def receiverFault? : Expr → Option ResolveError
  | call none method _ => some (.staticInvocation method)
  | _ => none

/-- The call has another number of arguments than the method has parameters. -/
def arityFault? : Expr → Option ResolveError
  | call _ method arguments =>
      if method.parameters.length = arguments.length then none
      else some (.invalidShape (arityReason method arguments))
  | _ => none

/-- Why an argument has no value. A constant always has one. -/
def valueFault? (limit : Nat) : Expr → Option EvaluationError
  | constant _ => none
  | other => (other.evaluate limit).failure?

/-- Some argument of the call has no value: what is wrong with the leftmost of them. -/
def argumentFault? (limit : Nat) : Expr → Option ResolveError
  | call _ _ arguments => (arguments.findSome? (valueFault? limit)).map .evaluation
  | _ => none

/-- No registered action is for the method that is called. -/
def targetFault? (descriptors : List Descriptor) : Expr → Option ResolveError
  | call _ method _ =>
      if descriptors.any fun descriptor =>
          descriptor.registration?.any fun registration => registration.target.method == method then
        none
      else some (.targetNotFound method)
  | _ => none

/-- All that is wrong with a body before its target is looked up, in the order of the stages. -/
def earlyFaults (limit : Nat) (body : Expr) : List ResolveError :=
  [body.shapeFault?, body.receiverFault?, body.arityFault?, body.argumentFault? limit].filterMap id

/-- All that is wrong with a body where some routes are registered, in the order of the stages. -/
def faults (limit : Nat) (descriptors : List Descriptor) (body : Expr) : List ResolveError :=
  body.earlyFaults limit ++ (body.targetFault? descriptors).toList

/-- That there is no target is found out last. -/
theorem targetNotFound_notMem_earlyFaults (limit : Nat) (body : Expr) (method : Method) :
    .targetNotFound method ∉ body.earlyFaults limit := by
  intro member
  simp only [earlyFaults, List.mem_filterMap, List.mem_cons, List.not_mem_nil, or_false, id,
    exists_eq_right] at member
  rcases member with shape | receiver | arity | argument
  · unfold shapeFault? at shape
    split at shape <;> cases shape
  · unfold receiverFault? at receiver
    split at receiver <;> cases receiver
  · unfold arityFault? at arity
    split at arity
    · split at arity <;> cases arity
    · cases arity
  · unfold argumentFault? at argument
    split at argument
    · rcases Option.map_eq_some_iff.1 argument.symm with ⟨cause, -, other⟩
      cases other
    · cases argument

/-- There is an action for the method exactly if a search finds one. -/
theorem targetFault?_of_calledMethod? {body : Expr} {method : Method}
    (called : body.calledMethod? = some method) (descriptors : List Descriptor) :
    body.targetFault? descriptors =
      match Descriptor.firstAction? descriptors method with
      | some _ => none
      | none => some (.targetNotFound method) := by
  have found : (descriptors.any fun descriptor =>
      descriptor.registration?.any fun registration => registration.target.method == method) =
      (Descriptor.firstAction? descriptors method).isSome := by
    unfold Descriptor.firstAction?
    induction descriptors with
    | nil => rfl
    | cons descriptor rest ih =>
        cases descriptor with
        | endpoint name values => simpa [Descriptor.registration?] using ih
        | action registration =>
            by_cases hit : (registration.target.method == method) = true
            · simp [Descriptor.registration?, hit]
            · simpa [Descriptor.registration?, hit] using ih
  cases body with
  | call receiver other arguments =>
      cases called
      rw [targetFault?, found]
      cases Descriptor.firstAction? descriptors method <;> rfl
  | _ => cases called

/-! ## Analysis -/

variable (limit : Nat)

theorem failure?_argumentValue (declared : Parameter) (argument : Expr) :
    (argumentValue limit declared argument).failure? = argument.valueFault? limit := by
  cases argument with
  | constant value => rfl
  | _ => rfl

/-- Of the arguments that have no value, the leftmost is reported. -/
theorem failure?_argumentValues {parameters : List Parameter} {arguments : List Expr}
    (arity : parameters.length = arguments.length) (position : Nat) :
    (argumentValues limit position parameters arguments).failure? =
      arguments.findSome? (valueFault? limit) := by
  induction arguments generalizing parameters position with
  | nil => cases parameters <;> rfl
  | cons argument arguments ih =>
      cases parameters with
      | nil => cases arity
      | cons declared parameters =>
          -- What is right of a failure is not evaluated, and the search does not look there.
          have rest := ih (Nat.succ.inj arity) (position + 1)
          rw [List.findSome?_cons, ← failure?_argumentValue limit declared, argumentValues,
            Traced.failure?_andThen]
          cases result : (argumentValue limit declared argument).result with
          | error e => rw [Traced.failure?_eq_some_iff.2 result]
          | ok value =>
              rw [Traced.failure?_eq_none_iff.2 ⟨value, result⟩]
              exact (Traced.failure?_map _ _).trans rest

/-- A call with a receiver may have the wrong number of arguments, or an argument without value. -/
theorem earlyFaults_call (receiver : Expr) (method : Method) (arguments : List Expr) :
    (call (some receiver) method arguments).earlyFaults limit =
      [(call (some receiver) method arguments).arityFault?,
        (call (some receiver) method arguments).argumentFault? limit].filterMap id := rfl

theorem earlyFaults_of_arity {receiver : Expr} {method : Method} {arguments : List Expr}
    (arity : method.parameters.length = arguments.length) :
    (call (some receiver) method arguments).earlyFaults limit =
      ((arguments.findSome? (valueFault? limit)).map ResolveError.evaluation).toList := by
  have fits : (call (some receiver) method arguments).arityFault? = none := if_pos arity
  rw [earlyFaults_call, fits, argumentFault?]
  cases arguments.findSome? (valueFault? limit) <;> rfl

/-- Analysis fails with the first fault that it looks for. -/
theorem failure?_analyze (body : Expr) :
    (body.analyze limit).failure? = (body.earlyFaults limit).head? := by
  cases body with
  | call receiver method arguments =>
      cases receiver with
      | none => rfl
      | some receiver =>
          by_cases arity : method.parameters.length = arguments.length
          · rw [earlyFaults_of_arity limit arity, analyze, Method.arity, if_pos arity,
              Traced.failure?_map, Traced.failure?_mapError, failure?_argumentValues limit arity]
            cases arguments.findSome? (valueFault? limit) <;> rfl
          · have first : (call (some receiver) method arguments).arityFault? =
                some (.invalidShape (arityReason method arguments)) := if_neg arity
            rw [earlyFaults_call, first, analyze, Method.arity, if_neg arity]
            rfl
  | _ => rfl

/-- Nothing runs unless the arguments are evaluated. -/
theorem computations_analyze_of_fault {body : Expr}
    (fault : body.shapeFault?.isSome ∨ body.receiverFault?.isSome ∨ body.arityFault?.isSome) :
    (body.analyze limit).computations.trace = [] := by
  cases body with
  | call receiver method arguments =>
      cases receiver with
      | none => rfl
      | some receiver =>
          -- A call with a receiver can only be at fault in the number of its arguments.
          have unfit : ¬ method.parameters.length = arguments.length := by
            intro arity
            simp [shapeFault?, isCall, receiverFault?, arityFault?, arity] at fault
          rw [analyze, Method.arity, if_neg unfit]
          rfl
  | _ => rfl

/-- An analysis that succeeds has the values of as many arguments as the method has parameters. -/
theorem analyze_eq_ok {body : Expr} {analysis : Analysis}
    (h : (body.analyze limit).result = .ok analysis) :
    ∃ receiver arguments, body = call (some receiver) analysis.method arguments ∧
      analysis.method.arity = arguments.length ∧
      (argumentValues limit 0 analysis.method.parameters arguments).result =
        .ok analysis.arguments := by
  cases body with
  | call receiver method arguments =>
      cases receiver with
      | none => cases h
      | some receiver =>
          rw [analyze] at h
          split at h
          · next arity =>
              simp only [Traced.map, Traced.mapError] at h
              cases values : (argumentValues limit 0 method.parameters arguments).result with
              | error e =>
                  rw [values] at h
                  cases h
              | ok found =>
                  rw [values] at h
                  cases h
                  exact ⟨receiver, arguments, rfl, arity, values⟩
          · cases h
  | _ => cases h

/-- A result of the analysis is about the method that is called. -/
theorem calledMethod?_of_analyze {body : Expr} {analysis : Analysis}
    (h : (body.analyze limit).result = .ok analysis) :
    body.calledMethod? = some analysis.method := by
  rcases analyze_eq_ok limit h with ⟨receiver, arguments, rfl, -, -⟩
  rfl

end Expr

namespace Invocation

variable (limit : Nat) (invocation : Invocation)

/-- The type of an invocation does not matter to the result. -/
theorem result_analyze :
    (invocation.analyze limit).result = (invocation.body.analyze limit).result := by
  have same := invocation.computations_analyze limit
  exact congrArg (fun run => run.result) same

theorem failure?_analyze :
    (invocation.analyze limit).failure? = (invocation.body.earlyFaults limit).head? := by
  rw [← invocation.body.failure?_analyze limit]
  unfold Traced.failure?
  rw [invocation.result_analyze limit]

end Invocation
end InvocationRouting
