import InvocationRouting.Proofs.Analysis.Faults
import InvocationRouting.Proofs.Merge.DeclaredKeys

/-!
# Proofs.Analysis.Names — analysis under other parameter names

Two declarations of one method may name its parameters differently. The analyses of two calls with
the same arguments then differ in nothing but these names.

* `ResolveError.SameKind` : errors that differ at most in the declaration they are about;
* `Expr.unnamed_argumentValues` : the values of arguments do not depend on names;
* `Analysis.SameArguments` : analyses of one method with the same arguments;
* `Expr.analyze_call_congr` : both calls have such analyses, or fail in the same way.
-/

namespace InvocationRouting

/-- Errors of one kind. Evaluation errors must be equal, the others may be about other declarations
of a method. -/
inductive ResolveError.SameKind : ResolveError → ResolveError → Prop where
  | invalidShape (reason reason' : String) : SameKind (.invalidShape reason) (.invalidShape reason')
  | staticInvocation (method method' : Method) :
      SameKind (.staticInvocation method) (.staticInvocation method')
  | targetNotFound (method method' : Method) :
      SameKind (.targetNotFound method) (.targetNotFound method')
  | evaluation (cause : EvaluationError) : SameKind (.evaluation cause) (.evaluation cause)

/-- Analyses of declarations of one method, whose arguments are at declared positions and differ at
most in the names of their parameters. -/
structure Analysis.SameArguments (a b : Analysis) : Prop where
  identity : a.method.identity = b.method.identity
  unnamed : a.arguments.map ArgumentValue.unnamed = b.arguments.map ArgumentValue.unnamed
  declared : ∀ argument ∈ a.arguments, argument.position < a.method.arity
  declared' : ∀ argument ∈ b.arguments, argument.position < b.method.arity

namespace Expr

variable (limit : Nat)

/-- The value of an argument: a constant as it is, and all else evaluated. -/
def argumentResult : Expr → Except EvaluationError Value
  | constant value => .ok value
  | other => (other.evaluate limit).result

/-- The positions and values of arguments from a position on, without those that are null. -/
def unnamedValues (position : Nat) : List Expr → Except EvaluationError (List (Nat × Value))
  | [] => .ok []
  | argument :: arguments =>
      (argument.argumentResult limit).bind fun value =>
        (unnamedValues (position + 1) arguments).map fun values =>
          if value.isNull then values else (position, value) :: values

/-- The name of a parameter does not matter to the value of an argument. -/
theorem result_argumentValue (declared : Parameter) (argument : Expr) :
    (argumentValue limit declared argument).result = argument.argumentResult limit := by
  cases argument <;> rfl

theorem result_argumentValues_cons (position : Nat) (declared : Parameter)
    (parameters : List Parameter) (argument : Expr) (arguments : List Expr) :
    (argumentValues limit position (declared :: parameters) (argument :: arguments)).result =
      (argument.argumentResult limit).bind fun value =>
        (argumentValues limit (position + 1) parameters arguments).result.map fun values =>
          if value.isNull then values else ⟨position, declared.name, value⟩ :: values := by
  rw [argumentValues, Traced.andThen, result_argumentValue]
  cases argument.argumentResult limit <;> rfl

/-- The names of parameters do not matter to the positions and values of arguments. -/
theorem unnamed_argumentValues {parameters : List Parameter} {arguments : List Expr}
    (arity : parameters.length = arguments.length) (position : Nat) :
    (argumentValues limit position parameters arguments).result.map
        (List.map ArgumentValue.unnamed) =
      unnamedValues limit position arguments := by
  induction arguments generalizing parameters position with
  | nil => cases parameters <;> rfl
  | cons argument arguments ih =>
      cases parameters with
      | nil => cases arity
      | cons declared parameters =>
          have rest := ih (Nat.succ.inj arity) (position + 1)
          rw [result_argumentValues_cons, unnamedValues, ← rest]
          cases argument.argumentResult limit with
          | error e => rfl
          | ok value =>
              cases (argumentValues limit (position + 1) parameters arguments).result with
              | error e => rfl
              | ok values =>
                  by_cases null : value.isNull = true <;>
                    simp [Except.map, Except.bind, null, ArgumentValue.unnamed]

/-- Arguments stand at positions of parameters. -/
theorem position_lt_of_argumentValues {parameters : List Parameter} {arguments : List Expr}
    {position : Nat} {values : List ArgumentValue}
    (h : (argumentValues limit position parameters arguments).result = .ok values) :
    ∀ argument ∈ values, argument.position < position + parameters.length := by
  induction arguments generalizing parameters position values with
  | nil =>
      cases parameters <;> cases h <;> simp
  | cons argument arguments ih =>
      cases parameters with
      | nil =>
          cases h
          simp
      | cons declared parameters =>
          rw [result_argumentValues_cons] at h
          cases value : argument.argumentResult limit with
          | error e =>
              rw [value] at h
              cases h
          | ok v =>
              cases others : (argumentValues limit (position + 1) parameters arguments).result with
              | error e =>
                  rw [value, others] at h
                  cases h
              | ok rest =>
                  rw [value, others] at h
                  have all := Except.ok.inj h
                  intro found member
                  have last : found ∈ rest →
                      found.position < position + (parameters.length + 1) := by
                    intro later
                    have := ih others found later
                    omega
                  -- A null is dropped, but it takes up its position.
                  rw [← all] at member
                  split at member
                  · exact last member
                  · rcases List.mem_cons.1 member with rfl | later
                    · exact Nat.lt_add_of_pos_right (Nat.succ_pos _)
                    · exact last later

/-- The analysis of a call to a method, if its arguments fit and have values. -/
theorem result_analyze_call {receiver : Expr} {method : Method} {arguments : List Expr}
    (arity : method.arity = arguments.length) :
    ((call (some receiver) method arguments).analyze limit).result =
      ((argumentValues limit 0 method.parameters arguments).result.mapError
        ResolveError.evaluation).map fun values => ⟨method, values⟩ := by
  rw [analyze, if_pos arity]
  rfl

/-- Calls to one method with the same arguments have the same analysis but for the names of
parameters, or fail in the same way. -/
theorem analyze_call_congr {method method' : Method} (same : method.identity = method'.identity)
    (receiver receiver' : Expr) (arguments : List Expr) :
    (∃ a b, ((call (some receiver) method arguments).analyze limit).result = .ok a ∧
      ((call (some receiver') method' arguments).analyze limit).result = .ok b ∧
      a.method = method ∧ b.method = method' ∧ a.SameArguments b) ∨
    (∃ e e', ((call (some receiver) method arguments).analyze limit).result = .error e ∧
      ((call (some receiver') method' arguments).analyze limit).result = .error e' ∧
      e.SameKind e') := by
  have arities : method.arity = method'.arity := Method.arity_eq_of_identity same
  by_cases arity : method.arity = arguments.length
  · have arity' : method'.arity = arguments.length := arities.symm.trans arity
    rw [result_analyze_call limit arity, result_analyze_call limit arity']
    have unnamed := (unnamed_argumentValues limit arity 0).trans
      (unnamed_argumentValues limit arity' 0).symm
    -- Positions and values agree, so that either both calls have them or both lack them.
    cases first : (argumentValues limit 0 method.parameters arguments).result with
    | error e =>
        cases second : (argumentValues limit 0 method'.parameters arguments).result with
        | error e' =>
            rw [first, second] at unnamed
            cases unnamed
            exact .inr ⟨_, _, rfl, rfl, .evaluation e⟩
        | ok values' =>
            rw [first, second] at unnamed
            cases unnamed
    | ok values =>
        cases second : (argumentValues limit 0 method'.parameters arguments).result with
        | error e' =>
            rw [first, second] at unnamed
            cases unnamed
        | ok values' =>
            rw [first, second] at unnamed
            have declared := position_lt_of_argumentValues limit first
            have declared' := position_lt_of_argumentValues limit second
            rw [Nat.zero_add] at declared declared'
            exact .inl ⟨⟨method, values⟩, ⟨method', values'⟩, rfl, rfl, rfl, rfl,
              ⟨same, Except.ok.inj unnamed, declared, declared'⟩⟩
  · have arity' : ¬ method'.arity = arguments.length := fun fits => arity (arities.trans fits)
    rw [analyze, analyze, if_neg arity, if_neg arity']
    exact .inr ⟨_, _, rfl, rfl, .invalidShape _ _⟩

end Expr
end InvocationRouting
