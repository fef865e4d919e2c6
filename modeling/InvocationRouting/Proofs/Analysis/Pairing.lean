import InvocationRouting.Proofs.Analysis.Names
import InvocationRouting.Proofs.Evaluation.Limit

/-!
# Proofs.Analysis.Pairing — values keep the places of their arguments

The analysis of a call goes through parameters and arguments side by side and drops the values that
are null. What is left is paired with the parameters by position, and not by its place among what is
left.

* `ArgumentValue.StandsIn` : an argument that pairs a name with a value of its position;
* `Pairs` : all arguments that do so, in the order of their positions;
* `Expr.pairs_argumentValues` : where all arguments have values, analysis leaves these pairs;
* `Expr.argumentValues_of_failure` : the first argument without a value ends the evaluation;
* `Expr.analyzeBy`, `Expr.evaluatedArgument` : analysis where constants are evaluated like all else;
* `analyze_pairs` : the law of analysis.
-/

namespace InvocationRouting

/-! ## Pairs -/

/-- The argument has the name and the value of its position, counted from a first one, and the value
is not null. -/
def ArgumentValue.StandsIn (first : Nat) (names : List String) (values : List Value)
    (a : ArgumentValue) : Prop :=
  ∃ i, a.position = first + i ∧ names[i]? = some a.parameter ∧ values[i]? = some a.value ∧
    a.value ≠ .null

theorem ArgumentValue.standsIn_cons {first : Nat} {name : String} {names : List String}
    {value : Value} {values : List Value} {a : ArgumentValue} :
    a.StandsIn first (name :: names) (value :: values) ↔
      (a = ⟨first, name, value⟩ ∧ value ≠ .null) ∨ a.StandsIn (first + 1) names values := by
  constructor
  · rintro ⟨i, position, parameter, found, present⟩
    cases i with
    | zero =>
        have parameter' : name = a.parameter := Option.some.inj parameter
        have found' : value = a.value := Option.some.inj found
        refine .inl ⟨?_, found' ▸ present⟩
        rw [parameter', found', ← Nat.add_zero first, ← position]
    | succ i => exact .inr ⟨i, by omega, parameter, found, present⟩
  · rintro (⟨rfl, present⟩ | ⟨i, position, parameter, found, present⟩)
    · exact ⟨0, rfl, rfl, rfl, present⟩
    · exact ⟨i + 1, by omega, parameter, found, present⟩

theorem ArgumentValue.StandsIn.first_le {first : Nat} {names : List String} {values : List Value}
    {a : ArgumentValue} (h : a.StandsIn first names values) : first ≤ a.position := by
  rcases h with ⟨i, position, -⟩
  omega

/-- The arguments that pair names with values, in the order of their positions. -/
structure Pairs (first : Nat) (names : List String) (values : List Value)
    (arguments : List ArgumentValue) : Prop where
  ascending : arguments.Pairwise fun a b => a.position < b.position
  members : ∀ a, a ∈ arguments ↔ a.StandsIn first names values

namespace Pairs

theorem nil (first : Nat) : Pairs first [] [] [] where
  ascending := List.Pairwise.nil
  members a := by simp [ArgumentValue.StandsIn]

/-- One more value in front takes up a position, and is there unless it is null. -/
theorem cons {first : Nat} {names : List String} {values : List Value}
    {arguments : List ArgumentValue} (h : Pairs (first + 1) names values arguments)
    (name : String) (value : Value) :
    Pairs first (name :: names) (value :: values)
      (if value.isNull then arguments else ⟨first, name, value⟩ :: arguments) := by
  cases null : value.isNull with
  | true =>
      have dropped : value = .null := by
        cases value <;> first | rfl | cases null
      constructor
      case ascending => exact h.ascending
      case members =>
        intro a
        rw [if_pos rfl, h.members, ArgumentValue.standsIn_cons]
        simp [dropped]
  | false =>
      have present : value ≠ .null := by
        rintro rfl
        cases null
      constructor
      case ascending =>
        rw [if_neg Bool.false_ne_true, List.pairwise_cons]
        refine ⟨?_, h.ascending⟩
        intro b later
        exact ((h.members b).1 later).first_le
      case members =>
        intro a
        rw [if_neg Bool.false_ne_true, List.mem_cons, h.members, ArgumentValue.standsIn_cons]
        simp [present]

end Pairs

namespace Expr

variable {limit : Nat} {parameters : List Parameter} {arguments : List Expr}

/-! ## Arguments that all have values -/

theorem pairs_argumentValues (arity : parameters.length = arguments.length) {values : List Value}
    (valued : arguments.map (argumentResult limit) = values.map .ok) (first : Nat) :
    ∃ found, (argumentValues limit first parameters arguments).result = .ok found ∧
      Pairs first (parameters.map (·.name)) values found := by
  induction arguments generalizing parameters values first with
  | nil =>
      cases parameters with
      | nil =>
          cases values with
          | nil => exact ⟨[], rfl, .nil first⟩
          | cons value values => cases valued
      | cons declared parameters => cases arity
  | cons argument arguments ih =>
      cases parameters with
      | nil => cases arity
      | cons declared parameters =>
          cases values with
          | nil => cases valued
          | cons value values =>
              -- The tail is numbered from the next position, whether the head is null or not.
              rw [List.map_cons, List.map_cons, List.cons.injEq] at valued
              rcases ih (Nat.succ.inj arity) valued.2 (first + 1) with ⟨found, result, pairs⟩
              refine ⟨_, ?_, pairs.cons declared.name value⟩
              rw [result_argumentValues_cons, valued.1, result]
              rfl

/-! ## An argument that has no value -/

/-- The leftmost argument without a value ends the evaluation: what has happened is what happens for
the arguments up to it. -/
theorem argumentValues_of_failure (arity : parameters.length = arguments.length) {i : Nat}
    {argument : Expr} {failure : EvaluationError} (there : arguments[i]? = some argument)
    (fails : argument.argumentResult limit = .error failure)
    (earlier : ∀ j other, j < i → arguments[j]? = some other →
      ∃ v, other.argumentResult limit = .ok v) (first : Nat) :
    argumentValues limit first parameters arguments =
      ⟨((parameters.zip arguments).take (i + 1)).flatMap fun pair =>
        (argumentValue limit pair.1 pair.2).trace, .error failure⟩ := by
  induction arguments generalizing parameters i first with
  | nil => cases there
  | cons head arguments ih =>
      cases parameters with
      | nil => cases arity
      | cons declared parameters =>
          cases i with
          | zero =>
              -- The head has no value, and nothing behind it is looked at.
              have same : head = argument := Option.some.inj there
              have result : (argumentValue limit declared head).result = .error failure := by
                rw [result_argumentValue, same, fails]
              rw [argumentValues, Traced.andThen_of_error result]
              simp
          | succ i =>
              -- The head has a value, and in the tail the failure stands one place nearer.
              rcases earlier 0 head (Nat.succ_pos i) rfl with ⟨v, value⟩
              have result : (argumentValue limit declared head).result = .ok v := by
                rw [result_argumentValue, value]
              have earlier' (j : Nat) (other : Expr) (before : j < i)
                  (found : arguments[j]? = some other) :
                  ∃ v, other.argumentResult limit = .ok v :=
                earlier (j + 1) other (Nat.succ_lt_succ before) found
              have rest := ih (Nat.succ.inj arity) there earlier' (first + 1)
              rw [argumentValues, Traced.andThen_of_ok result, rest]
              rfl

/-! ## Evaluated constants -/

/-- The values of arguments from a position on, where the value of one is found in a given way. -/
def argumentValuesBy (value : Parameter → Expr → Traced Occurrence EvaluationError Value)
    (position : Nat) :
    List Parameter → List Expr → Traced Occurrence EvaluationError (List ArgumentValue)
  | declared :: parameters, argument :: arguments =>
      (value declared argument).andThen fun v =>
        (argumentValuesBy value (position + 1) parameters arguments).map fun values =>
          if v.isNull then values else ⟨position, declared.name, v⟩ :: values
  | _, _ => .done []

/-- The analysis of a call whose arguments fit, where their values are found in a given way. -/
def analyzeBy (value : Parameter → Expr → Traced Occurrence EvaluationError Value)
    (method : Method) (arguments : List Expr) : Traced Occurrence ResolveError Analysis :=
  ((argumentValuesBy value 0 method.parameters arguments).mapError .evaluation).map
    fun values => ⟨method, values⟩

/-- The value of one argument, where a constant is evaluated like all else. -/
def evaluatedArgument (limit : Nat) (declared : Parameter) (argument : Expr) :
    Traced Occurrence EvaluationError Value :=
  (Traced.note (.logged (.argumentEvaluated declared.name argument.kind))).andThen fun _ =>
    (argument.evaluate limit).mapTrace .ran

theorem argumentValues_eq_by (first : Nat) (parameters : List Parameter) (arguments : List Expr) :
    argumentValues limit first parameters arguments =
      argumentValuesBy (argumentValue limit) first parameters arguments := by
  induction arguments generalizing parameters first with
  | nil => cases parameters <;> rfl
  | cons argument arguments ih =>
      cases parameters with
      | nil => rfl
      | cons declared parameters => rw [argumentValues, argumentValuesBy, ih]

/-- Ways that differ only in what is logged lead to the same values. -/
theorem computations_argumentValuesBy
    {value value' : Parameter → Expr → Traced Occurrence EvaluationError Value}
    (same : ∀ declared argument,
      (value declared argument).computations = (value' declared argument).computations)
    (first : Nat) (parameters : List Parameter) (arguments : List Expr) :
    (argumentValuesBy value first parameters arguments).computations =
      (argumentValuesBy value' first parameters arguments).computations := by
  induction arguments generalizing parameters first with
  | nil => cases parameters <;> rfl
  | cons argument arguments ih =>
      cases parameters with
      | nil => rfl
      | cons declared parameters =>
          simp only [argumentValuesBy, Traced.computations_andThen, Traced.computations_map, same,
            ih]

/-- A constant is evaluated to itself where one level of nesting is admitted. -/
theorem evaluate_constant (admitted : 1 ≤ limit) (v : Value) :
    (constant v).evaluate limit = .done v := by
  have guard : depthFailure? (some limit) 0 = none := depthFailure?_of_lt admitted
  simp only [evaluate, evaluateAt, guard]

theorem computations_evaluatedArgument (admitted : 1 ≤ limit) (declared : Parameter)
    (argument : Expr) :
    (argumentValue limit declared argument).computations =
      (evaluatedArgument limit declared argument).computations := by
  have evaluated : (evaluatedArgument limit declared argument).computations =
      argument.evaluate limit := by
    simp [evaluatedArgument]
  rw [evaluated]
  -- The two ways part at constants only.
  cases argument with
  | constant v => exact (evaluate_constant admitted v).symm
  | _ => exact computations_argumentValue limit rfl declared

/-! ## Analysis -/

/-- **Pairing.** Let a call with a receiver have as many arguments as the method has parameters, and
let the value of an argument be the constant that it is, or what it evaluates to.

* If all arguments have values, the analysis is about the method as declared, with all its parameter
  names, and has exactly those arguments, in increasing order of positions, whose value is not null,
  each with the declared name and the value of its position.
* If an argument has no value and all before it have one, its error is reported, and what has
  happened is what happens for the arguments up to it.
* Where one level of nesting is admitted, it makes no difference to the result, and to what runs, if
  constants are evaluated like all else. -/
theorem analyze_pairs (receiver : Expr) (method : Method) (arguments : List Expr)
    (arity : method.arity = arguments.length) (limit : Nat) :
    (∀ values : List Value, arguments.map (argumentResult limit) = values.map .ok →
      ∃ analysis, ((call (some receiver) method arguments).analyze limit).result = .ok analysis ∧
        analysis.method = method ∧ analysis.parameterNames = method.parameterNames ∧
        (analysis.arguments.Pairwise fun a b => a.position < b.position) ∧
        ∀ a, a ∈ analysis.arguments ↔ method.parameterNames[a.position]? = some a.parameter ∧
          values[a.position]? = some a.value ∧ a.value ≠ .null) ∧
    (∀ i argument failure, arguments[i]? = some argument →
      argument.argumentResult limit = .error failure →
      (∀ j other, j < i → arguments[j]? = some other →
        ∃ v, other.argumentResult limit = .ok v) →
      ((call (some receiver) method arguments).analyze limit).result =
        .error (.evaluation failure) ∧
      ((call (some receiver) method arguments).analyze limit).trace =
        ((method.parameters.zip arguments).take (i + 1)).flatMap fun pair =>
          (argumentValue limit pair.1 pair.2).trace) ∧
    (1 ≤ limit → ((call (some receiver) method arguments).analyze limit).computations =
      (analyzeBy (evaluatedArgument limit) method arguments).computations) := by
  have analysis : (call (some receiver) method arguments).analyze limit =
      ((argumentValues limit 0 method.parameters arguments).mapError .evaluation).map
        fun values => ⟨method, values⟩ := by
    rw [analyze, if_pos arity]
  refine ⟨?_, ?_, ?_⟩
  · intro values valued
    rcases pairs_argumentValues arity valued 0 with ⟨found, result, pairs⟩
    have analyzed : ((call (some receiver) method arguments).analyze limit).result =
        .ok ⟨method, found⟩ := by
      rw [result_analyze_call limit arity, result]
      rfl
    refine ⟨⟨method, found⟩, analyzed, rfl, rfl, pairs.ascending, ?_⟩
    intro a
    rw [pairs.members a]
    constructor
    · rintro ⟨i, position, parameter, value, present⟩
      rw [position, Nat.zero_add]
      exact ⟨parameter, value, present⟩
    · rintro ⟨parameter, value, present⟩
      exact ⟨a.position, (Nat.zero_add _).symm, parameter, value, present⟩
  · intro i argument failure there fails earlier
    rw [analysis, argumentValues_of_failure arity there fails earlier 0]
    exact ⟨rfl, rfl⟩
  · intro admitted
    have same := computations_argumentValuesBy (computations_evaluatedArgument admitted) 0
      method.parameters arguments
    rw [analysis, analyzeBy, argumentValues_eq_by]
    simp only [Traced.computations_map, Traced.computations_mapError, same]

/-- A method with three parameters. -/
def moveItem : Method :=
  ⟨⟨0, "shop::ItemHandler"⟩, "Move", [⟨"id", "i64"⟩, ⟨"from", "Option<i64>"⟩, ⟨"to", "i64"⟩]⟩

/-- Arguments of which the second turns out to be null. -/
def nullBetween : List Expr :=
  [.constant (.bool true), .coalesce (.constant .null) (.captured "from" .null),
    .deferred ⟨"to", .computation, .ok (.string "attic")⟩]

/-- Arguments of which the second has no value, so that the third is left alone. -/
def failureBetween : List Expr :=
  [.constant .null, .parameter, .deferred ⟨"to", .computation, .ok (.string "attic")⟩]

/-- The last argument keeps its place behind a null, and does not run behind a failure. -/
theorem analyze_pairs_between :
    (∃ analysis, ((call (some .parameter) moveItem nullBetween).analyze 2).result = .ok analysis ∧
      analysis.parameterNames = ["id", "from", "to"] ∧
      ⟨2, "to", .string "attic"⟩ ∈ analysis.arguments ∧
      ∀ value, ⟨1, "from", value⟩ ∉ analysis.arguments) ∧
    ((call (some .parameter) moveItem failureBetween).analyze 2).result =
      .error (.evaluation .unboundParameter) ∧
    ((call (some .parameter) moveItem failureBetween).analyze 2).trace.filterMap
      Occurrence.computation? = [] ∧
    ((call (some .parameter) moveItem nullBetween).analyze 2).computations =
      (analyzeBy (evaluatedArgument 2) moveItem nullBetween).computations := by
  have arity : moveItem.arity = nullBetween.length := rfl
  have arity' : moveItem.arity = failureBetween.length := rfl
  rcases analyze_pairs .parameter moveItem nullBetween arity 2 with ⟨pairs, -, shortcut⟩
  rcases analyze_pairs .parameter moveItem failureBetween arity' 2 with ⟨-, failure, -⟩
  have earlier (j : Nat) (other : Expr) (before : j < 1)
      (found : failureBetween[j]? = some other) : ∃ v, other.argumentResult 2 = .ok v := by
    cases Nat.lt_one_iff.1 before
    cases found
    exact ⟨.null, rfl⟩
  rcases failure 1 .parameter .unboundParameter rfl rfl earlier with ⟨result, trace⟩
  rcases pairs [.bool true, .null, .string "attic"] rfl with
    ⟨analysis, analyzed, method, names, -, members⟩
  refine ⟨⟨analysis, analyzed, names, ?_, ?_⟩, result, ?_, shortcut (by decide)⟩
  · exact (members _).2 ⟨rfl, rfl, nofun⟩
  · intro value member
    rcases (members _).1 member with ⟨-, found, present⟩
    exact present (Option.some.inj found).symm
  · rw [trace]
    rfl

end Expr
end InvocationRouting
