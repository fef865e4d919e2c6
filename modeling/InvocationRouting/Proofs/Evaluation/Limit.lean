import InvocationRouting.Evaluation.Basic

/-!
# Proofs.Evaluation.Limit — a limit on nesting only cuts off

Evaluation under a limit is evaluation without one, up to the moment at which a part stands too
deep. There it stops, with an error that no other part of an evaluation makes up.

* `CutOff` : a run that ended at a limit, and not because a computation said so;
* `Shortens` : a run under a limit beside the same run under a laxer one;
* `Shortens.andThen` : what is shortened in its parts is shortened as a whole;
* `Expr.shortens_evaluateAt` : every expression is shortened, and only below its height;
* `evaluate_cuts_off` : what follows for evaluation with a limit and without one.
-/

namespace InvocationRouting

variable {α β : Type}

/-! ## Operators -/

/-- A result that is no failure at a limit. -/
def NoLimit (r : Except EvaluationError α) : Prop :=
  ∀ limit, r ≠ .error (.depthLimitExceeded limit)

namespace NoLimit

theorem ok (a : α) : NoLimit (.ok a) := nofun

theorem map {r : Except EvaluationError α} (h : NoLimit r) (f : α → β) : NoLimit (r.map f) := by
  cases r with
  | error e => exact fun limit same => h limit (congrArg _ (Except.error.inj same))
  | ok a => exact ok (f a)

theorem bind {r : Except EvaluationError α} {f : α → Except EvaluationError β} (h : NoLimit r)
    (after : ∀ a, NoLimit (f a)) : NoLimit (r >>= f) := by
  cases r with
  | error e => exact fun limit same => h limit (congrArg _ (Except.error.inj same))
  | ok a => exact after a

theorem integerResult (operation : String) (i : Int) :
    NoLimit (InvocationRouting.integerResult operation i) := by
  unfold InvocationRouting.integerResult
  split <;> nofun

theorem floatResult (operation : String) (x : Option Binary64) :
    NoLimit (InvocationRouting.floatResult operation x) := by
  unfold InvocationRouting.floatResult
  split <;> nofun

theorem member (v : Value) (name : String) : NoLimit (v.member name) := by
  unfold Value.member
  split
  · split <;> nofun
  all_goals nofun

theorem element (elements : List Value) (position : Int) :
    NoLimit (Value.element elements position) := by
  unfold Value.element
  split
  · split <;> nofun
  · nofun

theorem select (v i : Value) : NoLimit (v.select i) := by
  unfold Value.select
  split
  · nofun
  · split
    · exact element _ _
    · nofun
  · nofun
  · exact member _ _
  all_goals nofun

theorem unary (op : UnaryOp) (v : Value) : NoLimit (op.apply v) := by
  unfold UnaryOp.apply
  split
  · nofun
  · exact integerResult _ _
  · exact floatResult _ _
  all_goals nofun

theorem arithmetic (op : ArithmeticOp) (v w : Value) : NoLimit (op.apply v w) := by
  unfold ArithmeticOp.apply
  split
  · unfold ArithmeticOp.applyInt
    split
    · nofun
    · split
      · exact integerResult _ _
      · nofun
  · exact floatResult _ _
  · nofun

theorem order (op : BinaryOp) (v w : Value) : NoLimit (Value.order op v w) := by
  unfold Value.order
  split
  · nofun
  · split <;> nofun
  · nofun

theorem expectBool (op : BinaryOp) (v : Value) : NoLimit (op.expectBool v) := by
  unfold BinaryOp.expectBool
  split <;> nofun

theorem binary (op : BinaryOp) (v w : Value) : NoLimit (op.apply v w) := by
  cases op with
  | eq | ne => exact ok _
  | lt | le | gt | ge => exact (order _ v w).map _
  | add =>
      simp only [BinaryOp.apply]
      split
      · exact ok _
      · exact arithmetic _ v w
  | sub | mul | div | rem => exact arithmetic _ v w
  | and | or => exact (expectBool _ v).bind fun a => (expectBool _ w).bind fun b => ok _

end NoLimit

/-! ## Runs that were cut off -/

/-- A run that failed at the limit, although no computation that ran has failed in this way. -/
def CutOff (limit : Nat) (x : Evaluation α) : Prop :=
  x.result = .error (.depthLimitExceeded limit) ∧
    ∀ computation ∈ x.trace, computation.outcome ≠ .error (.depthLimitExceeded limit)

/-- A run that was cut off at no limit. -/
def Uncut (x : Evaluation α) : Prop :=
  ∀ limit, ¬ CutOff limit x

/-- The run `cut` is the run `full`, or it was cut off early. The bound tells how deep a part there
must be for this. -/
structure Shortens (limit bound : Nat) (cut full : Evaluation α) : Prop where
  /-- Before a result, no computation failed. -/
  valued : ∀ a, cut.result = .ok a → ∀ computation ∈ cut.trace, ∃ v, computation.outcome = .ok v
  /-- The two ways to end. -/
  verdict : cut = full ∧ Uncut cut ∨ CutOff limit cut ∧ cut.trace <+: full.trace ∧ limit < bound

namespace Shortens

variable {limit bound bound' : Nat} {cut full : Evaluation α}

/-- Where nothing is deep, both runs are one. -/
theorem ofExcept {r : Except EvaluationError α} (h : NoLimit r) :
    Shortens limit bound (.ofExcept r) (.ofExcept r) where
  valued _ _ _ member := nomatch member
  verdict := .inl ⟨rfl, fun n cutOff => h n cutOff.1⟩

theorem done (a : α) : Shortens limit bound (.done a) (.done a) :=
  ofExcept (.ok a)

theorem fail {e : EvaluationError} (h : ∀ n, e ≠ .depthLimitExceeded n) :
    Shortens limit bound (.fail e : Evaluation α) (.fail e) :=
  ofExcept fun n same => h n (Except.error.inj same)

/-- A computation may fail as if at a limit, but then it is known to have run. -/
theorem run (computation : Deferred) :
    Shortens limit bound computation.run computation.run where
  valued v result other member := ⟨v, by rw [List.mem_singleton.1 member]; exact result⟩
  verdict := .inl ⟨rfl, fun n cutOff => cutOff.2 computation (List.mem_singleton_self _) cutOff.1⟩

/-- What is too deep is not evaluated at all. -/
theorem tooDeep (below : limit < bound) (full : Evaluation α) :
    Shortens limit bound (.fail (.depthLimitExceeded limit)) full where
  valued _ _ _ member := nomatch member
  verdict := .inr ⟨⟨rfl, fun _ member => nomatch member⟩, List.nil_prefix, below⟩

theorem mono (h : Shortens limit bound cut full) (le : bound ≤ bound') :
    Shortens limit bound' cut full where
  valued := h.valued
  verdict := h.verdict.imp_right fun ⟨cutOff, shorter, below⟩ =>
    ⟨cutOff, shorter, Nat.lt_of_lt_of_le below le⟩

/-- Before a result nothing was cut off. -/
theorem eq_of_ok (h : Shortens limit bound cut full) {a : α} (result : cut.result = .ok a) :
    cut = full := by
  rcases h.verdict with ⟨same, _⟩ | ⟨⟨failed, _⟩, _⟩
  · exact same
  · rw [result] at failed
    cases failed

/-- Nothing follows a failure, so that a run that was cut off stays cut off. -/
theorem andThen_of_error {e : EvaluationError} (h : Shortens limit bound cut full)
    (result : cut.result = .error e) (f g : α → Evaluation β) :
    Shortens limit bound (cut.andThen f) (full.andThen g) := by
  have failed {n : Nat} (cutOff : CutOff n (⟨cut.trace, .error e⟩ : Evaluation β)) :
      CutOff n cut :=
    ⟨result.trans (congrArg _ (Except.error.inj cutOff.1)), cutOff.2⟩
  rw [Traced.andThen_of_error result f]
  constructor
  case valued =>
    intro _ value
    cases value
  case verdict =>
    rcases h.verdict with ⟨rfl, uncut⟩ | ⟨cutOff, shorter, below⟩
    · rw [Traced.andThen_of_error result g]
      exact .inl ⟨rfl, fun n cutOff => uncut n (failed cutOff)⟩
    · have limited : e = .depthLimitExceeded limit :=
        Except.error.inj (result.symm.trans cutOff.1)
      have longer : cut.trace <+: (full.andThen g).trace :=
        shorter.trans (full.trace_prefix_andThen g)
      exact .inr ⟨⟨congrArg _ limited, cutOff.2⟩, longer, below⟩

/-- Computations with values may run before a run. It is cut off afterwards as it would be alone. -/
theorem prepend {before : List Deferred}
    (values : ∀ computation ∈ before, ∃ v, computation.outcome = .ok v)
    (h : Shortens limit bound cut full) :
    Shortens limit bound (⟨before ++ cut.trace, cut.result⟩ : Evaluation α)
      ⟨before ++ full.trace, full.result⟩ := by
  constructor
  case valued =>
    intro a value computation member
    rcases List.mem_append.1 member with first | second
    · exact values computation first
    · exact h.valued a value computation second
  case verdict =>
    rcases h.verdict with ⟨rfl, uncut⟩ | ⟨cutOff, shorter, below⟩
    · refine .inl ⟨rfl, fun n cutOff => uncut n ⟨cutOff.1, fun computation member => ?_⟩⟩
      exact cutOff.2 computation (List.mem_append_right _ member)
    · refine .inr ⟨⟨cutOff.1, ?_⟩, (List.prefix_append_right_inj _).2 shorter, below⟩
      intro computation member failed
      rcases List.mem_append.1 member with first | second
      · -- A value is not an error.
        rcases values computation first with ⟨v, outcome⟩
        rw [failed] at outcome
        cases outcome
      · exact cutOff.2 computation second failed

/-- What is shortened in its parts is shortened as a whole. -/
theorem andThen {f g : α → Evaluation β} (first : Shortens limit bound cut full)
    (second : ∀ a, Shortens limit bound (f a) (g a)) :
    Shortens limit bound (cut.andThen f) (full.andThen g) := by
  cases result : cut.result with
  | error e => exact first.andThen_of_error result f g
  | ok a =>
      have values := first.valued a result
      have same := first.eq_of_ok result
      subst same
      rw [Traced.andThen_of_ok result f, Traced.andThen_of_ok result g]
      exact prepend values (second a)

theorem map (h : Shortens limit bound cut full) (f : α → β) :
    Shortens limit bound (cut.map f) (full.map f) := by
  rw [cut.map_eq_andThen, full.map_eq_andThen]
  exact h.andThen fun a => .done (f a)

end Shortens

/-! ## Expressions -/

namespace Expr

/-- Every expression has at least one level. -/
theorem height_pos (e : Expr) : 0 < e.height := by
  cases e <;> simp only [height] <;> omega

/-- Below the limit nothing fails. -/
theorem depthFailure?_of_lt {limit depth : Nat} (h : depth < limit) :
    depthFailure? (some limit) depth = none :=
  if_neg (Nat.not_le.2 h)

variable {limit : Nat} {laxer : Option Nat}

mutual

/-- Under a limit an expression is evaluated as under any laxer one, or cut off, and this only where
it reaches below the limit. -/
theorem shortens_evaluateAt (lax : ∀ depth, depth < limit → depthFailure? laxer depth = none)
    (depth : Nat) (e : Expr) :
    Shortens limit (depth + e.height) (e.evaluateAt (some limit) depth)
      (e.evaluateAt laxer depth) := by
  by_cases deep : limit ≤ depth
  · have guard : depthFailure? (some limit) depth = some (.depthLimitExceeded limit) := if_pos deep
    have reached : limit < depth + e.height := by
      have := e.height_pos
      omega
    have cut : e.evaluateAt (some limit) depth = .fail (.depthLimitExceeded limit) := by
      unfold evaluateAt
      simp only [guard]
    rw [cut]
    exact .tooDeep reached _
  · have guard := depthFailure?_of_lt (Nat.not_le.1 deep)
    have guard' := lax depth (Nat.not_le.1 deep)
    -- Each part stands one level deeper, and reaches no deeper than the whole.
    cases e with
    | constant value =>
        simp only [evaluateAt, guard, guard']
        exact .done value
    | parameter =>
        simp only [evaluateAt, guard, guard']
        exact .fail nofun
    | captured name value =>
        simp only [evaluateAt, guard, guard']
        exact .done value
    | member target name =>
        have inner := shortens_evaluateAt lax (depth + 1) target
        simp only [evaluateAt, guard, guard', height]
        exact (inner.mono (by omega)).andThen fun v => .ofExcept (.member v name)
    | index target position =>
        have first := shortens_evaluateAt lax (depth + 1) target
        have second := shortens_evaluateAt lax (depth + 1) position
        simp only [evaluateAt, guard, guard', height]
        exact (first.mono (by omega)).andThen fun v =>
          (second.mono (by omega)).andThen fun i => .ofExcept (.select v i)
    | unary op operand =>
        have inner := shortens_evaluateAt lax (depth + 1) operand
        simp only [evaluateAt, guard, guard', height]
        exact (inner.mono (by omega)).andThen fun v => .ofExcept (.unary op v)
    | binary op left right =>
        have first := shortens_evaluateAt lax (depth + 1) left
        have second := shortens_evaluateAt lax (depth + 1) right
        simp only [evaluateAt, guard, guard', height]
        cases op.stopsAt? with
        | none =>
            exact (first.mono (by omega)).andThen fun v =>
              (second.mono (by omega)).andThen fun w => .ofExcept (.binary op v w)
        | some stop =>
            refine (first.mono (by omega)).andThen fun v =>
              (Shortens.ofExcept (.expectBool op v)).andThen fun a => ?_
            -- The right operand is looked at only where the left one leaves it open.
            by_cases stops : a = stop
            · simp only [if_pos stops]
              exact .done _
            · simp only [if_neg stops]
              exact (second.mono (by omega)).andThen fun w =>
                (Shortens.ofExcept (.expectBool op w)).andThen fun b => .done _
    | conditional condition whenTrue whenFalse =>
        have first := shortens_evaluateAt lax (depth + 1) condition
        have onTrue := shortens_evaluateAt lax (depth + 1) whenTrue
        have onFalse := shortens_evaluateAt lax (depth + 1) whenFalse
        simp only [evaluateAt, guard, guard', height]
        refine (first.mono (by omega)).andThen fun v => ?_
        cases v with
        | bool b =>
            -- The branch that is not taken may be as deep as it likes.
            cases b with
            | true => exact onTrue.mono (by omega)
            | false => exact onFalse.mono (by omega)
        | _ => exact .fail nofun
    | coalesce value fallback =>
        have first := shortens_evaluateAt lax (depth + 1) value
        have second := shortens_evaluateAt lax (depth + 1) fallback
        simp only [evaluateAt, guard, guard', height]
        refine (first.mono (by omega)).andThen fun v => ?_
        cases v with
        | null => exact second.mono (by omega)
        | _ => exact .done _
    | array elements =>
        have inner := shortens_evaluateElements lax (depth + 1) elements
        simp only [evaluateAt, guard, guard', height]
        exact (inner.mono (by omega)).map _
    | object fields =>
        have inner := shortens_evaluateFields lax (depth + 1) fields
        simp only [evaluateAt, guard, guard', height]
        exact (inner.mono (by omega)).map _
    | call receiver method arguments =>
        simp only [evaluateAt, guard, guard']
        exact .fail nofun
    | deferred computation =>
        simp only [evaluateAt, guard, guard']
        exact .run computation

theorem shortens_evaluateElements
    (lax : ∀ depth, depth < limit → depthFailure? laxer depth = none)
    (depth : Nat) (es : List Expr) :
    Shortens limit (depth + heightElements es) (evaluateElements (some limit) depth es)
      (evaluateElements laxer depth es) := by
  cases es with
  | nil => exact .done []
  | cons e es =>
      have head := shortens_evaluateAt lax depth e
      have tail := shortens_evaluateElements lax depth es
      simp only [evaluateElements, heightElements]
      exact (head.mono (by omega)).andThen fun v => (tail.mono (by omega)).map (v :: ·)

theorem shortens_evaluateFields
    (lax : ∀ depth, depth < limit → depthFailure? laxer depth = none)
    (depth : Nat) (fs : List (String × Expr)) :
    Shortens limit (depth + heightFields fs) (evaluateFields (some limit) depth fs)
      (evaluateFields laxer depth fs) := by
  cases fs with
  | nil => exact .done []
  | cons f fs =>
      have head := shortens_evaluateAt lax depth f.2
      have tail := shortens_evaluateFields lax depth fs
      simp only [evaluateFields, heightFields]
      exact (head.mono (by omega)).andThen fun v => (tail.mono (by omega)).map ((f.1, v) :: ·)

end

/-- A limit shortens evaluation without a limit. -/
theorem shortens_evaluate (limit : Nat) (e : Expr) :
    Shortens limit e.height (e.evaluate limit) e.evaluateFully := by
  have lax (depth : Nat) (_ : depth < limit) : depthFailure? none depth = none := rfl
  have h := shortens_evaluateAt lax 0 e
  rwa [Nat.zero_add] at h

/-- A limit shortens evaluation with a greater one. -/
theorem shortens_evaluate_of_le {limit limit' : Nat} (le : limit ≤ limit') (e : Expr) :
    Shortens limit e.height (e.evaluate limit) (e.evaluate limit') := by
  have lax (depth : Nat) (below : depth < limit) : depthFailure? (some limit') depth = none :=
    depthFailure?_of_lt (Nat.lt_of_lt_of_le below le)
  have h := shortens_evaluateAt lax 0 e
  rwa [Nat.zero_add] at h

/-- A limit of zero admits nothing. -/
theorem evaluate_zero (e : Expr) : e.evaluate 0 = .fail (.depthLimitExceeded 0) := by
  unfold evaluate evaluateAt
  rfl

/-- Evaluation without a limit is cut off at none. -/
theorem uncut_evaluateFully (e : Expr) : Uncut e.evaluateFully := by
  -- It is evaluation under a limit that the expression does not reach.
  rcases (shortens_evaluate e.height e).verdict with ⟨same, uncut⟩ | ⟨_, _, below⟩
  · rwa [same] at uncut
  · exact absurd below (Nat.lt_irrefl _)

/-- **Limits only cut off.** Whatever the expression and the limit,

* evaluation under the limit is evaluation without one, or it fails at the limit, and then what ran
  is what evaluation without a limit runs first;
* which of the two it is can be told from the run: it is the second exactly if it was cut off;
* an expression whose height is within the limit is not cut off;
* where evaluation is not cut off, every greater limit leaves it as it is;
* a limit of zero cuts off before anything runs. -/
theorem evaluate_cuts_off (e : Expr) (limit : Nat) :
    (e.evaluate limit = e.evaluateFully ∨
      (e.evaluate limit).result = .error (.depthLimitExceeded limit) ∧
        (e.evaluate limit).trace <+: e.evaluateFully.trace) ∧
    (e.evaluate limit = e.evaluateFully ↔ ¬ CutOff limit (e.evaluate limit)) ∧
    (e.height ≤ limit → e.evaluate limit = e.evaluateFully) ∧
    (¬ CutOff limit (e.evaluate limit) →
      ∀ limit', limit ≤ limit' → e.evaluate limit' = e.evaluate limit) ∧
    e.evaluate 0 = .fail (.depthLimitExceeded 0) := by
  have verdict := (shortens_evaluate limit e).verdict
  refine ⟨?_, ⟨?_, ?_⟩, ?_, ?_, evaluate_zero e⟩
  · rcases verdict with ⟨same, _⟩ | ⟨cutOff, shorter, _⟩
    · exact .inl same
    · exact .inr ⟨cutOff.1, shorter⟩
  · intro same
    rw [same]
    exact e.uncut_evaluateFully limit
  · intro whole
    rcases verdict with ⟨same, _⟩ | ⟨cutOff, _⟩
    · exact same
    · exact absurd cutOff whole
  · intro within
    rcases verdict with ⟨same, _⟩ | ⟨_, _, below⟩
    · exact same
    · exact absurd below (Nat.not_lt.2 within)
  · intro whole limit' le
    rcases (shortens_evaluate_of_le le e).verdict with ⟨same, _⟩ | ⟨cutOff, _⟩
    · exact same.symm
    · exact absurd cutOff whole

/-- Its highest part is never evaluated. -/
def unusedFallback : Expr :=
  .array [.deferred ⟨"first", .computation, .ok .null⟩,
    .coalesce (.constant (.bool true)) (.unary .not (.unary .not (.unary .not .parameter))),
    .unary .not (.deferred ⟨"second", .computation, .ok (.bool true)⟩)]

/-- A limit of three is enough for an expression of height six, and with a limit of two only the
first computation runs. -/
theorem evaluate_cuts_off_unusedFallback :
    unusedFallback.height ≤ 6 ∧ unusedFallback.evaluate 6 = unusedFallback.evaluateFully ∧
    ¬ CutOff 3 (unusedFallback.evaluate 3) ∧
    unusedFallback.evaluate 6 = unusedFallback.evaluate 3 ∧
    (unusedFallback.evaluate 2).trace.map (·.label) = ["first"] ∧
    unusedFallback.evaluate 2 ≠ unusedFallback.evaluateFully := by
  have within : unusedFallback.height ≤ 6 := by decide
  have whole : ¬ CutOff 3 (unusedFallback.evaluate 3) := fun cutOff => nomatch cutOff.1
  have cutOff : CutOff 2 (unusedFallback.evaluate 2) := by
    refine ⟨rfl, ?_⟩
    intro computation member
    have first : computation = ⟨"first", .computation, .ok .null⟩ := List.mem_singleton.1 member
    rw [first]
    nofun
  rcases evaluate_cuts_off unusedFallback 6 with ⟨-, -, full, -, -⟩
  rcases evaluate_cuts_off unusedFallback 3 with ⟨-, -, -, kept, -⟩
  rcases evaluate_cuts_off unusedFallback 2 with ⟨-, told, -, -, -⟩
  exact ⟨within, full within, whole, kept whole 6 (by decide), rfl,
    fun same => told.1 same cutOff⟩

end Expr

end InvocationRouting
