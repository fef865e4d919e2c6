import InvocationRouting.Proofs.Evaluation.Limit

/-!
# Proofs.Evaluation.Arithmetic — integer arithmetic is exact or fails

An expression over integers has an exact value, without any bound on integers, unless it divides by
zero somewhere. Its parts are looked at in post-order, as evaluation goes through them. The first of
them that divides by zero or leaves the range of words decides how evaluation fails, and if there is
none, evaluation gives the exact value.

* `Expr.IsArithmetic` : expressions over integers;
* `Expr.exactValue?` : the exact value;
* `Expr.postorder`, `Expr.offence?` : the parts in their order, and what is wrong with one of them;
* `Expr.AgreesExactly` : a run that ends as exact arithmetic says;
* `Expr.agreesExactly_evaluateAt` : evaluation without a limit does;
* `arithmetic_exact_or_refused` : and so does evaluation with a limit that is not reached.
-/

namespace InvocationRouting

/-! ## Exact arithmetic -/

/-- The result on integers without bounds. A quotient is cut off toward zero and a remainder has the
sign of the dividend; at a zero divisor there is neither. -/
def BinaryOp.exactResult? : BinaryOp → Int → Int → Option Int
  | add, a, b => some (a + b)
  | sub, a, b => some (a - b)
  | mul, a, b => some (a * b)
  | div, a, b => if b = 0 then none else some (a.tdiv b)
  | rem, a, b => if b = 0 then none else some (a.tmod b)
  | _, _, _ => none

namespace Expr

/-- Expressions over constant and captured integers with the arithmetic operators. -/
inductive IsArithmetic : Expr → Prop where
  | constant (i : WordInt) : IsArithmetic (.constant (.number (.int i)))
  | captured (name : String) (i : WordInt) : IsArithmetic (.captured name (.number (.int i)))
  | neg {operand : Expr} : IsArithmetic operand → IsArithmetic (.unary .neg operand)
  | binary (op : ArithmeticOp) {left right : Expr} :
      IsArithmetic left → IsArithmetic right → IsArithmetic (.binary op.toBinaryOp left right)

/-- The exact value of an expression over integers, unless it divides by zero. -/
def exactValue? : Expr → Option Int
  | constant (.number (.int i)) => some i.val
  | captured _ (.number (.int i)) => some i.val
  | unary .neg operand => (exactValue? operand).map fun a => -a
  | binary op left right =>
      (exactValue? left).bind fun a => (exactValue? right).bind fun b => op.exactResult? a b
  | _ => none

/-- The expression and its operands, theirs as well, from left to right and each after its own. -/
def postorder : Expr → List Expr
  | unary op operand => postorder operand ++ [unary op operand]
  | binary op left right => postorder left ++ postorder right ++ [binary op left right]
  | e => [e]

/-- The symbol of the operator at the root. -/
def operation : Expr → String
  | unary .neg _ => "-"
  | binary op _ _ => op.symbol
  | _ => ""

/-- Is the exact value of the divisor zero? -/
def dividesByZero : Expr → Bool
  | binary .div _ right | binary .rem _ right => right.exactValue? == some 0
  | _ => false

/-- Is the exact value, if there is one, that of a word? -/
def fits (node : Expr) : Bool :=
  node.exactValue?.all fun i => decide (-2 ^ 63 ≤ i ∧ i < 2 ^ 64)

/-- What is wrong with one part of an expression, whatever may be wrong with its own parts. -/
def offence? (node : Expr) : Option EvaluationError :=
  if node.dividesByZero then some (.divideByZero node.operation)
  else if node.fits then none
  else some (.overflow node.operation)

/-- The run fails with the first offence in post-order, or else gives the exact value. -/
def AgreesExactly (e : Expr) (run : Evaluation Value) : Prop :=
  match e.postorder.findSome? offence? with
  | some failure => run = .fail failure
  | none => ∃ w : WordInt, e.exactValue? = some w.val ∧ run = .done (.number (.int w))

end Expr

/-! ## One operator -/

/-- What an operator answers, beside what is said to be wrong and what the exact value is. -/
def Settles (offence : Option EvaluationError) (exact : Option Int)
    (answer : Except EvaluationError Value) : Prop :=
  match offence with
  | some failure => answer = .error failure
  | none => ∃ w : WordInt, exact = some w.val ∧ answer = .ok (.number (.int w))

namespace Expr

variable {left right operand : Expr}

/-- A node whose exact value is known can only be out of range. -/
theorem offence?_of_exact {node : Expr} {i : Int} (defined : node.dividesByZero = false)
    (exact : node.exactValue? = some i) :
    node.offence? =
      if -2 ^ 63 ≤ i ∧ i < 2 ^ 64 then none else some (.overflow node.operation) := by
  rw [offence?, defined, if_neg Bool.false_ne_true, fits, exact, Option.all_some]
  simp only [decide_eq_true_eq]

/-- It is settled by admitting the exact value to a word, or refusing it. -/
theorem settles_integerResult (node : Expr) {i : Int} (defined : node.dividesByZero = false)
    (exact : node.exactValue? = some i) :
    Settles node.offence? node.exactValue? (integerResult node.operation i) := by
  rw [offence?_of_exact defined exact, exact]
  by_cases within : -2 ^ 63 ≤ i ∧ i < 2 ^ 64
  · have word : Value.ofInt? i = some (.number (.int ⟨i, within.1, within.2⟩)) := by
      rw [Value.ofInt?, WordInt.ofInt?, dif_pos within]
      rfl
    rw [if_pos within, integerResult, word]
    exact ⟨⟨i, within.1, within.2⟩, rfl, rfl⟩
  · have noWord : Value.ofInt? i = none := by
      rw [Value.ofInt?, WordInt.ofInt?, dif_neg within]
      rfl
    rw [if_neg within, integerResult, noWord]
    exact rfl

/-- A result that is formed in a wide word is admitted or refused as if it had been formed without
bounds. -/
theorem integerResult_wide (operation : String) (i : Int) :
    (match WordInt.wide? i with
      | some wide => integerResult operation wide
      | none => .error (.overflow operation)) = integerResult operation i := by
  by_cases wide : -2 ^ 127 ≤ i ∧ i < 2 ^ 127
  · rw [WordInt.wide?, if_pos wide]
  · -- What is too wide for the wide word is all the more so for the word.
    have outside : ¬ (-2 ^ 63 ≤ i ∧ i < 2 ^ 64) := by
      have above : (2 : Int) ^ 64 ≤ 2 ^ 127 := by decide
      have below : -(2 : Int) ^ 127 ≤ -2 ^ 63 := by decide
      intro within
      exact wide ⟨Int.le_trans below within.1, Int.lt_of_lt_of_le within.2 above⟩
    rw [WordInt.wide?, if_neg wide, integerResult, Value.ofInt?, WordInt.ofInt?, dif_neg outside]
    rfl

theorem settles_neg {a : WordInt} (exact : operand.exactValue? = some a.val) :
    Settles (unary .neg operand).offence? (unary .neg operand).exactValue?
      (UnaryOp.neg.apply (.number (.int a))) := by
  have value : (unary .neg operand).exactValue? = some (-a.val) := by
    rw [exactValue?, exact]
    rfl
  exact settles_integerResult (unary .neg operand) rfl value

/-- Whether an arithmetic operator divides by zero can be told from its right operand. -/
theorem dividesByZero_binary (op : ArithmeticOp) (left : Expr) {b : Int}
    (exact : right.exactValue? = some b) :
    (binary op.toBinaryOp left right).dividesByZero = true ↔ op.divides ∧ b = 0 := by
  cases op <;> simp [ArithmeticOp.toBinaryOp, ArithmeticOp.divides, dividesByZero, exact]

theorem exactResult?_toBinaryOp (op : ArithmeticOp) {a b : Int} (defined : ¬ (op.divides ∧ b = 0)) :
    op.toBinaryOp.exactResult? a b = some (op.onInt a b) := by
  cases op with
  | div | rem =>
      have nonzero : b ≠ 0 := fun zero => defined ⟨rfl, zero⟩
      exact if_neg nonzero
  | _ => rfl

theorem settles_applyInt (op : ArithmeticOp) {a b : WordInt} (exact : left.exactValue? = some a.val)
    (exact' : right.exactValue? = some b.val) :
    Settles (binary op.toBinaryOp left right).offence? (binary op.toBinaryOp left right).exactValue?
      (op.applyInt a b) := by
  have zero := dividesByZero_binary op left exact'
  by_cases divides : op.divides ∧ b.val = 0
  · rw [offence?, if_pos (zero.2 divides), ArithmeticOp.applyInt, if_pos divides]
    exact rfl
  · have defined : (binary op.toBinaryOp left right).dividesByZero = false := by
      rw [← Bool.not_eq_true, zero]
      exact divides
    have value : (binary op.toBinaryOp left right).exactValue? = some (op.onInt a.val b.val) := by
      rw [exactValue?, exact, exact']
      exact exactResult?_toBinaryOp op divides
    have answer : op.applyInt a b = integerResult op.toBinaryOp.symbol (op.onInt a.val b.val) := by
      rw [ArithmeticOp.applyInt, if_neg divides]
      exact integerResult_wide _ _
    rw [answer]
    exact settles_integerResult _ defined value

/-- A word is in order, and its value is exact. -/
theorem settles_leaf (node : Expr) {w : WordInt} (defined : node.dividesByZero = false)
    (exact : node.exactValue? = some w.val) :
    Settles node.offence? node.exactValue? (.ok (.number (.int w))) := by
  rw [offence?_of_exact defined exact, if_pos ⟨w.lower, w.upper⟩]
  exact ⟨w, exact, rfl⟩

/-! ## Runs -/

namespace AgreesExactly

variable {e : Expr} {run : Evaluation Value}

/-- The two ways to agree. -/
theorem cases (h : e.AgreesExactly run) :
    (∃ failure, e.postorder.findSome? offence? = some failure ∧ run = .fail failure) ∨
    (e.postorder.findSome? offence? = none ∧
      ∃ w : WordInt, e.exactValue? = some w.val ∧ run = .done (.number (.int w))) := by
  unfold AgreesExactly at h
  split at h
  · next failure found => exact .inl ⟨failure, found, h⟩
  · next sound => exact .inr ⟨sound, h⟩

/-- An offence in the first parts ends everything. -/
theorem of_offence (parts : List Expr) {rest : List Expr} {failure : EvaluationError}
    (order : e.postorder = parts ++ rest) (found : parts.findSome? offence? = some failure)
    (ends : run = .fail failure) : e.AgreesExactly run := by
  have first : e.postorder.findSome? offence? = some failure := by
    rw [order, List.findSome?_append, found]
    rfl
  unfold AgreesExactly
  rw [first]
  exact ends

/-- If the parts are in order, it is up to the root. -/
theorem of_settles (parts : List Expr) {answer : Except EvaluationError Value}
    (order : e.postorder = parts ++ [e]) (sound : parts.findSome? offence? = none)
    (settled : Settles e.offence? e.exactValue? answer) (ends : run = .ofExcept answer) :
    e.AgreesExactly run := by
  have root : e.postorder.findSome? offence? = e.offence? := by
    rw [order, List.findSome?_append, sound, Option.none_or, List.findSome?_singleton]
  unfold AgreesExactly
  unfold Settles at settled
  rw [root, ends]
  split at settled
  · next failure found => exact congrArg Traced.ofExcept settled
  · next fine =>
      rcases settled with ⟨w, exact, value⟩
      exact ⟨w, exact, congrArg Traced.ofExcept value⟩

/-- Nothing runs on the way. -/
theorem trace_eq_nil (h : e.AgreesExactly run) : run.trace = [] := by
  rcases h.cases with ⟨failure, -, ends⟩ | ⟨-, w, -, ends⟩
  · rw [ends]
    rfl
  · rw [ends]
    rfl

end AgreesExactly

/-! ## Evaluation -/

theorem evaluateAt_neg (operand : Expr) (depth : Nat) :
    (unary .neg operand).evaluateAt none depth =
      (operand.evaluateAt none (depth + 1)).andThen fun v => .ofExcept (UnaryOp.neg.apply v) := by
  simp only [evaluateAt, depthFailure?]

/-- An arithmetic operator needs both operands. -/
theorem evaluateAt_binary (op : ArithmeticOp) (left right : Expr) (depth : Nat) :
    (binary op.toBinaryOp left right).evaluateAt none depth =
      (left.evaluateAt none (depth + 1)).andThen fun v =>
        (right.evaluateAt none (depth + 1)).andThen fun w =>
          .ofExcept (op.toBinaryOp.apply v w) := by
  cases op <;> simp only [ArithmeticOp.toBinaryOp, evaluateAt, depthFailure?, BinaryOp.stopsAt?]

theorem apply_toBinaryOp (op : ArithmeticOp) (a b : WordInt) :
    op.toBinaryOp.apply (.number (.int a)) (.number (.int b)) = op.applyInt a b := by
  cases op <;> rfl

/-- Without a limit on nesting, evaluation ends as exact arithmetic says. -/
theorem agreesExactly_evaluateAt {e : Expr} (arithmetic : e.IsArithmetic) (depth : Nat) :
    e.AgreesExactly (e.evaluateAt none depth) := by
  induction arithmetic generalizing depth with
  | constant i =>
      refine .of_settles [] rfl rfl (settles_leaf _ rfl rfl) ?_
      simp only [evaluateAt, depthFailure?]
      rfl
  | captured name i =>
      refine .of_settles [] rfl rfl (settles_leaf _ rfl rfl) ?_
      simp only [evaluateAt, depthFailure?]
      rfl
  | @neg operand inner ih =>
      rcases (ih (depth + 1)).cases with ⟨failure, found, run⟩ | ⟨sound, a, exact, run⟩
      · refine .of_offence operand.postorder rfl found ?_
        rw [evaluateAt_neg, run, Traced.andThen_fail]
      · -- The operand is in order and has its exact value, on which the operator is settled.
        refine .of_settles operand.postorder rfl sound (settles_neg exact) ?_
        rw [evaluateAt_neg, run, Traced.andThen_done]
  | @binary op left right first second ih ih' =>
      have order : (binary op.toBinaryOp left right).postorder =
          left.postorder ++ right.postorder ++ [binary op.toBinaryOp left right] := rfl
      rcases (ih (depth + 1)).cases with ⟨failure, found, run⟩ | ⟨sound, a, exact, run⟩
      · -- The left operand fails, and the right one is not reached.
        refine .of_offence left.postorder (order.trans (List.append_assoc _ _ _)) found ?_
        rw [evaluateAt_binary, run, Traced.andThen_fail]
      · rcases (ih' (depth + 1)).cases with ⟨failure, found, run'⟩ | ⟨sound', b, exact', run'⟩
        · have found' : (left.postorder ++ right.postorder).findSome? offence? = some failure := by
            rw [List.findSome?_append, sound, Option.none_or, found]
          refine .of_offence _ order found' ?_
          rw [evaluateAt_binary, run, Traced.andThen_done, run', Traced.andThen_fail]
        · have sound'' : (left.postorder ++ right.postorder).findSome? offence? = none := by
            rw [List.findSome?_append, sound, Option.none_or, sound']
          refine .of_settles _ order sound'' (settles_applyInt op exact exact') ?_
          rw [evaluateAt_binary, run, Traced.andThen_done, run', Traced.andThen_done,
            apply_toBinaryOp]

/-! ## Parts -/

/-- The parts of an expression over integers are such expressions, and no higher. -/
theorem IsArithmetic.of_mem_postorder {e node : Expr} (arithmetic : e.IsArithmetic)
    (member : node ∈ e.postorder) : node.IsArithmetic ∧ node.height ≤ e.height := by
  induction arithmetic with
  | constant i =>
      rw [List.mem_singleton.1 member]
      exact ⟨.constant i, Nat.le_refl _⟩
  | captured name i =>
      rw [List.mem_singleton.1 member]
      exact ⟨.captured name i, Nat.le_refl _⟩
  | neg inner ih =>
      rcases List.mem_append.1 member with below | root
      · have := ih below
        simp only [height]
        exact ⟨this.1, by omega⟩
      · rw [List.mem_singleton.1 root]
        exact ⟨.neg inner, Nat.le_refl _⟩
  | binary op first second ih ih' =>
      rcases List.mem_append.1 member with below | root
      · simp only [height]
        rcases List.mem_append.1 below with left | right
        · have := ih left
          exact ⟨this.1, by omega⟩
        · have := ih' right
          exact ⟨this.1, by omega⟩
      · rw [List.mem_singleton.1 root]
        exact ⟨.binary op first second, Nat.le_refl _⟩

/-- **Exact or refused.** Evaluation of an expression over integers

* ends as exact arithmetic says, and so does that of each of its parts, if the expression is no
  higher than the limit: with the exact value, if no divisor is zero and all exact values are those
  of words, and else with the error of the first part, in post-order, for which this does not hold;
* under a lower limit, ends like this or at the limit. -/
theorem arithmetic_exact_or_refused {e : Expr} (arithmetic : e.IsArithmetic) (limit : Nat) :
    (e.height ≤ limit → e.AgreesExactly (e.evaluate limit) ∧
      ∀ node ∈ e.postorder, node.AgreesExactly (node.evaluate limit)) ∧
    (e.AgreesExactly (e.evaluate limit) ∨
      e.evaluate limit = .fail (.depthLimitExceeded limit)) := by
  constructor
  · intro within
    have whole {node : Expr} (arithmetic' : node.IsArithmetic) (low : node.height ≤ limit) :
        node.AgreesExactly (node.evaluate limit) := by
      have agrees := agreesExactly_evaluateAt arithmetic' 0
      rcases (shortens_evaluate limit node).verdict with ⟨same, -⟩ | ⟨-, -, below⟩
      · exact same ▸ agrees
      · omega
    refine ⟨whole arithmetic within, ?_⟩
    intro node member
    rcases arithmetic.of_mem_postorder member with ⟨arithmetic', height⟩
    exact whole arithmetic' (Nat.le_trans height within)
  · have agrees : e.AgreesExactly e.evaluateFully := agreesExactly_evaluateAt arithmetic 0
    rcases (shortens_evaluate limit e).verdict with ⟨same, -⟩ | ⟨cutOff, shorter, -⟩
    · exact .inl (same ▸ agrees)
    · -- Exact arithmetic runs nothing, so that a run that was cut off has run nothing either.
      have silent : (e.evaluate limit).trace = [] := by
        rw [agrees.trace_eq_nil] at shorter
        exact List.prefix_nil.1 shorter
      refine .inr ?_
      calc
        e.evaluate limit = ⟨(e.evaluate limit).trace, (e.evaluate limit).result⟩ := rfl
        _ = .fail (.depthLimitExceeded limit) := by rw [silent, cutOff.1]; rfl

/-- The difference of two equal integers, each at an end of the signed range: the quotient of the
least integer by minus one leaves that range, and the negation comes back to it. -/
def hiddenZero : Expr :=
  .binary .add
    (.binary .div (.constant (.number (.int ⟨-2 ^ 63, by decide, by decide⟩)))
      (.captured "step" (.number (.int ⟨-1, by decide, by decide⟩))))
    (.unary .neg (.constant (.number (.int ⟨2 ^ 63, by decide, by decide⟩))))

/-- The square of the greatest integer, which is too large for a wide word as well, modulo zero. -/
def hiddenOverflow : Expr :=
  .binary .rem
    (.binary .mul (.constant (.number (.int ⟨18446744073709551615, by decide, by decide⟩)))
      (.captured "most" (.number (.int ⟨18446744073709551615, by decide, by decide⟩)))) hiddenZero

/-- The divisor is zero, exactly, but the overflow of the dividend comes first. -/
theorem arithmetic_exact_or_refused_hidden :
    hiddenOverflow.IsArithmetic ∧ hiddenOverflow.height ≤ 4 ∧
      hiddenZero ∈ hiddenOverflow.postorder ∧
      hiddenOverflow.evaluate 4 = .fail (.overflow "*") ∧
      (∃ w : WordInt, w.val = 0 ∧ hiddenZero.evaluate 4 = .done (.number (.int w))) := by
  have zero : hiddenZero.IsArithmetic :=
    .binary .add (.binary .div (.constant _) (.captured _ _)) (.neg (.constant _))
  have arithmetic : hiddenOverflow.IsArithmetic :=
    .binary .rem (.binary .mul (.constant _) (.captured _ _)) zero
  have within : hiddenOverflow.height ≤ 4 := by decide
  have part : hiddenZero ∈ hiddenOverflow.postorder := by
    simp [hiddenOverflow, hiddenZero, postorder]
  rcases (arithmetic_exact_or_refused arithmetic 4).1 within with ⟨whole, parts⟩
  have overflow : hiddenOverflow.evaluate 4 = .fail (.overflow "*") := by
    have first : hiddenOverflow.postorder.findSome? offence? = some (.overflow "*") := by
      decide +kernel
    rcases whole.cases with ⟨failure, found, ends⟩ | ⟨sound, -⟩
    · rw [first] at found
      cases found
      exact ends
    · rw [first] at sound
      cases sound
  have exact : ∃ w : WordInt, w.val = 0 ∧ hiddenZero.evaluate 4 = .done (.number (.int w)) := by
    have sound : hiddenZero.postorder.findSome? offence? = none := by decide +kernel
    have value : hiddenZero.exactValue? = some 0 := by decide +kernel
    rcases (parts hiddenZero part).cases with ⟨failure, found, -⟩ | ⟨-, w, exact, ends⟩
    · rw [sound] at found
      cases found
    · rw [value] at exact
      exact ⟨w, (Option.some.inj exact).symm, ends⟩
  exact ⟨arithmetic, within, part, overflow, exact⟩

end Expr
end InvocationRouting
