import InvocationRouting.Proofs.Evaluation.Order

/-!
# Proofs.Evaluation.Indexing — what an index selects

Six kinds of targets meet six kinds of indices. Few of the pairs fit together: a position in an
array and a name in an object. A position that lies outside the array is told from an index of the
wrong kind, but only up to the greatest signed word: beyond it an integer is refused as if it were
a fraction.

* `Value.Selection` : the rules, one for each way in which an index may end;
* `Value.select_iff_selection` : they are all there is to an index;
* `SameOutcome` : one value, or two errors of one kind;
* `Expr.index_agrees_with_member` : a name may be written as an index.
-/

namespace InvocationRouting

/-! ## Outcomes -/

/-- Two errors of one kind, which may differ in what they say. -/
def EvaluationError.SameKind (e e' : EvaluationError) : Prop :=
  e.ctorIdx = e'.ctorIdx

/-- One value twice, or two errors of one kind. -/
inductive SameOutcome : Except EvaluationError Value → Except EvaluationError Value → Prop where
  | value (v : Value) : SameOutcome (.ok v) (.ok v)
  | failure {e e' : EvaluationError} : e.SameKind e' → SameOutcome (.error e) (.error e')

theorem SameOutcome.refl (r : Except EvaluationError Value) : SameOutcome r r := by
  cases r with
  | error e => exact .failure (Eq.refl e.ctorIdx)
  | ok v => exact .value v

/-! ## Values -/

namespace Value

/-- What values of the target's kind are indexed by. -/
def indexedBy : Value → String
  | array _ => "integer"
  | object _ => "string"
  | _ => "array or object"

/-- Is the index of the kind that the target is indexed by? Of null nothing is asked. -/
def TakesIndex : Value → Value → Prop
  | null, _ => True
  | array _, number (.int _) => True
  | object _, string _ => True
  | _, _ => False

/-- The error about an index of the wrong kind. It is about the target if nothing indexes it. -/
def misfit (target index : Value) : EvaluationError :=
  .typeMismatch "index" target.indexedBy <|
    match target, index with
    | array _, number _ => "non-integer number"
    | array _, index | object _, index => index.typeName
    | target, _ => target.typeName

/-- The rules of indexing. -/
inductive Selection : Value → Value → Except EvaluationError Value → Prop where
  /-- A part of null is asked for, whatever the index. -/
  | ofNull (index : Value) :
      Selection null index (.error (.nullReference ("[" ++ index.text ++ "]")))
  /-- A position within an array. -/
  | element {elements : List Value} {i : WordInt} {n : Nat} {v : Value} :
      i.val = n → n < 2 ^ 63 → elements[n]? = some v →
      Selection (array elements) (number (.int i)) (.ok v)
  /-- A position before or behind an array. -/
  | outOfRange {elements : List Value} {i : WordInt} :
      i.val < 2 ^ 63 → i.val < 0 ∨ elements.length ≤ i.val →
      Selection (array elements) (number (.int i)) (.error (.indexOutOfRange i.val elements.length))
  /-- A position that is no signed word. -/
  | unsigned {elements : List Value} {i : WordInt} :
      2 ^ 63 ≤ i.val →
      Selection (array elements) (number (.int i))
        (.error (misfit (array elements) (number (.int i))))
  /-- The name of a field. -/
  | field {fields : Fields} {name : String} {v : Value} :
      fields.get? name = some v → Selection (object fields) (string name) (.ok v)
  /-- The name of no field. -/
  | missing {fields : Fields} {name : String} :
      fields.get? name = none →
      Selection (object fields) (string name) (.error (.memberNotFound name "object"))
  /-- An index of the wrong kind, or of a target that has no parts. -/
  | mismatch {target index : Value} :
      ¬ target.TakesIndex index → Selection target index (.error (misfit target index))

/-- Within the array a position selects its element. -/
theorem element_of_getElem? {elements : List Value} {n : Nat} {v : Value}
    (found : elements[n]? = some v) : element elements n = .ok v := by
  simp only [element, found]

/-- Outside the array a position is reported with the length. -/
theorem element_outside {elements : List Value} {position : Int}
    (outside : position < 0 ∨ elements.length ≤ position) :
    element elements position = .error (.indexOutOfRange position elements.length) := by
  cases position with
  | ofNat n =>
      have behind : elements.length ≤ n := by
        rcases outside with negative | behind
        · exact absurd negative (Int.not_lt.2 (Int.natCast_nonneg n))
        · exact Int.ofNat_le.1 behind
      have absent : elements[n]? = none := List.getElem?_eq_none behind
      simp only [element, absent]
  | negSucc n => rfl

theorem select_position {elements : List Value} {i : WordInt} (word : i.val < 2 ^ 63) :
    (array elements).select (number (.int i)) = element elements i.val := by
  simp only [select, WordInt.signed?, if_pos word]

theorem select_unsigned {elements : List Value} {i : WordInt} (beyond : 2 ^ 63 ≤ i.val) :
    (array elements).select (number (.int i)) =
      .error (misfit (array elements) (number (.int i))) := by
  simp only [select, WordInt.signed?, if_neg (Int.not_lt.2 beyond)]
  rfl

theorem member_of_get? {fields : Fields} {name : String} {v : Value}
    (found : fields.get? name = some v) : (object fields).member name = .ok v := by
  simp only [member, found]

theorem member_of_absent {fields : Fields} {name : String} (absent : fields.get? name = none) :
    (object fields).member name = .error (.memberNotFound name "object") := by
  simp only [member, absent]

theorem select_misfit {target index : Value} (unfit : ¬ target.TakesIndex index) :
    target.select index = .error (misfit target index) := by
  cases target with
  | null => exact absurd trivial unfit
  | bool b => cases index <;> rfl
  | number n => cases index <;> rfl
  | string s => cases index <;> rfl
  | array elements =>
      cases index with
      | number n =>
          cases n with
          | int i => exact absurd trivial unfit
          | float x => rfl
      | _ => rfl
  | object fields =>
      cases index with
      | string name => exact absurd trivial unfit
      | _ => rfl

/-- Each rule says what happens. -/
theorem Selection.select_eq {target index : Value} {r : Except EvaluationError Value}
    (h : Selection target index r) : target.select index = r := by
  cases h with
  | ofNull => rfl
  | @element elements i n v position word found =>
      have signed : i.val < 2 ^ 63 := by omega
      rw [select_position signed, position, element_of_getElem? found]
  | outOfRange word outside => rw [select_position word, element_outside outside]
  | unsigned beyond => exact select_unsigned beyond
  | field found => exact member_of_get? found
  | missing absent => exact member_of_absent absent
  | mismatch unfit => exact select_misfit unfit

/-- Every pair of a target and an index falls under a rule. -/
theorem exists_selection (target index : Value) : ∃ r, Selection target index r := by
  by_cases fits : target.TakesIndex index
  case neg => exact ⟨_, .mismatch fits⟩
  cases target with
  | null => exact ⟨_, .ofNull index⟩
  | bool b => exact fits.elim
  | number n => exact fits.elim
  | string s => exact fits.elim
  | array elements =>
      cases index with
      | number n =>
          cases n with
          | float x => exact fits.elim
          | int i =>
              -- Three rules share the integers among them.
              by_cases word : i.val < 2 ^ 63
              case neg => exact ⟨_, .unsigned (Int.not_lt.1 word)⟩
              by_cases outside : i.val < 0 ∨ elements.length ≤ i.val
              case pos => exact ⟨_, .outOfRange word outside⟩
              have nonnegative : 0 ≤ i.val := by omega
              obtain ⟨n, position⟩ := Int.eq_ofNat_of_zero_le nonnegative
              have within : n < elements.length := by omega
              have found : elements[n]? = some elements[n] := List.getElem?_eq_getElem within
              exact ⟨_, .element position (by omega) found⟩
      | _ => exact fits.elim
  | object fields =>
      cases index with
      | string name =>
          cases found : Fields.get? fields name with
          | none => exact ⟨_, .missing found⟩
          | some v => exact ⟨_, .field found⟩
      | _ => exact fits.elim

theorem select_iff_selection {target index : Value} {r : Except EvaluationError Value} :
    target.select index = r ↔ Selection target index r := by
  constructor
  · rintro rfl
    obtain ⟨r, rule⟩ := exists_selection target index
    rwa [rule.select_eq]
  · exact Selection.select_eq

/-- A name that is used as an index gives what the name gives. -/
theorem select_string (v : Value) (name : String) :
    SameOutcome (v.select (string name)) (v.member name) := by
  cases v with
  | object fields => exact .refl _
  | _ => exact .failure rfl

end Value

/-! ## Expressions -/

namespace Expr

/-- A name as an index runs what the name runs, and comes to the same end. -/
theorem index_agrees_with_member (limit : Option Nat) (depth : Nat) (x : Expr) (name : String) :
    ((index x (constant (.string name))).evaluateAt limit depth).trace =
        ((member x name).evaluateAt limit depth).trace ∧
      SameOutcome ((index x (constant (.string name))).evaluateAt limit depth).result
        ((member x name).evaluateAt limit depth).result := by
  cases guard : depthFailure? limit depth with
  | some e =>
      simp only [evaluateAt_of_depthFailure limit guard]
      exact ⟨trivial, .refl _⟩
  | none =>
      simp only [evaluateAt, guard]
      cases target : (x.evaluateAt limit (depth + 1)).result with
      | error e =>
          simp only [Traced.andThen_of_error target]
          exact ⟨trivial, .refl _⟩
      | ok v =>
          -- The index stands where the target stands, and so it is not too deep either.
          have shallow : depthFailure? limit (depth + 1) = none := by
            cases inner : depthFailure? limit (depth + 1) with
            | none => rfl
            | some e =>
                rw [evaluateAt_of_depthFailure limit inner] at target
                cases target
          simp only [Traced.andThen_of_ok target, shallow, Traced.andThen_done]
          exact ⟨rfl, v.select_string name⟩

/-- **Indexing.** Of every target and every index,

* an index ends as the rules say: a position below `2 ^ 63` gives the element or an error with the
  length, a name gives the field or an error with the name, null and misfits are reported, and a
  greater position counts among the misfits;
* a name as an index of any expression and the name itself come to the same end at every depth and
  under every limit. -/
theorem index_follows_rules (target index : Value) (r : Except EvaluationError Value) (x : Expr)
    (name : String) (limit : Option Nat) (depth : Nat) :
    ((Expr.index (constant target) (constant index)).evaluateFully.result = r ↔
      target.Selection index r) ∧
    ((Expr.index x (constant (.string name))).evaluateAt limit depth).trace =
      ((member x name).evaluateAt limit depth).trace ∧
    SameOutcome ((Expr.index x (constant (.string name))).evaluateAt limit depth).result
      ((member x name).evaluateAt limit depth).result := by
  have selects : (Expr.index (constant target) (constant index)).evaluateFully.result =
      target.select index := by
    simp only [evaluateFully, evaluateAt, depthFailure?, Traced.andThen_done]
    rfl
  have agreement := index_agrees_with_member limit depth x name
  rw [selects]
  exact ⟨Value.select_iff_selection, agreement.1, agreement.2⟩

/-- The first integer that is no signed word, `2 ^ 63`. -/
def firstUnsigned : WordInt :=
  ⟨9223372036854775808, by decide, by decide⟩

/-- An integer behind an array that is not reported as out of range. -/
theorem unsigned_position_misfits :
    (Expr.index (constant (.array [.null, .null, .null]))
      (constant (.number (.int firstUnsigned)))).evaluateFully.result =
        .error (.typeMismatch "index" "integer" "non-integer number") ∧
    ¬ ∃ position, (Expr.index (constant (.array [.null, .null, .null]))
      (constant (.number (.int firstUnsigned)))).evaluateFully.result =
        .error (.indexOutOfRange position 3) := by
  have misfits : (Expr.index (constant (.array [.null, .null, .null]))
      (constant (.number (.int firstUnsigned)))).evaluateFully.result =
        .error (.typeMismatch "index" "integer" "non-integer number") := rfl
  refine ⟨misfits, ?_⟩
  rintro ⟨position, reported⟩
  rw [misfits] at reported
  cases reported

end Expr

end InvocationRouting
