import Mathlib.Data.List.Forall2
import InvocationRouting.Proofs.Evaluation.Indexing
import InvocationRouting.Proofs.Evaluation.Limit
import InvocationRouting.Proofs.Value.Fields

/-!
# Proofs.Evaluation.Accessors — parts of objects and arrays that were just built

An object or an array is built from parts, and one of them is taken out again. What comes out is
the part as it is by itself, but all parts have run: from left to right, up to the first that fails.

* `RunsInTurn` : the parts run from left to right;
* `RunsInTurn.cons` : one more part in front, and `Expr.runsInTurn_evaluateAll` : all parts;
* `Expr.evaluateAt_unlimited` : without a limit the depth does not matter;
* `ObjectLaw`, `ArrayLaw` : building and taking out;
* `Expr.accessors_undo_constructors` : they hold of evaluation under every sufficient limit.
-/

namespace InvocationRouting

variable {α β : Type}

/-! ## Parts of an evaluation -/

/-- An evaluation that ends with a value. -/
def Evaluation.Succeeds (x : Evaluation α) : Prop :=
  ∃ a, x.result = .ok a

/-- The value of an evaluation that succeeds. -/
def Evaluation.value (x : Evaluation Value) : Value :=
  match x.result with
  | .ok v => v
  | .error _ => .null

/-- What the parts leave in the trace, one after the other. -/
def traces (parts : List (Evaluation Value)) : List Deferred :=
  parts.flatMap fun part => part.trace

/-- The parts of an evaluation run from left to right, each once, and nothing else does. The first
part that fails is the last to run, and the whole fails as it does. -/
structure RunsInTurn (parts : List (Evaluation Value)) (whole : Evaluation α) : Prop where
  all : (∀ part ∈ parts, part.Succeeds) → whole.trace = traces parts
  failure : ∀ before part after e, parts = before ++ part :: after →
    (∀ earlier ∈ before, earlier.Succeeds) → part.result = .error e →
    whole = ⟨traces (before ++ [part]), .error e⟩

theorem Evaluation.Succeeds.result_eq {x : Evaluation Value} (h : x.Succeeds) :
    x.result = .ok x.value := by
  rcases h with ⟨v, result⟩
  simp only [Evaluation.value, result]

theorem Evaluation.result_eq_ok_iff {x : Evaluation Value} {v : Value} :
    x.result = .ok v ↔ x.Succeeds ∧ x.value = v := by
  constructor
  · intro result
    refine ⟨⟨v, result⟩, ?_⟩
    simp only [Evaluation.value, result]
  · rintro ⟨succeeds, rfl⟩
    exact succeeds.result_eq

theorem forall₂_result_iff {parts : List (Evaluation Value)} {vs : List Value} :
    List.Forall₂ (fun part v => part.result = .ok v) parts vs ↔
      (∀ part ∈ parts, part.Succeeds) ∧ parts.map Evaluation.value = vs := by
  simp only [Evaluation.result_eq_ok_iff, List.forall₂_and_left, ← List.forall₂_map_left_iff,
    List.forall₂_eq_eq_eq]

theorem Evaluation.succeeds_or_fails (x : Evaluation α) :
    x.Succeeds ∨ ∃ e, x.result = .error e := by
  cases result : x.result with
  | error e => exact .inr ⟨e, rfl⟩
  | ok a => exact .inl ⟨a, result⟩

/-- Either all parts succeed, or there is a leftmost one that fails. -/
theorem all_succeed_or_first_fails (parts : List (Evaluation Value)) :
    (∀ part ∈ parts, part.Succeeds) ∨
      ∃ before part after e, parts = before ++ part :: after ∧
        (∀ earlier ∈ before, earlier.Succeeds) ∧ part.result = .error e := by
  induction parts with
  | nil => exact .inl fun _ member => nomatch member
  | cons x parts ih =>
      rcases x.succeeds_or_fails with succeeds | ⟨e, failed⟩
      · rcases ih with all | ⟨before, part, after, e, split, earlier, failed⟩
        · exact .inl (List.forall_mem_cons.2 ⟨succeeds, all⟩)
        · refine .inr ⟨x :: before, part, after, e, ?_, ?_, failed⟩
          · rw [split, List.cons_append]
          · exact List.forall_mem_cons.2 ⟨succeeds, earlier⟩
      · exact .inr ⟨[], x, parts, e, rfl, List.forall_mem_nil _, failed⟩

namespace RunsInTurn

variable {parts : List (Evaluation Value)} {whole : Evaluation α}

theorem ofExcept (r : Except EvaluationError α) : RunsInTurn [] (.ofExcept r) where
  all _ := rfl
  failure before part after e split := by
    have nonempty : before ++ part :: after ≠ [] := List.append_ne_nil_of_right_ne_nil _ nofun
    exact absurd split.symm nonempty

/-- One more part in front of others. -/
theorem cons (x : Evaluation Value) {f : Value → Evaluation α} (h : ∀ v, RunsInTurn parts (f v)) :
    RunsInTurn (x :: parts) (x.andThen f) := by
  constructor
  case all =>
    intro all
    rcases List.forall_mem_cons.1 all with ⟨⟨v, result⟩, later⟩
    rw [Traced.andThen_of_ok result]
    exact congrArg (x.trace ++ ·) ((h v).all later)
  case failure =>
    intro before part after e split earlier failed
    cases before with
    | nil =>
        -- The part in front fails, and what follows is not asked for.
        have first : x = part := (List.cons.inj split).1
        subst first
        have alone : traces ([] ++ [x]) = x.trace := List.append_nil x.trace
        rw [Traced.andThen_of_error failed, alone]
    | cons y before =>
        -- The part in front gives a value, and the rest fails as it does by itself.
        rcases List.cons.inj split with ⟨rfl, rest⟩
        rcases List.forall_mem_cons.1 earlier with ⟨⟨v, result⟩, between⟩
        rw [Traced.andThen_of_ok result, (h v).failure before part after e rest between failed]
        rfl

/-- A whole that succeeds has no part that fails. -/
theorem all_succeed (h : RunsInTurn parts whole) (succeeds : whole.Succeeds) :
    ∀ part ∈ parts, part.Succeeds := by
  rcases all_succeed_or_first_fails parts with all | fails
  · exact all
  · rcases fails with ⟨before, part, after, e, split, earlier, failed⟩
    rcases succeeds with ⟨a, result⟩
    rw [h.failure before part after e split earlier failed] at result
    cases result

end RunsInTurn

/-! ## Evaluation without a limit -/

namespace Expr

mutual

/-- Without a limit the depth does not matter. -/
theorem evaluateAt_unlimited (depth depth' : Nat) (e : Expr) :
    e.evaluateAt none depth = e.evaluateAt none depth' := by
  cases e with
  | constant value => rfl
  | parameter => rfl
  | captured name value => rfl
  | member target name =>
      have inner := evaluateAt_unlimited (depth + 1) (depth' + 1) target
      simp only [evaluateAt, depthFailure?, inner]
  | index target position =>
      have first := evaluateAt_unlimited (depth + 1) (depth' + 1) target
      have second := evaluateAt_unlimited (depth + 1) (depth' + 1) position
      simp only [evaluateAt, depthFailure?, first, second]
  | unary op operand =>
      have inner := evaluateAt_unlimited (depth + 1) (depth' + 1) operand
      simp only [evaluateAt, depthFailure?, inner]
  | binary op left right =>
      have first := evaluateAt_unlimited (depth + 1) (depth' + 1) left
      have second := evaluateAt_unlimited (depth + 1) (depth' + 1) right
      simp only [evaluateAt, depthFailure?, first, second]
  | conditional condition whenTrue whenFalse =>
      have first := evaluateAt_unlimited (depth + 1) (depth' + 1) condition
      have onTrue := evaluateAt_unlimited (depth + 1) (depth' + 1) whenTrue
      have onFalse := evaluateAt_unlimited (depth + 1) (depth' + 1) whenFalse
      simp only [evaluateAt, depthFailure?, first, onTrue, onFalse]
  | coalesce value fallback =>
      have first := evaluateAt_unlimited (depth + 1) (depth' + 1) value
      have second := evaluateAt_unlimited (depth + 1) (depth' + 1) fallback
      simp only [evaluateAt, depthFailure?, first, second]
  | array elements =>
      have inner := evaluateElements_unlimited (depth + 1) (depth' + 1) elements
      simp only [evaluateAt, depthFailure?, inner]
  | object fields =>
      have inner := evaluateFields_unlimited (depth + 1) (depth' + 1) fields
      simp only [evaluateAt, depthFailure?, inner]
  | call receiver method arguments => rfl
  | deferred computation => rfl

theorem evaluateElements_unlimited (depth depth' : Nat) (es : List Expr) :
    evaluateElements none depth es = evaluateElements none depth' es := by
  cases es with
  | nil => rfl
  | cons e es =>
      have head := evaluateAt_unlimited depth depth' e
      have tail := evaluateElements_unlimited depth depth' es
      simp only [evaluateElements, head, tail]

theorem evaluateFields_unlimited (depth depth' : Nat) (fs : List (String × Expr)) :
    evaluateFields none depth fs = evaluateFields none depth' fs := by
  cases fs with
  | nil => rfl
  | cons f fs =>
      have head := evaluateAt_unlimited depth depth' f.2
      have tail := evaluateFields_unlimited depth depth' fs
      simp only [evaluateFields, head, tail]

end

/-- The values of expressions, from left to right. -/
def evaluateAll (es : List Expr) : Evaluation (List Value) :=
  evaluateElements none 0 es

theorem evaluateAll_cons (e : Expr) (es : List Expr) :
    evaluateAll (e :: es) =
      e.evaluateFully.andThen fun v => (evaluateAll es).map (v :: ·) := by
  simp only [evaluateAll, evaluateElements, evaluateFully]

theorem evaluateFully_member (target : Expr) (name : String) :
    (member target name).evaluateFully =
      target.evaluateFully.andThen fun v => .ofExcept (v.member name) := by
  have inner := evaluateAt_unlimited 1 0 target
  simp only [evaluateFully, evaluateAt, depthFailure?, Nat.zero_add, inner]

theorem evaluateFully_index (target position : Expr) :
    (index target position).evaluateFully =
      target.evaluateFully.andThen fun v =>
        position.evaluateFully.andThen fun i => .ofExcept (v.select i) := by
  have first := evaluateAt_unlimited 1 0 target
  have second := evaluateAt_unlimited 1 0 position
  simp only [evaluateFully, evaluateAt, depthFailure?, Nat.zero_add, first, second]

theorem evaluateFully_array (elements : List Expr) :
    (array elements).evaluateFully = (evaluateAll elements).map .array := by
  have inner := evaluateElements_unlimited 1 0 elements
  simp only [evaluateFully, evaluateAll, evaluateAt, depthFailure?, Nat.zero_add, inner]

/-- Fields are elements that have names. -/
theorem evaluateFields_eq (fields : List (String × Expr)) :
    evaluateFields none 0 fields =
      (evaluateAll (fields.map Prod.snd)).map ((fields.map Prod.fst).zip ·) := by
  induction fields with
  | nil => rfl
  | cons field fields ih =>
      rcases field with ⟨name, e⟩
      rw [List.map_cons, List.map_cons, evaluateAll_cons, evaluateFields, ih]
      change e.evaluateFully.andThen _ = _
      rcases e.evaluateFully with ⟨trace, failure | v⟩
      · rfl
      · rcases evaluateAll (fields.map Prod.snd) with ⟨trace', failure | vs⟩ <;> rfl

theorem evaluateFully_object (fields : List (String × Expr)) :
    (object fields).evaluateFully =
      (evaluateAll (fields.map Prod.snd)).map fun vs =>
        Value.ofList ((fields.map Prod.fst).zip vs) := by
  have inner := evaluateFields_unlimited 1 0 fields
  simp only [evaluateFully, evaluateAt, depthFailure?, Nat.zero_add, inner, evaluateFields_eq]
  rcases evaluateAll (fields.map Prod.snd) with ⟨trace, failure | vs⟩ <;> rfl

/-- All expressions run in turn, and then what comes of their values. -/
theorem runsInTurn_evaluateAll (es : List Expr) {rest : List (Evaluation Value)}
    {f : List Value → Evaluation α} (h : ∀ vs, RunsInTurn rest (f vs)) :
    RunsInTurn (es.map evaluateFully ++ rest) ((evaluateAll es).andThen f) := by
  induction es generalizing f with
  | nil => simpa [evaluateAll, evaluateElements] using h []
  | cons e es ih =>
      -- The value of the head goes along into what is done in the end.
      have step : (evaluateAll (e :: es)).andThen f =
          e.evaluateFully.andThen fun v => (evaluateAll es).andThen fun vs => f (v :: vs) := by
        rw [evaluateAll_cons, Traced.andThen_assoc]
        simp only [Traced.map_eq_andThen, Traced.andThen_assoc, Traced.andThen_done]
      rw [step]
      exact .cons e.evaluateFully fun v => ih fun vs => h (v :: vs)

/-- Expressions that all succeed give the list of their values. -/
theorem evaluateAll_result {es : List Expr} (all : ∀ x ∈ es.map evaluateFully, x.Succeeds) :
    (evaluateAll es).result = .ok ((es.map evaluateFully).map Evaluation.value) := by
  induction es with
  | nil => rfl
  | cons e es ih =>
      rcases List.forall_mem_cons.1 all with ⟨first, later⟩
      rw [evaluateAll_cons, Traced.andThen_of_ok first.result_eq]
      simp only [Traced.map, ih later, Except.map, List.map_cons]

theorem runsInTurn_silent (es : List Expr) (f : List Value → Except EvaluationError α) :
    RunsInTurn (es.map evaluateFully) ((evaluateAll es).andThen fun vs => .ofExcept (f vs)) := by
  have h : RunsInTurn (es.map evaluateFully ++ [])
      ((evaluateAll es).andThen fun vs => .ofExcept (f vs)) :=
    runsInTurn_evaluateAll es fun vs => .ofExcept (f vs)
  rwa [List.append_nil] at h

end Expr

/-! ## Laws -/

/-- Building an object from fields, each with a name and an evaluation, and taking a part out. -/
structure ObjectLaw (fields : List (String × Evaluation Value)) (whole : Evaluation Value)
    (part : String → Evaluation Value) : Prop where
  inTurn : RunsInTurn (fields.map Prod.snd) whole
  /-- The fields that are not asked for run as well. -/
  inTurn_part : ∀ name, RunsInTurn (fields.map Prod.snd) (part name)
  /-- No field may fail, not even one that a later field replaces. -/
  total : whole.Succeeds ↔ ∀ field ∈ fields, field.2.Succeeds
  /-- The object has the names that are listed, each once. -/
  names : ∀ v, whole.result = .ok v → ∃ entries, v = .object entries ∧ Fields.Sorted entries ∧
    ∀ name, name ∈ Fields.names entries ↔ name ∈ fields.map Prod.fst
  last : whole.Succeeds → ∀ name before x after, fields = before ++ (name, x) :: after →
    name ∉ after.map Prod.fst → (part name).result = x.result
  absent : whole.Succeeds → ∀ name, name ∉ fields.map Prod.fst →
    (part name).result = .error (.memberNotFound name "object")

/-- Building an array from elements, and taking out the one at a position. -/
structure ArrayLaw (elements : List (Evaluation Value)) (position whole part : Evaluation Value) :
    Prop where
  inTurn : RunsInTurn elements whole
  /-- The position is evaluated after all elements. -/
  inTurn_part : RunsInTurn (elements ++ [position]) part
  total : whole.Succeeds ↔ ∀ x ∈ elements, x.Succeeds
  values : ∀ v, whole.result = .ok v ↔
    ∃ vs, v = .array vs ∧ List.Forall₂ (fun x u => x.result = .ok u) elements vs
  /-- No array has more elements than there are positions. -/
  selected : whole.Succeeds → elements.length ≤ 2 ^ 63 → ∀ (i : WordInt) (n : Nat) x,
    position.result = .ok (.number (.int i)) → i.val = n → elements[n]? = some x →
    part.result = x.result

namespace Expr

/-! ## Objects -/

section Object

variable (fields : List (String × Expr))

/-- The fields with their evaluations. -/
def evaluatedFields : List (String × Evaluation Value) :=
  fields.map fun field => (field.1, field.2.evaluateFully)

theorem evaluatedFields_evaluations :
    (evaluatedFields fields).map Prod.snd = (fields.map Prod.snd).map evaluateFully := by
  simp [evaluatedFields]

theorem object_eq_andThen : (object fields).evaluateFully =
    (evaluateAll (fields.map Prod.snd)).andThen fun vs =>
      .ofExcept (.ok (Value.ofList ((fields.map Prod.fst).zip vs))) := by
  rw [evaluateFully_object, Traced.map_eq_andThen]
  rfl

theorem member_object_eq_andThen (name : String) : (member (object fields) name).evaluateFully =
    (evaluateAll (fields.map Prod.snd)).andThen fun vs =>
      .ofExcept ((Value.ofList ((fields.map Prod.fst).zip vs)).member name) := by
  rw [evaluateFully_member, evaluateFully_object, Traced.map_eq_andThen, Traced.andThen_assoc]
  simp only [Traced.andThen_done]

variable {fields}

/-- If all fields succeed, their values are set one after the other. -/
theorem object_result (all : ∀ field ∈ evaluatedFields fields, field.2.Succeeds) :
    (object fields).evaluateFully.result =
      .ok (Value.ofList ((evaluatedFields fields).map fun field => (field.1, field.2.value))) := by
  have each : ∀ x ∈ (fields.map Prod.snd).map evaluateFully, x.Succeeds := by
    rw [← evaluatedFields_evaluations]
    exact List.forall_mem_map.2 all
  have paired : (fields.map Prod.fst).zip
      (((fields.map Prod.snd).map evaluateFully).map Evaluation.value) =
        (evaluatedFields fields).map fun field => (field.1, field.2.value) := by
    simp only [evaluatedFields, List.map_map, List.zip_map']
    rfl
  rw [object_eq_andThen, Traced.andThen_of_ok (evaluateAll_result each), paired]
  rfl

theorem member_object_result (all : ∀ field ∈ evaluatedFields fields, field.2.Succeeds)
    (name : String) : (member (object fields) name).evaluateFully.result =
      (Value.object (Fields.ofList ((evaluatedFields fields).map fun field =>
        (field.1, field.2.value)))).member name := by
  rw [evaluateFully_member, Traced.andThen_of_ok (object_result all)]
  rfl

/-- What is set last under a name is what the name gives. -/
theorem objectLaw_evaluateFully (fields : List (String × Expr)) :
    ObjectLaw (evaluatedFields fields) (object fields).evaluateFully
      fun name => (member (object fields) name).evaluateFully := by
  have names (fields : List (String × Evaluation Value)) :
      Fields.names (fields.map fun field => (field.1, field.2.value)) = fields.map Prod.fst := by
    simp [Fields.names]
  have inTurn : RunsInTurn ((evaluatedFields fields).map Prod.snd)
      (object fields).evaluateFully := by
    rw [evaluatedFields_evaluations, object_eq_andThen]
    exact runsInTurn_silent _ _
  have all (succeeds : (object fields).evaluateFully.Succeeds) :
      ∀ field ∈ evaluatedFields fields, field.2.Succeeds :=
    fun field member => inTurn.all_succeed succeeds field.2 (List.mem_map_of_mem member)
  constructor
  case inTurn => exact inTurn
  case inTurn_part =>
    intro name
    rw [evaluatedFields_evaluations, member_object_eq_andThen]
    exact runsInTurn_silent _ _
  case total => exact ⟨all, fun succeed => ⟨_, object_result succeed⟩⟩
  case names =>
    intro v result
    rw [object_result (all ⟨v, result⟩)] at result
    refine ⟨_, (Except.ok.inj result).symm, Fields.sorted_ofList _, fun name => ?_⟩
    rw [Fields.mem_names_ofList, names]
  case last =>
    intro succeeds name before x after split later
    have part := member_object_result (all succeeds) name
    have here : x.Succeeds := by
      refine all succeeds (name, x) ?_
      rw [split]
      exact List.mem_append_right _ List.mem_cons_self
    -- What the later fields set does not touch the name.
    have unset : name ∉ Fields.names (after.map fun field => (field.1, field.2.value)) := by
      rwa [names]
    rw [split, List.map_append, List.map_cons,
      Value.member_of_get? (Fields.get?_ofList unset)] at part
    exact part.trans here.result_eq.symm
  case absent =>
    intro succeeds name absent
    have part := member_object_result (all succeeds) name
    have unset : name ∉ Fields.names ((evaluatedFields fields).map fun field =>
        (field.1, field.2.value)) := by
      rwa [names]
    rwa [Value.member_of_absent (Fields.get?_ofList_of_not_mem unset)] at part

end Object

/-! ## Arrays -/

theorem array_eq_andThen (elements : List Expr) : (array elements).evaluateFully =
    (evaluateAll elements).andThen fun vs => .ofExcept (.ok (.array vs)) := by
  rw [evaluateFully_array, Traced.map_eq_andThen]
  rfl

theorem index_array_eq_andThen (elements : List Expr) (position : Expr) :
    (index (array elements) position).evaluateFully =
      (evaluateAll elements).andThen fun vs =>
        position.evaluateFully.andThen fun i => .ofExcept ((Value.array vs).select i) := by
  rw [evaluateFully_index, evaluateFully_array, Traced.map_eq_andThen, Traced.andThen_assoc]
  simp only [Traced.andThen_done]

theorem array_result {elements : List Expr}
    (all : ∀ x ∈ elements.map evaluateFully, x.Succeeds) :
    (array elements).evaluateFully.result =
      .ok (.array ((elements.map evaluateFully).map Evaluation.value)) := by
  rw [array_eq_andThen, Traced.andThen_of_ok (evaluateAll_result all)]
  rfl

/-- What stands at a position is what was put there. -/
theorem arrayLaw_evaluateFully (elements : List Expr) (position : Expr) :
    ArrayLaw (elements.map evaluateFully) position.evaluateFully (array elements).evaluateFully
      (index (array elements) position).evaluateFully := by
  have inTurn : RunsInTurn (elements.map evaluateFully) (array elements).evaluateFully := by
    rw [array_eq_andThen]
    exact runsInTurn_silent _ _
  constructor
  case inTurn => exact inTurn
  case inTurn_part =>
    rw [index_array_eq_andThen]
    refine runsInTurn_evaluateAll elements fun vs => ?_
    exact .cons position.evaluateFully fun i => .ofExcept _
  case total => exact ⟨inTurn.all_succeed, fun all => ⟨_, array_result all⟩⟩
  case values =>
    intro v
    constructor
    · intro result
      have all := inTurn.all_succeed ⟨v, result⟩
      rw [array_result all] at result
      exact ⟨_, (Except.ok.inj result).symm, forall₂_result_iff.2 ⟨all, rfl⟩⟩
    · rintro ⟨vs, rfl, values⟩
      rcases forall₂_result_iff.1 values with ⟨all, rfl⟩
      exact array_result all
  case selected =>
    intro succeeds short i n x index within found
    have all := inTurn.all_succeed succeeds
    have here : x.Succeeds := all x (List.mem_of_getElem? found)
    have value : ((elements.map evaluateFully).map Evaluation.value)[n]? = some x.value := by
      rw [List.getElem?_map, found]
      rfl
    -- A position within so short an array is a signed word.
    have word : i.val < 2 ^ 63 := by
      have below : n < (elements.map evaluateFully).length := (List.getElem?_eq_some_iff.1 found).1
      omega
    calc
      (Expr.index (array elements) position).evaluateFully.result
          = (Value.array ((elements.map evaluateFully).map Evaluation.value)).select
              (.number (.int i)) := by
            rw [index_array_eq_andThen, Traced.andThen_of_ok (evaluateAll_result all),
              Traced.andThen_of_ok index]
            rfl
      _ = .ok x.value := by
            rw [Value.select_position word, within, Value.element_of_getElem? value]
      _ = x.result := here.result_eq.symm

/-! ## Under a limit -/

theorem height_le_heightElements {es : List Expr} {e : Expr} (member : e ∈ es) :
    e.height ≤ heightElements es := by
  induction es with
  | nil => cases member
  | cons head rest ih =>
      simp only [heightElements]
      rcases List.mem_cons.1 member with rfl | later
      · exact Nat.le_max_left _ _
      · exact Nat.le_trans (ih later) (Nat.le_max_right _ _)

theorem heightFields_eq (fields : List (String × Expr)) :
    heightFields fields = heightElements (fields.map Prod.snd) := by
  induction fields with
  | nil => rfl
  | cons field fields ih => simp only [heightFields, List.map_cons, heightElements, ih]

theorem evaluate_of_height_le {limit : Nat} {e : Expr} (within : e.height ≤ limit) :
    e.evaluate limit = e.evaluateFully := by
  rcases (shortens_evaluate limit e).verdict with ⟨same, _⟩ | ⟨_, _, below⟩
  · exact same
  · exact absurd below (Nat.not_lt.2 within)

theorem objectLaw_evaluate {limit : Nat} {fields : List (String × Expr)}
    (room : (object fields).height < limit) :
    ObjectLaw (fields.map fun field => (field.1, field.2.evaluate limit))
      ((object fields).evaluate limit) fun name =>
        (member (object fields) name).evaluate limit := by
  -- Nothing stands so deep that the limit would be seen, neither the parts nor the whole.
  have parts : fields.map (fun field => (field.1, field.2.evaluate limit)) =
      evaluatedFields fields := by
    refine List.map_congr_left fun field among => ?_
    have below : field.2.height ≤ heightElements (fields.map Prod.snd) :=
      height_le_heightElements (List.mem_map_of_mem among)
    simp only [height, heightFields_eq] at room
    rw [evaluate_of_height_le (by omega)]
  have part : (fun name => (member (object fields) name).evaluate limit) =
      fun name => (member (object fields) name).evaluateFully := by
    funext name
    refine evaluate_of_height_le ?_
    rw [height]
    omega
  rw [parts, part, evaluate_of_height_le (Nat.le_of_lt room)]
  exact objectLaw_evaluateFully fields

theorem arrayLaw_evaluate {limit : Nat} {elements : List Expr} {position : Expr}
    (room : (index (array elements) position).height ≤ limit) :
    ArrayLaw (elements.map (evaluate limit)) (position.evaluate limit)
      ((array elements).evaluate limit) ((index (array elements) position).evaluate limit) := by
  have part := evaluate_of_height_le room
  simp only [height] at room
  have parts : elements.map (evaluate limit) = elements.map evaluateFully := by
    refine List.map_congr_left fun e among => ?_
    have below := height_le_heightElements among
    exact evaluate_of_height_le (by omega)
  have whole : (array elements).evaluate limit = (array elements).evaluateFully := by
    refine evaluate_of_height_le ?_
    rw [height]
    omega
  rw [parts, whole, part, evaluate_of_height_le (by omega)]
  exact arrayLaw_evaluateFully elements position

/-- **Accessors undo constructors.** Under a limit that leaves room for the whole,

* an object is built exactly if all its fields succeed, those included that later fields replace;
  it has the names that are listed, and the member of a name is the last field of that name;
* an array is built exactly if all its elements succeed; it has their values in their order, and
  the element at a position is the one that was put there;
* whatever is taken out, all parts run from left to right, up to the first that fails. -/
theorem accessors_undo_constructors {limit : Nat} {fields : List (String × Expr)}
    {elements : List Expr} {position : Expr} (roomForMember : (object fields).height < limit)
    (roomForIndex : (index (array elements) position).height ≤ limit) :
    ObjectLaw (fields.map fun field => (field.1, field.2.evaluate limit))
      ((object fields).evaluate limit) (fun name => (member (object fields) name).evaluate limit) ∧
    ArrayLaw (elements.map (evaluate limit)) (position.evaluate limit)
      ((array elements).evaluate limit) ((index (array elements) position).evaluate limit) :=
  ⟨objectLaw_evaluate roomForMember, arrayLaw_evaluate roomForIndex⟩

/-- A name that is set twice. -/
def repeatedFields : List (String × Expr) :=
  [("a", .deferred ⟨"first", .computation, .ok (.bool true)⟩),
    ("b", .deferred ⟨"second", .computation, .ok .null⟩),
    ("a", .deferred ⟨"third", .computation, .ok (.bool false)⟩)]

/-- The last field of the name counts and the first position is zero, but all parts run; without a
field there is no object, although another field replaces it. -/
theorem accessors_undo_constructors_repeated :
    ((object repeatedFields).height < 3 ∧
      ((member (object repeatedFields) "a").evaluate 3).result = .ok (.bool false) ∧
      ((member (object repeatedFields) "a").evaluate 3).trace.map (·.label) =
        ["first", "second", "third"] ∧
      ((member (object repeatedFields) "c").evaluate 3).result =
        .error (.memberNotFound "c" "object")) ∧
    ((index (array (repeatedFields.map Prod.snd))
        (constant (.number (.int ⟨0, by decide, by decide⟩)))).height ≤ 3 ∧
      ((index (array (repeatedFields.map Prod.snd))
        (constant (.number (.int ⟨0, by decide, by decide⟩)))).evaluate 3).result =
          .ok (.bool true)) ∧
    ¬ ((object [("a", .parameter), ("a", .constant .null)]).evaluate 3).Succeeds := by
  have roomForMember : (object repeatedFields).height < 3 := by decide
  have roomForIndex : (index (array (repeatedFields.map Prod.snd))
      (constant (.number (.int ⟨0, by decide, by decide⟩)))).height ≤ 3 := by decide
  have roomForFailure : (object [("a", .parameter), ("a", .constant .null)]).height < 3 := by decide
  rcases accessors_undo_constructors roomForMember roomForIndex with ⟨fields, elements⟩
  rcases accessors_undo_constructors roomForFailure roomForIndex with ⟨failing, -⟩
  let evaluated := repeatedFields.map fun field => (field.1, field.2.evaluate 3)
  have built : ((object repeatedFields).evaluate 3).Succeeds := ⟨_, rfl⟩
  have listed : ((array (repeatedFields.map Prod.snd)).evaluate 3).Succeeds := ⟨_, rfl⟩
  refine ⟨⟨roomForMember, ?_, ?_, ?_⟩, ⟨roomForIndex, ?_⟩, ?_⟩
  · exact fields.last built "a" (evaluated.take 2) _ [] rfl List.not_mem_nil
  · rw [(fields.inTurn_part "a").all (List.forall_mem_map.2 (fields.total.1 built))]
    rfl
  · exact fields.absent built "c" (by decide)
  · exact elements.selected listed (by decide) _ 0 _ rfl rfl rfl
  · intro succeeds
    have all := failing.total.1 succeeds
    rcases all ("a", .fail .unboundParameter) List.mem_cons_self with ⟨_, result⟩
    cases result

end Expr
end InvocationRouting
