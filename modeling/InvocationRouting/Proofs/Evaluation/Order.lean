import InvocationRouting.Evaluation.Basic
import InvocationRouting.Proofs.Expr.Places

/-!
# Proofs.Evaluation.Order — deferred computations run from left to right

Each kind of expression evaluates its parts in a way of its own, some of them not at all. What they
have in common is that the computations that run are among those listed for the expression, in the
order of the listing, and that nothing runs after a failure.

* `RunsInOrder` : what this says about one traced result;
* `RunsInOrder.andThen` : listings are joined when one result follows another;
* `Expr.runsInOrder_evaluateAt` : it holds of every expression.
-/

namespace InvocationRouting

variable {ε ε' α β : Type}

/-! ## Traced results -/

/-- The computations that run are some of the listed ones in their order, and only the last may
fail. What runs is told by place: with new labels the same places run. -/
structure RunsInOrder (wrap : EvaluationError → ε) (listing : List (Deferred × Nat))
    (x : Traced Deferred ε α) (relabelled : (Nat → String) → Traced Deferred ε α) : Prop where
  /-- The numbered computations that run are a sublist of the listing. -/
  inOrder : ∃ ran : List (Deferred × Nat), ran.Sublist listing ∧
    x.trace = ran.map Prod.fst ∧
    ∀ labels, (relabelled labels).trace = ran.map fun entry => entry.1.relabel (labels entry.2)
  /-- Labels do not matter to the result. -/
  sameResult : ∀ labels, (relabelled labels).result = x.result
  /-- Whatever runs before something else gives a value. -/
  earlier : ∀ computation ∈ x.trace.dropLast, ∃ v, computation.outcome = .ok v
  /-- A failure is the result. -/
  failure : ∀ computation ∈ x.trace, ∀ e, computation.outcome = .error e →
    x.result = .error (wrap e)

namespace RunsInOrder

variable {wrap : EvaluationError → ε} {listing listing' : List (Deferred × Nat)}
  {x : Traced Deferred ε α} {relabelled : (Nat → String) → Traced Deferred ε α}

/-- Where nothing runs, nothing runs out of order. -/
theorem ofExcept (r : Except ε α) :
    RunsInOrder wrap listing (.ofExcept r) fun _ => .ofExcept r where
  inOrder := ⟨[], List.nil_sublist _, rfl, fun _ => rfl⟩
  sameResult _ := rfl
  earlier _ member := nomatch member
  failure _ member := nomatch member

theorem done (a : α) : RunsInOrder wrap listing (.done a) fun _ => .done a :=
  ofExcept (.ok a)

theorem fail (e : ε) :
    RunsInOrder wrap listing (.fail e : Traced Deferred ε α) fun _ => .fail e :=
  ofExcept (.error e)

/-- One computation runs. -/
theorem run (computation : Deferred) (number : Nat) :
    RunsInOrder id [(computation, number)] computation.run
      fun labels => (computation.relabel (labels number)).run where
  inOrder := ⟨[(computation, number)], List.Sublist.refl _, rfl, fun _ => rfl⟩
  sameResult _ := rfl
  earlier _ member := nomatch member
  failure other member e failed := by
    have same : other = computation := List.mem_singleton.1 member
    rw [← same]
    exact failed

/-- More may be listed than runs. -/
theorem mono (h : RunsInOrder wrap listing x relabelled) (more : listing.Sublist listing') :
    RunsInOrder wrap listing' x relabelled where
  inOrder := by
    rcases h.inOrder with ⟨ran, sublist, same, relabel⟩
    exact ⟨ran, sublist.trans more, same, relabel⟩
  sameResult := h.sameResult
  earlier := h.earlier
  failure := h.failure

theorem map (h : RunsInOrder wrap listing x relabelled) (f : α → β) :
    RunsInOrder wrap listing (x.map f) fun labels => (relabelled labels).map f where
  inOrder := h.inOrder
  sameResult labels := by
    simp only [Traced.map, h.sameResult labels]
  earlier := h.earlier
  failure computation member e failed := by
    simp only [Traced.map, h.failure computation member e failed, Except.map]

theorem mapError (h : RunsInOrder wrap listing x relabelled) (f : ε → ε') :
    RunsInOrder (f ∘ wrap) listing (x.mapError f) fun labels => (relabelled labels).mapError f where
  inOrder := h.inOrder
  sameResult labels := by
    simp only [Traced.mapError, h.sameResult labels]
  earlier := h.earlier
  failure computation member e failed := by
    simp only [Traced.mapError, h.failure computation member e failed, Except.mapError,
      Function.comp_apply]

/-- Before a result, no computation failed. -/
theorem valued (h : RunsInOrder wrap listing x relabelled) {a : α} (result : x.result = .ok a) :
    ∀ computation ∈ x.trace, ∃ v, computation.outcome = .ok v := by
  intro computation member
  cases outcome : computation.outcome with
  | ok v => exact ⟨v, rfl⟩
  | error e =>
      have failed := h.failure computation member e outcome
      rw [result] at failed
      cases failed

/-- What follows a result is listed after it. -/
theorem andThen {f : α → Traced Deferred ε β} {g : (Nat → String) → α → Traced Deferred ε β}
    (first : RunsInOrder wrap listing x relabelled)
    (second : ∀ a, RunsInOrder wrap listing' (f a) fun labels => g labels a) :
    RunsInOrder wrap (listing ++ listing') (x.andThen f)
      fun labels => (relabelled labels).andThen (g labels) := by
  rcases first.inOrder with ⟨ran, sublist, same, relabel⟩
  cases result : x.result with
  | error e =>
      -- Nothing follows a failure.
      have whole : x.andThen f = ⟨x.trace, .error e⟩ := by
        simp only [Traced.andThen, result]
      have whole' (labels : Nat → String) :
          (relabelled labels).andThen (g labels) = ⟨(relabelled labels).trace, .error e⟩ := by
        simp only [Traced.andThen, first.sameResult labels, result]
      constructor
      case inOrder =>
        refine ⟨ran, sublist.trans (List.sublist_append_left _ _), ?_, ?_⟩
        · simpa only [whole] using same
        · simpa only [whole'] using relabel
      case sameResult => simp only [whole, whole', implies_true]
      case earlier => simpa only [whole] using first.earlier
      case failure =>
        intro computation member e' failed
        simp only [whole] at member ⊢
        have final := first.failure computation member e' failed
        rw [result] at final
        rw [Except.error.inj final]
  | ok a =>
      rcases (second a).inOrder with ⟨ran', sublist', same', relabel'⟩
      have whole : x.andThen f = ⟨x.trace ++ (f a).trace, (f a).result⟩ := by
        simp only [Traced.andThen, result]
      have whole' (labels : Nat → String) :
          (relabelled labels).andThen (g labels) =
            ⟨(relabelled labels).trace ++ (g labels a).trace, (g labels a).result⟩ := by
        simp only [Traced.andThen, first.sameResult labels, result]
      have valued := first.valued result
      constructor
      case inOrder =>
        refine ⟨ran ++ ran', sublist.append sublist', ?_, ?_⟩
        · simp only [whole, same, same', List.map_append]
        · simp only [whole', relabel, relabel', List.map_append, implies_true]
      case sameResult => simpa only [whole, whole'] using (second a).sameResult
      case earlier =>
        intro computation member
        simp only [whole] at member
        by_cases silent : (f a).trace = []
        · rw [silent, List.append_nil] at member
          exact first.earlier computation member
        · rw [List.dropLast_append_of_ne_nil silent] at member
          rcases List.mem_append.1 member with before | after
          · exact valued computation before
          · exact (second a).earlier computation after
      case failure =>
        intro computation member e failed
        simp only [whole] at member ⊢
        rcases List.mem_append.1 member with before | after
        · rcases valued computation before with ⟨v, outcome⟩
          rw [failed] at outcome
          cases outcome
        · exact (second a).failure computation after e failed

/-- A last step in which nothing runs. -/
theorem andThen_silent {f : α → Traced Deferred ε β} {g : (Nat → String) → α → Traced Deferred ε β}
    (h : RunsInOrder wrap listing x relabelled)
    (last : ∀ a, RunsInOrder wrap [] (f a) fun labels => g labels a) :
    RunsInOrder wrap listing (x.andThen f) fun labels => (relabelled labels).andThen (g labels) := by
  simpa using h.andThen last

/-- A first step in which nothing runs. -/
theorem ofExcept_andThen (r : Except ε α) {f : α → Traced Deferred ε β}
    {g : (Nat → String) → α → Traced Deferred ε β}
    (h : ∀ a, RunsInOrder wrap listing (f a) fun labels => g labels a) :
    RunsInOrder wrap listing ((Traced.ofExcept r).andThen f)
      fun labels => (Traced.ofExcept r).andThen (g labels) := by
  have first : RunsInOrder wrap [] (.ofExcept r) fun _ => .ofExcept r := ofExcept r
  simpa using first.andThen h

end RunsInOrder

/-! ## Expressions -/

namespace Expr

variable (limit : Option Nat)

/-- Too deep an expression is not evaluated at all. -/
theorem evaluateAt_of_depthFailure {depth : Nat} {e : EvaluationError}
    (tooDeep : depthFailure? limit depth = some e) (expr : Expr) :
    evaluateAt limit depth expr = .fail e := by
  unfold evaluateAt
  simp only [tooDeep]

mutual

/-- At any depth, and wherever the numbers start, an expression is evaluated in order. -/
theorem runsInOrder_evaluateAt (depth start : Nat) (e : Expr) :
    RunsInOrder id (Place.numbered start e.places) (e.evaluateAt limit depth)
      fun labels => (e.relabel labels start).evaluateAt limit depth := by
  -- Induction on the expression: the listing of the parts is the listing of the whole.
  cases guard : depthFailure? limit depth with
  | some failure =>
      simp only [evaluateAt_of_depthFailure limit guard]
      exact .fail failure
  | none =>
      cases e with
      | constant value =>
          simp only [relabel, evaluateAt, guard]
          exact .done value
      | parameter =>
          simp only [relabel, evaluateAt, guard]
          exact .fail _
      | captured name value =>
          simp only [relabel, evaluateAt, guard]
          exact .done value
      | member target name =>
          simp only [relabel, places, evaluateAt, guard]
          exact (runsInOrder_evaluateAt _ start target).andThen_silent fun _ => .ofExcept _
      | index target position =>
          simp only [relabel, places, evaluateAt, guard, Place.numbered_append]
          exact (runsInOrder_evaluateAt _ start target).andThen fun v =>
            (runsInOrder_evaluateAt _ _ position).andThen_silent fun _ => .ofExcept _
      | unary op operand =>
          simp only [relabel, places, evaluateAt, guard]
          exact (runsInOrder_evaluateAt _ start operand).andThen_silent fun _ => .ofExcept _
      | binary op left right =>
          have first := runsInOrder_evaluateAt (depth + 1) start left
          have second := runsInOrder_evaluateAt (depth + 1) (start + left.places.length) right
          simp only [relabel, places, evaluateAt, guard, Place.numbered_append]
          cases op.stopsAt? with
          | none => exact first.andThen fun v => second.andThen_silent fun _ => .ofExcept _
          | some stop =>
              refine first.andThen fun v => .ofExcept_andThen _ fun a => ?_
              by_cases stops : a = stop
              · simp only [if_pos stops]
                exact .done _
              · simp only [if_neg stops]
                exact second.andThen_silent fun w => .ofExcept_andThen _ fun b => .done _
      | conditional condition whenTrue whenFalse =>
          have onTrue := runsInOrder_evaluateAt (depth + 1)
            (start + condition.places.length) whenTrue
          have onFalse := runsInOrder_evaluateAt (depth + 1)
            (start + condition.places.length + whenTrue.places.length) whenFalse
          simp only [relabel, places, evaluateAt, guard, Place.numbered_append]
          refine (runsInOrder_evaluateAt _ start condition).andThen fun v => ?_
          -- At most one of the two branches is evaluated.
          cases v with
          | bool b =>
              cases b with
              | true => exact onTrue.mono (List.sublist_append_left _ _)
              | false => exact onFalse.mono (List.sublist_append_right _ _)
          | _ => exact .fail _
      | coalesce value fallback =>
          simp only [relabel, places, evaluateAt, guard, Place.numbered_append]
          refine (runsInOrder_evaluateAt _ start value).andThen fun v => ?_
          cases v with
          | null => exact runsInOrder_evaluateAt _ _ fallback
          | _ => exact .done _
      | array elements =>
          simp only [relabel, places, evaluateAt, guard]
          exact (runsInOrder_evaluateElements _ start elements).map _
      | object fields =>
          simp only [relabel, places, evaluateAt, guard]
          exact (runsInOrder_evaluateFields _ start fields).map _
      | call receiver method arguments =>
          -- A call is refused without a look at its parts.
          cases receiver with
          | none =>
              simp only [relabel, evaluateAt, guard]
              exact .fail _
          | some e =>
              simp only [relabel, evaluateAt, guard]
              exact .fail _
      | deferred computation =>
          simp only [relabel, places, evaluateAt, guard]
          exact .run computation start

theorem runsInOrder_evaluateElements (depth start : Nat) (es : List Expr) :
    RunsInOrder id (Place.numbered start (placesElements es)) (evaluateElements limit depth es)
      fun labels => evaluateElements limit depth (relabelElements labels start es) := by
  cases es with
  | nil => exact .done []
  | cons e es =>
      simp only [relabelElements, evaluateElements, placesElements, Place.numbered_append]
      exact (runsInOrder_evaluateAt depth start e).andThen fun v =>
        (runsInOrder_evaluateElements depth _ es).map (v :: ·)

theorem runsInOrder_evaluateFields (depth start : Nat) (fs : List (String × Expr)) :
    RunsInOrder id (Place.numbered start (placesFields fs)) (evaluateFields limit depth fs)
      fun labels => evaluateFields limit depth (relabelFields labels start fs) := by
  cases fs with
  | nil => exact .done []
  | cons f fs =>
      simp only [relabelFields, evaluateFields, placesFields, Place.numbered_append]
      exact (runsInOrder_evaluateAt depth start f.2).andThen fun v =>
        (runsInOrder_evaluateFields depth _ fs).map ((f.1, v) :: ·)

end

/-- What is not needed does not run, and nothing runs after a failure. -/
example :
    let gives (label : String) := Expr.deferred ⟨label, .computation, .ok .null⟩
    let fails (label : String) := Expr.deferred ⟨label, .computation, .error .unboundParameter⟩
    let e := Expr.array [.coalesce (.constant (.bool true)) (gives "a"),
      .coalesce (gives "b") (gives "c"), fails "d", gives "e"]
    (e.evaluate 8).trace.map (·.label) = ["b", "c", "d"] := rfl

end Expr
end InvocationRouting
