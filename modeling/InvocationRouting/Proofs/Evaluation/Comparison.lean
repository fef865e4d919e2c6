import InvocationRouting.Evaluation.Operators
import InvocationRouting.Proofs.Value.Equality

/-!
# Proofs.Evaluation.Comparison — equality and order fit together

Equality is defined for all values, order only for two numbers or two strings, and each of them goes
its own way through the kinds of operands. Where both are defined they come from one `Ordering`, and
this is all that the six comparison operators depend on.

* `Value.Comparable` : operands that can be ordered;
* `Number.reading_eq` : numbers are finite, in whatever form they are compared;
* `Number.exists_compare` : two numbers compare as two integers do, whatever their kinds;
* `Value.exists_ordering` : the one ordering behind all comparisons of two operands;
* `comparisons_cohere` : the laws of the six operators.
-/

namespace InvocationRouting

/-! ## Numbers -/

/-- Numbers are finite, also after an integer has been rounded. -/
theorem Number.reading_eq (n : Number) : n.reading = .finite n.toBinary64 := by
  cases n with
  | int i =>
      have rounded : Binary64.ofInt? i.val = some (Binary64.ofWordInt i) := (Option.some_get _).symm
      rw [reading, FloatReading.ofInt, rounded]
      rfl
  | float x => rfl

/-- Two numbers are compared as two integers: the values themselves, or the units of the nearest
floating-point numbers. -/
theorem Number.exists_compare (m n : Number) :
    ∃ x y : Int, m.order? n = some (compare x y) ∧ n.order? m = some (compare y x) ∧
      m.sameValue n = (x == y) ∧ n.sameValue m = (y == x) := by
  have units (m n : Number) :
      m.reading.order? n.reading = some (compare m.toBinary64.units n.toBinary64.units) := by
    rw [m.reading_eq, n.reading_eq]
    rfl
  have forth := units m n
  have back := units n m
  cases m with
  | int i =>
      cases n with
      | int j => exact ⟨i.val, j.val, rfl, rfl, rfl, rfl⟩
      | float y => exact ⟨_, _, forth, back, rfl, rfl⟩
  | float x => cases n <;> exact ⟨_, _, forth, back, rfl, rfl⟩

/-! ## Values -/

namespace Value

variable {a b : Value}

/-- Two numbers or two strings. -/
inductive Comparable : Value → Value → Prop where
  | numbers (m n : Number) : Comparable (number m) (number n)
  | strings (s t : String) : Comparable (string s) (string t)

theorem equals_comm (a b : Value) : a.equals b = b.equals a := by
  cases a with
  | number m =>
      cases b with
      | number n =>
          rcases m.exists_compare n with ⟨x, y, -, -, equal, equal'⟩
          have symmetric : m.sameValue n = n.sameValue m := by
            rw [equal, equal']
            exact BEq.comm
          exact symmetric
      | _ => exact same_comm _ _
  | _ => cases b <;> exact same_comm _ _

theorem equals_refl (a : Value) : a.equals a = true := by
  cases a with
  | number n =>
      -- A number and itself are of one kind, where equality by value is equality within the kind.
      cases n with
      | int i => exact (Number.int i).identical_refl
      | float x => exact (Number.float x).identical_refl
  | _ => exact same_refl _

/-- Behind all comparisons of two operands there is one ordering. -/
theorem exists_ordering (h : Comparable a b) :
    ∃ o : Ordering, (∀ op, order op a b = .ok o) ∧ (∀ op, order op b a = .ok o.swap) ∧
      a.equals b = (o == .eq) := by
  cases h with
  | numbers m n =>
      rcases m.exists_compare n with ⟨x, y, forth, back, equal, -⟩
      have swapped : compare y x = (compare x y).swap := Std.OrientedOrd.eq_swap
      refine ⟨compare x y, ?_, ?_, ?_⟩
      · intro op
        rw [order, forth]
      · intro op
        rw [order, back, swapped]
      · calc
          (number m).equals (number n) = m.sameValue n := rfl
          _ = (x == y) := equal
          _ = (compare x y == .eq) := by
                rw [Bool.eq_iff_iff]
                simp
  | strings s t =>
      have swapped : compare t s = (compare s t).swap := Std.OrientedOrd.eq_swap
      refine ⟨compare s t, fun op => rfl, fun op => congrArg _ swapped, ?_⟩
      calc
        (string s).equals (string t) = (s == t) := rfl
        _ = (compare s t == .eq) := by
              rw [Bool.eq_iff_iff]
              simp

/-- Operands that are not both numbers or both strings have no order. -/
theorem order_of_not_comparable (h : ¬ Comparable a b) (op : BinaryOp) :
    order op a b =
      .error (.typeMismatch op.symbol "two numbers or two strings"
        (a.typeName ++ " and " ++ b.typeName)) := by
  cases a with
  | number m =>
      cases b with
      | number n => exact absurd (.numbers m n) h
      | _ => rfl
  | string s =>
      cases b with
      | string t => exact absurd (.strings s t) h
      | _ => rfl
  | _ => rfl

end Value

/-! ## Operators -/

namespace BinaryOp

/-- The operators that ask for the order of their operands. -/
def orderings : List BinaryOp :=
  [lt, le, gt, ge]

/-- They differ only in what they read off the ordering. -/
theorem apply_of_mem_orderings {op : BinaryOp} (member : op ∈ orderings) :
    ∃ reading : Ordering → Bool, ∀ a b,
      op.apply a b = (Value.order op a b).map fun o => .bool (reading o) := by
  simp only [orderings, List.mem_cons, List.not_mem_nil, or_false] at member
  rcases member with rfl | rfl | rfl | rfl
  · exact ⟨fun o => o == .lt, fun a b => rfl⟩
  · exact ⟨fun o => o != .gt, fun a b => rfl⟩
  · exact ⟨fun o => o == .gt, fun a b => rfl⟩
  · exact ⟨fun o => o != .lt, fun a b => rfl⟩

/-- **Coherence.** For any two values,

* the four ordering operators fail exactly where the operands are not two numbers or two strings,
  and then with a type mismatch; they never find a number that is not finite;
* where they do not fail, exactly one of less, equal and greater holds; less-or-equal is the
  opposite of greater, greater-or-equal that of less, and less is greater from the other side;
* equal and not-equal never fail and are opposites, equality does not depend on the side, and every
  value equals itself. -/
theorem comparisons_cohere (a b : Value) :
    (∀ op ∈ orderings,
      ((∃ holds : Bool, op.apply a b = .ok (.bool holds)) ↔ a.Comparable b) ∧
      (¬ a.Comparable b → op.apply a b =
        .error (.typeMismatch op.symbol "two numbers or two strings"
          (a.typeName ++ " and " ++ b.typeName))) ∧
      ∀ operation, op.apply a b ≠ .error (.nonFiniteNumber operation)) ∧
    (a.Comparable b → ∃ less equal greater : Bool,
      lt.apply a b = .ok (.bool less) ∧ eq.apply a b = .ok (.bool equal) ∧
      gt.apply a b = .ok (.bool greater) ∧ [less, equal, greater].count true = 1 ∧
      le.apply a b = .ok (.bool !greater) ∧ ge.apply a b = .ok (.bool !less) ∧
      gt.apply b a = .ok (.bool less)) ∧
    (∃ equal : Bool, eq.apply a b = .ok (.bool equal) ∧ ne.apply a b = .ok (.bool !equal) ∧
      eq.apply b a = .ok (.bool equal)) ∧
    eq.apply a a = .ok (.bool true) := by
  refine ⟨?_, ?_, ⟨a.equals b, rfl, rfl, ?_⟩, ?_⟩
  · intro op member
    rcases apply_of_mem_orderings member with ⟨reading, applied⟩
    have mismatch (refused : ¬ a.Comparable b) :
        op.apply a b = .error (.typeMismatch op.symbol "two numbers or two strings"
          (a.typeName ++ " and " ++ b.typeName)) := by
      rw [applied, Value.order_of_not_comparable refused]
      rfl
    have success (comparable : a.Comparable b) :
        ∃ holds : Bool, op.apply a b = .ok (.bool holds) := by
      rcases Value.exists_ordering comparable with ⟨o, forth, -, -⟩
      exact ⟨reading o, by rw [applied, forth]; rfl⟩
    refine ⟨⟨?_, success⟩, mismatch, ?_⟩
    · rintro ⟨holds, value⟩
      refine Classical.byContradiction fun refused => ?_
      rw [mismatch refused] at value
      cases value
    · intro operation failed
      by_cases comparable : a.Comparable b
      · rcases success comparable with ⟨holds, value⟩
        rw [value] at failed
        cases failed
      · rw [mismatch comparable] at failed
        cases failed
  · intro comparable
    rcases Value.exists_ordering comparable with ⟨o, forth, back, equal⟩
    refine ⟨o == .lt, o == .eq, o == .gt, ?_⟩
    -- Everything is read off the ordering now, which has three values.
    simp only [apply, forth, back, equal, Except.map]
    cases o with
    | lt => exact ⟨trivial, trivial, trivial, rfl, rfl, rfl, rfl⟩
    | eq => exact ⟨trivial, trivial, trivial, rfl, rfl, rfl, rfl⟩
    | gt => exact ⟨trivial, trivial, trivial, rfl, rfl, rfl, rfl⟩
  · simp only [apply, Value.equals_comm b a]
  · simp only [apply, Value.equals_refl a]

/-- The greatest integer of a word. -/
def greatestWord : WordInt :=
  ⟨2 ^ 64 - 1, by decide, by decide⟩

/-- The greatest integer is equal to the floating-point number next to it, so that it is at most
that number and not below it; a null is not below anything. -/
theorem comparisons_cohere_greatest :
    Value.Comparable (.number (.int greatestWord))
        (.number (.float (Binary64.ofWordInt greatestWord))) ∧
      lt.apply (.number (.int greatestWord))
        (.number (.float (Binary64.ofWordInt greatestWord))) = .ok (.bool false) ∧
      le.apply (.number (.int greatestWord))
        (.number (.float (Binary64.ofWordInt greatestWord))) = .ok (.bool true) ∧
      lt ∈ orderings ∧ ¬ Value.Comparable .null (.string "") ∧
      lt.apply .null (.string "") =
        .error (.typeMismatch "<" "two numbers or two strings" "null and string") := by
  have comparable : Value.Comparable (.number (.int greatestWord))
      (.number (.float (Binary64.ofWordInt greatestWord))) := .numbers _ _
  have first : lt ∈ orderings := List.mem_cons_self
  have apart : ¬ Value.Comparable .null (.string "") := nofun
  rcases comparisons_cohere (.number (.int greatestWord))
    (.number (.float (Binary64.ofWordInt greatestWord))) with ⟨-, related, -, -⟩
  rcases related comparable with ⟨less, equal, greater, below, same, -, one, atMost, -, -⟩
  rcases comparisons_cohere .null (.string "") with ⟨ordered, -, -, -⟩
  -- Both become one floating-point number, and of the three relations no other can hold then.
  have equal' : equal = true := by
    have rounded : eq.apply (.number (.int greatestWord))
        (.number (.float (Binary64.ofWordInt greatestWord))) = .ok (.bool true) :=
      congrArg (fun b => Except.ok (Value.bool b)) (beq_self_eq_true _)
    rw [same] at rounded
    cases rounded
    rfl
  rw [equal'] at one
  have others : less = false ∧ greater = false := by
    cases less <;> cases greater <;> simp_all
  rw [others.1] at below
  rw [others.2] at atMost
  exact ⟨comparable, below, atMost, first, apart, (ordered lt first).2.1 apart⟩

end BinaryOp
end InvocationRouting
