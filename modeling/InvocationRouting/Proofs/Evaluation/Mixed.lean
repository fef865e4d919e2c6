import InvocationRouting.Proofs.Evaluation.Comparison
import InvocationRouting.Proofs.Number.Nearest

/-!
# Proofs.Evaluation.Mixed — how far numbers compare by their values

Two integers are compared exactly, and so are two floating-point numbers. Of an integer and a
floating-point number, the integer is rounded first, so that different values may compare equal.
An order is never turned round by this, but equality and order are not transitive: two integers
may both equal one floating-point number without being equal.

* `Number.Blurs` : different values that compare equal;
* `Number.against` : what a number is compared by;
* `comparisons_round` : comparison is by value but for blurred pairs, and fails to be transitive
  only from an integer to an integer by way of a floating-point number;
* `equality_not_transitive` : where it does fail.
-/

namespace InvocationRouting
namespace Number

/-- Is the number of the integer kind? -/
def isInt : Number → Bool
  | int _ => true
  | float _ => false

/-- An integer and a floating-point number of another value, to which the integer is rounded. -/
structure Blurs (m n : Number) : Prop where
  kinds : m.isInt ≠ n.isInt
  apart : m.units ≠ n.units
  rounded : m.toBinary64.units = n.toBinary64.units

/-- What the first number counts for in a comparison with the second. Only two integers are taken as
they are. -/
def against (m n : Number) : Int :=
  if m.isInt && n.isInt then m.units else m.toBinary64.units

variable {l m n : Number}

theorem against_of_int (ints : m.isInt = true ∧ n.isInt = true) : m.against n = m.units := by
  simp only [against, ints, Bool.and_self, if_true]

theorem against_of_float (float : m.isInt = false ∨ n.isInt = false) :
    m.against n = m.toBinary64.units := by
  have notBoth : (m.isInt && n.isInt) = false := by
    rcases float with first | second
    · simp only [first, Bool.false_and]
    · simp only [second, Bool.and_false]
  simp only [against, notBoth, Bool.false_eq_true, if_false]

/-- The two ways to compare. -/
theorem int_or_float (m n : Number) :
    (m.isInt = true ∧ n.isInt = true) ∨ (m.isInt = false ∨ n.isInt = false) := by
  cases m.isInt <;> cases n.isInt <;> simp

/-! ## One pair -/

theorem compares_int (i j : WordInt) :
    (int i).order? (int j) = some (compare (int i).units (int j).units) ∧
      (int i).sameValue (int j) = ((int i).units == (int j).units) := by
  have one : (0 : Int) < Binary64.unitsPerOne := Int.natCast_pos.2 Binary64.unitsPerOne_pos
  have less : (int i).units < (int j).units ↔ i.val < j.val := Int.mul_lt_mul_right one
  have equal : (int i).units = (int j).units ↔ i.val = j.val :=
    Int.mul_eq_mul_right_iff (Int.ne_of_gt one)
  constructor
  · simp only [order?, compare, compareOfLessAndEq, less, equal]
  · rw [Bool.eq_iff_iff, beq_iff_eq, equal]
    exact beq_iff_eq

/-- One comparison of exact integers stands behind order and equality. -/
theorem compares (m n : Number) :
    m.order? n = some (compare (m.against n) (n.against m)) ∧
      m.sameValue n = (m.against n == n.against m) := by
  have order : m.reading.order? n.reading =
      some (compare m.toBinary64.units n.toBinary64.units) := by
    rw [m.reading_eq, n.reading_eq]
    rfl
  rcases int_or_float m n with ints | float
  · rw [against_of_int ints, against_of_int ints.symm]
    cases m with
    | int i =>
        cases n with
        | int j => exact compares_int i j
        | float y => cases ints.2
    | float x => cases ints.1
  · rw [against_of_float float, against_of_float float.symm]
    cases m with
    | int i =>
        cases n with
        | int j => simp [isInt] at float
        | float y => exact ⟨order, rfl⟩
    | float x => cases n <;> exact ⟨order, rfl⟩

/-- Whichever way two numbers are compared, their rounded values come in the same order. -/
theorem rounded_le_of_against_le (h : m.against n ≤ n.against m) :
    m.toBinary64.units ≤ n.toBinary64.units := by
  rcases int_or_float m n with ints | float
  · rw [against_of_int ints, against_of_int ints.symm] at h
    exact toBinary64_mono h
  · rwa [against_of_float float, against_of_float float.symm] at h

/-- A floating-point number stays what it is, so that only an integer can be blurred. -/
theorem blurs_of_rounded (float : m.isInt = false ∨ n.isInt = false) (apart : m.units ≠ n.units)
    (rounded : m.toBinary64.units = n.toBinary64.units) : m.Blurs n := by
  refine ⟨?_, apart, rounded⟩
  cases m with
  | int i =>
      cases n with
      | int j => simp [isInt] at float
      | float y => exact Bool.noConfusion
  | float x =>
      cases n with
      | int j => exact Bool.noConfusion
      | float y => exact absurd rounded apart

/-- Exact values are ordered as the numbers are compared, but for blurred pairs. -/
theorem against_le_iff : m.against n ≤ n.against m ↔ m.units ≤ n.units ∨ m.Blurs n := by
  rcases int_or_float m n with ints | float
  · rw [against_of_int ints, against_of_int ints.symm]
    have sharp : ¬ m.Blurs n := fun blurs => blurs.kinds (ints.1.trans ints.2.symm)
    exact (or_iff_left sharp).symm
  · rw [against_of_float float, against_of_float float.symm]
    constructor
    · intro le
      rcases Int.lt_or_le n.units m.units with turned | kept
      · -- The order of the exact values cannot be turned round, only lost.
        have back := toBinary64_mono (Int.le_of_lt turned)
        have rounded := Int.le_antisymm le back
        exact .inr (blurs_of_rounded float (Int.ne_of_gt turned) rounded)
      · exact .inl kept
    · rintro (le | blurs)
      · exact toBinary64_mono le
      · exact Int.le_of_eq blurs.rounded

theorem Blurs.symm (h : m.Blurs n) : n.Blurs m :=
  ⟨h.kinds.symm, h.apart.symm, h.rounded.symm⟩

theorem against_eq_iff : m.against n = n.against m ↔ m.units = n.units ∨ m.Blurs n := by
  constructor
  · intro same
    rcases against_le_iff.1 (Int.le_of_eq same) with le | blurs
    · rcases against_le_iff.1 (Int.le_of_eq same.symm) with back | blurs
      · exact .inl (Int.le_antisymm le back)
      · exact .inr blurs.symm
    · exact .inr blurs
  · rintro (same | blurs)
    · have le := against_le_iff.2 (.inl (Int.le_of_eq same))
      have back := against_le_iff.2 (.inl (Int.le_of_eq same.symm))
      exact Int.le_antisymm le back
    · have le := against_le_iff.2 (.inr blurs)
      have back := against_le_iff.2 (.inr blurs.symm)
      exact Int.le_antisymm le back

/-- Integers of at most 53 binary digits, and the next one, are not rounded. -/
theorem not_blurs_of_small {i : WordInt} (small : i.val.natAbs ≤ 2 ^ 53) : ¬ (int i).Blurs n := by
  intro blurs
  have kept : (int i).toBinary64.units = (int i).units := by
    rcases Nat.lt_or_eq_of_le small with short | next
    · have plain : i.val.natAbs = i.val.natAbs * 2 ^ 0 := (Nat.mul_one _).symm
      exact Binary64.units_ofWordInt_of_short plain short
    · have power : i.val.natAbs = 1 * 2 ^ 53 := next.trans (Nat.one_mul _).symm
      exact Binary64.units_ofWordInt_of_short power (by decide)
  have float : n.toBinary64.units = n.units := by
    cases n with
    | int j => exact absurd rfl blurs.kinds
    | float y => rfl
  exact blurs.apart (kept.symm.trans (blurs.rounded.trans float))

/-! ## Three numbers -/

/-- The order goes on from the first to the last unless both are integers and the one between them
is not. -/
theorem against_le_trans (first : l.against m ≤ m.against l) (second : m.against n ≤ n.against m) :
    l.against n ≤ n.against l ↔
      ¬ (l.isInt = true ∧ m.isInt = false ∧ n.isInt = true ∧ n.units < l.units) := by
  rcases int_or_float l n with ints | float
  · rw [against_of_int ints, against_of_int ints.symm]
    cases between : m.isInt with
    | true =>
        -- All three are integers.
        rw [against_of_int ⟨ints.1, between⟩, against_of_int ⟨between, ints.1⟩] at first
        rw [against_of_int ⟨between, ints.2⟩, against_of_int ⟨ints.2, between⟩] at second
        have le := Int.le_trans first second
        exact iff_of_true le fun broken => Bool.noConfusion broken.2.1
    | false =>
        constructor
        · intro le broken
          exact Int.not_lt.2 le broken.2.2.2
        · intro whole
          refine Int.not_lt.1 fun less => whole ⟨ints.1, rfl, ints.2, less⟩
  · rw [against_of_float float, against_of_float float.symm]
    have le := Int.le_trans (rounded_le_of_against_le first) (rounded_le_of_against_le second)
    refine iff_of_true le ?_
    rintro ⟨int, -, int', -⟩
    simp [int, int'] at float

end Number

/-! ## Operators -/

namespace BinaryOp

open Number

/-- The operator answers true for two numbers. -/
def Holds (op : BinaryOp) (m n : Number) : Prop :=
  op.apply (.number m) (.number n) = .ok (.bool true)

variable {m n : Number}

theorem holds_eq_iff : eq.Holds m n ↔ m.against n = n.against m := by
  have answer : eq.apply (.number m) (.number n) = .ok (.bool (m.sameValue n)) := rfl
  rw [Holds, answer, (m.compares n).2]
  simp

theorem holds_le_iff : le.Holds m n ↔ m.against n ≤ n.against m := by
  have answer : le.apply (.number m) (.number n) =
      .ok (.bool (compare (m.against n) (n.against m) != .gt)) := by
    rw [apply, Value.order, (m.compares n).1]
    rfl
  rw [Holds, answer]
  simp [compare_gt_iff_gt]

theorem holds_lt_iff : lt.Holds m n ↔ m.against n < n.against m := by
  have answer : lt.apply (.number m) (.number n) =
      .ok (.bool (compare (m.against n) (n.against m) == .lt)) := by
    rw [apply, Value.order, (m.compares n).1]
    rfl
  rw [Holds, answer]
  simp [compare_lt_iff_lt]

/-- **By value, after rounding.** Of all numbers,

* each is rounded to the nearest floating-point number, a tie going to the even significand;
* two are ordered and equated by their exact values, but for an integer and a floating-point number
  of another value that it is rounded to: these are equal;
* equality and order go on from the first of three numbers to the last, unless these are integers
  that are unequal, or the other way round, and the one between them is a floating-point number;
* integers up to `2 ^ 53` are always compared by their values. -/
theorem comparisons_round (l m n : Number) :
    l.toBinary64.IsNearest l.units ∧
    (eq.Holds l m ↔ l.units = m.units ∨ l.Blurs m) ∧
    (le.Holds l m ↔ l.units ≤ m.units ∨ l.Blurs m) ∧
    (lt.Holds l m ↔ l.units < m.units ∧ ¬ l.Blurs m) ∧
    (eq.Holds l m → eq.Holds m n →
      (eq.Holds l n ↔
        ¬ (l.isInt = true ∧ m.isInt = false ∧ n.isInt = true ∧ l.units ≠ n.units))) ∧
    (le.Holds l m → le.Holds m n →
      (le.Holds l n ↔
        ¬ (l.isInt = true ∧ m.isInt = false ∧ n.isInt = true ∧ n.units < l.units))) ∧
    ∀ i, l = .int i → i.val.natAbs ≤ 2 ^ 53 → ¬ l.Blurs m := by
  simp only [holds_eq_iff, holds_le_iff, holds_lt_iff]
  refine ⟨l.toBinary64_isNearest, against_eq_iff, against_le_iff, ?_, ?_, against_le_trans, ?_⟩
  · -- Less is the opposite of at most from the other side.
    have opposite : m.against l ≤ l.against m ↔ m.units ≤ l.units ∨ m.Blurs l := against_le_iff
    have symmetric : m.Blurs l ↔ l.Blurs m := ⟨Blurs.symm, Blurs.symm⟩
    rw [← Int.not_le, opposite, symmetric, not_or, Int.not_le]
  · intro first second
    have forth := against_le_trans (Int.le_of_eq first) (Int.le_of_eq second)
    have back := against_le_trans (Int.le_of_eq second.symm) (Int.le_of_eq first.symm)
    constructor
    · rintro same ⟨one, way, other, apart⟩
      rcases Int.lt_or_gt_of_ne apart with less | greater
      · exact back.1 (Int.le_of_eq same.symm) ⟨other, way, one, less⟩
      · exact forth.1 (Int.le_of_eq same) ⟨one, way, other, greater⟩
    · intro whole
      have le : l.against n ≤ n.against l := by
        refine forth.2 ?_
        rintro ⟨one, way, other, less⟩
        exact whole ⟨one, way, other, Int.ne_of_gt less⟩
      have ge : n.against l ≤ l.against n := by
        refine back.2 ?_
        rintro ⟨other, way, one, less⟩
        exact whole ⟨one, way, other, Int.ne_of_lt less⟩
      exact Int.le_antisymm le ge
  · rintro i rfl small
    exact not_blurs_of_small small

/-- The greatest integer up to which none is rounded. -/
def lastExact : WordInt :=
  ⟨2 ^ 53, by decide, by decide⟩

/-- The next integer, which lies half-way between two floating-point numbers. -/
def firstRounded : WordInt :=
  ⟨2 ^ 53 + 1, by decide, by decide⟩

/-- The floating-point number of the same value as `lastExact`, with the least significand. -/
def lastExactFloat : Binary64 :=
  ⟨false, 4503599627370496, 1075, by decide, by decide, .inr (by decide)⟩

/-- Both integers equal the floating-point number, but not each other; the greater one is at most
the floating-point number, which is at most the other one. -/
theorem equality_not_transitive :
    eq.Holds (.int lastExact) (.float lastExactFloat) ∧
      eq.Holds (.float lastExactFloat) (.int firstRounded) ∧
      ¬ eq.Holds (.int lastExact) (.int firstRounded) ∧
      le.Holds (.int firstRounded) (.float lastExactFloat) ∧
      le.Holds (.float lastExactFloat) (.int lastExact) ∧
      ¬ le.Holds (.int firstRounded) (.int lastExact) := by
  simp only [holds_eq_iff, holds_le_iff]
  decide +kernel

/-- From the greater integer the way breaks off at the other one; to the floating-point number
itself it does not, although the values differ. -/
theorem comparisons_round_detour :
    (le.Holds (.int firstRounded) (.float lastExactFloat) ∧
      le.Holds (.float lastExactFloat) (.int lastExact) ∧
      ¬ le.Holds (.int firstRounded) (.int lastExact)) ∧
    (eq.Holds (.int firstRounded) (.float lastExactFloat) ∧
      eq.Holds (.float lastExactFloat) (.float lastExactFloat) ∧
      eq.Holds (.int firstRounded) (.float lastExactFloat)) ∧
    lastExact.val.natAbs ≤ 2 ^ 53 ∧ ¬ (Number.int lastExact).Blurs (.float lastExactFloat) := by
  have first : le.Holds (.int firstRounded) (.float lastExactFloat) := by
    rw [holds_le_iff]
    decide +kernel
  have second : le.Holds (.float lastExactFloat) (.int lastExact) := by
    rw [holds_le_iff]
    decide +kernel
  have equal : eq.Holds (.int firstRounded) (.float lastExactFloat) := by
    rw [holds_eq_iff]
    decide +kernel
  have itself : eq.Holds (.float lastExactFloat) (.float lastExactFloat) := by
    rw [holds_eq_iff]
  have turned : (Number.int lastExact).units < (Number.int firstRounded).units := by decide +kernel
  have small : lastExact.val.natAbs ≤ 2 ^ 53 := by decide
  rcases comparisons_round (.int firstRounded) (.float lastExactFloat) (.int lastExact) with
    ⟨-, -, -, -, -, order, -⟩
  rcases comparisons_round (.int firstRounded) (.float lastExactFloat) (.float lastExactFloat) with
    ⟨-, -, -, -, equality, -, -⟩
  rcases comparisons_round (.int lastExact) (.float lastExactFloat) (.int lastExact) with
    ⟨-, -, -, -, -, -, exact⟩
  refine ⟨⟨first, second, ?_⟩, ⟨equal, itself, ?_⟩, small, exact lastExact rfl small⟩
  · intro le
    exact (order first second).1 le ⟨rfl, rfl, rfl, turned⟩
  · exact (equality equal itself).2 fun broken => Bool.noConfusion broken.2.2.1

end BinaryOp
end InvocationRouting
