import InvocationRouting.Number.Binary64
import InvocationRouting.Number.WordInt

/-!
# Rounding — from exact values to floating-point numbers

Every result is computed exactly, as a ratio of natural numbers of units, and then rounded once to
the nearest floating-point number; a tie goes to the even significand, and a result past the
largest number is refused.

- `roundDiv` : the nearest natural number to a ratio;
- `Binary64.ofRatio` : the nearest floating-point number to a ratio of units;
- `Binary64.ofWordInt` : the nearest floating-point number to a word integer, which always exists;
- `Binary64.add`, `sub`, `mul`, `div`, `rem` : arithmetic, `none` when the result is not finite.
-/

namespace InvocationRouting

/-- The natural number nearest to `num / den`; a tie goes to the even neighbour. -/
def roundDiv (num den : Nat) : Nat :=
  let floor := num / den
  let twice := 2 * (num % den)
  if twice < den then floor
  else if den < twice then floor + 1
  else if floor % 2 = 0 then floor else floor + 1

/-- Rounding goes to one of the two neighbours: down here, and up below. -/
theorem div_le_roundDiv (num den : Nat) : num / den ≤ roundDiv num den := by
  simp only [roundDiv]
  split
  · exact Nat.le_refl _
  · split
    · exact Nat.le_succ _
    · split
      · exact Nat.le_refl _
      · exact Nat.le_succ _

theorem roundDiv_le_div_succ (num den : Nat) : roundDiv num den ≤ num / den + 1 := by
  simp only [roundDiv]
  split
  · exact Nat.le_succ _
  · split
    · exact Nat.le_refl _
    · split
      · exact Nat.le_succ _
      · exact Nat.le_refl _

def bitLength (n : Nat) : Nat :=
  if n = 0 then 0 else n.log2 + 1

theorem bitLength_le_iff {n k : Nat} : bitLength n ≤ k ↔ n < 2 ^ k := by
  unfold bitLength
  split
  · next h =>
      subst h
      exact iff_of_true (Nat.zero_le k) (Nat.two_pow_pos k)
  · next h =>
      rw [Nat.succ_le_iff]
      exact Nat.log2_lt h

theorem two_pow_le_of_lt_bitLength {n k : Nat} (h : k < bitLength n) : 2 ^ k ≤ n := by
  rcases Nat.lt_or_ge n (2 ^ k) with lt | le
  · have := bitLength_le_iff.2 lt
    omega
  · exact le

namespace Binary64

/-- How far the integral part of `num / den` exceeds the width of a significand. -/
def excess (num den : Nat) : Nat :=
  bitLength (num / den) - 53

/-- The significand of `num / den` at its excess is large enough to be normalized. -/
theorem two_pow_le_roundDiv {num den : Nat} (h : excess num den ≠ 0) :
    2 ^ 52 ≤ roundDiv num (den * 2 ^ excess num den) := by
  have bits : 52 + excess num den < bitLength (num / den) := by
    unfold excess at *
    omega
  have big := two_pow_le_of_lt_bitLength bits
  refine Nat.le_trans ?_ (div_le_roundDiv _ _)
  rw [← Nat.div_div_eq_div_mul, Nat.le_div_iff_mul_le (Nat.pow_pos (by decide)), ← Nat.pow_add]
  exact big

/-- The floating-point number nearest to `num / den` units with the given sign; a tie goes to the
even significand. A ratio that rounds past the largest number has none. -/
def ofRatio (negative : Bool) (num den : Nat) : Option Binary64 :=
  let shift := excess num den
  let rounded := roundDiv num (den * 2 ^ shift)
  if small : rounded < 2 ^ 53 then
    if fits : shift ≤ 2045 then
      some ⟨negative, rounded, shift, small, fits, by
        by_cases h : shift = 0
        · exact Or.inl h
        · exact Or.inr (two_pow_le_roundDiv h)⟩
    else
      none
  else if fits : shift + 1 ≤ 2045 then
    some ⟨negative, 2 ^ 52, shift + 1, by decide, fits, Or.inr (Nat.le_refl _)⟩
  else
    none

theorem ofRatio_isSome (negative : Bool) {num den bits : Nat} (h : num / den < 2 ^ bits)
    (few : bits ≤ 2097) : (ofRatio negative num den).isSome := by
  have width := bitLength_le_iff.2 h
  have shift : excess num den ≤ 2044 := by
    unfold excess
    omega
  simp only [ofRatio]
  split
  · rw [dif_pos (by omega)]
    rfl
  · rw [dif_pos (by omega)]
    rfl

def ofInt? (i : Int) : Option Binary64 :=
  ofRatio (i < 0) (i.natAbs * unitsPerOne) 1

theorem ofInt?_isSome (i : WordInt) : (ofInt? i.val).isSome := by
  have bound : i.val.natAbs * unitsPerOne / 1 < 2 ^ (64 + unitBits) := by
    rw [Nat.div_one]
    calc
      i.val.natAbs * unitsPerOne < 2 ^ 64 * unitsPerOne :=
        Nat.mul_lt_mul_of_pos_right i.natAbs_lt unitsPerOne_pos
      _ = 2 ^ (64 + unitBits) := by rw [unitsPerOne, Nat.pow_add]
  exact ofRatio_isSome _ bound (by decide)

def ofWordInt (i : WordInt) : Binary64 :=
  (ofInt? i.val).get (ofInt?_isSome i)

/-- The sum, rounded. An exact zero is negative only if both operands are. -/
def add (x y : Binary64) : Option Binary64 :=
  let sum := x.units + y.units
  if sum = 0 then
    some (zero (x.negative && y.negative))
  else
    ofRatio (sum < 0) sum.natAbs 1

def sub (x y : Binary64) : Option Binary64 :=
  add x y.neg

def mul (x y : Binary64) : Option Binary64 :=
  ofRatio (x.negative != y.negative) (x.magnitude * y.magnitude) unitsPerOne

/-- The quotient, rounded; there is none by zero. -/
def div (x y : Binary64) : Option Binary64 :=
  if y.isZero then none
  else ofRatio (x.negative != y.negative) (x.magnitude * unitsPerOne) y.magnitude

/-- The remainder of the division that truncates toward zero, with the sign of the dividend; there
is none by zero. -/
def rem (x y : Binary64) : Option Binary64 :=
  if y.isZero then none
  else ofRatio x.negative (x.magnitude % y.magnitude) 1

end Binary64

end InvocationRouting
