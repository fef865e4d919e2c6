import InvocationRouting.Number.Basic
import Mathlib.Tactic.Ring

/-!
# Proofs.Number.Nearest — rounding goes to the nearest number

`Binary64.ofRatio` shifts a ratio until its integral part fits a significand, rounds it to a natural
number there, and shifts back. No floating-point number is nearer to the ratio than the outcome,
because all of them lie on the grid that the shift stands for or are too small to matter.

* `roundDiv_nearest`, `roundDiv_even_of_tie` : rounding to a multiple of the denominator;
* `Binary64.IsNearest` : the nearest floating-point number to a number of units, a tie going to the
  even significand;
* `Number.toBinary64_isNearest` : this is what a number is rounded to;
* `Number.toBinary64_mono` : rounding keeps the order of values, but not their distinctness;
* `Binary64.units_ofWordInt_of_short` : what has few significant digits is not changed.
-/

namespace InvocationRouting

/-- How far two natural numbers are apart. -/
def gap (a b : Nat) : Nat :=
  ((a : Int) - b).natAbs

/-! ## Multiples of the denominator -/

theorem roundDiv_cases (num den : Nat) :
    (roundDiv num den = num / den ∧ 2 * (num % den) ≤ den) ∨
      (roundDiv num den = num / den + 1 ∧ den ≤ 2 * (num % den)) := by
  simp only [roundDiv]
  split
  · exact .inl ⟨rfl, by omega⟩
  · split
    · exact .inr ⟨rfl, by omega⟩
    · split
      · exact .inl ⟨rfl, by omega⟩
      · exact .inr ⟨rfl, by omega⟩

/-- No multiple of the denominator is nearer to the numerator. -/
theorem roundDiv_nearest (num k : Nat) {den : Nat} (pos : 0 < den) :
    gap (roundDiv num den * den) num ≤ gap (k * den) num := by
  have whole : num / den * den + num % den = num := Nat.div_add_mod' num den
  have rest : num % den < den := Nat.mod_lt num pos
  have next : (num / den + 1) * den = num / den * den + den := Nat.succ_mul _ _
  -- A multiple lies on one side of the two neighbours or on the other.
  have side : k * den ≤ num / den * den ∨ (num / den + 1) * den ≤ k * den := by
    rcases Nat.lt_or_ge (num / den) k with above | below
    · exact .inr (Nat.mul_le_mul_right den above)
    · exact .inl (Nat.mul_le_mul_right den below)
  unfold gap
  rcases roundDiv_cases num den with ⟨down, low⟩ | ⟨up, high⟩
  · rw [down]
    omega
  · rw [up]
    omega

/-- Where another multiple is as near, the even one has been taken. -/
theorem roundDiv_even_of_tie {num k den : Nat} (pos : 0 < den) (other : k ≠ roundDiv num den)
    (tie : gap (k * den) num = gap (roundDiv num den * den) num) : roundDiv num den % 2 = 0 := by
  have whole : num / den * den + num % den = num := Nat.div_add_mod' num den
  have rest : num % den < den := Nat.mod_lt num pos
  have next : (num / den + 1) * den = num / den * den + den := Nat.succ_mul _ _
  -- Only the two neighbours can be equally near, and then the rest is half of the denominator.
  have half : 2 * (num % den) = den := by
    unfold gap at tie
    rcases roundDiv_cases num den with ⟨down, low⟩ | ⟨up, high⟩
    · rw [down] at tie other
      rcases Nat.lt_or_gt_of_ne other with below | above
      · have far : (k + 1) * den ≤ num / den * den := Nat.mul_le_mul_right den below
        have apart : (k + 1) * den = k * den + den := Nat.succ_mul _ _
        omega
      · have far : (num / den + 1) * den ≤ k * den := Nat.mul_le_mul_right den above
        omega
    · rw [up] at tie other
      rcases Nat.lt_or_gt_of_ne other with below | above
      · have far : k * den ≤ num / den * den :=
          Nat.mul_le_mul_right den (Nat.le_of_lt_succ below)
        omega
      · have far : (num / den + 1 + 1) * den ≤ k * den := Nat.mul_le_mul_right den above
        have apart : (num / den + 1 + 1) * den = (num / den + 1) * den + den := Nat.succ_mul _ _
        omega
  simp only [roundDiv, half, Nat.lt_irrefl, if_false]
  split
  · assumption
  · omega

theorem roundDiv_mul_of_dvd {num den : Nat} (pos : 0 < den) (divides : den ∣ num) :
    roundDiv num den * den = num := by
  have exact : num % den = 0 := Nat.mod_eq_zero_of_dvd divides
  have floor : roundDiv num den = num / den := by
    simp only [roundDiv, exact]
    exact if_pos pos
  rw [floor]
  exact Nat.div_mul_cancel divides

namespace Binary64

/-! ## Magnitudes -/

/-- A number is on the grid of a shift, or below all of that grid that has full significands. -/
theorem magnitude_on_grid (x : Binary64) (shift : Nat) :
    (∃ k, x.magnitude = k * 2 ^ shift) ∨ (shift ≠ 0 ∧ x.magnitude < 2 ^ 52 * 2 ^ shift) := by
  rcases Nat.lt_or_ge x.exponent shift with finer | coarser
  · refine .inr ⟨Nat.ne_of_gt (Nat.zero_lt_of_lt finer), ?_⟩
    calc
      x.magnitude < 2 ^ 53 * 2 ^ x.exponent :=
        Nat.mul_lt_mul_of_pos_right x.significand_lt (Nat.two_pow_pos _)
      _ = 2 ^ 52 * 2 ^ (x.exponent + 1) := by rw [Nat.pow_succ 2 x.exponent]; ring
      _ ≤ 2 ^ 52 * 2 ^ shift :=
        Nat.mul_le_mul_left _ (Nat.pow_le_pow_right (by decide) finer)
  · refine .inl ⟨x.significand * 2 ^ (x.exponent - shift), ?_⟩
    have powers : (2 : Nat) ^ (x.exponent - shift) * 2 ^ shift = 2 ^ x.exponent := by
      rw [← Nat.pow_add, Nat.sub_add_cancel coarser]
    calc
      x.magnitude = x.significand * 2 ^ x.exponent := rfl
      _ = x.significand * 2 ^ (x.exponent - shift) * 2 ^ shift := by rw [Nat.mul_assoc, powers]

/-- The significand that is rounded to is at most one too large. -/
theorem roundDiv_excess_le (num den : Nat) :
    roundDiv num (den * 2 ^ excess num den) ≤ 2 ^ 53 := by
  have digits : bitLength (num / den) ≤ 53 + excess num den := by
    unfold excess
    omega
  have small : num / (den * 2 ^ excess num den) < 2 ^ 53 := by
    have bound : num / den < 2 ^ 53 * 2 ^ excess num den := by
      rw [← Nat.pow_add]
      exact bitLength_le_iff.1 digits
    rw [← Nat.div_div_eq_div_mul]
    exact (Nat.div_lt_iff_lt_mul (Nat.two_pow_pos _)).2 bound
  exact Nat.le_trans (roundDiv_le_div_succ _ _) small

/-- What `ofRatio` answers: a point of the grid, with an even significand if the point is even. -/
theorem ofRatio_eq_some {negative : Bool} {num den : Nat} {x : Binary64}
    (h : ofRatio negative num den = some x) :
    x.negative = negative ∧
      x.magnitude =
        roundDiv num (den * 2 ^ excess num den) * 2 ^ excess num den ∧
      (roundDiv num (den * 2 ^ excess num den) % 2 = 0 → x.significand % 2 = 0) := by
  have most := roundDiv_excess_le num den
  simp only [ofRatio] at h
  split at h
  · next small =>
      split at h
      · cases h
        exact ⟨rfl, rfl, fun even => even⟩
      · cases h
  · next large =>
      -- The significand has overflowed to `2 ^ 53`, and the digit moves to the exponent.
      have full : roundDiv num (den * 2 ^ excess num den) = 2 ^ 53 := by omega
      split at h
      · cases h
        have even : (2 : Nat) ^ 52 % 2 = 0 := by decide
        have carried : (2 : Nat) ^ 52 * 2 ^ (excess num den + 1) = 2 ^ 53 * 2 ^ excess num den := by
          ring
        refine ⟨rfl, ?_, fun _ => even⟩
        rw [full]
        exact carried
      · cases h

/-- What is rounded reaches the full significands of its grid. -/
theorem le_of_excess {num den : Nat} (shifted : excess num den ≠ 0) :
    2 ^ 52 * (den * 2 ^ excess num den) ≤ num := by
  have digits : 52 + excess num den < bitLength (num / den) := by
    unfold excess at *
    omega
  have large : 2 ^ (52 + excess num den) ≤ num / den := two_pow_le_of_lt_bitLength digits
  calc
    2 ^ 52 * (den * 2 ^ excess num den) = 2 ^ (52 + excess num den) * den := by
      rw [Nat.pow_add]; ring
    _ ≤ num / den * den := Nat.mul_le_mul_right den large
    _ ≤ num := Nat.div_mul_le_self num den

/-- No magnitude is nearer to the ratio, and none that differs is as near unless the significand is
even. -/
theorem ofRatio_nearest {negative : Bool} {num den : Nat} {x : Binary64} (pos : 0 < den)
    (h : ofRatio negative num den = some x) (y : Binary64) :
    gap (x.magnitude * den) num ≤ gap (y.magnitude * den) num ∧
      (gap (y.magnitude * den) num = gap (x.magnitude * den) num → y.magnitude ≠ x.magnitude →
        x.significand % 2 = 0) := by
  rcases ofRatio_eq_some h with ⟨-, magnitude, even⟩
  have step : 0 < den * 2 ^ excess num den := Nat.mul_pos pos (Nat.two_pow_pos _)
  have point (k : Nat) : k * 2 ^ excess num den * den = k * (den * 2 ^ excess num den) := by ring
  rw [magnitude, point]
  rcases y.magnitude_on_grid (excess num den) with ⟨k, onGrid⟩ | ⟨shifted, below⟩
  · rw [onGrid, point]
    refine ⟨roundDiv_nearest num k step, ?_⟩
    intro tie apart
    have other : k ≠ roundDiv num (den * 2 ^ excess num den) := fun same => apart (by rw [same])
    exact even (roundDiv_even_of_tie step other tie)
  · -- The least full significand lies between the other number and the ratio.
    have reached := le_of_excess shifted
    have under : y.magnitude * den < 2 ^ 52 * (den * 2 ^ excess num den) := by
      rw [← point]
      exact Nat.mul_lt_mul_of_pos_right below pos
    have nearer := roundDiv_nearest num (2 ^ 52) step
    unfold gap at *
    omega

/-! ## The nearest number -/

/-- No floating-point number is nearer to so many units, and where another one is as near, the
significand is even. -/
structure IsNearest (x : Binary64) (target : Int) : Prop where
  nearest : ∀ y : Binary64, (x.units - target).natAbs ≤ (y.units - target).natAbs
  even : ∀ y : Binary64, y.units ≠ x.units →
    (y.units - target).natAbs = (x.units - target).natAbs → x.significand % 2 = 0

theorem isNearest_self (x : Binary64) : x.IsNearest x.units where
  nearest y := by omega
  even y apart tie := by omega

/-- The value is the magnitude with its sign. -/
theorem units_eq (x : Binary64) :
    (x.negative = true ∧ x.units = -(x.magnitude : Int)) ∨
      (x.negative = false ∧ x.units = (x.magnitude : Int)) := by
  cases sign : x.negative with
  | true => exact .inl ⟨rfl, by simp [units, sign]⟩
  | false => exact .inr ⟨rfl, by simp [units, sign]⟩

/-- Numbers of the other sign are farther away than zero, so that it is enough to compare
magnitudes. -/
theorem ofInt?_isNearest {i : Int} {x : Binary64} (h : ofInt? i = some x) :
    x.IsNearest (i * unitsPerOne) := by
  have sign : x.negative = decide (i < 0) := (ofRatio_eq_some h).1
  have size : (i * unitsPerOne).natAbs = i.natAbs * unitsPerOne := by
    rw [Int.natAbs_mul, Int.natAbs_natCast]
  have target : (i < 0 ∧ i * unitsPerOne = -((i.natAbs * unitsPerOne : Nat) : Int)) ∨
      (0 ≤ i ∧ i * unitsPerOne = ((i.natAbs * unitsPerOne : Nat) : Int)) := by
    rcases Int.lt_or_le i 0 with minus | plus
    · have below : i * unitsPerOne ≤ 0 :=
        Int.mul_nonpos_of_nonpos_of_nonneg (Int.le_of_lt minus) (Int.natCast_nonneg _)
      exact .inl ⟨minus, by omega⟩
    · have above : 0 ≤ i * (unitsPerOne : Int) := Int.mul_nonneg plus (Int.natCast_nonneg _)
      exact .inr ⟨plus, by omega⟩
  have among (y : Binary64) := ofRatio_nearest Nat.one_pos h y
  have origin := (among (zero false)).1
  have empty : (zero false).magnitude = 0 := rfl
  simp only [Nat.mul_one, gap] at among
  simp only [Nat.mul_one, gap, empty] at origin
  have own := x.units_eq
  rw [sign] at own
  simp only [decide_eq_true_eq, decide_eq_false_iff_not] at own
  constructor
  case nearest =>
    intro y
    have other := y.units_eq
    have best := (among y).1
    omega
  case even =>
    intro y apart tie
    have other := y.units_eq
    have best := (among y).1
    exact (among y).2 (by omega) (by omega)

/-- What is nearest to more is not less. -/
theorem IsNearest.units_le {x y : Binary64} {s t : Int} (first : x.IsNearest s)
    (second : y.IsNearest t) (less : s < t) : x.units ≤ y.units := by
  have forth := first.nearest y
  have back := second.nearest x
  omega

/-- What is a floating-point number itself is rounded to no other value. -/
theorem IsNearest.units_eq {x y : Binary64} (h : x.IsNearest y.units) : x.units = y.units := by
  have near := h.nearest y
  omega

/-- What is written with few binary digits and zeros behind them is on the grid already. -/
theorem magnitude_of_short {negative : Bool} {num digits zeros : Nat} {x : Binary64}
    (h : ofRatio negative num 1 = some x) (value : num = digits * 2 ^ zeros)
    (short : digits < 2 ^ 53) : x.magnitude = num := by
  have bound : num < 2 ^ (53 + zeros) := by
    rw [value, Nat.pow_add]
    exact Nat.mul_lt_mul_of_pos_right short (Nat.two_pow_pos _)
  have shift : excess num 1 ≤ zeros := by
    have bits := bitLength_le_iff.2 bound
    unfold excess
    rw [Nat.div_one]
    omega
  have divides : 2 ^ excess num 1 ∣ num := by
    have zerosDivide : 2 ^ zeros ∣ num := Dvd.intro_left digits value.symm
    exact Nat.dvd_trans (Nat.pow_dvd_pow 2 shift) zerosDivide
  have magnitude := (ofRatio_eq_some h).2.1
  rw [magnitude, Nat.one_mul]
  exact roundDiv_mul_of_dvd (Nat.two_pow_pos _) divides

theorem units_ofWordInt_of_short {i : WordInt} {digits zeros : Nat}
    (value : i.val.natAbs = digits * 2 ^ zeros) (short : digits < 2 ^ 53) :
    (ofWordInt i).units = i.val * unitsPerOne := by
  have rounded : ofRatio (i.val < 0) (i.val.natAbs * unitsPerOne) 1 = some (ofWordInt i) :=
    (Option.some_get _).symm
  have sign := (ofRatio_eq_some rounded).1
  have total : i.val.natAbs * unitsPerOne = digits * 2 ^ (zeros + unitBits) := by
    rw [value, Nat.pow_add 2 zeros unitBits]
    exact Nat.mul_assoc _ _ _
  have kept := magnitude_of_short rounded total short
  rcases (ofWordInt i).units_eq with ⟨negative, units⟩ | ⟨positive, units⟩
  · have below : i.val < 0 := of_decide_eq_true (sign.symm.trans negative)
    have opposite : ((i.val.natAbs : Nat) : Int) = -i.val := by omega
    rw [units, kept, Int.natCast_mul, opposite]
    ring
  · have above : ¬ i.val < 0 := of_decide_eq_false (sign.symm.trans positive)
    have same : ((i.val.natAbs : Nat) : Int) = i.val := by omega
    rw [units, kept, Int.natCast_mul, same]

end Binary64

/-! ## Numbers -/

namespace Number

/-- The exact value in units, whatever the kind. -/
def units : Number → Int
  | int i => i.val * Binary64.unitsPerOne
  | float x => x.units

theorem toBinary64_isNearest (n : Number) : n.toBinary64.IsNearest n.units := by
  cases n with
  | int i =>
      have rounded : Binary64.ofInt? i.val = some (Binary64.ofWordInt i) := (Option.some_get _).symm
      exact Binary64.ofInt?_isNearest rounded
  | float x => exact x.isNearest_self

variable {m n : Number}

/-- Numbers of equal values round to equal values, also across the kinds. -/
theorem units_toBinary64_congr (same : m.units = n.units) :
    m.toBinary64.units = n.toBinary64.units := by
  cases m with
  | int i =>
      cases n with
      | int j =>
          have one : (Binary64.unitsPerOne : Int) ≠ 0 :=
            Int.ne_of_gt (Int.natCast_pos.2 Binary64.unitsPerOne_pos)
          have value : i.val = j.val := Int.eq_of_mul_eq_mul_right one same
          have word : some i = some j := by
            rw [← i.ofInt?_val, ← j.ofInt?_val, value]
          cases word
          rfl
      | float y =>
          have near := (int i).toBinary64_isNearest
          rw [same] at near
          exact near.units_eq
  | float x =>
      cases n with
      | int j =>
          have near := (int j).toBinary64_isNearest
          rw [← same] at near
          exact near.units_eq.symm
      | float y => exact same

/-- Rounding keeps the order of values. -/
theorem toBinary64_mono (le : m.units ≤ n.units) : m.toBinary64.units ≤ n.toBinary64.units := by
  rcases Int.lt_or_eq_of_le le with less | same
  · exact m.toBinary64_isNearest.units_le n.toBinary64_isNearest less
  · exact Int.le_of_eq (units_toBinary64_congr same)

end Number
end InvocationRouting
