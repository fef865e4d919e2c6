import InvocationRouting.Number.Power

/-!
# Binary64 — finite binary floating-point numbers of 64 bits

A number is a sign, a significand below `2 ^ 53` and an exponent counted from the smallest positive
number: its magnitude is `significand * 2 ^ exponent` units, where the unit is `2 ^ -1074`. Each
number has one such form, so equality of the data tells numbers (and the two zeros) apart, while
`units` gives the mathematical value, exactly and as an integer.

- `Binary64.units` : the value as a number of units;
- `Binary64.sameValue`, `Binary64.order` : comparison of values;
- `Binary64.neg`, `Binary64.zero` : sign change and the two zeros.
-/

namespace InvocationRouting

structure Binary64 where
  negative : Bool
  significand : Nat
  exponent : Nat
  significand_lt : significand < 2 ^ 53
  exponent_le : exponent ≤ 2045
  normalized : exponent = 0 ∨ 2 ^ 52 ≤ significand
  deriving DecidableEq

namespace Binary64

/-- The binary logarithm of the number of units in one. -/
def unitBits : Nat := 1074

def unitsPerOne : Nat := 2 ^ unitBits

def magnitude (x : Binary64) : Nat :=
  x.significand * 2 ^ x.exponent

def units (x : Binary64) : Int :=
  if x.negative then -(x.magnitude : Int) else (x.magnitude : Int)

def zero (negative : Bool) : Binary64 :=
  ⟨negative, 0, 0, by decide, by decide, Or.inl rfl⟩

def isZero (x : Binary64) : Bool :=
  x.significand == 0

def neg (x : Binary64) : Binary64 :=
  { x with negative := !x.negative }

/-- Do the two numbers have one value? The two zeros do. -/
def sameValue (x y : Binary64) : Bool :=
  x.units == y.units

def order (x y : Binary64) : Ordering :=
  compare x.units y.units

theorem unitsPerOne_pos : 0 < unitsPerOne :=
  Nat.two_pow_pos unitBits

end Binary64

end InvocationRouting
