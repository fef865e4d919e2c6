import InvocationRouting.Number.Power

/-!
# WordInt — integers of a machine word

The integers that fit a signed or an unsigned word of 64 bits. Arithmetic happens in signed words of
twice that width; a result is admitted there by `WordInt.wide?`, and back by `WordInt.ofInt?`, or
refused.
-/

namespace InvocationRouting

structure WordInt where
  val : Int
  lower : -2 ^ 63 ≤ val
  upper : val < 2 ^ 64
  deriving DecidableEq

namespace WordInt

/-- The word integer of a given value, if the value is in range. -/
def ofInt? (i : Int) : Option WordInt :=
  if h : -2 ^ 63 ≤ i ∧ i < 2 ^ 64 then some ⟨i, h.1, h.2⟩ else none

/-- The integer, if it fits the signed word of 128 bits in which results are formed. -/
def wide? (i : Int) : Option Int :=
  if -2 ^ 127 ≤ i ∧ i < 2 ^ 127 then some i else none

def signed? (i : WordInt) : Option Int :=
  if i.val < 2 ^ 63 then some i.val else none

def text (i : WordInt) : String :=
  toString i.val

theorem ofInt?_val (i : WordInt) : ofInt? i.val = some i :=
  dif_pos ⟨i.lower, i.upper⟩

/-- The magnitude of a word integer is below `2 ^ 64`. -/
theorem natAbs_lt (i : WordInt) : i.val.natAbs < 2 ^ 64 := by
  have lower := i.lower
  have upper := i.upper
  omega

end WordInt

end InvocationRouting
