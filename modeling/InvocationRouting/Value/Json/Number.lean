import InvocationRouting.Value.Basic

/-!
# Json.Number — the numbers of JSON

A number is read as a significand, which takes up digits as long as it fits a word, and a power of
ten. The value is formed in two steps, each with its own rounding: first the significand becomes a
floating-point number, then this is scaled by the power of ten.

- `takeDigits` : the digits that a significand takes up;
- `scale?` : a floating-point number by a power of ten;
- `Value.ofJsonNumber?` : the value of a text that should be a number.
-/

namespace InvocationRouting
namespace Json

/-- A significand with more digits, and the digits that are left because it would no longer fit a
word. -/
def takeDigits (significand : Nat) : List Char → Nat × List Char
  | [] => (significand, [])
  | c :: rest =>
      let next := 10 * significand + (c.toNat - '0'.toNat)
      if next < 2 ^ 64 then takeDigits next rest else (significand, c :: rest)

/-- The largest power of ten that floating-point numbers are scaled by at once. -/
def greatestScale : Nat := 308

def powerOfTen? (exponent : Nat) : Option Binary64 :=
  Binary64.ofRatio false (10 ^ exponent * Binary64.unitsPerOne) 1

def scaleUp? (x : Binary64) (exponent : Nat) : Option Binary64 :=
  if exponent ≤ greatestScale then (powerOfTen? exponent).bind x.mul
  else if x.isZero then some x
  else none

/-- A floating-point number by `10 ^ -exponent`, rounded; it is divided by the largest power of ten
first as often as that is needed. A word that is divided by it twice is zero. -/
def scaleDown? (x : Binary64) (exponent : Nat) : Option Binary64 :=
  if exponent ≤ greatestScale then
    (powerOfTen? exponent).bind x.div
  else if exponent ≤ 2 * greatestScale then do
    let smaller ← (powerOfTen? greatestScale).bind x.div
    (powerOfTen? (exponent - greatestScale)).bind smaller.div
  else
    some (Binary64.zero x.negative)

/-- A floating-point number by a power of ten; there is none past the largest number. -/
def scale? (x : Binary64) : Int → Option Binary64
  | .ofNat e => scaleUp? x e
  | .negSucc e => scaleDown? x (e + 1)

/-- Digits without a superfluous leading zero. -/
def isWholePart : List Char → Bool
  | [] => false
  | ['0'] => true
  | c :: rest => c != '0' && (c :: rest).all Char.isDigit

/-- The digits behind a point, of which there is at least one, and what follows. Without a point
there are none. -/
def fraction? : List Char → Option (List Char × List Char)
  | '.' :: rest =>
      let digits := rest.takeWhile Char.isDigit
      if digits.isEmpty then none else some (digits, rest.dropWhile Char.isDigit)
  | rest => some ([], rest)

/-- The integer of a sign and a significand, if it fits a word; zero with a minus is none. -/
def integer? (negative : Bool) (significand : Nat) : Option Value :=
  if negative && significand == 0 then none
  else Value.ofInt? (if negative then -(significand : Int) else (significand : Int))

/-- The floating-point number of a sign, a significand and a power of ten. -/
def float? (negative : Bool) (significand : Nat) (exponent : Int) : Option Value := do
  let x ← Binary64.ofRatio negative (significand * Binary64.unitsPerOne) 1
  return .number (.float (← scale? x exponent))

end Json

/-- The value of a number: an integer if it has no point and no exponent and fits a word, else a
floating-point number, which must be finite. Digits that the significand does not take up count for
the power of ten in front of the point and for nothing behind it. -/
def Value.ofJsonNumber? (cs : List Char) : Option Value := do
  let (negative, body) := match cs with
    | '-' :: rest => (true, rest)
    | rest => (false, rest)
  let whole := body.takeWhile Char.isDigit
  let tail := body.dropWhile Char.isDigit
  if !Json.isWholePart whole then failure
  let (wholePart, dropped) := Json.takeDigits 0 whole
  let (fraction, exponentText) ← Json.fraction? tail
  let exponent ← Decimal.readExponent? exponentText
  let (significand, left) := Json.takeDigits wholePart fraction
  -- Digits that were dropped in front of the point would be lost in an integer.
  let isInteger := tail.isEmpty && dropped.isEmpty
  (if isInteger then Json.integer? negative significand else none).or
    (Json.float? negative significand
      (exponent + dropped.length - (fraction.length - left.length : Nat)))

end InvocationRouting
