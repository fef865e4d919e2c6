import InvocationRouting.Number.Decimal

/-!
# Shortest — the fewest decimal digits that read back

A floating-point number is written with the fewest decimal digits that still round to it; among
those of equal length the nearest is taken, and an exact tie goes to the even digit.

- `Bracket` : the interval of reals that round to a number, over one denominator;
- `Binary64.shortest` : the chosen decimal number;
- `DecimalLayout` : how the digits are laid out as text;
- `Binary64.textWith` : the text of a number in a layout.
-/

namespace InvocationRouting

/-- The reals between `low / den` and `high / den` round to `mid / den`; the ends do if `closed`. -/
structure Bracket where
  low : Nat
  mid : Nat
  high : Nat
  den : Nat
  closed : Bool

namespace Bracket

/-- The interval of a number in quarters of a unit. Below a power of two the gap is half as wide. -/
def ofBinary64 (x : Binary64) : Bracket :=
  let gap := 2 ^ x.exponent
  let mid := 4 * x.magnitude
  let below := if x.significand = 2 ^ 52 ∧ x.exponent ≠ 0 then gap else 2 * gap
  ⟨mid - below, mid, mid + 2 * gap, 4 * Binary64.unitsPerOne, x.significand % 2 == 0⟩

/-- The interval measured in steps of `10 ^ place`: all ends scaled, and the size of a step. -/
def atPlace (b : Bracket) : Int → Bracket
  | .ofNat q => { b with den := b.den * 10 ^ q }
  | .negSucc q =>
      let scale := 10 ^ (q + 1)
      { b with low := b.low * scale, mid := b.mid * scale, high := b.high * scale }

def holds (b : Bracket) (steps : Nat) : Bool :=
  let point := steps * b.den
  if b.closed then b.low ≤ point && point ≤ b.high else b.low < point && point < b.high

/-- The number of steps in the interval that is nearest to its middle, if a neighbour of the middle
lies in the interval. -/
def nearest? (b : Bracket) : Option Nat :=
  let down := b.mid / b.den
  match b.holds down, b.holds (down + 1) with
  | true, true => some (roundDiv b.mid b.den)
  | true, false => some down
  | false, true => some (down + 1)
  | false, false => none

/-- The power of ten of the leading digit of the middle, which is not zero. -/
def leadingPlace (b : Bracket) : Int :=
  if b.den ≤ b.mid then
    (Decimal.digitCount (b.mid / b.den) : Int) - 1
  else
    let k := Decimal.digitCount (b.den / b.mid)
    if b.den ≤ b.mid * 10 ^ (k - 1) then 1 - (k : Int) else -(k : Int)

end Bracket

structure DecimalLayout where
  /-- Is a number whose leading digit has this power of ten written without an exponent? -/
  positional : Int → Bool
  /-- The least number of digits behind the point where no exponent is written. -/
  minFraction : Nat

namespace DecimalLayout

/-- Digits behind a point, padded to the least number; no point before nothing. -/
def fractionText (layout : DecimalLayout) (digits : List Char) : List Char :=
  let padded := digits ++ List.replicate (layout.minFraction - digits.length) '0'
  if padded.isEmpty then [] else '.' :: padded

/-- The digits without an exponent; `place` is the power of ten of the leading digit. -/
def positionalText (layout : DecimalLayout) (digits : List Char) (place : Int) : List Char :=
  match place with
  | .ofNat p =>
      let whole := digits.take (p + 1)
      let zeros := List.replicate (p + 1 - whole.length) '0'
      whole ++ zeros ++ layout.fractionText (digits.drop (p + 1))
  | .negSucc p => '0' :: layout.fractionText (List.replicate p '0' ++ digits)

/-- The digits with one before the point and a signed exponent. -/
def exponentText (digits : List Char) (place : Int) : List Char :=
  let fraction := digits.drop 1
  digits.take 1 ++ (if fraction.isEmpty then [] else '.' :: fraction) ++
    ['e', if place < 0 then '-' else '+'] ++ Nat.toDigits 10 place.natAbs

def trimZeros (digits : List Char) : List Char :=
  (digits.reverse.dropWhile (· == '0')).reverse

def text (layout : DecimalLayout) (d : Decimal) : String :=
  let written := Nat.toDigits 10 d.digits
  let place : Int := if d.digits = 0 then 0 else d.exponent + written.length - 1
  let digits := trimZeros written
  let body :=
    if layout.positional place then layout.positionalText digits place
    else exponentText digits place
  String.ofList (if d.negative then '-' :: body else body)

end DecimalLayout

namespace Binary64

/-- The decimal number of fewest digits that rounds to the floating-point number, and the nearest
such. Seventeen digits always suffice. -/
def shortest (x : Binary64) : Decimal :=
  if x.isZero then
    ⟨x.negative, 0, 0⟩
  else
    let bracket := Bracket.ofBinary64 x
    let leading := bracket.leadingPlace
    let candidate (count : Nat) : Option Decimal :=
      let place := leading - count
      (bracket.atPlace place).nearest?.map fun steps => ⟨x.negative, steps, place⟩
    ((List.range 17).findSome? candidate).getD ⟨x.negative, 0, 0⟩

def textWith (layout : DecimalLayout) (x : Binary64) : String :=
  layout.text x.shortest

end Binary64

end InvocationRouting
