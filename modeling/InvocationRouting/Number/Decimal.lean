import InvocationRouting.Number.Rounding

/-!
# Decimal — decimal numbers and their floating-point values

- `Decimal` : a sign, a natural number of digits and a power of ten;
- `Decimal.ofChars?` : reads `[+-]digits[.digits][e[+-]digits]`, where the digits on one side of the
  point may be missing;
- `Decimal.toBinary64?` : the nearest floating-point number, if it is finite;
- `FloatReading` : what a text for a floating-point number may stand for, which includes infinities
  and NaN, `FloatReading.order?` : the order of two such readings.
-/

namespace InvocationRouting

structure Decimal where
  negative : Bool
  digits : Nat
  exponent : Int

namespace Decimal

def digitsValue (cs : List Char) : Nat :=
  cs.foldl (fun value c => 10 * value + (c.toNat - '0'.toNat)) 0

/-- How many decimal digits a natural number is written with. -/
def digitCount (n : Nat) : Nat :=
  (Nat.toDigits 10 n).length

def splitSign : List Char → Bool × List Char
  | '-' :: rest => (true, rest)
  | '+' :: rest => (false, rest)
  | cs => (false, cs)

/-- The exponent mark and what follows it up to the end of the text. -/
def readExponent? : List Char → Option Int
  | [] => some 0
  | c :: rest =>
      if c = 'e' ∨ c = 'E' then
        let (negative, digits) := splitSign rest
        if digits.isEmpty || !digits.all Char.isDigit then none
        else if negative then some (-(digitsValue digits : Int))
        else some (digitsValue digits : Int)
      else
        none

def splitFraction : List Char → List Char × List Char
  | '.' :: rest => (rest.takeWhile Char.isDigit, rest.dropWhile Char.isDigit)
  | cs => ([], cs)

def ofChars? (text : List Char) : Option Decimal :=
  let (negative, body) := splitSign text
  let whole := body.takeWhile Char.isDigit
  let (fraction, rest) := splitFraction (body.dropWhile Char.isDigit)
  if whole.isEmpty && fraction.isEmpty then
    none
  else
    (readExponent? rest).map fun exponent =>
      ⟨negative, digitsValue (whole ++ fraction), exponent - fraction.length⟩

/-- The nearest floating-point number. Numbers from `10 ^ 310` on have none, and those below
`10 ^ -330` are zero, so powers of ten are only formed for the exponents between. -/
def toBinary64? (d : Decimal) : Option Binary64 :=
  let top : Int := digitCount d.digits + d.exponent
  if d.digits = 0 ∨ top < -330 then
    some (Binary64.zero d.negative)
  else if 310 < top then
    none
  else
    match d.exponent with
    | .ofNat e => Binary64.ofRatio d.negative (d.digits * 10 ^ e * Binary64.unitsPerOne) 1
    | .negSucc e => Binary64.ofRatio d.negative (d.digits * Binary64.unitsPerOne) (10 ^ (e + 1))

end Decimal

/-- What a text for a floating-point number stands for, or a number that may be too large for one. -/
inductive FloatReading where
  | finite (x : Binary64)
  | infinite (negative : Bool)
  | nan

namespace FloatReading

def finite? : FloatReading → Option Binary64
  | finite x => some x
  | _ => none

/-- The order in which two readings compare. An infinity is beyond all numbers, and what is not a
number has no order. -/
def order? : FloatReading → FloatReading → Option Ordering
  | nan, _ => none
  | _, nan => none
  | finite x, finite y => some (x.order y)
  | finite _, infinite negative => some (if negative then .gt else .lt)
  | infinite negative, finite _ => some (if negative then .lt else .gt)
  | infinite negative, infinite negative' => some (compare negative' negative)

/-- The reading of what has been rounded: infinite where it has gone past the largest number. -/
def ofRounded (negative : Bool) : Option Binary64 → FloatReading
  | some x => finite x
  | none => infinite negative

def ofInt (i : Int) : FloatReading :=
  ofRounded (i < 0) (Binary64.ofInt? i)

def ofDecimal (d : Decimal) : FloatReading :=
  ofRounded d.negative d.toBinary64?

/-- Reads a decimal number, or a signed `inf`, `infinity` or `nan` in any case. -/
def ofText? (s : String) : Option FloatReading :=
  let (negative, body) := Decimal.splitSign s.toList
  let word := body.map Char.toLower
  if word = "inf".toList ∨ word = "infinity".toList then some (infinite negative)
  else if word = "nan".toList then some nan
  else (Decimal.ofChars? s.toList).map ofDecimal

end FloatReading

end InvocationRouting
