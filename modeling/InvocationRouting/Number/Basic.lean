import InvocationRouting.Number.Shortest

/-!
# Number — the numbers of the value language

A number is a word integer or a finite floating-point number. The two kinds stay apart as data
(`1` and `1.0` are different values), but comparison is by value.

- `Number.identical` : equality of kind and value;
- `Number.sameValue`, `Number.order?` : comparison by value. Two integers are compared exactly; as
  soon as one side is a floating-point number, the other side is rounded to one first;
- `Number.text` : the text form.
-/

namespace InvocationRouting

inductive Number where
  | int (i : WordInt)
  | float (x : Binary64)
  deriving DecidableEq

namespace Number

def toBinary64 : Number → Binary64
  | int i => Binary64.ofWordInt i
  | float x => x

def identical : Number → Number → Bool
  | int a, int b => a.val == b.val
  | float x, float y => x.sameValue y
  | _, _ => false

def sameValue : Number → Number → Bool
  | int a, int b => a.val == b.val
  | a, b => a.toBinary64.sameValue b.toBinary64

/-- The nearest floating-point reading, of which comparison does not assume that it is finite. -/
def reading : Number → FloatReading
  | int i => FloatReading.ofInt i.val
  | float x => .finite x

/-- The order in which the numbers compare, if they have one. -/
def order? : Number → Number → Option Ordering
  | int a, int b => some (compare a.val b.val)
  | a, b => a.reading.order? b.reading

/-- Text of floating-point numbers: positional from `10 ^ -5` up to `10 ^ 16`, with at least one
digit behind the point, and with an exponent elsewhere. -/
def floatLayout : DecimalLayout where
  positional place := decide (-5 ≤ place ∧ place < 16)
  minFraction := 1

def text : Number → String
  | int i => i.text
  | float x => x.textWith floatLayout

end Number

end InvocationRouting
