/-!
# Number.Power — which power is meant by `^`

Powers of natural numbers and integers are those of the core library. They are preferred here over
the powers of a monoid, so that bounds such as `2 ^ 64` read the same whatever else is imported.
-/

namespace InvocationRouting

@[default_instance 20000]
instance (priority := 20000) natPower : Pow Nat Nat := instPowNat

@[default_instance 20000]
instance (priority := 20000) intPower : Pow Int Nat := instPowNat

end InvocationRouting
