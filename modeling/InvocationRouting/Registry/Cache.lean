import InvocationRouting.Error
import InvocationRouting.Log.Event
import InvocationRouting.Registry.Provider
import InvocationRouting.Traced

/-!
# Registry.Cache — dispatch targets that have been found

The cache remembers the registration of every method that was found, for good. A method that was
not found is not remembered, but its gate is kept: callers who look for it later wait for each other
at the same gate.

This module describes one caller at a time; `Registry.Interleaving` describes many.

- `Cache` : the remembered registrations, the gates, and three counters;
- `Cache.resolve` : the registration of a method.
-/

namespace InvocationRouting

/-- Remembered registrations by the identity of their methods. -/
structure Cache where
  resolved : List (MethodIdentity × Registration)
  /-- The methods that someone has looked for and no one has found. -/
  gates : List MethodIdentity
  hits : Nat
  misses : Nat
  scans : Nat

structure CacheStats where
  cached : Nat
  hits : Nat
  misses : Nat
  scans : Nat
  deriving DecidableEq

namespace Cache

def empty : Cache :=
  ⟨[], [], 0, 0, 0⟩

instance : Inhabited Cache := ⟨empty⟩

def find? (cache : Cache) (method : Method) : Option Registration :=
  cache.resolved.lookup method.identity

def contains (cache : Cache) (method : Method) : Bool :=
  (cache.find? method).isSome

def size (cache : Cache) : Nat :=
  cache.resolved.length

def stats (cache : Cache) : CacheStats :=
  ⟨cache.size, cache.hits, cache.misses, cache.scans⟩

def populated (method : Method) (registration : Registration) : CacheOperation where
  operation := "populate"
  method := method.display
  handler := some registration.target.handlerName
  action := some registration.target.actionName
  status := "cached"
  details := none

/-- The registration of a method: the remembered one, or else the first action for the method among
the descriptors, which is then remembered. -/
def resolve (cache : Cache) (descriptors : List Descriptor) (method : Method) :
    Traced Event ResolveError Registration × Cache :=
  match cache.find? method with
  | some registration =>
      (⟨[.cacheHit method], .ok registration⟩, { cache with hits := cache.hits + 1 })
  | none =>
      let counted := { cache with misses := cache.misses + 1, scans := cache.scans + 1 }
      let scan := Event.cacheScan method descriptors.length
      match Descriptor.firstAction? descriptors method with
      | some registration =>
          (⟨[scan, .cacheOperation (populated method registration)], .ok registration⟩,
            { counted with
              resolved := (method.identity, registration) :: cache.resolved
              gates := cache.gates.filter (· != method.identity) })
      | none =>
          -- Nothing is remembered, so that the next call searches again.
          (⟨[scan], .error (.targetNotFound method)⟩,
            { counted with
              gates := if method.identity ∈ cache.gates then cache.gates
                else method.identity :: cache.gates })

end Cache
end InvocationRouting
