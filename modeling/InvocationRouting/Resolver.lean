import InvocationRouting.Merge
import InvocationRouting.Registry.Cache

/-!
# Resolver — from an invocation to its route

A resolution has three stages, and the first failure ends it: the invocation is analyzed, the target
of its method is looked up, and the target is merged with the arguments. Only the second stage
touches the cache.

- `Cache.dispatch` : the second stage;
- `Settings.resolve` : all three.
-/

namespace InvocationRouting

def Cache.dispatch (cache : Cache) (descriptors : List Descriptor) (method : Method) :
    Traced Occurrence ResolveError Registration × Cache :=
  let (found, after) := cache.resolve descriptors method
  (found.mapTrace .logged, after)

/-- The route of an invocation under the settings, and the cache afterwards. -/
def Settings.resolve (settings : Settings) (descriptors : List Descriptor) (cache : Cache)
    (invocation : Invocation) : Traced Occurrence ResolveError Route × Cache :=
  let started : List Occurrence := [.logged (.resolutionStarted invocation.handler)]
  let analyzed := invocation.analyze settings.depthLimit
  match analyzed.result with
  | .error e => (⟨started ++ analyzed.trace, .error e⟩, cache)
  | .ok analysis =>
      let (found, after) := cache.dispatch descriptors analysis.method
      let before := started ++ analyzed.trace ++ found.trace
      match found.result with
      | .error e => (⟨before, .error e⟩, after)
      | .ok registration =>
          let route := (Merger.ofSettings settings).merge registration.target analysis.arguments
          (⟨before ++ [.logged (.resolved analysis.method route)], .ok route⟩, after)

end InvocationRouting
