import InvocationRouting.Resolver

/-!
# Session — resolvers over one provider

A session has one provider, any number of resolvers over it, and the caches of these resolvers. A
resolver has settings of its own and a cache that it may share with others.

- `Session` : the provider, the caches, the resolvers, and the snapshots that were taken;
- `Request`, `Answer` : what a session can be asked for, and what it answers;
- `Session.handle` : one request; `Session.run` : many.
-/

namespace InvocationRouting

/-- A resolver: its settings and the number of its cache. -/
structure Resolver where
  settings : Settings
  cache : Nat

structure Session where
  provider : Provider
  caches : List Cache
  resolvers : List Resolver
  snapshots : List (List Descriptor)

/-- What a session can be asked for. Resolvers and snapshots are known by number. -/
inductive Request where
  | register (target : DispatchTarget)
  | registerEndpoint (name : String) (values : RouteValues)
  | snapshot
  /-- A resolver with settings; it shares the cache of another one, or has a new one. -/
  | addResolver (settings : Settings) (share : Option Nat)
  /-- A resolver like another one, with the same cache. -/
  | cloneResolver (resolver : Nat)
  | resolve (resolver : Nat) (invocation : Invocation)
  | dispatch (resolver : Nat) (method : Method)

inductive Answer where
  | registered (registration : Registration)
  | endpointRegistered
  | snapshotTaken (number : Nat)
  | resolverAdded (number : Nat)
  | resolved (result : Except ResolveError Route)
  | dispatched (result : Except ResolveError Registration)
  | noResolver

namespace Session

/-- A session with one resolver and a provider without routes. -/
def start (settings : Settings) : Session :=
  ⟨.empty, [.empty], [⟨settings, 0⟩], []⟩

def cacheOf (session : Session) (resolver : Resolver) : Cache :=
  session.caches[resolver.cache]?.getD .empty

def cacheAt? (session : Session) (number : Nat) : Option Cache :=
  session.resolvers[number]?.map session.cacheOf

/-- The session with another cache for a resolver, and for all that share it. -/
def withCache (session : Session) (resolver : Resolver) (cache : Cache) : Session :=
  { session with caches := session.caches.set resolver.cache cache }

def pushResolver (session : Session) (resolver : Resolver) : Session :=
  { session with resolvers := session.resolvers ++ [resolver] }

def addResolver (session : Session) (settings : Settings) (share : Option Nat) : Session :=
  match share.bind (session.resolvers[·]?) with
  | some other => session.pushResolver ⟨settings, other.cache⟩
  | none =>
      { session with caches := session.caches ++ [Cache.empty] }.pushResolver
        ⟨settings, session.caches.length⟩

/-- The answer to a request, what happened on the way, and the session afterwards. -/
def handle (session : Session) : Request → Answer × List Occurrence × Session
  | .register target =>
      (.registered (session.provider.nextRegistration target),
        [.logged (.actionRegistered target.handlerName target.actionName target.method)],
        { session with provider := session.provider.register target })
  | .registerEndpoint name values =>
      (.endpointRegistered, [.logged (.endpointRegistered name)],
        { session with provider := session.provider.registerEndpoint name values })
  | .snapshot =>
      (.snapshotTaken session.snapshots.length, [],
        { session with snapshots := session.snapshots ++ [session.provider.descriptors] })
  | .addResolver settings share =>
      (.resolverAdded session.resolvers.length, [], session.addResolver settings share)
  | .cloneResolver number =>
      match session.resolvers[number]? with
      | some resolver =>
          (.resolverAdded session.resolvers.length, [], session.pushResolver resolver)
      | none => (.noResolver, [], session)
  | .resolve number invocation =>
      match session.resolvers[number]? with
      | some resolver =>
          let (resolution, after) := resolver.settings.resolve session.provider.descriptors
            (session.cacheOf resolver) invocation
          (.resolved resolution.result, resolution.trace, session.withCache resolver after)
      | none => (.noResolver, [], session)
  | .dispatch number method =>
      match session.resolvers[number]? with
      | some resolver =>
          let (found, after) :=
            (session.cacheOf resolver).dispatch session.provider.descriptors method
          (.dispatched found.result, found.trace, session.withCache resolver after)
      | none => (.noResolver, [], session)

/-- The answers to requests in order, and the session afterwards. -/
def run (session : Session) : List Request → List Answer × Session
  | [] => ([], session)
  | request :: requests =>
      let (answer, _, next) := session.handle request
      let (answers, last) := next.run requests
      (answer :: answers, last)

end Session
end InvocationRouting
