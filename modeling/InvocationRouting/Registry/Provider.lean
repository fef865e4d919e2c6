import InvocationRouting.Target.Basic

/-!
# Registry.Provider — the routes that are registered

Routes are registered one after another and never removed. Handler actions are numbered, so that a
registered target can be told from an equal one; endpoints are routes without a method.

- `Registration`, `Descriptor` : registered routes;
- `Descriptor.firstAction?` : the first action for a method;
- `Provider` : all registered routes and the number of changes so far.
-/

namespace InvocationRouting

structure Registration where
  number : Nat
  target : DispatchTarget

inductive Descriptor where
  | action (registration : Registration)
  /-- A route that no method stands behind. -/
  | endpoint (name : String) (values : RouteValues)

namespace Descriptor

def registration? : Descriptor → Option Registration
  | action registration => some registration
  | endpoint .. => none

def firstAction? (descriptors : List Descriptor) (method : Method) : Option Registration :=
  (descriptors.filterMap registration?).find? fun registration =>
    registration.target.method == method

end Descriptor

/-- The registered routes, in the order of their registration. -/
structure Provider where
  descriptors : List Descriptor
  version : Nat

namespace Provider

def empty : Provider :=
  ⟨[], 0⟩

instance : Inhabited Provider := ⟨empty⟩

def size (provider : Provider) : Nat :=
  provider.descriptors.length

def push (provider : Provider) (descriptor : Descriptor) : Provider :=
  ⟨provider.descriptors ++ [descriptor], provider.version + 1⟩

def nextRegistration (provider : Provider) (target : DispatchTarget) : Registration :=
  ⟨(provider.descriptors.filterMap Descriptor.registration?).length, target⟩

def register (provider : Provider) (target : DispatchTarget) : Provider :=
  provider.push (.action (provider.nextRegistration target))

def registerEndpoint (provider : Provider) (name : String) (values : RouteValues) : Provider :=
  provider.push (.endpoint name values)

def inspect (provider : Provider) : String :=
  Inspect.record "InMemoryDescriptorProvider"
    [("descriptors", toString provider.size), ("version", toString provider.version)]

end Provider
end InvocationRouting
