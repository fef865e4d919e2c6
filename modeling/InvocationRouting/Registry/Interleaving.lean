import InvocationRouting.Registry.Cache

/-!
# Registry.Interleaving — many callers at one cache

Callers look up methods at the same time, in atomic steps that may interleave in any order. A caller
that finds nothing at first passes a gate, one gate per method, which lets one caller through at a
time. Behind the gate it looks again, searches the descriptors if there is still nothing, and
remembers what it finds. The gate of a method that was found is then removed from the table of
gates, unless another gate has taken its place; callers that wait at it still pass one by one.

- `Position` : where a caller stands;
- `Machine` : the shared state and all callers, `Machine.stats` : its counters;
- `Machine.advance?` : one step of one caller, if it is not finished and need not wait;
- `Action`, `Machine.act?`, `Machine.Reachable` : the steps of the whole, and what they lead to;
- `Machine.together` : so many callers that take turns until all are finished.
-/

namespace InvocationRouting

/-- Where a caller stands: the step that it takes next. -/
inductive Position where
  | firstLookup
  | countHit (found : Registration)
  | countMiss
  /-- Fetches the gate of its method, or makes one. -/
  | fetchGate
  /-- Closes the gate behind itself once no one else has. -/
  | lock (gate : Nat)
  | secondLookup (gate : Nat)
  | scan (gate : Nat)
  | store (gate : Nat) (found : Registration)
  /-- Removes its gate from the table. -/
  | dropGate (gate : Nat) (found : Registration)
  /-- Opens the gate. -/
  | unlock (gate : Nat) (outcome : Option Registration)
  | finished (outcome : Option Registration)

/-- A caller: the method it looks for, where it stands, and the descriptors that it has searched. -/
structure Caller where
  method : Method
  position : Position
  searched : Option (List Descriptor)

namespace Caller

def begin (method : Method) : Caller :=
  ⟨method, .firstLookup, none⟩

def isFinished (caller : Caller) : Bool :=
  match caller.position with
  | .finished _ => true
  | _ => false

def outcome? (caller : Caller) : Option (Option Registration) :=
  match caller.position with
  | .finished outcome => some outcome
  | _ => none

end Caller

structure Machine where
  descriptors : List Descriptor
  /-- Every registration that was ever remembered, the latest first. -/
  stored : List (MethodIdentity × Registration)
  /-- The gates in the table. -/
  inFlight : List (MethodIdentity × Nat)
  /-- Every gate that was ever made, with the caller that holds it. -/
  gates : List (Option Nat)
  hits : Nat
  misses : Nat
  /-- Every search of the descriptors with what it found, the latest first. -/
  scans : List (MethodIdentity × Option Registration)
  callers : List Caller

namespace Machine

def start (descriptors : List Descriptor) : Machine :=
  ⟨descriptors, [], [], [], 0, 0, [], []⟩

def lookup? (m : Machine) (identity : MethodIdentity) : Option Registration :=
  m.stored.lookup identity

def cached (m : Machine) : Nat :=
  (m.stored.map (·.1)).eraseDups.length

def contains (m : Machine) (method : Method) : Bool :=
  (m.lookup? method.identity).isSome

def stats (m : Machine) : CacheStats :=
  ⟨m.cached, m.hits, m.misses, m.scans.length⟩

def move (m : Machine) (i : Nat) (caller : Caller) (position : Position) : Machine :=
  { m with callers := m.callers.set i { caller with position := position } }

/-- One step of the caller with the given number. There is none if the caller has returned, or has
to wait at its gate. -/
def advance? (m : Machine) (i : Nat) : Option Machine := do
  let caller ← m.callers[i]?
  let identity := caller.method.identity
  match caller.position with
  | .firstLookup =>
      match m.lookup? identity with
      | some found => some (m.move i caller (.countHit found))
      | none => some (m.move i caller .countMiss)
  | .countHit found =>
      some { m.move i caller (.finished (some found)) with hits := m.hits + 1 }
  | .countMiss => some { m.move i caller .fetchGate with misses := m.misses + 1 }
  | .fetchGate =>
      -- Looking the gate up and making it is one step: no one else can make another in between.
      match m.inFlight.lookup identity with
      | some gate => some (m.move i caller (.lock gate))
      | none =>
          let gate := m.gates.length
          some { m.move i caller (.lock gate) with
            inFlight := (identity, gate) :: m.inFlight
            gates := m.gates ++ [none] }
  | .lock gate =>
      match m.gates[gate]? with
      | some none =>
          some { m.move i caller (.secondLookup gate) with gates := m.gates.set gate (some i) }
      -- Someone else holds the gate, and the caller stays where it is.
      | _ => none
  | .secondLookup gate =>
      -- Someone may have searched while the caller waited. It leaves the gate in the table then.
      match m.lookup? identity with
      | some found => some (m.move i caller (.unlock gate (some found)))
      | none => some (m.move i caller (.scan gate))
  | .scan gate =>
      let found := Descriptor.firstAction? m.descriptors caller.method
      let searching := { caller with searched := some m.descriptors }
      -- A search in vain leaves the gate in the table for the next caller.
      let moved := match found with
        | some registration => m.move i searching (.store gate registration)
        | none => m.move i searching (.unlock gate none)
      some { moved with scans := (identity, found) :: m.scans }
  | .store gate found =>
      some { m.move i caller (.dropGate gate found) with stored := (identity, found) :: m.stored }
  | .dropGate gate found =>
      -- A gate that was made for the method since then stays.
      some { m.move i caller (.unlock gate (some found)) with
        inFlight := m.inFlight.filter fun entry => !(entry.1 == identity && entry.2 == gate) }
  | .unlock gate outcome =>
      some { m.move i caller (.finished outcome) with gates := m.gates.set gate none }
  | .finished _ => none

end Machine

inductive Action where
  | arrive (method : Method)
  | register (descriptor : Descriptor)
  | advance (i : Nat)

namespace Machine

/-- The machine after an action, if the action is possible. -/
def act? (m : Machine) : Action → Option Machine
  | .arrive method => some { m with callers := m.callers ++ [.begin method] }
  | .register descriptor => some { m with descriptors := m.descriptors ++ [descriptor] }
  | .advance i => m.advance? i

/-- What actions lead to, from a machine without callers. -/
inductive Reachable : Machine → Prop where
  | start (descriptors : List Descriptor) : Reachable (start descriptors)
  | act {m m' : Machine} (action : Action) : Reachable m → m.act? action = some m' → Reachable m'

def isQuiet (m : Machine) : Bool :=
  m.callers.all (·.isFinished)

/-- Every caller takes a step, in turn, if it can. -/
def round (m : Machine) : Machine :=
  (List.range m.callers.length).foldl (fun m i => (m.advance? i).getD m) m

/-- So many rounds, unless all callers return before. -/
def rounds : Nat → Machine → Machine
  | 0, m => m
  | n + 1, m => if m.isQuiet then m else rounds n m.round

/-- How many steps a caller takes at most. -/
def stepsPerCaller : Nat := 9

/-- So many callers look for one method at once and take turns until all have returned. In every
round someone takes a step, so that the steps of all callers bound the rounds. -/
def together (descriptors : List Descriptor) (method : Method) (count : Nat) : Machine :=
  rounds (stepsPerCaller * count)
    { start descriptors with callers := List.replicate count (.begin method) }

end Machine
end InvocationRouting
