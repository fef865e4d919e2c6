import InvocationRouting.Registry.Interleaving

/-!
# Proofs.Interleaving.Step — the atomic steps of a caller, one by one

`Machine.advance?` computes the next step of a caller. For proofs it is more convenient to have each
atomic step as a rule of its own:

* `Machine.Step m i c c' m'` : caller `i` of `m` stands as `c`, steps, and stands as `c'` in `m'`;
* `advance?_eq_some_iff` : the rules and the function describe the same steps;
* `Step.stored_cases`, `Step.scans_cases`, `Step.inFlight_cases` : what a step can do to what all
  callers share.
-/

namespace InvocationRouting

/-- The caller at another position. -/
def Caller.moveTo (c : Caller) (position : Position) : Caller :=
  { c with position := position }

@[simp] theorem Caller.moveTo_position (c : Caller) (position : Position) :
    (c.moveTo position).position = position := rfl

/-- The caller after a search of the descriptors. -/
def Caller.search (c : Caller) (descriptors : List Descriptor) (position : Position) : Caller :=
  ⟨c.method, position, some descriptors⟩

@[simp] theorem Caller.search_position (c : Caller) (descriptors : List Descriptor)
    (position : Position) : (c.search descriptors position).position = position := rfl

/-- A caller that has returned stands where its outcome says. -/
theorem Caller.outcome?_eq_some_iff {c : Caller} {outcome : Option Registration} :
    c.outcome? = some outcome ↔ c.position = .finished outcome := by
  unfold outcome?
  cases c.position <;> simp

theorem Caller.isFinished_iff {c : Caller} :
    c.isFinished = true ↔ ∃ outcome, c.outcome? = some outcome := by
  unfold isFinished outcome?
  cases c.position <;> simp

theorem Caller.outcome?_eq_none_iff {c : Caller} :
    c.outcome? = none ↔ c.isFinished = false := by
  unfold isFinished outcome?
  cases c.position <;> simp

namespace Machine

/-- The machine in which caller `i` is another. -/
def put (m : Machine) (i : Nat) (c : Caller) : Machine :=
  { m with callers := m.callers.set i c }

@[simp] theorem put_stored (m : Machine) (i : Nat) (c : Caller) : (m.put i c).stored = m.stored :=
  rfl

@[simp] theorem put_hits (m : Machine) (i : Nat) (c : Caller) : (m.put i c).hits = m.hits := rfl

@[simp] theorem put_misses (m : Machine) (i : Nat) (c : Caller) : (m.put i c).misses = m.misses :=
  rfl

@[simp] theorem put_scans (m : Machine) (i : Nat) (c : Caller) : (m.put i c).scans = m.scans := rfl

/-- The machine with one more caller. -/
def arrive (m : Machine) (method : Method) : Machine :=
  { m with callers := m.callers ++ [.begin method] }

/-- The machine with one more route. -/
def register (m : Machine) (descriptor : Descriptor) : Machine :=
  { m with descriptors := m.descriptors ++ [descriptor] }

theorem arrive_standing_iff {m : Machine} {method : Method} {j : Nat} {d : Caller} :
    (m.arrive method).callers[j]? = some d ↔
      m.callers[j]? = some d ∨ (j = m.callers.length ∧ d = .begin method) := by
  unfold arrive
  rw [List.getElem?_append]
  split
  · next bound =>
      have other : ¬ j = m.callers.length := Nat.ne_of_lt bound
      simp [other]
  · next beyond =>
      have missing : m.callers[j]? = none := List.getElem?_eq_none (Nat.le_of_not_lt beyond)
      rw [missing, List.getElem?_singleton]
      split
      · have last : j = m.callers.length := by omega
        simp [last, eq_comm]
      · have other : ¬ j = m.callers.length := by omega
        simp [other]

/-! ## Steps as rules -/

/-- One atomic step of the caller with number `i`. -/
inductive Step (m : Machine) (i : Nat) (c : Caller) : Caller → Machine → Prop where
  | firstHit {found : Registration} (here : c.position = .firstLookup)
      (known : m.lookup? c.method.identity = some found) :
      Step m i c (c.moveTo (.countHit found)) (m.put i (c.moveTo (.countHit found)))
  | firstMiss (here : c.position = .firstLookup) (unknown : m.lookup? c.method.identity = none) :
      Step m i c (c.moveTo .countMiss) (m.put i (c.moveTo .countMiss))
  | countHit {found : Registration} (here : c.position = .countHit found) :
      Step m i c (c.moveTo (.finished (some found)))
        { m.put i (c.moveTo (.finished (some found))) with hits := m.hits + 1 }
  | countMiss (here : c.position = .countMiss) :
      Step m i c (c.moveTo .fetchGate)
        { m.put i (c.moveTo .fetchGate) with misses := m.misses + 1 }
  | joinGate {gate : Nat} (here : c.position = .fetchGate)
      (there : m.inFlight.lookup c.method.identity = some gate) :
      Step m i c (c.moveTo (.lock gate)) (m.put i (c.moveTo (.lock gate)))
  | makeGate (here : c.position = .fetchGate)
      (missing : m.inFlight.lookup c.method.identity = none) :
      Step m i c (c.moveTo (.lock m.gates.length))
        { m.put i (c.moveTo (.lock m.gates.length)) with
          inFlight := (c.method.identity, m.gates.length) :: m.inFlight
          gates := m.gates ++ [none] }
  | lock {gate : Nat} (here : c.position = .lock gate) (isOpen : m.gates[gate]? = some none) :
      Step m i c (c.moveTo (.secondLookup gate))
        { m.put i (c.moveTo (.secondLookup gate)) with gates := m.gates.set gate (some i) }
  | secondHit {gate : Nat} {found : Registration} (here : c.position = .secondLookup gate)
      (known : m.lookup? c.method.identity = some found) :
      Step m i c (c.moveTo (.unlock gate (some found)))
        (m.put i (c.moveTo (.unlock gate (some found))))
  | secondMiss {gate : Nat} (here : c.position = .secondLookup gate)
      (unknown : m.lookup? c.method.identity = none) :
      Step m i c (c.moveTo (.scan gate)) (m.put i (c.moveTo (.scan gate)))
  | scanFound {gate : Nat} {found : Registration} (here : c.position = .scan gate)
      (first : Descriptor.firstAction? m.descriptors c.method = some found) :
      Step m i c (c.search m.descriptors (.store gate found))
        { m.put i (c.search m.descriptors (.store gate found)) with
          scans := (c.method.identity, some found) :: m.scans }
  | scanNothing {gate : Nat} (here : c.position = .scan gate)
      (nothing : Descriptor.firstAction? m.descriptors c.method = none) :
      Step m i c (c.search m.descriptors (.unlock gate none))
        { m.put i (c.search m.descriptors (.unlock gate none)) with
          scans := (c.method.identity, none) :: m.scans }
  | store {gate : Nat} {found : Registration} (here : c.position = .store gate found) :
      Step m i c (c.moveTo (.dropGate gate found))
        { m.put i (c.moveTo (.dropGate gate found)) with
          stored := (c.method.identity, found) :: m.stored }
  | dropGate {gate : Nat} {found : Registration} (here : c.position = .dropGate gate found) :
      Step m i c (c.moveTo (.unlock gate (some found)))
        { m.put i (c.moveTo (.unlock gate (some found))) with
          inFlight := m.inFlight.filter fun entry =>
            !(entry.1 == c.method.identity && entry.2 == gate) }
  | unlock {gate : Nat} {outcome : Option Registration} (here : c.position = .unlock gate outcome) :
      Step m i c (c.moveTo (.finished outcome))
        { m.put i (c.moveTo (.finished outcome)) with gates := m.gates.set gate none }

/-- `advance?` takes every step that a rule allows. -/
theorem Step.advance?_eq {m m' : Machine} {i : Nat} {c c' : Caller} (step : Step m i c c' m')
    (standing : m.callers[i]? = some c) : m.advance? i = some m' := by
  unfold advance?
  rw [standing, Option.bind_eq_bind, Option.bind_some]
  cases step with
  | firstHit here known => simp only [here, known, put, move, Caller.moveTo]
  | firstMiss here unknown => simp only [here, unknown, put, move, Caller.moveTo]
  | countHit here => simp only [here, put, move, Caller.moveTo]
  | countMiss here => simp only [here, put, move, Caller.moveTo]
  | joinGate here there => simp only [here, there, put, move, Caller.moveTo]
  | makeGate here missing => simp only [here, missing, put, move, Caller.moveTo]
  | lock here isOpen => simp only [here, isOpen, put, move, Caller.moveTo]
  | secondHit here known => simp only [here, known, put, move, Caller.moveTo]
  | secondMiss here unknown => simp only [here, unknown, put, move, Caller.moveTo]
  | scanFound here first => simp only [here, first, put, move, Caller.search]
  | scanNothing here nothing => simp only [here, nothing, put, move, Caller.search]
  | store here => simp only [here, put, move, Caller.moveTo]
  | dropGate here => simp only [here, put, move, Caller.moveTo]
  | unlock here => simp only [here, put, move, Caller.moveTo]

/-- Does the caller wait for another one to open a gate? -/
def Waits (m : Machine) (c : Caller) : Prop :=
  ∃ gate, c.position = .lock gate ∧ m.gates[gate]? ≠ some none

/-- A caller that has not returned and does not wait can take a step. -/
theorem exists_step {m : Machine} {c : Caller} (i : Nat) (busy : c.outcome? = none)
    (free : ¬ m.Waits c) : ∃ c' m', Step m i c c' m' := by
  cases here : c.position with
  | firstLookup =>
      cases known : m.lookup? c.method.identity with
      | some found => exact ⟨_, _, .firstHit here known⟩
      | none => exact ⟨_, _, .firstMiss here known⟩
  | countHit found => exact ⟨_, _, .countHit here⟩
  | countMiss => exact ⟨_, _, .countMiss here⟩
  | fetchGate =>
      cases there : m.inFlight.lookup c.method.identity with
      | some gate => exact ⟨_, _, .joinGate here there⟩
      | none => exact ⟨_, _, .makeGate here there⟩
  | lock gate =>
      have isOpen : m.gates[gate]? = some none :=
        Decidable.byContradiction fun shut => free ⟨gate, here, shut⟩
      exact ⟨_, _, .lock here isOpen⟩
  | secondLookup gate =>
      cases known : m.lookup? c.method.identity with
      | some found => exact ⟨_, _, .secondHit here known⟩
      | none => exact ⟨_, _, .secondMiss here known⟩
  | scan gate =>
      cases first : Descriptor.firstAction? m.descriptors c.method with
      | some found => exact ⟨_, _, .scanFound here first⟩
      | none => exact ⟨_, _, .scanNothing here first⟩
  | store gate found => exact ⟨_, _, .store here⟩
  | dropGate gate found => exact ⟨_, _, .dropGate here⟩
  | unlock gate outcome => exact ⟨_, _, .unlock here⟩
  | finished outcome => simp [Caller.outcome?, here] at busy

/-- A caller that has returned, or that waits, takes no step. -/
theorem advance?_eq_none {m : Machine} {i : Nat} {c : Caller} (standing : m.callers[i]? = some c)
    (stuck : c.outcome? ≠ none ∨ m.Waits c) : m.advance? i = none := by
  unfold advance?
  rw [standing, Option.bind_eq_bind, Option.bind_some]
  rcases stuck with returned | ⟨gate, here, shut⟩
  · cases here : c.position <;> simp [Caller.outcome?, here] at returned
    rfl
  · simp only [here]

/-- The rules describe what `advance?` computes. -/
theorem advance?_eq_some_iff {m m' : Machine} {i : Nat} :
    m.advance? i = some m' ↔ ∃ c c', m.callers[i]? = some c ∧ Step m i c c' m' := by
  constructor
  · intro h
    cases standing : m.callers[i]? with
    | none => simp [advance?, standing] at h
    | some c =>
        -- A step is unique, so that the one that a rule allows is the one that was taken.
        by_cases stuck : c.outcome? ≠ none ∨ m.Waits c
        · rw [advance?_eq_none standing stuck] at h
          cases h
        · rw [not_or, Classical.not_not] at stuck
          rcases exists_step i stuck.1 stuck.2 with ⟨c', m'', step⟩
          have same : some m'' = some m' := (step.advance?_eq standing).symm.trans h
          cases same
          exact ⟨c, c', rfl, step⟩
  · rintro ⟨c, c', standing, step⟩
    exact step.advance?_eq standing

/-! ## What a step leaves alone -/

namespace Step

variable {m m' : Machine} {i : Nat} {c c' : Caller}

theorem callers_eq (step : Step m i c c' m') : m'.callers = m.callers.set i c' := by
  cases step <;> rfl

/-- A step of one caller does not move the others. -/
theorem standing_iff (step : Step m i c c' m') (standing : m.callers[i]? = some c) {j : Nat}
    {d : Caller} :
    m'.callers[j]? = some d ↔ (j = i ∧ d = c') ∨ (j ≠ i ∧ m.callers[j]? = some d) := by
  have bound : i < m.callers.length := (List.getElem?_eq_some_iff.1 standing).1
  rw [step.callers_eq, List.getElem?_set]
  by_cases same : i = j
  · subst same
    simp [bound, eq_comm]
  · simp [same, Ne.symm same]

theorem method_eq (step : Step m i c c' m') : c'.method = c.method := by
  cases step <;> rfl

theorem descriptors_eq (step : Step m i c c' m') : m'.descriptors = m.descriptors := by
  cases step <;> rfl

/-- Only a caller that stores remembers anything. -/
theorem stored_cases (step : Step m i c c' m') :
    m'.stored = m.stored ∨ ∃ gate found, c.position = .store gate found ∧
      c'.position = .dropGate gate found ∧
        m'.stored = (c.method.identity, found) :: m.stored := by
  cases step with
  | store here => exact .inr ⟨_, _, here, rfl, rfl⟩
  | _ => exact .inl rfl

/-- Only a caller that searches notes a search. -/
theorem scans_cases (step : Step m i c c' m') :
    m'.scans = m.scans ∨ ∃ gate found, c.position = .scan gate ∧
      found = Descriptor.firstAction? m.descriptors c.method ∧
        m'.scans = (c.method.identity, found) :: m.scans := by
  cases step with
  | scanFound here first => exact .inr ⟨_, _, here, first.symm, rfl⟩
  | scanNothing here nothing => exact .inr ⟨_, _, here, nothing.symm, rfl⟩
  | _ => exact .inl rfl

/-- Only a caller that makes a gate or drops one touches the table. -/
theorem inFlight_cases (step : Step m i c c' m') :
    m'.inFlight = m.inFlight ∨
      (c.position = .fetchGate ∧ m.inFlight.lookup c.method.identity = none ∧
        m'.inFlight = (c.method.identity, m.gates.length) :: m.inFlight) ∨
      ∃ gate found, c.position = .dropGate gate found ∧
        m'.inFlight = m.inFlight.filter fun entry =>
          !(entry.1 == c.method.identity && entry.2 == gate) := by
  cases step with
  | makeGate here missing => exact .inr (.inl ⟨here, missing, rfl⟩)
  | dropGate here => exact .inr (.inr ⟨_, _, here, rfl⟩)
  | _ => exact .inl rfl

/-- What a caller stores is remembered for its method, and its gate removed next. -/
theorem of_store (step : Step m i c c' m') {gate : Nat} {found : Registration}
    (here : c.position = .store gate found) :
    m'.stored = (c.method.identity, found) :: m.stored ∧ c'.position = .dropGate gate found := by
  cases step with
  | store here' =>
      rw [here] at here'
      cases here'
      exact ⟨rfl, rfl⟩
  | _ => simp_all

/-- A caller that is about to remove its gate has just remembered its finding. -/
theorem to_dropGate (step : Step m i c c' m') {gate : Nat} {found : Registration}
    (there : c'.position = .dropGate gate found) : c.position = .store gate found := by
  cases step with
  | store here =>
      cases there
      exact here
  | _ => simp at there

/-- A caller that finds no gate makes one. -/
theorem of_fetchGate (step : Step m i c c' m') (here : c.position = .fetchGate)
    (missing : m.inFlight.lookup c.method.identity = none) :
    m'.inFlight = (c.method.identity, m.gates.length) :: m.inFlight := by
  cases step with
  | makeGate here' missing' => rfl
  | _ => simp_all

/-- A caller that removes its gate removes no other. -/
theorem of_dropGate (step : Step m i c c' m') {gate : Nat} {found : Registration}
    (here : c.position = .dropGate gate found) :
    m'.inFlight = m.inFlight.filter fun entry =>
      !(entry.1 == c.method.identity && entry.2 == gate) := by
  cases step with
  | dropGate here' =>
      rw [here] at here'
      cases here'
      rfl
  | _ => simp_all

/-- A caller that finds something goes on to store it. -/
theorem of_scan (step : Step m i c c' m') {gate : Nat} {found : Registration}
    (here : c.position = .scan gate)
    (first : Descriptor.firstAction? m.descriptors c.method = some found) :
    c'.position = .store gate found := by
  cases step with
  | scanFound here' first' =>
      rw [here] at here'
      rw [first] at first'
      cases here'
      cases first'
      rfl
  | _ => simp_all

end Step

/-! ## Runs -/

/-- An action lets a caller arrive, registers a route, or is a step of a caller. -/
theorem act?_cases {m m' : Machine} {action : Action} (acted : m.act? action = some m') :
    (∃ method, m' = m.arrive method) ∨ (∃ descriptor, m' = m.register descriptor) ∨
      ∃ i c c', m.callers[i]? = some c ∧ Step m i c c' m' := by
  cases action with
  | arrive method =>
      cases acted
      exact .inl ⟨method, rfl⟩
  | register descriptor =>
      cases acted
      exact .inr (.inl ⟨descriptor, rfl⟩)
  | advance i =>
      rcases advance?_eq_some_iff.1 acted with ⟨c, c', standing, step⟩
      exact .inr (.inr ⟨i, c, c', standing, step⟩)

/-- What holds of every machine without callers and is kept by arrivals, by registrations and by
the steps of callers holds of every reachable machine. -/
theorem Reachable.keeps {P : Machine → Prop}
    (initial : ∀ descriptors, P (Machine.start descriptors))
    (arrive : ∀ m method, P m → P (m.arrive method))
    (register : ∀ m descriptor, P m → P (m.register descriptor))
    (step : ∀ m m' i c c', m.Reachable → P m → m.callers[i]? = some c → Step m i c c' m' → P m')
    {m : Machine} (reachable : m.Reachable) : P m := by
  induction reachable with
  | start descriptors => exact initial descriptors
  | act action before acted ih =>
      rcases act?_cases acted with ⟨method, rfl⟩ | ⟨descriptor, rfl⟩ | ⟨i, c, c', standing, rule⟩
      · exact arrive _ method ih
      · exact register _ descriptor ih
      · exact step _ _ i c c' before ih standing rule

/-! ## Quiet machines -/

section

variable {m : Machine}

/-- In a quiet machine every caller has returned. -/
theorem finished_of_quiet (quiet : m.isQuiet = true) {c : Caller} (member : c ∈ m.callers) :
    ∃ outcome, c.outcome? = some outcome :=
  Caller.isFinished_iff.1 (List.all_eq_true.1 quiet c member)

/-- In a quiet machine no caller stands on its way. -/
theorem not_busy_of_quiet (quiet : m.isQuiet = true) {i : Nat} {c : Caller}
    (standing : m.callers[i]? = some c) : c.outcome? ≠ none := by
  rcases finished_of_quiet quiet (List.mem_of_getElem? standing) with ⟨outcome, returned⟩
  rw [returned]
  exact Option.some_ne_none outcome

end

end Machine
end InvocationRouting
