import InvocationRouting.Proofs.Interleaving.Step

/-!
# Proofs.Interleaving.Holding — a gate lets one caller through at a time

A gate remembers who has closed it. It agrees with where the callers stand:

* `Position.held?` : the gate that a caller at a position has closed behind itself;
* `Machine.Gated` : a gate is closed by a caller exactly if the caller has it behind itself;
* `gated_reachable` : so it is in every reachable machine;
* `Gated.unique` : two callers behind one gate are one caller.
-/

namespace InvocationRouting

/-- The gate that a caller has closed behind itself. -/
def Position.held? : Position → Option Nat
  | .secondLookup gate => some gate
  | .scan gate => some gate
  | .store gate _ => some gate
  | .dropGate gate _ => some gate
  | .unlock gate _ => some gate
  | _ => none

namespace Machine

/-- The gate that caller `i` has closed behind itself. -/
def held? (m : Machine) (i : Nat) : Option Nat :=
  m.callers[i]?.bind fun c => c.position.held?

/-- The gates agree with where the callers stand. -/
def Gated (m : Machine) : Prop :=
  ∀ gate i, m.gates[gate]? = some (some i) ↔ m.held? i = some gate

/-- Two callers behind one gate are one caller. -/
theorem Gated.unique {m : Machine} (gated : m.Gated) {i j gate : Nat}
    (hi : m.held? i = some gate) (hj : m.held? j = some gate) : i = j := by
  have byI : m.gates[gate]? = some (some i) := (gated gate i).2 hi
  have byJ : m.gates[gate]? = some (some j) := (gated gate j).2 hj
  rw [byI] at byJ
  cases byJ
  rfl

theorem held?_of_standing {m : Machine} {i : Nat} {c : Caller}
    (standing : m.callers[i]? = some c) : m.held? i = c.position.held? := by
  rw [held?, standing, Option.bind_some]

/-! ## Steps -/

section

variable {m m' : Machine} {i : Nat} {c c' : Caller}

/-- A step of one caller does not touch the others. -/
theorem Step.held?_eq (step : Step m i c c' m') (standing : m.callers[i]? = some c) (j : Nat) :
    m'.held? j = if j = i then c'.position.held? else m.held? j := by
  have bound : i < m.callers.length := (List.getElem?_eq_some_iff.1 standing).1
  unfold held?
  rw [step.callers_eq, List.getElem?_set]
  by_cases same : i = j
  · subst same
    simp [bound]
  · have other : ¬ j = i := fun h => same h.symm
    simp [same, other]

/-- What a step does to the gates, and to the gate of its caller. -/
theorem Step.gates_cases (step : Step m i c c' m') :
    (m'.gates = m.gates ∧ c'.position.held? = c.position.held?) ∨
      (m'.gates = m.gates ++ [none] ∧ c'.position.held? = c.position.held?) ∨
      (∃ gate, m.gates[gate]? = some none ∧ m'.gates = m.gates.set gate (some i) ∧
        c.position.held? = none ∧ c'.position.held? = some gate) ∨
      ∃ gate, m'.gates = m.gates.set gate none ∧ c.position.held? = some gate ∧
        c'.position.held? = none := by
  cases step with
  | makeGate here missing =>
      refine .inr (.inl ⟨rfl, ?_⟩)
      rw [here]
      rfl
  | lock here isOpen =>
      refine .inr (.inr (.inl ⟨_, isOpen, rfl, ?_, rfl⟩))
      rw [here]
      rfl
  | unlock here =>
      refine .inr (.inr (.inr ⟨_, rfl, ?_, rfl⟩))
      rw [here]
      rfl
  | firstHit here known | firstMiss here unknown | countHit here | countMiss here
  | joinGate here there | secondHit here known | secondMiss here unknown | scanFound here first
  | scanNothing here nothing | store here | dropGate here =>
      refine .inl ⟨rfl, ?_⟩
      rw [here]
      rfl

/-- A gate that is made has not been closed by anyone. -/
theorem getElem?_append_none {gates : List (Option Nat)} {gate j : Nat} :
    (gates ++ [none])[gate]? = some (some j) ↔ gates[gate]? = some (some j) := by
  rw [List.getElem?_append]
  split
  · exact Iff.rfl
  · next beyond =>
      have missing : gates[gate]? = none := List.getElem?_eq_none (Nat.le_of_not_lt beyond)
      rw [missing, List.getElem?_singleton]
      split <;> simp

/-- A step keeps gates and callers in agreement. -/
theorem gated_step (gated : m.Gated) (standing : m.callers[i]? = some c)
    (step : Step m i c c' m') : m'.Gated := by
  have mover : m.held? i = c.position.held? := held?_of_standing standing
  -- All steps but closing and opening a gate leave every caller behind the gate it was behind.
  have unmoved : c'.position.held? = c.position.held? → ∀ j, m'.held? j = m.held? j := by
    intro kept j
    rw [step.held?_eq standing, kept, ← mover]
    split
    · next same => rw [same]
    · rfl
  intro gate j
  have before := gated gate j
  rcases step.gates_cases with ⟨same, kept⟩ | ⟨longer, kept⟩ | ⟨g, isOpen, closed, was, now⟩ |
    ⟨g, opened, was, now⟩
  · rw [same, unmoved kept]
    exact before
  · rw [longer, unmoved kept, getElem?_append_none]
    exact before
  · -- The gate was open, so that no one else stands behind it.
    have bound : g < m.gates.length := (List.getElem?_eq_some_iff.1 isOpen).1
    rw [step.held?_eq standing, closed, List.getElem?_set]
    rw [was] at mover
    by_cases here : g = gate
    · subst here
      rw [isOpen] at before
      by_cases same : j = i
      · simp [bound, same, now]
      · have nobody : ¬ m.held? j = some g := fun h => by simpa using before.2 h
        simp [bound, same, nobody, Ne.symm same]
    · by_cases same : j = i
      · subst same
        rw [mover] at before
        simp [here, now, before]
      · simp [here, same, before]
  · -- The caller that leaves was the only one behind the gate.
    have byMover : m.gates[g]? = some (some i) := (gated g i).2 (mover.trans was)
    have bound : g < m.gates.length := (List.getElem?_eq_some_iff.1 byMover).1
    rw [step.held?_eq standing, opened, List.getElem?_set]
    rw [was] at mover
    by_cases here : g = gate
    · subst here
      by_cases same : j = i
      · simp [bound, same, now]
      · have nobody : ¬ m.held? j = some g := fun h => same (gated.unique h mover)
        simp [bound, same, nobody]
    · by_cases same : j = i
      · subst same
        rw [mover] at before
        simp [here, now, before]
      · simp [here, same, before]

end

/-! ## All actions -/

theorem gated_arrive {m : Machine} (gated : m.Gated) (method : Method) :
    (m.arrive method).Gated := by
  intro gate j
  have same : (m.arrive method).held? j = m.held? j := by
    unfold held?
    cases standing : m.callers[j]? with
    | some d => rw [arrive_standing_iff.2 (.inl standing)]
    | none =>
        cases standing' : (m.arrive method).callers[j]? with
        | none => rfl
        | some d =>
            rcases arrive_standing_iff.1 standing' with earlier | ⟨-, rfl⟩
            · rw [standing] at earlier
              cases earlier
            · rfl
  rw [same]
  exact gated gate j

/-- In every reachable machine the gates agree with where the callers stand. -/
theorem gated_reachable {m : Machine} (reachable : m.Reachable) : m.Gated := by
  refine reachable.keeps ?_ ?_ ?_ ?_
  · intro descriptors gate j
    simp [start, held?]
  · intro m method gated
    exact gated_arrive gated method
  · intro m descriptor gated
    exact gated
  · intro m m' i c c' _ gated standing step
    exact gated_step gated standing step

end Machine
end InvocationRouting
