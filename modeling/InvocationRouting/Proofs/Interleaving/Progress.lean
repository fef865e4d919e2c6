import InvocationRouting.Proofs.Interleaving.Holding
import InvocationRouting.Proofs.Interleaving.Schedule
import InvocationRouting.Proofs.Method.Identity

/-!
# Proofs.Interleaving.Progress — whom a caller waits for

A gate is given to the caller that makes it and to all who find it in the table. It stays with them
when it has left the table, and another gate of the method may be made meanwhile. Still no caller
comes by a gate of another method, so that waiting never goes further than to one caller of the same
method, which is on its way.

* `Machine.Knows` : a gate is in the table under an identity, or with a caller of that identity;
* `Machine.Apart` : no gate is known under two identities;
* `Machine.WaitsFor` : a caller stands before the gate that another one has closed;
* `waits_in_turn` : whom callers wait for, and who can take a step.
-/

namespace InvocationRouting

/-- The gate that a caller stands before or has closed behind itself. -/
def Position.gate? : Position → Option Nat
  | .lock gate => some gate
  | position => position.held?

theorem Position.gate?_of_held? {position : Position} {gate : Nat}
    (h : position.held? = some gate) : position.gate? = some gate := by
  cases position with
  | lock other => cases h
  | _ => exact h

namespace Machine

/-! ## Gates and identities -/

/-- The table has the gate under the identity, or a caller of the identity was given it. -/
def Knows (m : Machine) (identity : MethodIdentity) (gate : Nat) : Prop :=
  (identity, gate) ∈ m.inFlight ∨
    ∃ c ∈ m.callers, c.method.identity = identity ∧ c.position.gate? = some gate

section

variable {m m' : Machine} {i : Nat} {c c' : Caller} {identity : MethodIdentity} {gate : Nat}

/-- A caller comes by a gate through the table, or by making it. -/
theorem Step.gate?_cases (step : Step m i c c' m') (given : c'.position.gate? = some gate) :
    c.position.gate? = some gate ∨ (c.method.identity, gate) ∈ m.inFlight ∨
      (gate = m.gates.length ∧ m.gates.length < m'.gates.length) := by
  cases step with
  | joinGate here there =>
      cases given
      rcases List.lookup_eq_some_iff.1 there with ⟨before, after, split, -⟩
      have member : (c.method.identity, gate) ∈ m.inFlight := by rw [split]; simp
      exact .inr (.inl member)
  | makeGate here missing =>
      cases given
      have longer : m.gates.length < (m.gates ++ [none]).length := by simp
      exact .inr (.inr ⟨rfl, longer⟩)
  | lock here isOpen | secondHit here known | secondMiss here unknown | scanFound here first
  | scanNothing here nothing | store here | dropGate here =>
      rw [here]
      exact .inl given
  | firstHit here known | firstMiss here unknown | countHit here | countMiss here
  | unlock here => cases given

/-- An entry of the table was there before, unless the caller has just made it. -/
theorem Step.mem_inFlight_cases (step : Step m i c c' m') (there : (identity, gate) ∈ m'.inFlight) :
    (identity, gate) ∈ m.inFlight ∨
      (identity = c.method.identity ∧ gate = m.gates.length ∧
        m.gates.length < m'.gates.length) := by
  cases step with
  | makeGate here missing =>
      have longer : m.gates.length < (m.gates ++ [none]).length := by simp
      rcases List.mem_cons.1 there with new | old
      · cases new
        exact .inr ⟨rfl, rfl, longer⟩
      · exact .inl old
  | dropGate here => exact .inl (List.mem_filter.1 there).1
  | _ => exact .inl there

/-- What is known after a step was known before, unless the caller has just made it. -/
theorem Knows.of_step (knows : m'.Knows identity gate) (standing : m.callers[i]? = some c)
    (step : Step m i c c' m') :
    m.Knows identity gate ∨
      (identity = c.method.identity ∧ gate = m.gates.length ∧
        m.gates.length < m'.gates.length) := by
  rcases knows with table | ⟨d, member, rfl, given⟩
  · rcases step.mem_inFlight_cases table with before | new
    · exact .inl (.inl before)
    · exact .inr new
  · rcases List.getElem?_of_mem member with ⟨j, standing'⟩
    rcases (step.standing_iff standing).1 standing' with ⟨rfl, rfl⟩ | ⟨-, before⟩
    · rw [step.method_eq]
      rcases step.gate?_cases given with kept | found | new
      · exact .inl (.inr ⟨c, List.mem_of_getElem? standing, rfl, kept⟩)
      · exact .inl (.inl found)
      · exact .inr ⟨rfl, new⟩
    · exact .inl (.inr ⟨d, List.mem_of_getElem? before, rfl, given⟩)

theorem Step.gates_length (step : Step m i c c' m') : m.gates.length ≤ m'.gates.length := by
  rcases step.gates_cases with ⟨same, -⟩ | ⟨longer, -⟩ | ⟨g, -, closed, -⟩ | ⟨g, opened, -⟩
  · simp [same]
  · simp [longer]
  · simp [closed]
  · simp [opened]

theorem Knows.of_arrive {method : Method} (knows : (m.arrive method).Knows identity gate) :
    m.Knows identity gate := by
  rcases knows with table | ⟨c, member, same, given⟩
  · exact .inl table
  · rcases List.mem_append.1 member with before | new
    · exact .inr ⟨c, before, same, given⟩
    · cases List.mem_singleton.1 new
      cases given

end

/-- Only gates that were made are known, and none of them under two identities. -/
structure Apart (m : Machine) : Prop where
  made : ∀ identity gate, m.Knows identity gate → gate < m.gates.length
  one : ∀ identity identity' gate, m.Knows identity gate → m.Knows identity' gate →
    identity = identity'

theorem apart_step {m m' : Machine} {i : Nat} {c c' : Caller} (apart : m.Apart)
    (standing : m.callers[i]? = some c) (step : Step m i c c' m') : m'.Apart where
  made identity gate knows := by
    rcases knows.of_step standing step with before | ⟨-, rfl, longer⟩
    · exact Nat.lt_of_lt_of_le (apart.made identity gate before) step.gates_length
    · exact longer
  one identity identity' gate knows knows' := by
    rcases knows.of_step standing step with before | ⟨same, new, -⟩
    · rcases knows'.of_step standing step with before' | ⟨-, new, -⟩
      · exact apart.one identity identity' gate before before'
      · -- A gate that is just made was not known before.
        have old := apart.made identity gate before
        omega
    · rcases knows'.of_step standing step with before' | ⟨same', -, -⟩
      · have old := apart.made identity' gate before'
        omega
      · rw [same, same']

theorem apart_reachable {m : Machine} (reachable : m.Reachable) : m.Apart := by
  refine reachable.keeps ?_ ?_ ?_ ?_
  · intro descriptors
    have nothing : ∀ identity gate, ¬ (start descriptors).Knows identity gate := by
      rintro identity gate (table | ⟨c, member, -⟩)
      · cases table
      · cases member
    exact ⟨fun identity gate knows => absurd knows (nothing identity gate),
      fun identity _ gate knows => absurd knows (nothing identity gate)⟩
  · intro m method apart
    exact ⟨fun identity gate knows => apart.made identity gate knows.of_arrive,
      fun identity identity' gate knows knows' =>
        apart.one identity identity' gate knows.of_arrive knows'.of_arrive⟩
  · intro m descriptor apart
    exact ⟨apart.made, apart.one⟩
  · intro m m' i c c' _ apart standing step
    exact apart_step apart standing step

/-- A gate that is known under one identity is never known under another one later. -/
theorem Apart.later {m m' : Machine} (apart : m.Apart) (reachable : m.Reachable)
    {actions : List Action} (leads : m.acts? actions = some m') {identity identity' : MethodIdentity}
    {gate : Nat} (knows : m.Knows identity gate) (knows' : m'.Knows identity' gate) :
    identity = identity' := by
  have keeps : gate < m'.gates.length ∧
      ∀ other, m'.Knows other gate → identity = other := by
    refine keeps_along (P := fun later => gate < later.gates.length ∧
      ∀ other, later.Knows other gate → identity = other) ?_ actions reachable ?_ leads
    · rintro later next action - ⟨made, one⟩ acted
      rcases act?_cases acted with ⟨method, rfl⟩ | ⟨descriptor, rfl⟩ | ⟨i, c, c', standing, step⟩
      · exact ⟨made, fun other known => one other known.of_arrive⟩
      · exact ⟨made, one⟩
      · refine ⟨Nat.lt_of_lt_of_le made step.gates_length, ?_⟩
        intro other known
        rcases known.of_step standing step with before | ⟨-, new, -⟩
        · exact one other before
        · -- Gates are made with numbers that no gate has had.
          omega
    · exact ⟨apart.made identity gate knows, fun other known => apart.one _ _ gate knows known⟩
  exact keeps.2 identity' knows'

/-! ## Waiting -/

/-- Caller `i` stands before the gate that caller `j` has closed behind itself. -/
def WaitsFor (m : Machine) (i j : Nat) : Prop :=
  ∃ c gate, m.callers[i]? = some c ∧ c.position = .lock gate ∧ m.held? j = some gate

section

variable {m : Machine} {i j : Nat} {c d : Caller}

/-- Who waits, waits for someone: a gate that is not open was closed by a caller. -/
theorem exists_waitsFor (gated : m.Gated) (apart : m.Apart) (standing : m.callers[i]? = some c)
    (waits : m.Waits c) : ∃ j, m.WaitsFor i j := by
  rcases waits with ⟨gate, here, shut⟩
  have known : m.Knows c.method.identity gate :=
    .inr ⟨c, List.mem_of_getElem? standing, rfl, by rw [here]; rfl⟩
  have made : gate < m.gates.length := apart.made _ _ known
  cases holder : m.gates[gate] with
  | none => exact absurd (by rw [List.getElem?_eq_getElem made, holder]) shut
  | some j =>
      have closed : m.gates[gate]? = some (some j) := by
        rw [List.getElem?_eq_getElem made, holder]
      exact ⟨j, c, gate, standing, here, (gated gate j).1 closed⟩

/-- Behind a gate no one waits, and no one has returned. -/
theorem advances_of_held (standing : m.callers[j]? = some d) {gate : Nat}
    (behind : d.position.held? = some gate) :
    ¬ m.Waits d ∧ (m.advance? j).isSome = true := by
  have free : ¬ m.Waits d := by
    rintro ⟨other, here, -⟩
    rw [here] at behind
    cases behind
  have busy : d.outcome? = none := by
    cases returned : d.outcome? with
    | none => rfl
    | some outcome =>
        rw [Caller.outcome?_eq_some_iff.1 returned] at behind
        cases behind
  rcases exists_step j busy free with ⟨d', m', step⟩
  exact ⟨free, by rw [step.advance?_eq standing]; rfl⟩

/-- A caller that can take a step has not returned. -/
theorem unfinished_of_advances (standing : m.callers[i]? = some c)
    (can : (m.advance? i).isSome = true) : c.isFinished = false := by
  cases returned : c.outcome? with
  | none => exact Caller.outcome?_eq_none_iff.1 returned
  | some outcome =>
      have returns : c.outcome? ≠ none := by simp [returned]
      rw [advance?_eq_none standing (.inl returns)] at can
      cases can

/-- A caller waits for a caller of its own method, which is on its way. -/
theorem WaitsFor.same_method (waitsFor : m.WaitsFor i j) (apart : m.Apart) :
    ∃ c d, m.callers[i]? = some c ∧ m.callers[j]? = some d ∧ (d.method == c.method) = true ∧
      ¬ m.Waits d ∧ (m.advance? j).isSome = true := by
  rcases waitsFor with ⟨c, gate, standing, here, held⟩
  rcases Option.bind_eq_some_iff.1 held with ⟨d, standing', behind⟩
  have known : m.Knows c.method.identity gate :=
    .inr ⟨c, List.mem_of_getElem? standing, rfl, by rw [here]; rfl⟩
  have known' : m.Knows d.method.identity gate :=
    .inr ⟨d, List.mem_of_getElem? standing', rfl, Position.gate?_of_held? behind⟩
  have same : d.method.identity = c.method.identity := apart.one _ _ gate known' known
  exact ⟨c, d, standing, standing', Method.beq_iff.2 same, advances_of_held standing' behind⟩

end

/-- In every reachable machine: a gate that is known under one identity is known under no other,
now or later; no two callers are behind one gate; who waits, waits for a caller of the same method
that does not wait itself and can take a step; and if anyone has not returned, someone who has not
returned can take a step. -/
theorem waits_in_turn {m : Machine} (reachable : m.Reachable) :
    (∀ actions m' identity identity' gate, m.acts? actions = some m' →
        m.Knows identity gate → m'.Knows identity' gate → identity = identity') ∧
      (∀ i j gate, m.held? i = some gate → m.held? j = some gate → i = j) ∧
      (∀ i c, m.callers[i]? = some c → m.Waits c → ∃ j, m.WaitsFor i j) ∧
      (∀ i j, m.WaitsFor i j → ∃ c d, m.callers[i]? = some c ∧ m.callers[j]? = some d ∧
        (d.method == c.method) = true ∧ ¬ m.Waits d ∧ (m.advance? j).isSome = true) ∧
      ((∃ c ∈ m.callers, c.isFinished = false) →
        ∃ i c, m.callers[i]? = some c ∧ c.isFinished = false ∧
          (m.advance? i).isSome = true) := by
  have gated := gated_reachable reachable
  have apart := apart_reachable reachable
  refine ⟨?_, ?_, ?_, ?_, ?_⟩
  · intro actions m' identity identity' gate leads knows knows'
    exact apart.later reachable leads knows knows'
  · intro i j gate hi hj
    exact gated.unique hi hj
  · intro i c standing waits
    exact exists_waitsFor gated apart standing waits
  · intro i j waitsFor
    exact waitsFor.same_method apart
  · rintro ⟨c, member, unfinished⟩
    rcases List.getElem?_of_mem member with ⟨i, standing⟩
    by_cases waits : m.Waits c
    · -- The caller waits, but the one it waits for does not.
      rcases exists_waitsFor gated apart standing waits with ⟨j, waitsFor⟩
      rcases waitsFor.same_method apart with ⟨-, d, -, standing', -, -, can⟩
      exact ⟨j, d, standing', unfinished_of_advances standing' can, can⟩
    · have busy : c.outcome? = none := Caller.outcome?_eq_none_iff.2 unfinished
      rcases exists_step i busy waits with ⟨c', m', step⟩
      exact ⟨i, c, standing, unfinished, by rw [step.advance?_eq standing]; rfl⟩

/-- Four callers miss the method before it is found. The second waits at the first one's gate and
closes it when the first has gone; the third makes another gate, and the fourth waits there. -/
def twoGates : List Action :=
  List.replicate 4 (.arrive (sampleMethod "id")) ++
    [.advance 1, .advance 1, .advance 2, .advance 2, .advance 3, .advance 3] ++
    List.replicate 4 (.advance 0) ++ .advance 1 :: List.replicate 5 (.advance 0) ++
    [.advance 1, .advance 2, .advance 2, .advance 3]

theorem waits_in_turn_twoGates :
    ∃ m, (start [.action sampleRegistration]).acts? twoGates = some m ∧
      m.held? 1 = some 0 ∧ m.held? 2 = some 1 ∧ m.WaitsFor 3 2 ∧
      (m.advance? 3).isNone = true ∧ (m.advance? 2).isSome = true ∧
      (∀ j, m.held? j = some 1 → j = 2) ∧
      ∃ i c, m.callers[i]? = some c ∧ c.isFinished = false ∧ (m.advance? i).isSome = true := by
  have possible : ((start [.action sampleRegistration]).acts? twoGates).isSome = true := by
    decide +kernel
  have ends : (((start [.action sampleRegistration]).acts? twoGates).map fun m =>
      (m.held? 1, m.held? 2, (m.advance? 3).isNone,
        m.callers[3]?.map fun c => match c.position with
          | .lock gate => some gate
          | _ => none)) = some (some 0, some 1, true, some (some 1)) := by
    decide +kernel
  rcases Option.isSome_iff_exists.1 possible with ⟨m, leads⟩
  rw [leads, Option.map_some, Option.some_inj, Prod.mk.injEq, Prod.mk.injEq, Prod.mk.injEq] at ends
  rcases ends with ⟨first, second, stuck, last⟩
  rcases Option.map_eq_some_iff.1 last with ⟨c, standing, here⟩
  have waitsFor : m.WaitsFor 3 2 := by
    cases position : c.position <;> simp [position] at here
    exact ⟨c, 1, standing, by rw [position, here], second⟩
  rcases waits_in_turn (reachable_acts? (.start _) leads) with ⟨-, alone, -, holder, progress⟩
  rcases holder 3 2 waitsFor with ⟨-, d, -, standing', -, -, can⟩
  have unfinished := unfinished_of_advances standing' can
  exact ⟨m, leads, first, second, waitsFor, stuck, can, fun j held => alone j 2 1 held second,
    progress ⟨d, List.mem_of_getElem? standing', unfinished⟩⟩

end Machine
end InvocationRouting
