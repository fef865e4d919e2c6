import InvocationRouting.Proofs.Interleaving.Outline
import InvocationRouting.Proofs.Interleaving.Schedule

/-!
# Proofs.Interleaving.SingleFlight — one successful search for every method

Whatever the schedule, a method is found by one search and remembered once, and all who ask for it
are told the same.

* `Machine.findings`, `Machine.insertions` : how often a method was found, and remembered;
* `Machine.Once` : neither happens twice, since what was found is remembered or about to be;
* `single_flight` : so all callers agree on the first action, and a caller returns nothing only if
  it has searched in vain.
-/

namespace InvocationRouting
namespace Machine

/-- How many searches have found the method. -/
def findings (m : Machine) (identity : MethodIdentity) : Nat :=
  m.scans.countP fun scan => scan.1 == identity && scan.2.isSome

/-- How many times the method was remembered. -/
def insertions (m : Machine) (identity : MethodIdentity) : Nat :=
  m.stored.countP fun entry => entry.1 == identity

/-- What was found is remembered, or its finder is about to remember it. -/
def Delivered (m : Machine) (identity : MethodIdentity) (found : Registration) : Prop :=
  m.lookup? identity = some found ∨
    ∃ (i : Nat) (c : Caller) (gate : Nat), m.callers[i]? = some c ∧
      c.method.identity = identity ∧ c.position = .store gate found

/-- No method is found twice, nor remembered twice. -/
structure Once (m : Machine) : Prop where
  found : ∀ identity, m.findings identity ≤ 1
  inserted : ∀ identity, m.insertions identity ≤ 1
  delivered : ∀ (identity : MethodIdentity) (found : Registration),
    (identity, some found) ∈ m.scans → m.Delivered identity found

theorem insertions_eq_zero {m : Machine} {identity : MethodIdentity}
    (unknown : m.lookup? identity = none) : m.insertions identity = 0 := by
  unfold insertions
  rw [List.countP_eq_zero]
  rintro ⟨other, registration⟩ member same
  have missed := List.lookup_eq_none_iff.1 unknown _ member
  rw [beq_iff_eq.1 same] at missed
  simp at missed

section

variable {m m' : Machine} {i : Nat} {c c' : Caller} {gate : Nat}

/-- Before a caller searches, its method was never found. -/
theorem Once.findings_eq_zero (once : m.Once) (outline : m.Outline)
    (standing : m.callers[i]? = some c) (here : c.position = .scan gate) :
    m.findings c.method.identity = 0 := by
  unfold findings
  rw [List.countP_eq_zero]
  rintro ⟨identity, outcome⟩ member noted
  rw [Bool.and_eq_true, beq_iff_eq] at noted
  rcases noted with ⟨rfl, hit⟩
  rcases Option.isSome_iff_exists.1 hit with ⟨found, rfl⟩
  rcases once.delivered _ found member with known | ⟨j, d, gate', standing', same, storing⟩
  · rw [(outline.at_scan standing here).1] at known
    cases known
  · -- The finder would work for the method beside the caller that is about to search.
    have searches : c.position.works? = some gate := by rw [here]; rfl
    have stores : d.position.works? = some gate' := by rw [storing]; rfl
    have one : i = j := outline.works_unique standing standing' same.symm searches stores
    subst one
    rw [standing] at standing'
    cases standing'
    rw [here] at storing
    cases storing

theorem Once.found_step (once : m.Once) (outline : m.Outline)
    (standing : m.callers[i]? = some c) (step : Step m i c c' m') (identity : MethodIdentity) :
    m'.findings identity ≤ 1 := by
  have before := once.found identity
  rcases step.scans_cases with same | ⟨gate, outcome, here, -, noted⟩
  · unfold findings at before ⊢
    rw [same]
    exact before
  · have fresh := once.findings_eq_zero outline standing here
    unfold findings at before fresh ⊢
    rw [noted, List.countP_cons]
    -- The new search counts for the method of its caller alone, which was never found before.
    by_cases same : c.method.identity = identity
    · subst same
      rw [fresh]
      split <;> omega
    · simp only [beq_eq_false_iff_ne.2 same, Bool.false_and]
      exact before

theorem Once.inserted_step (once : m.Once) (outline : m.Outline)
    (standing : m.callers[i]? = some c) (step : Step m i c c' m') (identity : MethodIdentity) :
    m'.insertions identity ≤ 1 := by
  have before := once.inserted identity
  rcases step.stored_cases with same | ⟨gate, found, here, -, stored⟩
  · unfold insertions at before ⊢
    rw [same]
    exact before
  · have fresh := insertions_eq_zero (outline.at_store standing here).1
    unfold insertions at before fresh ⊢
    rw [stored, List.countP_cons]
    by_cases same : c.method.identity = identity
    · subst same
      rw [fresh]
      split <;> omega
    · simp only [beq_eq_false_iff_ne.2 same]
      exact before

theorem Delivered.step {identity : MethodIdentity} {found : Registration}
    (delivered : m.Delivered identity found) (outline : m.Outline)
    (standing : m.callers[i]? = some c) (step : Step m i c c' m') :
    m'.Delivered identity found := by
  rcases delivered with known | ⟨j, d, gate, standing', rfl, storing⟩
  · exact .inl (outline.lookup?_step standing step known)
  · by_cases same : j = i
    · -- The finder itself steps, and remembers what it found.
      subst same
      rw [standing] at standing'
      cases standing'
      refine .inl ?_
      rw [lookup?, (step.of_store storing).1]
      exact List.lookup_cons_self
    · exact .inr ⟨j, d, gate, (step.standing_iff standing).2 (.inr ⟨same, standing'⟩), rfl, storing⟩

theorem Once.delivered_step (once : m.Once) (outline : m.Outline)
    (standing : m.callers[i]? = some c) (step : Step m i c c' m') {identity : MethodIdentity}
    {found : Registration} (member : (identity, some found) ∈ m'.scans) :
    m'.Delivered identity found := by
  rcases step.scans_cases with same | ⟨gate, outcome, here, first, noted⟩
  · rw [same] at member
    exact (once.delivered identity found member).step outline standing step
  · rw [noted] at member
    rcases List.mem_cons.1 member with new | old
    · cases new
      exact .inr ⟨i, c', gate, (step.standing_iff standing).2 (.inl ⟨rfl, rfl⟩),
        by rw [step.method_eq], step.of_scan here first.symm⟩
    · exact (once.delivered identity found old).step outline standing step

theorem once_step (once : m.Once) (outline : m.Outline) (standing : m.callers[i]? = some c)
    (step : Step m i c c' m') : m'.Once where
  found := once.found_step outline standing step
  inserted := once.inserted_step outline standing step
  delivered _ _ member := once.delivered_step outline standing step member

end

theorem once_arrive {m : Machine} (once : m.Once) (method : Method) :
    (m.arrive method).Once where
  found := once.found
  inserted := once.inserted
  delivered identity found member := by
    rcases once.delivered identity found member with known | ⟨j, d, gate, standing, same, storing⟩
    · exact .inl known
    · exact .inr ⟨j, d, gate, arrive_standing_iff.2 (.inl standing), same, storing⟩

/-- In every reachable machine no method was found twice, nor remembered twice. -/
theorem once_reachable {m : Machine} (reachable : m.Reachable) : m.Once := by
  refine reachable.keeps ?_ ?_ ?_ ?_
  · intro descriptors
    refine ⟨?_, ?_, ?_⟩
    · intro identity
      exact Nat.zero_le 1
    · intro identity
      exact Nat.zero_le 1
    · intro identity found member
      cases member
  · intro m method once
    exact once_arrive once method
  · intro m descriptor once
    exact ⟨once.found, once.inserted, once.delivered⟩
  · intro m m' i c c' before once standing step
    exact once_step once (outline_reachable before) standing step

/-! ## What callers return -/

/-- In every reachable machine a method was found by one search at most and remembered once at
most. All callers of a method that were told a registration were told the same one, which is the
first action for the method. A caller that was told nothing has itself searched
descriptors without an action for its method. -/
theorem single_flight {m : Machine} (reachable : m.Reachable) :
    (∀ identity, m.findings identity ≤ 1 ∧ m.insertions identity ≤ 1) ∧
      (∀ c ∈ m.callers, ∀ d ∈ m.callers, (c.method == d.method) = true →
        ∀ found found', c.outcome? = some (some found) → d.outcome? = some (some found') →
          found = found') ∧
      (∀ c ∈ m.callers, ∀ found, c.outcome? = some (some found) →
        Descriptor.IsFirstAction m.descriptors c.method found) ∧
      (∀ c ∈ m.callers, c.outcome? = some none →
        ∃ snapshot, c.searched = some snapshot ∧ snapshot <+: m.descriptors ∧
          Descriptor.NoAction snapshot c.method) := by
  have outline := outline_reachable reachable
  have once := once_reachable reachable
  refine ⟨?_, ?_, ?_, ?_⟩
  · intro identity
    exact ⟨once.found identity, once.inserted identity⟩
  · intro c memberC d memberD same found found' returned returned'
    have known := outline.known_of_returned memberC returned
    have known' := outline.known_of_returned memberD returned'
    rw [Method.beq_iff.1 same, known'] at known
    cases known
    rfl
  · intro c member found returned
    have known := outline.known_of_returned member returned
    exact Descriptor.firstAction?_eq_some_iff.1 (outline.first c.method found known)
  · intro c member returned
    rcases (outline.inVain_of_returned member returned).2 with
      ⟨snapshot, searched, older, nothing⟩
    exact ⟨snapshot, searched, older, Descriptor.firstAction?_eq_none_iff.1 nothing⟩

/-- One caller searches in vain. Then the method is registered, and two more callers meet at the
gate that the first has left behind. -/
def crowd : List Action :=
  [.arrive (sampleMethod "id")] ++ List.replicate 7 (.advance 0) ++
    [.register (.action sampleRegistration), .arrive (sampleMethod "id"),
      .arrive (sampleMethod "review")] ++
    List.replicate 3 (.advance 1) ++ List.replicate 3 (.advance 2) ++
    List.replicate 6 (.advance 1) ++ List.replicate 3 (.advance 2)

theorem single_flight_crowd :
    ∃ m, (start []).acts? crowd = some m ∧
      m.callers.map (fun c => c.outcome?.map fun outcome => outcome.map (·.number)) =
        [some none, some (some 0), some (some 0)] ∧
      m.findings (sampleMethod "id").identity ≤ 1 ∧
      (∀ c ∈ m.callers, ∀ found, c.outcome? = some (some found) →
        Descriptor.IsFirstAction m.descriptors c.method found) ∧
      ∀ c ∈ m.callers, c.outcome? = some none →
        ∃ snapshot, c.searched = some snapshot ∧ Descriptor.NoAction snapshot c.method := by
  have possible : ((start []).acts? crowd).isSome = true := by decide +kernel
  have numbers : (((start []).acts? crowd).map fun m => m.callers.map fun c =>
      c.outcome?.map fun outcome => outcome.map (·.number)) =
        some [some none, some (some 0), some (some 0)] := by decide +kernel
  rcases Option.isSome_iff_exists.1 possible with ⟨m, leads⟩
  rw [leads, Option.map_some, Option.some_inj] at numbers
  rcases single_flight (reachable_acts? (.start []) leads) with ⟨counts, -, first, vain⟩
  refine ⟨m, leads, numbers, (counts _).1, first, ?_⟩
  intro c member returned
  rcases vain c member returned with ⟨snapshot, searched, -, nothing⟩
  exact ⟨snapshot, searched, nothing⟩

end Machine
end InvocationRouting
