import InvocationRouting.Proofs.Interleaving.Outline
import InvocationRouting.Proofs.Interleaving.Schedule

/-!
# Proofs.Interleaving.Leftover — gates that outlive the search behind them

A caller that finds a method removes the gate. A late caller, which missed the method before it was
remembered, then makes another one. Behind it the late caller finds the method remembered and
returns at once, so that this gate stays in the table for good.

* `Machine.Table` : the table has one gate for a method, and someone who asked for it;
* `Machine.LeftOver` : a remembered method has a gate that no one is about to remove;
* `Machine.Late` : a caller is about to make a gate for a remembered method;
* `gate_outlives` : a schedule of two callers leaves a gate behind;
* `gates_left` : in a quiet machine a remembered method has a gate exactly if some caller was late,
  and any other method exactly if some caller has returned nothing.
-/

namespace InvocationRouting
namespace Machine

/-! ## The table of gates -/

/-- The table has at most one gate for a method, and every method in it was asked for. -/
structure Table (m : Machine) : Prop where
  distinct : (m.inFlight.map (·.1)).Nodup
  asked : ∀ (identity : MethodIdentity) (gate : Nat), (identity, gate) ∈ m.inFlight →
    ∃ c ∈ m.callers, c.method.identity = identity

/-- An entry of a table with distinct keys is what the table knows for its key. -/
theorem lookup_of_mem {table : List (MethodIdentity × Nat)} (distinct : (table.map (·.1)).Nodup)
    {identity : MethodIdentity} {gate : Nat} (member : (identity, gate) ∈ table) :
    table.lookup identity = some gate := by
  induction table with
  | nil => cases member
  | cons entry rest ih =>
      rcases entry with ⟨key, number⟩
      rw [List.map_cons, List.nodup_cons] at distinct
      rcases List.mem_cons.1 member with ⟨⟨⟩⟩ | later
      · exact List.lookup_cons_self
      · have other : (identity == key) = false := by
          rw [beq_eq_false_iff_ne]
          rintro rfl
          exact distinct.1 (List.mem_map_of_mem (f := (·.1)) later)
        rw [List.lookup_cons, other]
        exact ih distinct.2 later

section

variable {m m' : Machine} {i : Nat} {c c' : Caller} {gate : Nat} {identity : MethodIdentity}

theorem asked_step (asked : ∃ d ∈ m.callers, d.method.identity = identity)
    (standing : m.callers[i]? = some c) (step : Step m i c c' m') :
    ∃ d ∈ m'.callers, d.method.identity = identity := by
  rcases asked with ⟨d, member, rfl⟩
  rcases List.getElem?_of_mem member with ⟨j, standing'⟩
  by_cases same : j = i
  · subst same
    rw [standing] at standing'
    cases standing'
    have moved := (step.standing_iff standing).2 (.inl ⟨rfl, rfl⟩)
    exact ⟨c', List.mem_of_getElem? moved, by rw [step.method_eq]⟩
  · have stays := (step.standing_iff standing).2 (.inr ⟨same, standing'⟩)
    exact ⟨d, List.mem_of_getElem? stays, rfl⟩

theorem table_step (table : m.Table) (standing : m.callers[i]? = some c)
    (step : Step m i c c' m') : m'.Table := by
  have earlier : ∀ identity gate, (identity, gate) ∈ m.inFlight →
      ∃ d ∈ m'.callers, d.method.identity = identity := by
    intro identity gate member
    exact asked_step (table.asked identity gate member) standing step
  rcases step.inFlight_cases with same | ⟨-, missing, made⟩ | ⟨gate, found, -, dropped⟩
  · refine ⟨?_, ?_⟩
    · rw [same]
      exact table.distinct
    · rw [same]
      exact earlier
  · refine ⟨?_, ?_⟩
    · rw [made, List.map_cons, List.nodup_cons]
      refine ⟨?_, table.distinct⟩
      intro member
      rcases List.mem_map.1 member with ⟨entry, there, same⟩
      have other := List.lookup_eq_none_iff.1 missing entry there
      simp [same] at other
    · intro identity gate member
      rw [made] at member
      rcases List.mem_cons.1 member with new | old
      · cases new
        exact asked_step ⟨c, List.mem_of_getElem? standing, rfl⟩ standing step
      · exact earlier identity gate old
  · refine ⟨?_, ?_⟩
    · rw [dropped]
      exact table.distinct.sublist (List.filter_sublist.map _)
    · intro identity gate member
      rw [dropped] at member
      exact earlier identity gate (List.mem_filter.1 member).1

end

theorem table_arrive {m : Machine} (table : m.Table) (method : Method) :
    (m.arrive method).Table where
  distinct := table.distinct
  asked identity gate member := by
    rcases table.asked identity gate member with ⟨c, there, same⟩
    exact ⟨c, List.mem_append_left _ there, same⟩

theorem table_reachable {m : Machine} (reachable : m.Reachable) : m.Table := by
  refine reachable.keeps ?_ ?_ ?_ ?_
  · intro descriptors
    refine ⟨List.nodup_nil, ?_⟩
    intro identity gate member
    cases member
  · intro m method table
    exact table_arrive table method
  · intro m descriptor table
    exact ⟨table.distinct, table.asked⟩
  · intro m m' i c c' _ table standing step
    exact table_step table standing step

/-! ## Gates that stay -/

/-- Someone is about to remove a gate of the method. -/
def Removing (m : Machine) (identity : MethodIdentity) : Prop :=
  ∃ (i : Nat) (c : Caller) (gate : Nat) (found : Registration), m.callers[i]? = some c ∧
    c.method.identity = identity ∧ c.position = .dropGate gate found

/-- The method is remembered, and yet it has a gate that no one is about to remove. -/
def LeftOver (m : Machine) (identity : MethodIdentity) : Prop :=
  (m.lookup? identity).isSome = true ∧ (m.inFlight.lookup identity).isSome = true ∧
    ¬ m.Removing identity

/-- The method is remembered and its gate is gone, but a caller that missed it before is about to
make another one. -/
def Late (m : Machine) (identity : MethodIdentity) : Prop :=
  (m.lookup? identity).isSome = true ∧ m.inFlight.lookup identity = none ∧
    ∃ (i : Nat) (c : Caller), m.callers[i]? = some c ∧ c.method.identity = identity ∧
      c.position = .fetchGate

/-- The gate that is dropped was the only one for its method. -/
theorem lookup_filter_self {table : List (MethodIdentity × Nat)}
    (distinct : (table.map (·.1)).Nodup) {identity : MethodIdentity} {gate : Nat}
    (there : table.lookup identity = some gate) :
    (table.filter fun entry => !(entry.1 == identity && entry.2 == gate)).lookup identity =
      none := by
  rw [List.lookup_eq_none_iff]
  rintro ⟨other, gate'⟩ member
  rcases List.mem_filter.1 member with ⟨inTable, kept⟩
  rw [bne_iff_ne]
  rintro rfl
  rw [lookup_of_mem distinct inTable] at there
  cases there
  simp at kept

section

variable {m m' : Machine} {i : Nat} {c c' : Caller} {identity : MethodIdentity}

/-- A method without a gate stays so unless its caller makes one. -/
theorem Step.lookup_inFlight_none (step : Step m i c c' m')
    (missing : m.inFlight.lookup identity = none)
    (idle : ¬ (c.position = .fetchGate ∧ c.method.identity = identity)) :
    m'.inFlight.lookup identity = none := by
  rcases step.inFlight_cases with same | ⟨here, -, made⟩ | ⟨gate, found, -, dropped⟩
  · rw [same]
    exact missing
  · have other : (identity == c.method.identity) = false := by
      rw [beq_eq_false_iff_ne]
      intro same
      exact idle ⟨here, same.symm⟩
    rw [made, List.lookup_cons, other]
    exact missing
  · rw [List.lookup_eq_none_iff] at missing ⊢
    intro entry member
    rw [dropped] at member
    exact missing entry (List.mem_filter.1 member).1

theorem Removing.of_step (removing : m'.Removing identity) (standing : m.callers[i]? = some c)
    (step : Step m i c c' m') :
    m.Removing identity ∨
      ∃ gate found, c.position = .store gate found ∧ c.method.identity = identity := by
  rcases removing with ⟨j, d, gate, found, standing', same, there⟩
  rcases (step.standing_iff standing).1 standing' with ⟨rfl, rfl⟩ | ⟨-, before⟩
  · rw [step.method_eq] at same
    exact .inr ⟨gate, found, step.to_dropGate there, same⟩
  · exact .inl ⟨j, d, gate, found, before, same, there⟩

/-- A remembered method is not found again, so that no one comes to remove its gate. -/
theorem not_removing_step (outline : m.Outline) (known : (m.lookup? identity).isSome = true)
    (idle : ¬ m.Removing identity) (standing : m.callers[i]? = some c)
    (step : Step m i c c' m') : ¬ m'.Removing identity := by
  intro removing
  rcases removing.of_step standing step with before | ⟨gate, found, here, rfl⟩
  · exact idle before
  · rw [(outline.at_store standing here).1] at known
    cases known

theorem Outline.known_step (outline : m.Outline) (known : (m.lookup? identity).isSome = true)
    (standing : m.callers[i]? = some c) (step : Step m i c c' m') :
    (m'.lookup? identity).isSome = true := by
  rcases Option.isSome_iff_exists.1 known with ⟨found, known⟩
  rw [outline.lookup?_step standing step known]
  rfl

/-- A gate that is left over stays. -/
theorem LeftOver.step (leftOver : m.LeftOver identity) (outline : m.Outline)
    (standing : m.callers[i]? = some c) (step : Step m i c c' m') : m'.LeftOver identity := by
  rcases leftOver with ⟨known, there, idle⟩
  refine ⟨outline.known_step known standing step, ?_,
    not_removing_step outline known idle standing step⟩
  rcases Option.isSome_iff_exists.1 there with ⟨gate, there⟩
  rw [step.lookup_inFlight there ?_]
  · rfl
  · rintro gate' found here rfl
    exact idle ⟨i, c, gate', found, standing, rfl, here⟩

/-- A late caller leaves a gate behind, or someone else has been as late. -/
theorem Late.step (late : m.Late identity) (outline : m.Outline)
    (standing : m.callers[i]? = some c) (step : Step m i c c' m') :
    m'.Late identity ∨ m'.LeftOver identity := by
  rcases late with ⟨known, missing, j, d, standing', same, here⟩
  have known' := outline.known_step known standing step
  -- Whoever makes the gate, it is made for a method that is remembered by then.
  by_cases making : c.position = .fetchGate ∧ c.method.identity = identity
  · rcases making with ⟨here, rfl⟩
    have idle : ¬ m.Removing c.method.identity := by
      rintro ⟨k, e, gate, found, standing'', same, dropping⟩
      have inTable := (outline.at_dropGate standing'' dropping).2
      rw [same, missing] at inTable
      cases inTable
    refine .inr ⟨known', ?_, not_removing_step outline known idle standing step⟩
    rw [step.of_fetchGate here missing, List.lookup_cons_self]
    rfl
  · have other : j ≠ i := by
      rintro rfl
      rw [standing] at standing'
      cases standing'
      exact making ⟨here, same⟩
    exact .inl ⟨known', step.lookup_inFlight_none missing making, j, d,
      (step.standing_iff standing).2 (.inr ⟨other, standing'⟩), same, here⟩

/-- Only a late caller leaves a gate behind. -/
theorem LeftOver.of_step (leftOver : m'.LeftOver identity) (outline : m.Outline) (table : m.Table)
    (standing : m.callers[i]? = some c) (step : Step m i c c' m') :
    m.LeftOver identity ∨ m.Late identity := by
  rcases leftOver with ⟨known', there', idle'⟩
  have known : (m.lookup? identity).isSome = true := by
    rw [← step.lookup?_eq ?_]
    · exact known'
    · rintro gate found here rfl
      -- What has just been stored has its gate removed next.
      exact idle' ⟨i, c', gate, found, (step.standing_iff standing).2 (.inl ⟨rfl, rfl⟩),
        by rw [step.method_eq], (step.of_store here).2⟩
  cases there : m.inFlight.lookup identity with
  | some gate =>
      -- The gate was there before, and whoever was about to remove it has not done so.
      refine .inl ⟨known, by rw [there]; rfl, ?_⟩
      rintro ⟨j, d, gate', found, standing', rfl, dropping⟩
      by_cases same : j = i
      · subst same
        rw [standing] at standing'
        cases standing'
        have inTable := (outline.at_dropGate standing dropping).2
        rw [step.of_dropGate dropping, lookup_filter_self table.distinct inTable] at there'
        cases there'
      · exact idle' ⟨j, d, gate', found, (step.standing_iff standing).2 (.inr ⟨same, standing'⟩),
          rfl, dropping⟩
  | none =>
      -- The gate has just been made, which takes a caller that stood before it.
      by_cases making : c.position = .fetchGate ∧ c.method.identity = identity
      · exact .inr ⟨known, there, i, c, standing, making.2, making.1⟩
      · rw [step.lookup_inFlight_none there making] at there'
        cases there'

end

/-! ## All actions -/

section

variable {m m' : Machine} {action : Action} {identity : MethodIdentity}

theorem removing_arrive_iff {method : Method} :
    (m.arrive method).Removing identity ↔ m.Removing identity := by
  constructor
  · rintro ⟨i, c, gate, found, standing, same, here⟩
    rcases arrive_standing_iff.1 standing with before | ⟨-, rfl⟩
    · exact ⟨i, c, gate, found, before, same, here⟩
    · cases here
  · rintro ⟨i, c, gate, found, standing, same, here⟩
    exact ⟨i, c, gate, found, arrive_standing_iff.2 (.inl standing), same, here⟩

theorem leftOver_arrive_iff {method : Method} :
    (m.arrive method).LeftOver identity ↔ m.LeftOver identity := by
  unfold LeftOver
  rw [removing_arrive_iff]
  exact Iff.rfl

theorem LeftOver.act (leftOver : m.LeftOver identity) (reachable : m.Reachable)
    (acted : m.act? action = some m') : m'.LeftOver identity := by
  rcases act?_cases acted with ⟨method, rfl⟩ | ⟨descriptor, rfl⟩ | ⟨i, c, c', standing, step⟩
  · exact leftOver_arrive_iff.2 leftOver
  · exact leftOver
  · exact leftOver.step (outline_reachable reachable) standing step

theorem Late.act (late : m.Late identity) (reachable : m.Reachable)
    (acted : m.act? action = some m') : m'.Late identity ∨ m'.LeftOver identity := by
  rcases act?_cases acted with ⟨method, rfl⟩ | ⟨descriptor, rfl⟩ | ⟨i, c, c', standing, step⟩
  · rcases late with ⟨known, missing, j, d, standing, same, here⟩
    exact .inl ⟨known, missing, j, d, arrive_standing_iff.2 (.inl standing), same, here⟩
  · exact .inl late
  · exact late.step (outline_reachable reachable) standing step

theorem LeftOver.of_act (leftOver : m'.LeftOver identity) (reachable : m.Reachable)
    (acted : m.act? action = some m') : m.LeftOver identity ∨ m.Late identity := by
  rcases act?_cases acted with ⟨method, rfl⟩ | ⟨descriptor, rfl⟩ | ⟨i, c, c', standing, step⟩
  · exact .inl (leftOver_arrive_iff.1 leftOver)
  · exact .inl leftOver
  · exact leftOver.of_step (outline_reachable reachable) (table_reachable reachable) standing step

end

/-! ## Schedules -/

/-- The schedule leads through a moment at which some caller of the method is late. -/
def LateOn (m : Machine) (actions : List Action) (identity : MethodIdentity) : Prop :=
  ∃ before after middle, actions = before ++ after ∧ m.acts? before = some middle ∧
    middle.Late identity

section

variable {m m' : Machine} {actions : List Action} {identity : MethodIdentity}

/-- Once a caller is late, someone is late or a gate is left over. -/
theorem LateOn.late_or_leftOver (lateOn : m.LateOn actions identity) (reachable : m.Reachable)
    (leads : m.acts? actions = some m') : m'.Late identity ∨ m'.LeftOver identity := by
  rcases lateOn with ⟨before, after, middle, rfl, toMiddle, late⟩
  rw [acts?_append, toMiddle, Option.bind_some] at leads
  refine keeps_along (P := fun m => m.Late identity ∨ m.LeftOver identity) ?_ after
    (reachable_acts? reachable toMiddle) (.inl late) leads
  rintro m m' action reachable (late | leftOver) acted
  · exact late.act reachable acted
  · exact .inr (leftOver.act reachable acted)

/-- A gate that is left over was so from the beginning, or some caller was late. -/
theorem LeftOver.lateOn (leftOver : m'.LeftOver identity) (reachable : m.Reachable)
    (leads : m.acts? actions = some m') : m.LeftOver identity ∨ m.LateOn actions identity := by
  induction actions generalizing m with
  | nil =>
      cases leads
      exact .inl leftOver
  | cons action rest ih =>
      rw [acts?_cons, Option.bind_eq_some_iff] at leads
      rcases leads with ⟨next, acted, leads⟩
      rcases ih (.act action reachable acted) leads with later | lateOn
      · rcases later.of_act reachable acted with now | late
        · exact .inl now
        · exact .inr ⟨[], action :: rest, m, rfl, rfl, late⟩
      · rcases lateOn with ⟨before, after, middle, rfl, toMiddle, late⟩
        refine .inr ⟨action :: before, after, middle, rfl, ?_, late⟩
        rw [acts?_cons, acted]
        exact toMiddle

/-- A method that is not remembered has a gate in a quiet machine exactly if some caller of the
method has returned nothing. -/
theorem gate_iff_of_unknown (reachable : m.Reachable) (quiet : m.isQuiet = true)
    (unknown : m.lookup? identity = none) :
    (m.inFlight.lookup identity).isSome = true ↔
      ∃ c ∈ m.callers, c.method.identity = identity ∧ c.outcome? = some none := by
  have outline := outline_reachable reachable
  constructor
  · intro there
    rcases Option.isSome_iff_exists.1 there with ⟨gate, there⟩
    rcases List.lookup_eq_some_iff.1 there with ⟨earlier, later, split, -⟩
    have member : (identity, gate) ∈ m.inFlight := by rw [split]; simp
    rcases (table_reachable reachable).asked identity gate member with ⟨c, caller, rfl⟩
    rcases finished_of_quiet quiet caller with ⟨outcome, returned⟩
    refine ⟨c, caller, rfl, ?_⟩
    -- Had the caller been told anything, the method would be remembered.
    cases outcome with
    | none => exact returned
    | some found =>
        rw [outline.known_of_returned caller returned] at unknown
        cases unknown
  · rintro ⟨c, caller, rfl, returned⟩
    exact Option.isSome_iff_exists.2 ((outline.inVain_of_returned caller returned).1 unknown)

end

/-- In a quiet machine that a schedule has led to, a remembered method has a gate exactly if some
caller was late, and a method that is not remembered has one exactly if some caller of the method
has returned nothing. -/
theorem gates_left {descriptors : List Descriptor} {actions : List Action} {m : Machine}
    (leads : (start descriptors).acts? actions = some m) (quiet : m.isQuiet = true)
    (identity : MethodIdentity) :
    ((m.lookup? identity).isSome = true ∧ (m.inFlight.lookup identity).isSome = true ↔
        (start descriptors).LateOn actions identity) ∧
      (m.lookup? identity = none → ((m.inFlight.lookup identity).isSome = true ↔
        ∃ c ∈ m.callers, c.method.identity = identity ∧ c.outcome? = some none)) := by
  have reachable : m.Reachable := reachable_acts? (.start descriptors) leads
  refine ⟨⟨?_, ?_⟩, gate_iff_of_unknown reachable quiet⟩
  · -- In a quiet machine no one is about to remove a gate, and no one is late.
    rintro ⟨known, there⟩
    have idle : ¬ m.Removing identity := by
      rintro ⟨i, c, gate, found, standing, -, here⟩
      exact not_busy_of_quiet quiet standing (by simp [Caller.outcome?, here])
    rcases LeftOver.lateOn ⟨known, there, idle⟩ (.start descriptors) leads with early | lateOn
    · cases early.1
    · exact lateOn
  · intro lateOn
    rcases lateOn.late_or_leftOver (.start descriptors) leads with late | leftOver
    · rcases late with ⟨-, -, i, c, standing, -, here⟩
      exact absurd (by simp [Caller.outcome?, here]) (not_busy_of_quiet quiet standing)
    · exact ⟨leftOver.1, leftOver.2.1⟩

/-- Two callers miss the method. One of them finds it and returns before the other makes its
gate. -/
def overtaken : List Action :=
  [.arrive (sampleMethod "id"), .arrive (sampleMethod "id")] ++
    List.replicate 2 (.advance 0) ++ List.replicate 9 (.advance 1) ++
    List.replicate 4 (.advance 0)

/-- When all is quiet after that, the method is remembered and has a gate. -/
theorem overtaken_leaves_gate :
    ∃ m, (start [.action sampleRegistration]).acts? overtaken = some m ∧ m.isQuiet = true ∧
      (m.lookup? (sampleMethod "id").identity).isSome = true ∧
      (m.inFlight.lookup (sampleMethod "id").identity).isSome = true := by
  have possible : ((start [.action sampleRegistration]).acts? overtaken).isSome = true := by
    decide +kernel
  have ends : (((start [.action sampleRegistration]).acts? overtaken).map fun m =>
      (m.isQuiet, (m.lookup? (sampleMethod "id").identity).isSome,
        (m.inFlight.lookup (sampleMethod "id").identity).isSome)) = some (true, true, true) := by
    decide +kernel
  rcases Option.isSome_iff_exists.1 possible with ⟨m, leads⟩
  rw [leads, Option.map_some, Option.some_inj, Prod.mk.injEq, Prod.mk.injEq] at ends
  exact ⟨m, leads, ends⟩

/-- Remembered methods may have gates though no one is on its way. -/
theorem gate_outlives :
    ¬ ∀ m : Machine, m.Reachable → m.isQuiet = true → ∀ identity,
      (m.lookup? identity).isSome = true → m.inFlight.lookup identity = none := by
  intro gone
  rcases overtaken_leaves_gate with ⟨m, leads, quiet, known, there⟩
  rw [gone m (reachable_acts? (.start _) leads) quiet _ known] at there
  cases there

theorem gates_left_overtaken :
    ∃ m, (start [.action sampleRegistration]).acts? overtaken = some m ∧ m.isQuiet = true ∧
      (start [.action sampleRegistration]).LateOn overtaken (sampleMethod "id").identity := by
  rcases overtaken_leaves_gate with ⟨m, leads, quiet, known, there⟩
  exact ⟨m, leads, quiet, (gates_left leads quiet _).1.1 ⟨known, there⟩⟩

end Machine
end InvocationRouting
