import InvocationRouting.Proofs.Interleaving.Holding
import InvocationRouting.Proofs.Registry.FirstAction

/-!
# Proofs.Interleaving.Outline — what callers may rely on where they stand

Every position of a caller comes with an assertion. A caller that steps establishes the assertion of
its new position, and no step of another caller breaks it.

Two gates of one method may exist at a time, since a gate leaves the table when its method is found
and a late caller makes a new one. The assertions say why this does no harm: **as long as a method
is not remembered, there is one gate for it, and it stays in the table.**

* `Position.works?` : the gate behind which a caller searches, stores and cleans up;
* `Machine.Fits` : the assertion of the position of a caller;
* `Machine.Outline` : all gates, all callers and all that is remembered are as they should be;
* `Outline.works_unique` : at most one caller works for a method at a time;
* `outline_reachable` : every reachable machine keeps to the outline.
-/

namespace InvocationRouting

/-- The gate behind which a caller searches, stores and cleans up for all who look for its
method. -/
def Position.works? : Position → Option Nat
  | .scan gate => some gate
  | .store gate _ => some gate
  | .dropGate gate _ => some gate
  | _ => none

/-- A caller that works is behind its gate. -/
theorem Position.held?_of_works? {position : Position} {gate : Nat}
    (h : position.works? = some gate) : position.held? = some gate := by
  cases position <;> simp_all [works?, held?]

namespace Machine

/-! ## Assertions -/

/-- The caller has searched and found nothing among the descriptors of that moment. -/
def InVain (m : Machine) (c : Caller) : Prop :=
  ∃ snapshot, c.searched = some snapshot ∧ snapshot <+: m.descriptors ∧
    Descriptor.firstAction? snapshot c.method = none

/-- What holds where the caller stands. -/
def Fits (m : Machine) (c : Caller) : Prop :=
  match c.position with
  | .firstLookup => True
  | .countHit found => m.lookup? c.method.identity = some found
  | .countMiss => True
  | .fetchGate => True
  | .lock gate =>
      m.lookup? c.method.identity = none → m.inFlight.lookup c.method.identity = some gate
  | .secondLookup gate =>
      m.lookup? c.method.identity = none → m.inFlight.lookup c.method.identity = some gate
  | .scan gate =>
      m.lookup? c.method.identity = none ∧ m.inFlight.lookup c.method.identity = some gate
  | .store gate found =>
      m.lookup? c.method.identity = none ∧ m.inFlight.lookup c.method.identity = some gate ∧
        Descriptor.firstAction? m.descriptors c.method = some found
  | .dropGate gate found =>
      m.lookup? c.method.identity = some found ∧ m.inFlight.lookup c.method.identity = some gate
  | .unlock _ (some found) => m.lookup? c.method.identity = some found
  | .unlock gate none =>
      (m.lookup? c.method.identity = none → m.inFlight.lookup c.method.identity = some gate) ∧
        m.InVain c
  | .finished (some found) => m.lookup? c.method.identity = some found
  | .finished none =>
      (m.lookup? c.method.identity = none → ∃ gate,
        m.inFlight.lookup c.method.identity = some gate) ∧ m.InVain c

/-- All gates, all callers and all that is remembered are as they should be. -/
structure Outline (m : Machine) : Prop where
  gated : m.Gated
  fits : ∀ (i : Nat) (c : Caller), m.callers[i]? = some c → m.Fits c
  /-- What is remembered is the first action for its method. -/
  first : ∀ (method : Method) (found : Registration), m.lookup? method.identity = some found →
    Descriptor.firstAction? m.descriptors method = some found

section

variable {m m' : Machine} {i j : Nat} {c c' d : Caller} {gate : Nat}

/-- What a caller relies on that is about to search. -/
theorem Outline.at_scan (outline : m.Outline) (standing : m.callers[i]? = some c)
    (here : c.position = .scan gate) :
    m.lookup? c.method.identity = none ∧ m.inFlight.lookup c.method.identity = some gate := by
  have fits := outline.fits i c standing
  simp only [Fits, here] at fits
  exact fits

/-- What a caller relies on that is about to remember its finding. -/
theorem Outline.at_store (outline : m.Outline) (standing : m.callers[i]? = some c)
    {found : Registration} (here : c.position = .store gate found) :
    m.lookup? c.method.identity = none ∧ m.inFlight.lookup c.method.identity = some gate ∧
      Descriptor.firstAction? m.descriptors c.method = some found := by
  have fits := outline.fits i c standing
  simp only [Fits, here] at fits
  exact fits

/-- What a caller relies on that is about to remove its gate. -/
theorem Outline.at_dropGate (outline : m.Outline) (standing : m.callers[i]? = some c)
    {found : Registration} (here : c.position = .dropGate gate found) :
    m.lookup? c.method.identity = some found ∧
      m.inFlight.lookup c.method.identity = some gate := by
  have fits := outline.fits i c standing
  simp only [Fits, here] at fits
  exact fits

/-- The table knows the gate of a caller that works. -/
theorem Fits.lookup_of_works (fits : m.Fits c) (working : c.position.works? = some gate) :
    m.inFlight.lookup c.method.identity = some gate := by
  unfold Fits at fits
  cases here : c.position <;> rw [here] at working fits <;> cases working
  · exact fits.2
  · exact fits.2.1
  · exact fits.2

/-- At most one caller works for a method at a time. -/
theorem Outline.works_unique (outline : m.Outline) (hi : m.callers[i]? = some c)
    (hj : m.callers[j]? = some d) (same : c.method.identity = d.method.identity) {gate' : Nat}
    (working : c.position.works? = some gate) (working' : d.position.works? = some gate') :
    i = j := by
  -- The table has one gate for the method, and both stand behind it.
  have inTable := (outline.fits i c hi).lookup_of_works working
  have inTable' := (outline.fits j d hj).lookup_of_works working'
  rw [same, inTable'] at inTable
  cases inTable
  have behind : m.held? i = some gate := by
    rw [held?_of_standing hi]
    exact Position.held?_of_works? working
  have behind' : m.held? j = some gate := by
    rw [held?_of_standing hj]
    exact Position.held?_of_works? working'
  exact outline.gated.unique behind behind'

/-! ## Others do no harm -/

/-- An assertion outlasts changes that forget nothing, keep the gates of methods that are not
remembered, and leave those who work alone. -/
theorem Fits.mono (fits : m.Fits d) (grown : m.descriptors <+: m'.descriptors)
    (known : ∀ found, m.lookup? d.method.identity = some found →
      m'.lookup? d.method.identity = some found)
    (table : m'.lookup? d.method.identity = none → ∀ gate,
      m.inFlight.lookup d.method.identity = some gate →
        m'.inFlight.lookup d.method.identity = some gate)
    (alone : ∀ gate, d.position.works? = some gate →
      m'.lookup? d.method.identity = m.lookup? d.method.identity ∧
        m'.inFlight.lookup d.method.identity = m.inFlight.lookup d.method.identity) :
    m'.Fits d := by
  have unknown : m'.lookup? d.method.identity = none → m.lookup? d.method.identity = none := by
    intro h
    cases before : m.lookup? d.method.identity with
    | none => rfl
    | some found =>
        rw [known found before] at h
        cases h
  have vain : m.InVain d → m'.InVain d := by
    rintro ⟨snapshot, searched, older, nothing⟩
    exact ⟨snapshot, searched, older.trans grown, nothing⟩
  unfold Fits at fits ⊢
  cases here : d.position with
  | firstLookup => trivial
  | countHit found =>
      rw [here] at fits
      exact known found fits
  | countMiss => trivial
  | fetchGate => trivial
  | lock gate =>
      rw [here] at fits
      exact fun h => table h gate (fits (unknown h))
  | secondLookup gate =>
      rw [here] at fits
      exact fun h => table h gate (fits (unknown h))
  | scan gate =>
      rw [here] at fits alone
      rcases alone gate rfl with ⟨lookup, inFlight⟩
      simp only [lookup, inFlight]
      exact fits
  | store gate found =>
      rw [here] at fits alone
      rcases alone gate rfl with ⟨lookup, inFlight⟩
      -- What is registered meanwhile does not come before what was found.
      rcases grown with ⟨more, grown⟩
      simp only [lookup, inFlight, ← grown]
      exact ⟨fits.1, fits.2.1, Descriptor.firstAction?_append_of_some fits.2.2 more⟩
  | dropGate gate found =>
      rw [here] at fits alone
      rcases alone gate rfl with ⟨lookup, inFlight⟩
      simp only [lookup, inFlight]
      exact fits
  | unlock gate outcome =>
      rw [here] at fits
      cases outcome with
      | some found => exact known found fits
      | none => exact ⟨fun h => table h gate (fits.1 (unknown h)), vain fits.2⟩
  | finished outcome =>
      rw [here] at fits
      cases outcome with
      | some found => exact known found fits
      | none =>
          refine ⟨?_, vain fits.2⟩
          intro h
          rcases fits.1 (unknown h) with ⟨gate, there⟩
          exact ⟨gate, table h gate there⟩

/-- Only a caller that stores changes what is remembered, and that for its own method. -/
theorem Step.lookup?_eq (step : Step m i c c' m') {identity : MethodIdentity}
    (idle : ∀ gate found, c.position = .store gate found → identity ≠ c.method.identity) :
    m'.lookup? identity = m.lookup? identity := by
  unfold lookup?
  rcases step.stored_cases with same | ⟨gate, found, here, -, stored⟩
  · rw [same]
  · have other : (identity == c.method.identity) = false := by
      rw [beq_eq_false_iff_ne]
      exact idle gate found here
    rw [stored, List.lookup_cons, other]

/-- A step forgets nothing. -/
theorem Outline.lookup?_step (outline : m.Outline) (standing : m.callers[i]? = some c)
    (step : Step m i c c' m') {identity : MethodIdentity} {found : Registration}
    (known : m.lookup? identity = some found) : m'.lookup? identity = some found := by
  rw [step.lookup?_eq ?_]
  · exact known
  · rintro gate registration here rfl
    rw [(outline.at_store standing here).1] at known
    cases known

/-- Dropping a gate of one method leaves the gates of the others in the table. -/
theorem lookup_filter_ne {identity other : MethodIdentity} (h : other ≠ identity)
    (table : List (MethodIdentity × Nat)) (gate : Nat) :
    (table.filter fun entry => !(entry.1 == identity && entry.2 == gate)).lookup other =
      table.lookup other := by
  induction table with
  | nil => rfl
  | cons entry rest ih =>
      rcases entry with ⟨key, number⟩
      by_cases hit : other = key
      · subst hit
        simp [beq_eq_false_iff_ne.2 h]
      · have skip : (other == key) = false := beq_eq_false_iff_ne.2 hit
        have step : ((key, number) :: rest).lookup other = rest.lookup other := by
          rw [List.lookup_cons, skip]
        rw [List.filter_cons, step]
        split
        · rw [List.lookup_cons, skip]
          exact ih
        · exact ih

/-- A gate that is in the table before a step is there afterwards, unless its caller drops it. -/
theorem Step.lookup_inFlight (step : Step m i c c' m') {identity : MethodIdentity}
    (there : m.inFlight.lookup identity = some gate)
    (keeps : ∀ gate' found, c.position = .dropGate gate' found → identity ≠ c.method.identity) :
    m'.inFlight.lookup identity = some gate := by
  rcases step.inFlight_cases with same | ⟨-, missing, made⟩ | ⟨gate', found, here, dropped⟩
  · rw [same]
    exact there
  · have other : (identity == c.method.identity) = false := by
      rw [beq_eq_false_iff_ne]
      rintro rfl
      rw [missing] at there
      cases there
    rw [made, List.lookup_cons, other]
    exact there
  · rw [dropped, lookup_filter_ne (keeps gate' found here)]
    exact there

/-- No step of another caller breaks the assertion of a caller. -/
theorem Outline.fits_of_other (outline : m.Outline) (standing : m.callers[i]? = some c)
    (step : Step m i c c' m') (other : j ≠ i) (standing' : m.callers[j]? = some d) :
    m'.Fits d := by
  have fits := outline.fits j d standing'
  refine fits.mono ?_ ?_ ?_ ?_
  · exact ⟨[], by rw [List.append_nil, step.descriptors_eq]⟩
  · intro found known
    exact outline.lookup?_step standing step known
  · intro unknown gate there
    refine step.lookup_inFlight there ?_
    -- A gate is dropped only when its method is remembered.
    intro gate' found here same
    have known := outline.lookup?_step standing step (outline.at_dropGate standing here).1
    rw [← same, unknown] at known
    cases known
  · intro gate working
    -- A caller that works is the only one that can touch what it relies on.
    have idle : ∀ gate', c.position.works? = some gate' →
        d.method.identity ≠ c.method.identity := by
      intro gate' working' same
      exact other (outline.works_unique standing' standing same working working')
    constructor
    · refine step.lookup?_eq ?_
      intro gate' found here
      exact idle gate' (by rw [here]; rfl)
    · rw [fits.lookup_of_works working]
      refine step.lookup_inFlight (fits.lookup_of_works working) ?_
      intro gate' found here
      exact idle gate' (by rw [here]; rfl)

/-! ## What a caller establishes -/

/-- A caller that steps establishes the assertion of its new position. -/
theorem Outline.fits_of_mover (outline : m.Outline) (standing : m.callers[i]? = some c)
    (step : Step m i c c' m') : m'.Fits c' := by
  have fits := outline.fits i c standing
  cases step with
  | firstHit here known => exact known
  | firstMiss here unknown => trivial
  | countHit here =>
      simp only [Fits, here] at fits
      exact fits
  | countMiss here => trivial
  | joinGate here there => exact fun _ => there
  | makeGate here missing => exact fun _ => List.lookup_cons_self
  | lock here isOpen =>
      simp only [Fits, here] at fits
      exact fits
  | secondHit here known => exact known
  | secondMiss here unknown =>
      -- Now that the method is known to be missing, the gate is known to be in the table.
      simp only [Fits, here] at fits
      exact ⟨unknown, fits unknown⟩
  | scanFound here first =>
      simp only [Fits, here] at fits
      exact ⟨fits.1, fits.2, first⟩
  | scanNothing here nothing =>
      simp only [Fits, here] at fits
      exact ⟨fun _ => fits.2, m.descriptors, rfl, List.prefix_rfl, nothing⟩
  | store here =>
      simp only [Fits, here] at fits
      exact ⟨List.lookup_cons_self, fits.2.1⟩
  | dropGate here =>
      simp only [Fits, here] at fits
      exact fits.1
  | unlock here =>
      rename_i outcome
      cases outcome with
      | some found =>
          simp only [Fits, here] at fits
          exact fits
      | none =>
          simp only [Fits, here] at fits
          exact ⟨fun h => ⟨_, fits.1 h⟩, fits.2⟩

/-- What is remembered stays the first action for its method. -/
theorem Outline.first_step (outline : m.Outline) (standing : m.callers[i]? = some c)
    (step : Step m i c c' m') {method : Method} {found : Registration}
    (known : m'.lookup? method.identity = some found) :
    Descriptor.firstAction? m'.descriptors method = some found := by
  rw [step.descriptors_eq]
  rcases step.stored_cases with same | ⟨gate, registration, here, -, stored⟩
  · refine outline.first method found ?_
    rw [lookup?, same] at known
    exact known
  · rw [lookup?, stored, List.lookup_cons] at known
    by_cases same : method.identity = c.method.identity
    · have hit : (method.identity == c.method.identity) = true := by simpa using same
      rw [hit] at known
      cases known
      rw [Descriptor.firstAction?_congr same]
      exact (outline.at_store standing here).2.2
    · have miss : (method.identity == c.method.identity) = false := by simpa using same
      rw [miss] at known
      exact outline.first method found known

end

/-! ## All actions -/

theorem outline_step {m m' : Machine} {i : Nat} {c c' : Caller} (outline : m.Outline)
    (standing : m.callers[i]? = some c) (step : Step m i c c' m') : m'.Outline where
  gated := gated_step outline.gated standing step
  first _ _ known := outline.first_step standing step known
  fits j d standing' := by
    rcases (step.standing_iff standing).1 standing' with ⟨rfl, rfl⟩ | ⟨other, before⟩
    · exact outline.fits_of_mover standing step
    · exact outline.fits_of_other standing step other before

theorem outline_arrive {m : Machine} (outline : m.Outline) (method : Method) :
    (m.arrive method).Outline where
  gated := gated_arrive outline.gated method
  first := outline.first
  fits j d standing := by
    rcases arrive_standing_iff.1 standing with before | ⟨-, rfl⟩
    · exact outline.fits j d before
    · trivial

theorem outline_register {m : Machine} (outline : m.Outline) (descriptor : Descriptor) :
    (m.register descriptor).Outline where
  gated := outline.gated
  first method found known :=
    Descriptor.firstAction?_append_of_some (outline.first method found known) [descriptor]
  fits j d standing :=
    (outline.fits j d standing).mono (List.prefix_append _ _) (fun _ known => known)
      (fun _ _ there => there) (fun _ _ => ⟨rfl, rfl⟩)

/-- What a caller has returned is remembered. -/
theorem Outline.known_of_returned {m : Machine} (outline : m.Outline) {c : Caller}
    (member : c ∈ m.callers) {found : Registration} (returned : c.outcome? = some (some found)) :
    m.lookup? c.method.identity = some found := by
  rcases List.getElem?_of_mem member with ⟨i, standing⟩
  have fits := outline.fits i c standing
  simp only [Fits, Caller.outcome?_eq_some_iff.1 returned] at fits
  exact fits

/-- A caller that has returned nothing has searched in vain, and has left its gate behind. -/
theorem Outline.inVain_of_returned {m : Machine} (outline : m.Outline) {c : Caller}
    (member : c ∈ m.callers) (returned : c.outcome? = some none) :
    (m.lookup? c.method.identity = none →
      ∃ gate, m.inFlight.lookup c.method.identity = some gate) ∧ m.InVain c := by
  rcases List.getElem?_of_mem member with ⟨i, standing⟩
  have fits := outline.fits i c standing
  simp only [Fits, Caller.outcome?_eq_some_iff.1 returned] at fits
  exact fits

/-- Every reachable machine keeps to the outline. -/
theorem outline_reachable {m : Machine} (reachable : m.Reachable) : m.Outline := by
  refine reachable.keeps ?_ ?_ ?_ ?_
  · intro descriptors
    refine ⟨gated_reachable (.start descriptors), ?_, ?_⟩
    · intro j d standing
      cases standing
    · intro method found known
      cases known
  · intro m method outline
    exact outline_arrive outline method
  · intro m descriptor outline
    exact outline_register outline descriptor
  · intro m m' i c c' _ outline standing step
    exact outline_step outline standing step

end Machine
end InvocationRouting
