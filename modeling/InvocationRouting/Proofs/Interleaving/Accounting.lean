import InvocationRouting.Proofs.Interleaving.SingleFlight
import Mathlib.Data.Finset.Card

/-!
# Proofs.Interleaving.Accounting — what the counters add up to

A caller may miss, wait, and be served by the search of another one, so that the counters say little
about any single caller. They add up over all callers:

* `Machine.count` : how many callers stand at positions of a kind;
* `Step.count_add` : a step takes its caller out of one count and into another;
* `Machine.Ledger` : counters, searches and remembered registrations against such counts;
* `stats_account` : what the counters say about the callers, at any time and once all is quiet.
-/

namespace InvocationRouting

/-! ## Kinds of positions -/

namespace Position

/-- Past the step that counts a hit or a miss. -/
def isCounted : Position → Bool
  | firstLookup => false
  | countHit _ => false
  | countMiss => false
  | _ => true

/-- Past a counted miss, and not past a search. -/
def maySearch : Position → Bool
  | fetchGate => true
  | lock _ => true
  | secondLookup _ => true
  | scan _ => true
  | _ => false

/-- About to remember a finding. -/
def isStoring : Position → Bool
  | store .. => true
  | _ => false

/-- Past a search in vain. -/
def isRefused : Position → Bool
  | unlock _ outcome => outcome.isNone
  | finished outcome => outcome.isNone
  | _ => false

/-- Sure of a registration that is remembered. -/
def isServed : Position → Bool
  | dropGate .. => true
  | unlock _ outcome => outcome.isSome
  | finished outcome => outcome.isSome
  | _ => false

end Position

/-- Has the caller counted its hit or its miss? -/
def Caller.isCounted (c : Caller) : Bool :=
  c.position.isCounted

/-- Has the caller been told that there is no action for its method? -/
def Caller.isRefused (c : Caller) : Bool :=
  c.outcome?.any (·.isNone)

/-- Has the caller been told a registration? -/
def Caller.isServed (c : Caller) : Bool :=
  c.outcome?.any (·.isSome)

theorem Caller.isServed_iff {c : Caller} :
    c.isServed = true ↔ ∃ found, c.outcome? = some (some found) := by
  unfold isServed
  rcases c.outcome? with _ | _ | found <;> simp

namespace Machine

/-- The identities for which some caller has been told a registration. -/
def served (m : Machine) : Finset MethodIdentity :=
  ((m.callers.filter (·.isServed)).map (·.method.identity)).toFinset

theorem mem_served_iff {m : Machine} {identity : MethodIdentity} :
    identity ∈ m.served ↔
      ∃ c ∈ m.callers, c.isServed = true ∧ c.method.identity = identity := by
  simp [served, and_assoc]

/-! ## Counting callers -/

/-- How many callers stand at positions of a kind. -/
def count (m : Machine) (kind : Position → Bool) : Nat :=
  m.callers.countP fun c => kind c.position

section

variable {m m' : Machine} {i : Nat} {c c' : Caller}

theorem Step.count_add (step : Step m i c c' m') (standing : m.callers[i]? = some c)
    (kind : Position → Bool) :
    m'.count kind + (kind c.position).toNat = m.count kind + (kind c'.position).toNat := by
  rcases List.getElem?_eq_some_iff.1 standing with ⟨bound, rfl⟩
  have moved := List.countP_set (p := fun d : Caller => kind d.position) (a := c') bound
  have after : (if kind c'.position = true then 1 else 0) = (kind c'.position).toNat := by
    cases kind c'.position <;> rfl
  unfold count
  rw [step.callers_eq, moved, after]
  cases before : kind m.callers[i].position with
  | false => simp
  | true =>
      -- The caller was counted, so that taking it out is not cut off at zero.
      have counted : 0 < m.callers.countP fun d => kind d.position :=
        List.countP_pos_iff.2 ⟨_, List.getElem_mem bound, before⟩
      simp only [if_true, Bool.toNat_true]
      omega

/-- Every caller that counts adds one to the hits or to the misses. -/
theorem Step.counted_add (step : Step m i c c' m') :
    m'.hits + m'.misses + c.position.isCounted.toNat =
      m.hits + m.misses + c'.position.isCounted.toNat := by
  cases step with
  | countHit here =>
      have one : m.hits + 1 + m.misses + 0 = m.hits + m.misses + 1 := by omega
      simpa [here, Position.isCounted] using one
  | countMiss here =>
      have one : m.hits + (m.misses + 1) + 0 = m.hits + m.misses + 1 := by omega
      simpa [here, Position.isCounted] using one
  | firstHit here known | firstMiss here unknown | joinGate here there | makeGate here missing
  | lock here isOpen | secondHit here known | secondMiss here unknown | scanFound here first
  | scanNothing here nothing | store here | dropGate here | unlock here =>
      rw [here]
      rfl

/-- A search ends in something to store or in a caller to refuse. -/
theorem Step.searched_add (step : Step m i c c' m') :
    m'.scans.length + (m.stored.length + c.position.isStoring.toNat + c.position.isRefused.toNat) =
      m.scans.length +
        (m'.stored.length + c'.position.isStoring.toNat + c'.position.isRefused.toNat) := by
  cases step with
  | scanFound here first =>
      have one : m.scans.length + 1 + m.stored.length =
          m.scans.length + (m.stored.length + 1) := by omega
      simpa [here, Position.isStoring, Position.isRefused] using one
  | scanNothing here nothing =>
      have one : m.scans.length + 1 + m.stored.length =
          m.scans.length + (m.stored.length + 1) := by omega
      simpa [here, Position.isStoring, Position.isRefused] using one
  | store here => simp [here, Position.isStoring, Position.isRefused]
  | firstHit here known | firstMiss here unknown | countHit here | countMiss here
  | joinGate here there | makeGate here missing | lock here isOpen | secondHit here known
  | secondMiss here unknown | dropGate here | unlock here =>
      rw [here]
      rfl

/-- Every search was preceded by a miss of its own. -/
theorem Step.missed_add (step : Step m i c c' m') :
    m'.scans.length + c'.position.maySearch.toNat + m.misses ≤
      m.scans.length + c.position.maySearch.toNat + m'.misses := by
  cases step with
  | countMiss here =>
      have one : m.scans.length + 1 + m.misses ≤ m.scans.length + 0 + (m.misses + 1) := by omega
      simpa [here, Position.maySearch] using one
  | scanFound here first =>
      simp [here, Position.maySearch]
  | scanNothing here nothing =>
      simp [here, Position.maySearch]
  | secondHit here known =>
      -- The caller is served by the search of another, and will not search itself.
      simp [here, Position.maySearch]
  | firstHit here known | firstMiss here unknown | countHit here | joinGate here there
  | makeGate here missing | lock here isOpen | secondMiss here unknown | store here
  | dropGate here | unlock here =>
      rw [here]
      exact Nat.le_refl _

theorem Step.counters_mono (step : Step m i c c' m') :
    m.hits ≤ m'.hits ∧ m.misses ≤ m'.misses := by
  cases step with
  | countHit here => exact ⟨Nat.le_succ _, Nat.le_refl _⟩
  | countMiss here => exact ⟨Nat.le_refl _, Nat.le_succ _⟩
  | _ => exact ⟨Nat.le_refl _, Nat.le_refl _⟩

/-- A caller that is sure of its registration stays so. -/
theorem Step.served_mono (step : Step m i c c' m') (served : c.position.isServed = true) :
    c'.position.isServed = true := by
  cases step with
  | dropGate here => rfl
  | unlock here => simpa [here, Position.isServed] using served
  | _ => simp_all [Position.isServed]

end

theorem count_arrive (m : Machine) (method : Method) (kind : Position → Bool) :
    (m.arrive method).count kind = m.count kind + (kind .firstLookup).toNat := by
  have one : ([Caller.begin method].countP fun c => kind c.position) =
      (kind .firstLookup).toNat := by
    cases h : kind .firstLookup <;> simp [Caller.begin, h]
  unfold count arrive
  rw [List.countP_append, one]

/-! ## The ledger -/

/-- How counters, searches and remembered registrations stand against the callers. -/
structure Ledger (m : Machine) : Prop where
  counted : m.hits + m.misses = m.count Position.isCounted
  searched : m.scans.length =
    m.stored.length + m.count Position.isStoring + m.count Position.isRefused
  missed : m.scans.length + m.count Position.maySearch ≤ m.misses
  served : ∀ identity, (m.lookup? identity).isSome = true →
    ∃ c ∈ m.callers, c.position.isServed = true ∧ c.method.identity = identity

section

variable {m m' : Machine} {i : Nat} {c c' : Caller}

theorem Ledger.served_step (ledger : m.Ledger) (standing : m.callers[i]? = some c)
    (step : Step m i c c' m') {identity : MethodIdentity}
    (known : (m'.lookup? identity).isSome = true) :
    ∃ d ∈ m'.callers, d.position.isServed = true ∧ d.method.identity = identity := by
  have mover : c' ∈ m'.callers :=
    List.mem_of_getElem? ((step.standing_iff standing).2 (.inl ⟨rfl, rfl⟩))
  by_cases stores : ∃ gate found, c.position = .store gate found ∧ identity = c.method.identity
  · rcases stores with ⟨gate, found, here, rfl⟩
    have there := (step.of_store here).2
    exact ⟨c', mover, by rw [there]; rfl, by rw [step.method_eq]⟩
  · have same : m'.lookup? identity = m.lookup? identity :=
      step.lookup?_eq fun gate found here same => stores ⟨gate, found, here, same⟩
    rw [same] at known
    rcases ledger.served identity known with ⟨d, member, served, rfl⟩
    rcases List.getElem?_of_mem member with ⟨j, standing'⟩
    by_cases moves : j = i
    · subst moves
      rw [standing] at standing'
      cases standing'
      exact ⟨c', mover, step.served_mono served, by rw [step.method_eq]⟩
    · have stays := (step.standing_iff standing).2 (.inr ⟨moves, standing'⟩)
      exact ⟨d, List.mem_of_getElem? stays, served, rfl⟩

theorem ledger_step (ledger : m.Ledger) (standing : m.callers[i]? = some c)
    (step : Step m i c c' m') : m'.Ledger where
  counted := by
    have before := ledger.counted
    have move := step.counted_add
    have callers := step.count_add standing Position.isCounted
    omega
  searched := by
    have before := ledger.searched
    have move := step.searched_add
    have storing := step.count_add standing Position.isStoring
    have refused := step.count_add standing Position.isRefused
    omega
  missed := by
    have before := ledger.missed
    have move := step.missed_add
    have callers := step.count_add standing Position.maySearch
    omega
  served _ known := ledger.served_step standing step known

end

theorem ledger_arrive {m : Machine} (ledger : m.Ledger) (method : Method) :
    (m.arrive method).Ledger where
  counted := by
    rw [count_arrive]
    exact ledger.counted
  searched := by
    rw [count_arrive, count_arrive]
    exact ledger.searched
  missed := by
    rw [count_arrive]
    exact ledger.missed
  served identity known := by
    rcases ledger.served identity known with ⟨c, member, served, same⟩
    exact ⟨c, List.mem_append_left _ member, served, same⟩

theorem ledger_reachable {m : Machine} (reachable : m.Reachable) : m.Ledger := by
  refine reachable.keeps ?_ ?_ ?_ ?_
  · intro descriptors
    refine ⟨rfl, rfl, Nat.le_refl 0, ?_⟩
    intro identity known
    cases known
  · intro m method ledger
    exact ledger_arrive ledger method
  · intro m descriptor ledger
    exact ⟨ledger.counted, ledger.searched, ledger.missed, ledger.served⟩
  · intro m m' i c c' _ ledger standing step
    exact ledger_step ledger standing step

/-! ## What is remembered -/

theorem eraseDups_of_nodup {keys : List MethodIdentity} (distinct : keys.Nodup) :
    keys.eraseDups = keys := by
  induction keys with
  | nil => rfl
  | cons key rest ih =>
      rw [List.nodup_cons] at distinct
      have others : rest.filter (fun other => !other == key) = rest := by
        rw [List.filter_eq_self]
        intro other member
        have differs : other ≠ key := by
          rintro rfl
          exact distinct.1 member
        simpa using differs
      rw [List.eraseDups_cons, others, ih distinct.2]

theorem lookup?_isSome_iff {m : Machine} {identity : MethodIdentity} :
    (m.lookup? identity).isSome = true ↔ identity ∈ m.stored.map (·.1) := by
  have entries : (m.lookup? identity).isSome = true ↔ ∃ entry ∈ m.stored, identity = entry.1 := by
    simp only [lookup?, List.lookup_isSome_iff, beq_iff_eq]
  rw [entries, List.mem_map]
  constructor
  · rintro ⟨entry, member, same⟩
    exact ⟨entry, member, same.symm⟩
  · rintro ⟨entry, member, same⟩
    exact ⟨entry, member, same.symm⟩

/-- Since nothing is remembered twice, the keys of what is remembered are distinct. -/
theorem Once.nodup_keys {m : Machine} (once : m.Once) : (m.stored.map (·.1)).Nodup := by
  rw [List.nodup_iff_count]
  intro identity
  have inserted := once.inserted identity
  rw [List.count_eq_countP, List.countP_map]
  exact inserted

section

variable {m : Machine}

theorem Once.cached_eq (once : m.Once) : m.cached = m.stored.length := by
  have distinct := once.nodup_keys
  calc
    m.cached = (m.stored.map (·.1)).length := by rw [cached, eraseDups_of_nodup distinct]
    _ = m.stored.length := List.length_map _

/-- In a quiet machine only the outcomes matter to a count. -/
theorem countP_congr_of_quiet (quiet : m.isQuiet = true) {p q : Caller → Bool}
    (agree : ∀ c outcome, c.position = .finished outcome → p c = q c) :
    m.callers.countP p = m.callers.countP q := by
  refine List.countP_congr ?_
  intro c member
  rcases finished_of_quiet quiet member with ⟨outcome, returned⟩
  rw [agree c outcome (Caller.outcome?_eq_some_iff.1 returned)]

/-- In a quiet machine the remembered methods are those that some caller was told. -/
theorem known_iff_served (reachable : m.Reachable) (quiet : m.isQuiet = true)
    {identity : MethodIdentity} :
    (m.lookup? identity).isSome = true ↔ identity ∈ m.served := by
  have outline := outline_reachable reachable
  have ledger := ledger_reachable reachable
  rw [mem_served_iff]
  constructor
  · intro known
    rcases ledger.served identity known with ⟨c, member, served, same⟩
    rcases finished_of_quiet quiet member with ⟨outcome, returned⟩
    have told : c.isServed = true := by
      rw [Caller.outcome?_eq_some_iff.1 returned] at served
      rw [Caller.isServed, returned]
      exact served
    exact ⟨c, member, told, same⟩
  · rintro ⟨c, member, told, rfl⟩
    rcases Caller.isServed_iff.1 told with ⟨found, returned⟩
    rw [outline.known_of_returned member returned]
    rfl

end

/-! ## The counters -/

/-- In every reachable machine hits and misses together are as many as the callers that have
counted, and they only grow. Once all is quiet they are as many as the calls that have returned,
searches are as many as remembered methods and refused calls together, and not more than misses, and
the remembered methods are those that some caller was told. -/
theorem stats_account {m : Machine} (reachable : m.Reachable) :
    m.stats.hits + m.stats.misses = m.callers.countP (·.isCounted) ∧
      (∀ actions m', m.acts? actions = some m' →
        m.stats.hits + m.stats.misses ≤ m'.stats.hits + m'.stats.misses) ∧
      (m.isQuiet = true →
        m.stats.hits + m.stats.misses = m.callers.countP (·.isFinished) ∧
          m.stats.scans = m.stats.cached + m.callers.countP (·.isRefused) ∧
          m.stats.scans ≤ m.stats.misses ∧ m.stats.cached = m.served.card ∧
          ∀ method, m.contains method = true ↔ method.identity ∈ m.served) := by
  have ledger := ledger_reachable reachable
  have once := once_reachable reachable
  refine ⟨ledger.counted, ?_, ?_⟩
  · intro actions m' leads
    refine keeps_along (P := fun later => m.stats.hits + m.stats.misses ≤
      later.stats.hits + later.stats.misses) ?_ actions reachable (Nat.le_refl _) leads
    intro middle next action _ grown acted
    rcases act?_cases acted with ⟨method, rfl⟩ | ⟨descriptor, rfl⟩ | ⟨i, c, c', standing, step⟩
    · exact grown
    · exact grown
    · have more := step.counters_mono
      exact Nat.le_trans grown (Nat.add_le_add more.1 more.2)
  · intro quiet
    have all : m.count Position.isCounted = m.callers.countP (·.isFinished) :=
      countP_congr_of_quiet quiet fun c outcome here => by
        simp only [Caller.isFinished, here, Position.isCounted]
    have refused : m.count Position.isRefused = m.callers.countP (·.isRefused) :=
      countP_congr_of_quiet quiet fun c outcome here => by
        simp only [Caller.isRefused, Caller.outcome?, here, Position.isRefused, Option.any_some]
    have storing : m.count Position.isStoring = 0 := by
      have nobody : m.count Position.isStoring = m.callers.countP fun _ => false :=
        countP_congr_of_quiet quiet fun c outcome here => by
          simp only [here, Position.isStoring]
      rw [nobody]
      simp
    have searching : m.scans.length ≤ m.misses := Nat.le_trans (Nat.le_add_right _ _) ledger.missed
    refine ⟨?_, ?_, searching, ?_, ?_⟩
    · rw [← all]
      exact ledger.counted
    · have searched := ledger.searched
      rw [storing, refused, ← once.cached_eq] at searched
      exact searched
    · calc
        m.stats.cached = (m.stored.map (·.1)).length := by
          rw [List.length_map]
          exact once.cached_eq
        _ = (m.stored.map (·.1)).toFinset.card :=
          (List.toFinset_card_of_nodup once.nodup_keys).symm
        _ = m.served.card := by
          congr 1
          ext identity
          rw [List.mem_toFinset, ← lookup?_isSome_iff]
          exact known_iff_served reachable quiet
    · intro method
      exact known_iff_served reachable quiet

/-- After the crowd has gone, one more caller finds the method remembered. -/
def latecomer : List Action :=
  crowd ++ .arrive (sampleMethod "id") :: List.replicate 2 (.advance 3)

theorem stats_account_latecomer :
    ∃ m, (start []).acts? latecomer = some m ∧ m.isQuiet = true ∧ m.stats = ⟨1, 1, 3, 2⟩ ∧
      m.callers.countP (·.isCounted) = 4 ∧ m.callers.countP (·.isRefused) = 1 ∧
      m.served.card = 1 ∧ (sampleMethod "review").identity ∈ m.served := by
  have possible : ((start []).acts? latecomer).isSome = true := by decide +kernel
  have ends : (((start []).acts? latecomer).map fun m =>
      (m.isQuiet, m.stats, m.contains (sampleMethod "review"))) =
        some (true, ⟨1, 1, 3, 2⟩, true) := by decide +kernel
  rcases Option.isSome_iff_exists.1 possible with ⟨m, leads⟩
  rw [leads, Option.map_some, Option.some_inj, Prod.mk.injEq, Prod.mk.injEq] at ends
  rcases ends with ⟨quiet, stats, known⟩
  rcases stats_account (reachable_acts? (.start []) leads) with ⟨counted, -, account⟩
  rcases account quiet with ⟨-, scans, -, cached, remembered⟩
  rw [stats] at counted scans cached
  refine ⟨m, leads, quiet, stats, counted.symm, ?_, cached.symm, (remembered _).1 known⟩
  have refused : 2 = 1 + m.callers.countP (·.isRefused) := scans
  omega

end Machine
end InvocationRouting
