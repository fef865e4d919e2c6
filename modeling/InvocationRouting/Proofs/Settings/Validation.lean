import InvocationRouting.Merge
import InvocationRouting.Proofs.Text.FinalSigma

/-!
# Proofs.Settings.Validation — what an accepted set of reserved keys guarantees

Settings are checked by the lowercase forms of their keys, while routes compare keys by folding.

* `Settings.Admissible` : what settings are to satisfy, under either way to compare keys;
* `validate_eq_ok_iff` : accepted settings are admissible by lowercase forms;
* `validate_agrees` : where no reserved key has a capital sigma at the end of a word they are
  admissible by folding, and then no key plays two roles and no default passes for a name;
* `validate_misses_sigma` : where one has, neither need hold.
-/

namespace InvocationRouting
namespace Settings

/-- Every reserved key has a visible character, no two of them are alike, and some nesting is
admitted. -/
def Admissible (settings : Settings) (alike : String → String → Bool) : Prop :=
  (∀ key ∈ settings.reservedKeys, ∃ c ∈ key.2.toList, Blank.isBlank c = false) ∧
    settings.reservedKeys.Pairwise (fun a b => alike a.2 b.2 = false) ∧ 0 < settings.depthLimit

instance (settings : Settings) (alike : String → String → Bool) :
    Decidable (settings.Admissible alike) :=
  -- Only the characters of the key are tried, whatever other ways to decide are in scope.
  letI (key : SettingName × String) :
      Decidable (∃ c ∈ key.2.toList, Blank.isBlank c = false) := List.decidableBEx _ _
  inferInstanceAs (Decidable ((∀ key ∈ settings.reservedKeys,
    ∃ c ∈ key.2.toList, Blank.isBlank c = false) ∧
      settings.reservedKeys.Pairwise (fun a b => alike a.2 b.2 = false) ∧ 0 < settings.depthLimit))

/-- Have both texts one lowercase form? -/
def sameLowercase (a b : String) : Bool :=
  Casing.lowercase a == Casing.lowercase b

/-! ## The three checks -/

theorem firstEmpty?_eq_none_iff {keys : List (SettingName × String)} :
    firstEmpty? keys = none ↔ ∀ key ∈ keys, ∃ c ∈ key.2.toList, Blank.isBlank c = false := by
  simp [firstEmpty?, Blank.isBlankText]

theorem firstCollision?_eq_none_iff {keys : List (SettingName × String)} :
    firstCollision? keys = none ↔ keys.Pairwise fun a b => sameLowercase a.2 b.2 = false := by
  induction keys with
  | nil => simp [firstCollision?]
  | cons key rest ih =>
      rw [List.pairwise_cons, ← ih, firstCollision?]
      cases hit : rest.find? fun other => Casing.lowercase other.2 == Casing.lowercase key.2 with
      | some other =>
          have same := List.find?_some hit
          constructor
          · intro none
            cases none
          · rintro ⟨apart, -⟩
            have differs := apart other (List.mem_of_find?_eq_some hit)
            rw [sameLowercase, BEq.comm, same] at differs
            cases differs
      | none =>
          have apart : ∀ other ∈ rest, sameLowercase key.2 other.2 = false := by
            intro other member
            have differs := List.find?_eq_none.1 hit other member
            rw [sameLowercase, BEq.comm]
            simpa using differs
          exact ⟨fun later => ⟨apart, later⟩, fun both => both.2⟩

theorem depthFault?_eq_none_iff {settings : Settings} :
    settings.depthFault? = none ↔ 0 < settings.depthLimit := by
  simp [depthFault?, Nat.pos_iff_ne_zero]

/-- Settings are accepted exactly if they are admissible by the lowercase forms of their keys. -/
theorem validate_eq_ok_iff {settings : Settings} :
    settings.validate = .ok settings ↔ settings.Admissible sameLowercase := by
  have faultless : settings.validate = .ok settings ↔ settings.fault? = none := by
    unfold validate
    cases settings.fault? <;> simp
  rw [faultless, fault?, Option.or_eq_none_iff, Option.or_eq_none_iff, firstEmpty?_eq_none_iff,
    firstCollision?_eq_none_iff, depthFault?_eq_none_iff, and_assoc]
  exact Iff.rfl

/-! ## Keys without final sigmas -/

/-- No reserved key has a capital sigma that ends a word. -/
def NoFinalSigma (settings : Settings) : Prop :=
  ∀ key ∈ settings.reservedKeys, Casing.hasFinalSigma key.2 = false

instance (settings : Settings) : Decidable settings.NoFinalSigma :=
  inferInstanceAs (Decidable (∀ key ∈ settings.reservedKeys, Casing.hasFinalSigma key.2 = false))

theorem sameLowercase_eq_same {a b : String} (ha : Casing.hasFinalSigma a = false)
    (hb : Casing.hasFinalSigma b = false) : sameLowercase a b = RouteKey.same a b := by
  have forms := Casing.lowercase_eq_lowercase_iff ha hb
  have folded : sameLowercase a b = true ↔ RouteKey.same a b = true := by
    rw [sameLowercase, beq_iff_eq, RouteKey.same_iff]
    exact forms
  exact Bool.eq_iff_iff.2 folded

/-- Where no reserved key has a final sigma, both ways to compare keys admit the same settings. -/
theorem NoFinalSigma.admissible_iff {settings : Settings} (plain : settings.NoFinalSigma) :
    settings.Admissible sameLowercase ↔ settings.Admissible RouteKey.same := by
  have apart : settings.reservedKeys.Pairwise (fun a b => sameLowercase a.2 b.2 = false) ↔
      settings.reservedKeys.Pairwise fun a b => RouteKey.same a.2 b.2 = false := by
    refine List.Pairwise.iff_of_mem ?_
    intro a b ha hb
    rw [sameLowercase_eq_same (plain a ha) (plain b hb)]
  rw [Admissible, apart]
  exact Iff.rfl

/-! ## One role for each key -/

/-- A key is a spelling of one reserved key at most, if these are different. -/
theorem countP_same_le_one {keys : List (SettingName × String)}
    (apart : keys.Pairwise fun a b => RouteKey.same a.2 b.2 = false) (key : String) :
    (keys.countP fun role => RouteKey.same key role.2) ≤ 1 := by
  induction keys with
  | nil => simp
  | cons role rest ih =>
      rw [List.pairwise_cons] at apart
      have later := ih apart.2
      by_cases hit : RouteKey.same key role.2 = true
      · have others : (rest.countP fun other => RouteKey.same key other.2) = 0 := by
          rw [List.countP_eq_zero]
          intro other member again
          have both : RouteKey.same role.2 other.2 = true :=
            RouteKey.same_iff.2 ((RouteKey.same_iff.1 hit).symm.trans (RouteKey.same_iff.1 again))
          rw [apart.1 other member] at both
          cases both
        simp [hit, others]
      · simpa [hit] using later

/-- Under no policy is a default taken over that stands under a key for names. -/
theorem admitsDefault_of_isNameKey {settings : Settings}
    (apart : settings.reservedKeys.Pairwise fun a b => RouteKey.same a.2 b.2 = false)
    {key : String} (named : (Merger.ofSettings settings).isNameKey key = true) :
    (Merger.ofSettings settings).admitsDefault key = false := by
  unfold Merger.admitsDefault
  cases (Merger.ofSettings settings).policy with
  | all => simp [named]
  | none => rfl
  | areaOnly =>
      -- A key for names would be the area key as well, and so play two roles.
      have roles := countP_same_le_one apart key
      simp only [reservedKeys, List.countP_cons, List.countP_nil] at roles
      cases area : RouteKey.same key settings.areaKey with
      | false => exact area
      | true =>
          simp only [Merger.isNameKey, Merger.ofSettings, Bool.or_eq_true] at named
          rcases named with handler | action
          · simp only [area, handler, if_true] at roles
            omega
          · simp only [area, action, if_true] at roles
            omega

/-- Defaults that are not taken over may as well be missing. -/
theorem fillDefaults_filter {merger : Merger} {skipped : String → Bool}
    (skip : ∀ key, skipped key = true → merger.admitsDefault key = false)
    (defaults : List RouteEntry) (values : RouteValues) :
    merger.fillDefaults (defaults.filter fun entry => !skipped entry.1) values =
      merger.fillDefaults defaults values := by
  unfold Merger.fillDefaults
  rw [List.foldl_filter]
  congr 1
  funext values entry
  cases missing : skipped entry.1 with
  | false => rfl
  | true => simp [skip entry.1 missing]

/-! ## What acceptance means -/

/-- Settings are accepted exactly if their keys are visible and different by their lowercase forms
and some nesting is admitted. If no reserved key has a capital sigma at the end of a word, this is
to say that they are different route keys. Then no key plays two of the reserved roles, and every
route is what it is without the defaults that stand under the keys for names. -/
theorem validate_agrees (settings : Settings) :
    (settings.validate = .ok settings ↔ settings.Admissible sameLowercase) ∧
      (settings.NoFinalSigma →
        (settings.validate = .ok settings ↔ settings.Admissible RouteKey.same) ∧
        (settings.validate = .ok settings →
          (∀ key, (settings.reservedKeys.countP fun role => RouteKey.same key role.2) ≤ 1) ∧
            ∀ target arguments defaults,
              (Merger.ofSettings settings).mergeInOrder target arguments
                  (defaults.filter fun entry =>
                    !(Merger.ofSettings settings).isNameKey entry.1) =
                (Merger.ofSettings settings).mergeInOrder target arguments defaults)) := by
  refine ⟨validate_eq_ok_iff, ?_⟩
  intro plain
  have agrees : settings.validate = .ok settings ↔ settings.Admissible RouteKey.same :=
    validate_eq_ok_iff.trans plain.admissible_iff
  refine ⟨agrees, ?_⟩
  intro accepted
  rcases agrees.1 accepted with ⟨-, apart, -⟩
  refine ⟨countP_same_le_one apart, ?_⟩
  intro target arguments defaults
  have skip : ∀ key, (Merger.ofSettings settings).isNameKey key = true →
      (Merger.ofSettings settings).admitsDefault key = false :=
    fun key named => admitsDefault_of_isNameKey apart named
  simp only [Merger.mergeInOrder, fillDefaults_filter skip]

/-- Sigmas that end no word: a capital one at the beginning, and a final one that is none. -/
def wisdom : Settings :=
  { default with policy := .areaOnly, handlerKey := "ΣΟΦΙΑ", actionKey := "ΛΟΓΟς" }

theorem validate_agrees_wisdom :
    wisdom.NoFinalSigma ∧ wisdom.validate = .ok wisdom ∧ wisdom.Admissible RouteKey.same ∧
      (wisdom.reservedKeys.countP fun role => RouteKey.same "σοφια" role.2) ≤ 1 := by
  have plain : wisdom.NoFinalSigma := by decide +kernel
  have accepted : wisdom.validate = .ok wisdom := validate_eq_ok_iff.2 (by decide +kernel)
  rcases (validate_agrees wisdom).2 plain with ⟨agrees, follows⟩
  exact ⟨plain, accepted, agrees.1 accepted, (follows accepted).1 "σοφια"⟩

/-- One key for two roles, in spellings with different lowercase forms. -/
def twofold : Settings :=
  { default with policy := .areaOnly, handlerKey := "ΑΣ", areaKey := "ασ" }

/-- Two keys in spellings with one lowercase form. -/
def merged : Settings :=
  { default with handlerKey := "ΑΣ", actionKey := "ας" }

/-- Settings may be accepted though one key plays two roles, so that a default under the handler key
is taken over, and refused though their keys are different. -/
theorem validate_misses_sigma :
    (twofold.validate = .ok twofold ∧ ¬ twofold.Admissible RouteKey.same ∧
        (Merger.ofSettings twofold).isNameKey "ασ" = true ∧
        (Merger.ofSettings twofold).admitsDefault "ασ" = true) ∧
      merged.validate ≠ .ok merged ∧ merged.Admissible RouteKey.same := by
  have accepted : twofold.Admissible sameLowercase := by decide +kernel
  have refused : ¬ merged.Admissible sameLowercase := by decide +kernel
  refine ⟨⟨validate_eq_ok_iff.2 accepted, ?_, ?_, ?_⟩, ?_, ?_⟩
  · decide +kernel
  · decide +kernel
  · decide +kernel
  · exact fun accepts => refused (validate_eq_ok_iff.1 accepts)
  · decide +kernel

end Settings
end InvocationRouting
