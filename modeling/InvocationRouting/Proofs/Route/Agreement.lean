import InvocationRouting.Proofs.Route.History
import InvocationRouting.Proofs.Value.Equality

/-!
# Proofs.Route.Agreement — equal dictionaries answer alike

`RouteValues.same` looks the entries of one dictionary up in the other and compares sizes, which is
a test from one side. By counting folded keys it comes to the same as asking both dictionaries for
every key.

* `Agree` : both dictionaries answer alike under every key;
* `same_iff_agree` : this is what `RouteValues.same` finds out;
* `Agree.insert`, `Agree.extend` : writing keeps dictionaries equal.
-/

namespace InvocationRouting
namespace RouteValues

/-- Under every key, either both dictionaries have nothing or both have equal values. -/
def Agree (a b : RouteValues) : Prop :=
  ∀ key, Value.Alike (a.get? key) (b.get? key)

variable {a b : RouteValues}

namespace Agree

theorem symm (h : a.Agree b) : b.Agree a :=
  fun key => (h key).symm

/-- Dictionaries that agree have the same folded keys. -/
theorem foldedKeys_subset (h : a.Agree b) :
    RouteEntry.foldedKeys a.entries ⊆ RouteEntry.foldedKeys b.entries := by
  intro folded member
  rcases List.mem_map.1 member with ⟨entry, -, rfl⟩
  have there : a.contains entry.1 = true := contains_iff.2 member
  have there' : b.contains entry.1 = true := (h entry.1).isSome_eq.symm.trans there
  exact contains_iff.1 there'

theorem size_eq (h : a.Agree b) : a.size = b.size := by
  have perm : (RouteEntry.foldedKeys a.entries).Perm (RouteEntry.foldedKeys b.entries) := by
    refine (List.perm_ext_iff_of_nodup a.distinct b.distinct).2 fun folded => ⟨?_, ?_⟩
    · intro member
      exact h.foldedKeys_subset member
    · intro member
      exact h.symm.foldedKeys_subset member
  simpa [RouteEntry.foldedKeys, size] using perm.length_eq

end Agree

/-- An entry is found in the other dictionary exactly if there is an equal value for it. -/
theorem same_iff :
    a.same b = true ↔
      a.size = b.size ∧ ∀ entry ∈ a.entries, Value.Alike (some entry.2) (b.get? entry.1) := by
  unfold same
  simp only [Bool.and_eq_true, beq_iff_eq, List.all_eq_true]
  refine and_congr_right fun _ => forall₂_congr fun entry _ => ?_
  cases b.get? entry.1 with
  | none => simp [Value.Alike.not_some_none]
  | some w => exact Value.Alike.some_iff.symm

/-- As many distinct keys, all of them among the others, are all of the others. -/
theorem contains_of_size_eq (size : a.size = b.size)
    (among : ∀ entry ∈ a.entries, b.contains entry.1 = true) {key : String}
    (there : b.contains key = true) : a.contains key = true := by
  have subset : RouteEntry.foldedKeys a.entries ⊆ RouteEntry.foldedKeys b.entries := by
    intro folded member
    rcases List.mem_map.1 member with ⟨entry, stored, rfl⟩
    exact contains_iff.1 (among entry stored)
  have lengths : (RouteEntry.foldedKeys b.entries).length ≤
      (RouteEntry.foldedKeys a.entries).length := by
    simpa [RouteEntry.foldedKeys, RouteValues.size] using size.ge
  have perm : (RouteEntry.foldedKeys a.entries).Perm (RouteEntry.foldedKeys b.entries) :=
    (List.subperm_of_subset a.distinct subset).perm_of_length_le lengths
  exact contains_iff.2 (perm.mem_iff.2 (contains_iff.1 there))

/-- Dictionaries are equal exactly if they agree. -/
theorem same_iff_agree : a.same b = true ↔ a.Agree b := by
  rw [same_iff]
  constructor
  · rintro ⟨size, entries⟩ key
    cases left : a.get? key with
    | none =>
        have among : ∀ entry ∈ a.entries, b.contains entry.1 = true := by
          intro entry stored
          exact (entries entry stored).isSome_eq.symm
        cases right : b.get? key with
        | none => exact .none
        | some w =>
            -- What only the second has would be one key too many.
            have there : a.contains key = true := contains_of_size_eq size among (by
              rw [contains, right]
              rfl)
            rw [contains, left] at there
            cases there
    | some v =>
        rcases Option.map_eq_some_iff.1 left with ⟨entry, found, rfl⟩
        rcases (RouteEntry.find?_eq_some_iff a.distinct).1 found with ⟨stored, hit⟩
        have alike := entries entry stored
        rwa [get?_congr hit] at alike
  · intro agree
    refine ⟨agree.size_eq, ?_⟩
    intro entry stored
    have answer : a.get? entry.1 = some entry.2 := ((mem_entries_iff a entry).1 stored).1
    exact answer ▸ agree entry.1

/-! ## Writing -/

namespace Agree

/-- Equal values under one key keep dictionaries equal. -/
theorem insert {v w : Value} (h : a.Agree b) (key : String) (equal : v.same w = true) :
    (a.insert key v).Agree (b.insert key w) := by
  intro other
  rw [get?_insert, get?_insert]
  split
  · exact Value.Alike.some_iff.2 equal
  · exact h other

theorem extend (h : a.Agree b) (entries : List RouteEntry) :
    (a.extend entries).Agree (b.extend entries) := by
  induction entries generalizing a b with
  | nil => exact h
  | cons entry rest ih => exact ih (h.insert entry.1 entry.2.same_refl)

end Agree

end RouteValues
end InvocationRouting
