import Mathlib.Data.List.Forall2
import InvocationRouting.Proofs.Route.Agreement

/-!
# Proofs.Route.Extensionality — equal dictionaries cannot be told apart

Two dictionaries are equal if they answer alike under every key. Their entries may have other
spellings and another order, and so their equality is coarser than `=`. No operation tells equal
dictionaries apart, now or later.

* `Agree.refl`, `Agree.trans` : agreement is an equivalence;
* `agree_iff_matching` : it is agreement entry by entry, in some order and spelling;
* `Agree.perform`, `Agree.performAll` : operations answer alike and keep agreement;
* `equality_is_extensional` : what this says about `RouteValues.same`.
-/

namespace InvocationRouting

/-! ## Entries -/

/-- Entries under one key, with equal values. -/
def RouteEntry.Matches (entry entry' : RouteEntry) : Prop :=
  RouteKey.same entry.1 entry'.1 = true ∧ entry.2.same entry'.2 = true

/-- Lists of matching entries have equal values to find. -/
theorem RouteEntry.alike_of_matches {entries entries' : List RouteEntry}
    (pairs : List.Forall₂ Matches entries entries') (key : String) :
    Value.Alike ((find? entries key).map (·.2)) ((find? entries' key).map (·.2)) := by
  induction pairs with
  | nil => exact .none
  | @cons entry entry' rest rest' pair _ ih =>
      have hits : RouteKey.same entry.1 key = RouteKey.same entry'.1 key :=
        RouteKey.same_congr_left pair.1 key
      -- Both searches stop at the head, or both go on.
      cases hit : RouteKey.same entry'.1 key with
      | true =>
          rw [hit] at hits
          simpa only [find?, List.find?_cons, hit, hits, Option.map_some] using
            Value.Alike.some_iff.2 pair.2
      | false =>
          rw [hit] at hits
          simpa only [find?, List.find?_cons, hit, hits] using ih

/-! ## Answers -/

/-- Answers with equal values in them. -/
inductive RouteAnswer.Alike : RouteAnswer → RouteAnswer → Prop where
  | value {found found' : Option Value} :
      Value.Alike found found' → Alike (.value found) (.value found')
  | flag (holds : Bool) : Alike (.flag holds) (.flag holds)
  | count (n : Nat) : Alike (.count n) (.count n)
  | done : Alike .done .done

namespace RouteValues

variable {a b c : RouteValues}

namespace Agree

/-! ## An equivalence -/

theorem refl (a : RouteValues) : a.Agree a :=
  fun key => .refl (a.get? key)

theorem trans (first : a.Agree b) (second : b.Agree c) : a.Agree c :=
  fun key => (first key).trans (second key)

theorem contains_eq (h : a.Agree b) (key : String) : a.contains key = b.contains key :=
  (h key).isSome_eq

/-- An entry of one dictionary matches one of the other. -/
theorem exists_matches (h : a.Agree b) {entry : RouteEntry} (stored : entry ∈ a.entries) :
    ∃ entry' ∈ b.entries, entry.Matches entry' := by
  have here : a.get? entry.1 = some entry.2 := ((mem_entries_iff a entry).1 stored).1
  have alike : Value.Alike (some entry.2) (b.get? entry.1) := here ▸ h entry.1
  cases found : RouteEntry.find? b.entries entry.1 with
  | none =>
      rw [get?, found] at alike
      exact absurd alike Value.Alike.not_some_none
  | some entry' =>
      rcases (RouteEntry.find?_eq_some_iff b.distinct).1 found with ⟨stored', hit⟩
      rw [get?, found] at alike
      refine ⟨entry', stored', ?_, Value.Alike.some_iff.1 alike⟩
      rwa [RouteKey.same_comm]

end Agree

/-- Dictionaries agree exactly if their entries match, in some order. -/
theorem agree_iff_matching : a.Agree b ↔
    ∃ order, order.Perm b.entries ∧ List.Forall₂ RouteEntry.Matches a.entries order := by
  constructor
  · intro agree
    have partner (entry : RouteEntry) : ∃ entry', entry ∈ a.entries →
        entry' ∈ b.entries ∧ entry.Matches entry' := by
      by_cases stored : entry ∈ a.entries
      · rcases agree.exists_matches stored with ⟨entry', stored', pair⟩
        exact ⟨entry', fun _ => ⟨stored', pair⟩⟩
      · exact ⟨entry, fun stored' => absurd stored' stored⟩
    -- The partners, in the order of the first dictionary, are the entries of the second one.
    choose f matched using partner
    have pairs : List.Forall₂ RouteEntry.Matches a.entries (a.entries.map f) := by
      rw [List.forall₂_map_right_iff, List.forall₂_same]
      exact fun entry stored => (matched entry stored).2
    -- The partners fold as the entries do, and so no two of them are one.
    have folds : RouteEntry.foldedKeys (a.entries.map f) = RouteEntry.foldedKeys a.entries := by
      unfold RouteEntry.foldedKeys
      rw [List.map_map]
      refine List.map_congr_left fun entry stored => ?_
      exact (RouteKey.same_iff.1 (matched entry stored).2.1).symm
    have distinct : (a.entries.map f).Nodup := by
      have keys : (RouteEntry.foldedKeys (a.entries.map f)).Nodup := folds ▸ a.distinct
      exact keys.of_map _
    have among : a.entries.map f ⊆ b.entries := by
      intro entry' member
      rcases List.mem_map.1 member with ⟨entry, stored, rfl⟩
      exact (matched entry stored).1
    have lengths : b.entries.length ≤ (a.entries.map f).length := by
      rw [List.length_map]
      exact agree.size_eq.ge
    exact ⟨_, (List.subperm_of_subset distinct among).perm_of_length_le lengths, pairs⟩
  · rintro ⟨order, perm, pairs⟩ key
    have found : RouteEntry.find? order key = RouteEntry.find? b.entries key :=
      RouteEntry.find?_perm b.distinct perm key
    have alike := RouteEntry.alike_of_matches pairs key
    rwa [found] at alike

/-! ## Operations -/

namespace Agree

theorem remove (h : a.Agree b) (key : String) : (a.remove key).Agree (b.remove key) := by
  intro other
  rw [get?_remove, get?_remove]
  split
  · exact .none
  · exact h other

theorem insertIfAbsent (h : a.Agree b) (key : String) (value : Value) :
    (a.insertIfAbsent key value).Agree (b.insertIfAbsent key value) := by
  intro other
  rw [get?_insertIfAbsent, get?_insertIfAbsent]
  exact (h other).or (.refl _)

/-- One operation answers alike, and what it leaves agrees. -/
theorem perform (h : a.Agree b) (operation : RouteOperation) :
    (a.perform operation).1.Alike (b.perform operation).1 ∧
      (a.perform operation).2.Agree (b.perform operation).2 := by
  cases operation with
  | get key => exact ⟨.value (h key), h⟩
  | contains key =>
      rw [RouteValues.perform, RouteValues.perform, h.contains_eq key]
      exact ⟨.flag _, h⟩
  | size =>
      rw [RouteValues.perform, RouteValues.perform, h.size_eq]
      exact ⟨.count _, h⟩
  | insert key value => exact ⟨.value (h key), h.insert key value.same_refl⟩
  | insertIfAbsent key value =>
      have after := h.insertIfAbsent key value
      rw [RouteValues.perform, RouteValues.perform, h.contains_eq key]
      exact ⟨.flag _, after⟩
  | remove key => exact ⟨.value (h key), h.remove key⟩
  | extend entries => exact ⟨.done, h.extend entries⟩

/-- The same holds of a whole history. -/
theorem performAll (h : a.Agree b) (operations : List RouteOperation) :
    List.Forall₂ RouteAnswer.Alike (a.performAll operations).1 (b.performAll operations).1 ∧
      (a.performAll operations).2.Agree (b.performAll operations).2 := by
  -- Agreement is the invariant; the two dictionaries may drift apart in spelling and order.
  induction operations generalizing a b with
  | nil => exact ⟨.nil, h⟩
  | cons operation rest ih =>
      rcases h.perform operation with ⟨answer, after⟩
      rcases ih after with ⟨answers, final⟩
      exact ⟨.cons answer answers, final⟩

end Agree

theorem isEmpty_eq_of_size_eq (size : a.size = b.size) : a.isEmpty = b.isEmpty := by
  have empty (values : RouteValues) : values.isEmpty = true ↔ values.size = 0 := by
    simp [isEmpty, RouteValues.size]
  rw [Bool.eq_iff_iff, empty, empty, size]

/-- **Equality is extensional.** Of dictionaries with whatever histories,

* two are equal exactly if under every key they have nothing or equal values;
* two are equal exactly if their entries match in some order, under other spellings perhaps;
* equality is reflexive, symmetric and transitive;
* equal ones have as many entries, and whatever is done to both of them, one operation after the
  other, the answers are alike at every step and the dictionaries are equal in the end. -/
theorem equality_is_extensional (a b c : RouteValues) :
    (a.same b = true ↔ ∀ key, Value.Alike (a.get? key) (b.get? key)) ∧
    (a.same b = true ↔
      ∃ order, order.Perm b.entries ∧ List.Forall₂ RouteEntry.Matches a.entries order) ∧
    (a.same a = true ∧ a.same b = b.same a ∧
      (a.same b = true → b.same c = true → a.same c = true)) ∧
    (a.same b = true → a.size = b.size ∧ a.isEmpty = b.isEmpty ∧ ∀ operations,
      List.Forall₂ RouteAnswer.Alike (a.performAll operations).1 (b.performAll operations).1 ∧
      (a.performAll operations).2.same (b.performAll operations).2 = true) := by
  refine ⟨same_iff_agree, ?_, ⟨?_, ?_, ?_⟩, ?_⟩
  · exact same_iff_agree.trans agree_iff_matching
  · exact same_iff_agree.2 (.refl a)
  · rw [Bool.eq_iff_iff, same_iff_agree, same_iff_agree]
    exact ⟨Agree.symm, Agree.symm⟩
  · intro first second
    exact same_iff_agree.2 ((same_iff_agree.1 first).trans (same_iff_agree.1 second))
  · intro equal
    have agree := same_iff_agree.1 equal
    refine ⟨agree.size_eq, isEmpty_eq_of_size_eq agree.size_eq, fun operations => ?_⟩
    rcases agree.performAll operations with ⟨answers, final⟩
    exact ⟨answers, same_iff_agree.2 final⟩

/-- A dictionary that was written in one go. -/
def collected : RouteValues :=
  ofList [("Id", .number (.float (.zero false))), ("Text", .string "x")]

/-- The same keys and values, after another history and under other spellings. -/
def rewritten : RouteValues :=
  (empty.performAll [.insert "TEXT" .null, .insert "spare" .null,
    .insertIfAbsent "iD" (.number (.float (.zero true))), .remove "SPARE",
    .insert "text" (.string "x")]).2

/-- The two are equal without being identical; both lose the same entry and keep the other. -/
theorem equality_is_extensional_rewritten :
    collected.same rewritten = true ∧ rewritten.same collected = true ∧
      collected.same collected = true ∧ collected.spelling? "id" = some "Id" ∧
      rewritten.spelling? "id" = some "iD" ∧ collected.size = rewritten.size ∧
      List.Forall₂ RouteAnswer.Alike
        (collected.performAll [.remove "ID", .insert "tExT" .null, .size]).1
        (rewritten.performAll [.remove "ID", .insert "tExT" .null, .size]).1 ∧
      (collected.performAll [.remove "ID", .insert "tExT" .null, .size]).2.same
        (rewritten.performAll [.remove "ID", .insert "tExT" .null, .size]).2 = true := by
  have equal : collected.same rewritten = true := by decide +kernel
  have back : rewritten.same collected = true := by decide +kernel
  rcases equality_is_extensional collected rewritten collected with
    ⟨-, -, ⟨-, -, transitive⟩, indistinguishable⟩
  rcases indistinguishable equal with ⟨size, -, later⟩
  rcases later [.remove "ID", .insert "tExT" .null, .size] with ⟨answers, final⟩
  exact ⟨equal, back, transitive equal back, rfl, rfl, size, answers, final⟩

end RouteValues
end InvocationRouting
