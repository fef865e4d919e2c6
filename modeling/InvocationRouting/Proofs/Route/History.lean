import InvocationRouting.Proofs.Route.Dictionary
import InvocationRouting.Route.Operation
import Mathlib.Data.Set.Card

/-!
# Proofs.Route.History — a dictionary holds what was last written

A dictionary is the outcome of a history of operations. What it holds under a key can be told from
the history alone, without a dictionary: the writes under the key since its last removal, where a
write that only fills a gap counts if there was one.

* `RouteOperation.record` : what one operation does to the writes under a key;
* `effectiveWrites` : the writes under a key that a history leaves;
* `RouteValues.Records` : a dictionary holds what the writes say;
* `Records.perform`, `records_performAll` : one operation, and a history;
* `history_refines` : what can be seen of a dictionary after a history.
-/

namespace InvocationRouting

/-! ## Histories -/

namespace RouteOperation

/-- The writes under a key after one more operation: a removal forgets them, and a write into a gap
counts only if there are none. -/
def record (key : String) (writes : List RouteEntry) : RouteOperation → List RouteEntry
  | insert written value =>
      if RouteKey.same written key then writes ++ [(written, value)] else writes
  | insertIfAbsent written value =>
      if RouteKey.same written key && writes.isEmpty then [(written, value)] else writes
  | remove removed => if RouteKey.same removed key then [] else writes
  | extend entries => writes ++ entries.filter fun entry => RouteKey.same entry.1 key
  | get _ | contains _ | size => writes

/-- May the operation change the entry under the key? -/
def concerns (key : String) : RouteOperation → Bool
  | insert written _ | insertIfAbsent written _ => RouteKey.same written key
  | remove removed => RouteKey.same removed key
  | extend entries => entries.any fun entry => RouteKey.same entry.1 key
  | get _ | contains _ | size => false

theorem record_of_not_concerns {operation : RouteOperation} {key : String}
    (h : operation.concerns key = false) (writes : List RouteEntry) :
    operation.record key writes = writes := by
  cases operation with
  | extend entries =>
      have none : entries.filter (fun entry => RouteKey.same entry.1 key) = [] := by
        simpa [concerns, List.filter_eq_nil_iff] using h
      simp only [record, none, List.append_nil]
  | _ => simp_all [concerns, record]

end RouteOperation

/-- The writes under a key since its last removal, in their order. -/
def effectiveWrites (history : List RouteOperation) (key : String) : List RouteEntry :=
  history.foldl (fun writes operation => operation.record key writes) []

theorem effectiveWrites_append (history : List RouteOperation) (operation : RouteOperation)
    (key : String) :
    effectiveWrites (history ++ [operation]) key =
      operation.record key (effectiveWrites history key) := by
  simp [effectiveWrites]

/-! ## One operation and many -/

namespace RouteValues

/-- Under every key there is the value of the last write, in the spelling of the first. -/
structure Records (values : RouteValues) (writes : String → List RouteEntry) : Prop where
  value : ∀ key, values.get? key = (writes key).getLast?.map (·.2)
  spelling : ∀ key, values.spelling? key = (writes key).head?.map (·.1)

variable {values : RouteValues} {writes : String → List RouteEntry}

theorem Records.contains (h : Records values writes) (key : String) :
    values.contains key = !(writes key).isEmpty := by
  unfold RouteValues.contains
  rw [h.value]
  cases writes key <;> simp

/-- What an operation leaves behind holds what its record says. -/
theorem Records.perform (h : Records values writes) (operation : RouteOperation) :
    Records (values.perform operation).2 fun key => operation.record key (writes key) := by
  cases operation with
  | get key | contains key | size => exact h
  | insert written value =>
      constructor
      case value =>
        intro key
        rw [RouteValues.perform, get?_insert, h.value]
        split <;> simp [RouteOperation.record, *]
      case spelling =>
        intro key
        rw [RouteValues.perform, spelling?_insert, h.spelling]
        split <;> cases writes key <;> simp [RouteOperation.record, *]
  | insertIfAbsent written value =>
      constructor
      case value =>
        intro key
        rw [RouteValues.perform, get?_insertIfAbsent, h.value]
        cases writes key <;> by_cases hit : RouteKey.same written key = true <;>
          simp [RouteOperation.record, List.getLast?_cons, hit]
      case spelling =>
        intro key
        rw [RouteValues.perform, spelling?_insertIfAbsent, h.spelling]
        cases writes key <;> by_cases hit : RouteKey.same written key = true <;>
          simp [RouteOperation.record, hit]
  | remove removed =>
      constructor
      case value =>
        intro key
        rw [RouteValues.perform, get?_remove, h.value]
        split <;> simp [RouteOperation.record, *]
      case spelling =>
        intro key
        rw [RouteValues.perform, spelling?_remove, h.spelling]
        split <;> simp [RouteOperation.record, *]
  | extend entries =>
      constructor
      case value =>
        intro key
        simp only [RouteValues.perform, RouteOperation.record]
        rw [get?_extend, h.value, List.getLast?_append, Option.map_or]
      case spelling =>
        intro key
        simp only [RouteValues.perform, RouteOperation.record]
        rw [spelling?_extend, h.spelling, List.head?_append, Option.map_or, List.head?_filter]
        rfl

theorem performAll_append (values : RouteValues) (before : List RouteOperation)
    (operation : RouteOperation) :
    (values.performAll (before ++ [operation])).2 =
      ((values.performAll before).2.perform operation).2 := by
  induction before generalizing values with
  | nil => rfl
  | cons first before ih =>
      rw [List.cons_append, performAll_cons, performAll_cons]
      exact ih _

/-- A history leaves the writes that are effective in it. -/
theorem records_performAll (history : List RouteOperation) :
    Records (empty.performAll history).2 (effectiveWrites history) := by
  induction history using List.reverseRecOn with
  | nil => exact ⟨fun _ => rfl, fun _ => rfl⟩
  | append_singleton before operation ih =>
      rw [performAll_append, funext (effectiveWrites_append before operation)]
      exact ih.perform operation

/-! ## What can be seen -/

theorem contains_iff {values : RouteValues} {key : String} :
    values.contains key = true ↔ RouteKey.folded key ∈ RouteEntry.foldedKeys values.entries := by
  unfold contains get? RouteEntry.find? RouteEntry.foldedKeys
  simp only [Option.isSome_map, List.find?_isSome, List.mem_map, RouteKey.same_iff]

/-- There are as many entries as keys, counted without regard to spelling. -/
theorem encard_keys (values : RouteValues) :
    {folded | ∃ key, RouteKey.folded key = folded ∧ values.contains key = true}.encard =
      values.size := by
  have keys : {folded | ∃ key, RouteKey.folded key = folded ∧ values.contains key = true} =
      ↑(RouteEntry.foldedKeys values.entries).toFinset := by
    ext folded
    rw [Set.mem_ofPred_eq, Finset.mem_coe, List.mem_toFinset]
    constructor
    · rintro ⟨key, rfl, there⟩
      exact contains_iff.1 there
    · intro member
      rcases List.mem_map.1 member with ⟨entry, stored, rfl⟩
      exact ⟨entry.1, rfl, contains_iff.2 (List.mem_map_of_mem stored)⟩
  rw [keys, Set.encard_coe_eq_coe_finsetCard, List.toFinset_card_of_nodup values.distinct]
  simp [RouteEntry.foldedKeys, size]

/-- An operation leaves the entries alone that it does not concern. -/
theorem mem_entries_perform {operation : RouteOperation} {entry : RouteEntry}
    (h : Records values writes) (other : operation.concerns entry.1 = false) :
    entry ∈ (values.perform operation).2.entries ↔ entry ∈ values.entries := by
  have after := h.perform operation
  rw [mem_entries_iff, mem_entries_iff, after.value, after.spelling, h.value, h.spelling,
    RouteOperation.record_of_not_concerns other]

/-- **Refinement.** After any history that starts without entries,

* no two stored keys are spellings of one key;
* under a key there is the value of its last effective write since its last removal, in the spelling
  of the first one, and nothing else is stored;
* there are as many entries as keys that were written and not removed since, counted without regard
  to spelling;
* one more write answers the value that was there, if there was one; one more write into a gap
  answers whether there was a gap, and does nothing if there was none; one more removal answers the
  value that was there, and removes that entry and no other;
* no operation changes an entry, in its value or its spelling, under a key that it does not
  mention. -/
theorem history_refines (history : List RouteOperation) :
    let values := (empty.performAll history).2
    (values.entries.Pairwise fun a b => RouteKey.folded a.1 ≠ RouteKey.folded b.1) ∧
    (∀ key, values.get? key = (effectiveWrites history key).getLast?.map (·.2) ∧
      values.spelling? key = (effectiveWrites history key).head?.map (·.1)) ∧
    (∀ entry, entry ∈ values.entries ↔
      values.get? entry.1 = some entry.2 ∧ values.spelling? entry.1 = some entry.1) ∧
    {folded | ∃ key, RouteKey.folded key = folded ∧ effectiveWrites history key ≠ []}.encard =
      values.size ∧
    (∀ key value, (values.perform (.insert key value)).1 =
      .value ((effectiveWrites history key).getLast?.map (·.2))) ∧
    (∀ key value, (values.perform (.insertIfAbsent key value)).1 =
        .flag (effectiveWrites history key).isEmpty ∧
      (effectiveWrites history key ≠ [] →
        (values.perform (.insertIfAbsent key value)).2 = values)) ∧
    (∀ key, (values.perform (.remove key)).1 =
        .value ((effectiveWrites history key).getLast?.map (·.2)) ∧
      ∀ entry, entry ∈ (values.perform (.remove key)).2.entries ↔
        entry ∈ values.entries ∧ RouteKey.same entry.1 key = false) ∧
    (∀ operation entry, RouteOperation.concerns entry.1 operation = false →
      (entry ∈ (values.perform operation).2.entries ↔ entry ∈ values.entries)) := by
  intro values
  have records : Records values (effectiveWrites history) := records_performAll history
  have present (key : String) :
      values.contains key = true ↔ effectiveWrites history key ≠ [] := by
    rw [records.contains]
    simp
  refine ⟨?_, fun key => ⟨records.value key, records.spelling key⟩, values.mem_entries_iff,
    ?_, ?_, ?_, ?_, fun operation entry other => mem_entries_perform records other⟩
  · exact List.pairwise_map.1 values.distinct
  · simpa only [present] using values.encard_keys
  · intro key value
    rw [perform, records.value]
  · intro key value
    constructor
    · rw [perform, records.contains, Bool.not_not]
    · intro written
      rw [perform, insertIfAbsent, if_pos ((present key).2 written)]
  · intro key
    refine ⟨by rw [perform, records.value], ?_⟩
    intro entry
    simp [perform, remove, RouteEntry.erase]

/-- Two spellings of a key whose lowercase form has two characters; the entry is written, kept,
overwritten, removed and written again. -/
def rewrittenKey : List RouteOperation :=
  [.insert "İd" (.bool true), .insertIfAbsent "ID" .null, .insertIfAbsent "i\u0307D" .null,
    .remove "i\u0307d", .extend [("i\u0307D", .null), ("İD", .bool false)]]

/-- The removal has made room for another spelling; what concerns the other key leaves the entry
alone. -/
theorem history_refines_rewrittenKey :
    let values := (empty.performAll rewrittenKey).2
    values.get? "İd" = some (.bool false) ∧ values.spelling? "İd" = some "i\u0307D" ∧
      effectiveWrites rewrittenKey "id" ≠ [] ∧
      (values.perform (.insertIfAbsent "id" (.bool true))).2 = values ∧
      RouteOperation.concerns "i\u0307D" (.remove "ID") = false ∧
      (("i\u0307D", .bool false) ∈ (values.perform (.remove "ID")).2.entries ↔
        ("i\u0307D", .bool false) ∈ values.entries) := by
  rcases history_refines rewrittenKey with ⟨-, -, -, -, -, filled, -, untouched⟩
  have written : effectiveWrites rewrittenKey "id" ≠ [] := by
    have one : effectiveWrites rewrittenKey "id" = [("ID", .null)] := rfl
    simp [one]
  refine ⟨rfl, rfl, written, ?_, rfl, ?_⟩
  · exact (filled "id" (.bool true)).2 written
  · exact untouched (.remove "ID") ("i\u0307D", .bool false) rfl

end RouteValues
end InvocationRouting
