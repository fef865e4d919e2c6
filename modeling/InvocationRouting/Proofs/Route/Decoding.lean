import InvocationRouting.Proofs.Route.Agreement
import InvocationRouting.Proofs.Value.Fields

/-!
# Proofs.Route.Decoding — what an object may be read as

The fields of an object are first collected in a table, which tells names apart by their spelling
and hands its rows out in an order of its own. Only then are they written into a dictionary, where
spellings of one key meet. The order shows in the outcome exactly if two spellings of one key have
different values.

* `RowOrder.arranging` : every arrangement of the rows of a table is that of some order;
* `Decodes` : the dictionaries that a value may be read as, in whatever order of rows;
* `contains_of_decodes`, `exists_decodes_get?_iff` : which keys are there, and which values may be;
* `decoding_settled_iff` : when the outcome does not depend on the order;
* `decoding_unsettled` : an object for which it does.
-/

namespace InvocationRouting

/-! ## Orders of rows -/

namespace RowOrder

open Classical in
/-- The order that arranges the rows of one table as they are given, and leaves other tables in the
order of their names. -/
noncomputable def arranging {rows table : List RouteEntry} (perm : rows.Perm table) : RowOrder where
  rows other := if other = table then rows else other
  complete other := by
    by_cases here : other = table
    · simpa [here] using perm
    · simp [here]

theorem arranging_rows {rows table : List RouteEntry} (perm : rows.Perm table) :
    (arranging perm).rows table = rows :=
  if_pos rfl

end RowOrder

namespace RouteValues

/-! ## Reading -/

/-- The dictionaries that a value may be read as, in one order of rows or another. -/
def Decodes (v : Value) (values : RouteValues) : Prop :=
  ∃ order, ofValue? order v = some values

variable {fields : List RouteEntry} {a b values : RouteValues} {key : String}

theorem decodes_object_iff : Decodes (.object fields) values ↔
    ∃ rows, rows.Perm (Fields.ofList fields) ∧ ofList rows = values := by
  constructor
  · rintro ⟨order, read⟩
    exact ⟨_, order.complete _, Option.some.inj read⟩
  · rintro ⟨rows, perm, rfl⟩
    exact ⟨.arranging perm, by rw [ofValue?, RowOrder.arranging_rows]⟩

/-- Whatever the order, a value that is read under a key is that of a field under it. -/
theorem exists_field_of_decodes (decodes : Decodes (.object fields) values) {value : Value}
    (found : values.get? key = some value) :
    ∃ field ∈ Fields.ofList fields, RouteKey.same field.1 key = true ∧ field.2 = value := by
  rcases decodes_object_iff.1 decodes with ⟨rows, perm, rfl⟩
  rw [get?_ofList] at found
  rcases Option.map_eq_some_iff.1 found with ⟨field, last, rfl⟩
  rcases List.mem_filter.1 (List.mem_of_getLast? last) with ⟨member, hit⟩
  exact ⟨field, perm.mem_iff.1 member, hit, rfl⟩

theorem exists_decodes_of_field {field : RouteEntry} (member : field ∈ Fields.ofList fields)
    (hit : RouteKey.same field.1 key = true) :
    ∃ values, Decodes (.object fields) values ∧ values.get? key = some field.2 := by
  rcases List.append_of_mem member with ⟨before, after, split⟩
  -- In the order that puts the field behind all others, no later write is over it.
  have perm : ((before ++ after) ++ [field]).Perm (Fields.ofList fields) := by
    rw [split]
    exact (List.perm_append_singleton _ _).trans List.perm_middle.symm
  refine ⟨_, decodes_object_iff.2 ⟨_, perm, rfl⟩, ?_⟩
  rw [get?_ofList, List.filter_append]
  simp [hit]

theorem exists_decodes_get?_iff {value : Value} :
    (∃ values, Decodes (.object fields) values ∧ values.get? key = some value) ↔
      ∃ field ∈ Fields.ofList fields, RouteKey.same field.1 key = true ∧ field.2 = value := by
  constructor
  · rintro ⟨values, decodes, found⟩
    exact exists_field_of_decodes decodes found
  · rintro ⟨field, member, hit, rfl⟩
    exact exists_decodes_of_field member hit

theorem contains_of_decodes (decodes : Decodes (.object fields) values) :
    values.contains key = true ↔
      ∃ field ∈ Fields.ofList fields, RouteKey.same field.1 key = true := by
  rw [contains, Option.isSome_iff_exists]
  constructor
  · rintro ⟨value, found⟩
    rcases exists_field_of_decodes decodes found with ⟨field, member, hit, -⟩
    exact ⟨field, member, hit⟩
  · rintro ⟨field, member, hit⟩
    rcases decodes_object_iff.1 decodes with ⟨rows, perm, rfl⟩
    -- Some field is the last one under the key, though it need not be this one.
    have under : field ∈ rows.filter fun entry => RouteKey.same entry.1 key :=
      List.mem_filter.2 ⟨perm.mem_iff.2 member, hit⟩
    rw [get?_ofList, List.getLast?_eq_some_getLast (List.ne_nil_of_mem under)]
    exact ⟨_, rfl⟩

theorem size_eq_of_contains_eq (same : ∀ key, a.contains key = b.contains key) :
    a.size = b.size := by
  -- Entries are as many as folded keys, and those can be counted by asking for them.
  have sizes : (a.size : ℕ∞) = b.size := by
    rw [← encard_keys, ← encard_keys]
    simp only [same]
  exact_mod_cast sizes

/-- Where spellings of one key have equal values, the outcome is the same in every order. -/
theorem agree_of_decodes (first : Decodes (.object fields) a) (second : Decodes (.object fields) b)
    (alike : ∀ field ∈ Fields.ofList fields, ∀ field' ∈ Fields.ofList fields,
      RouteKey.same field.1 field'.1 = true → field.2.same field'.2 = true) : a.Agree b := by
  intro key
  have keys : a.contains key = b.contains key := by
    rw [Bool.eq_iff_iff, contains_of_decodes first, contains_of_decodes second]
  cases left : a.get? key with
  | none =>
      cases right : b.get? key with
      | none => exact .none
      | some w => simp [contains, left, right] at keys
  | some v =>
      cases right : b.get? key with
      | none => simp [contains, left, right] at keys
      | some w =>
          rcases exists_field_of_decodes first left with ⟨field, member, hit, rfl⟩
          rcases exists_field_of_decodes second right with ⟨field', member', hit', rfl⟩
          have spellings : RouteKey.same field.1 field'.1 = true := by
            rw [RouteKey.same_congr_left hit, RouteKey.same_comm]
            exact hit'
          exact Value.Alike.some_iff.2 (alike field member field' member' spellings)

/-- **Reading an object.** Let the rows of its table be handed out in any order.

* Every object is read as some dictionary;
* all orders lead to equal dictionaries exactly if no two names are spellings of one key with
  different values;
* in any case, all of them lead to the same keys and to as many entries;
* the values that may be found under a key are those of the fields under it, and no others. -/
theorem decoding_settled_iff (fields : List RouteEntry) :
    (∀ order, ∃ values, ofValue? order (.object fields) = some values) ∧
    ((∀ order order' a b, ofValue? order (.object fields) = some a →
        ofValue? order' (.object fields) = some b → a.same b = true) ↔
      ∀ field ∈ Fields.ofList fields, ∀ field' ∈ Fields.ofList fields,
        RouteKey.same field.1 field'.1 = true → field.2.same field'.2 = true) ∧
    (∀ order order' a b, ofValue? order (.object fields) = some a →
      ofValue? order' (.object fields) = some b →
        a.size = b.size ∧ ∀ key, a.contains key = b.contains key) ∧
    (∀ key value,
      (∃ order values, ofValue? order (.object fields) = some values ∧
          values.get? key = some value) ↔
        ∃ field ∈ Fields.ofList fields, RouteKey.same field.1 key = true ∧ field.2 = value) := by
  refine ⟨fun order => ⟨_, rfl⟩, ⟨?_, ?_⟩, ?_, ?_⟩
  · intro settled field member field' member' spellings
    -- Each of the two fields is the last one in some order.
    rcases exists_decodes_of_field member (RouteKey.same_refl field.1) with
      ⟨a, ⟨order, first⟩, found⟩
    rcases exists_decodes_of_field member' (RouteKey.same_comm .. ▸ spellings) with
      ⟨b, ⟨order', second⟩, found'⟩
    have agree := same_iff_agree.1 (settled order order' a b first second) field.1
    rw [found, found'] at agree
    exact Value.Alike.some_iff.1 agree
  · intro alike order order' a b first second
    exact same_iff_agree.2 (agree_of_decodes ⟨order, first⟩ ⟨order', second⟩ alike)
  · intro order order' a b first second
    have keys : ∀ key, a.contains key = b.contains key := by
      intro key
      rw [Bool.eq_iff_iff, contains_of_decodes ⟨order, first⟩, contains_of_decodes ⟨order', second⟩]
    exact ⟨size_eq_of_contains_eq keys, keys⟩
  · intro key value
    rw [← exists_decodes_get?_iff]
    constructor
    · rintro ⟨order, values, read, found⟩
      exact ⟨values, ⟨order, read⟩, found⟩
    · rintro ⟨values, ⟨order, read⟩, found⟩
      exact ⟨order, values, read, found⟩

/-- Two spellings of one key, with the same value, and another key. -/
def respelledFields : List RouteEntry :=
  [("Area", .null), ("ID", .bool true), ("id", .bool true)]

/-- The two spellings have one value, and so it does not matter which of them is written first. -/
theorem decoding_settled_iff_respelled :
    ∃ a b, ofValue? .ascending (.object respelledFields) = some a ∧
      ofValue? .descending (.object respelledFields) = some b ∧
      a.spelling? "id" = some "ID" ∧ b.spelling? "id" = some "id" ∧
      a.same b = true ∧ a.size = b.size ∧
      ∃ order values, ofValue? order (.object respelledFields) = some values ∧
        values.get? "AREA" = some .null := by
  rcases decoding_settled_iff respelledFields with ⟨-, settled, keys, found⟩
  have alike : ∀ field ∈ Fields.ofList respelledFields, ∀ field' ∈ Fields.ofList respelledFields,
      RouteKey.same field.1 field'.1 = true → field.2.same field'.2 = true := by
    decide +kernel
  have table : Fields.ofList respelledFields = respelledFields := rfl
  have area : ∃ field ∈ Fields.ofList respelledFields,
      RouteKey.same field.1 "AREA" = true ∧ field.2 = .null :=
    ⟨("Area", .null), table ▸ List.mem_cons_self, by decide +kernel, rfl⟩
  exact ⟨_, _, rfl, rfl, by decide +kernel, by decide +kernel,
    settled.2 alike _ _ _ _ rfl rfl, (keys .ascending .descending _ _ rfl rfl).1,
    (found "AREA" .null).2 area⟩

/-- Two spellings of one key, with different values. -/
def contestedFields : List RouteEntry :=
  [("ID", .bool false), ("id", .bool true)]

/-- **An object without a settled reading.** The last row to be written gives the value. -/
theorem decoding_unsettled :
    ∃ a b, ofValue? .ascending (.object contestedFields) = some a ∧
      ofValue? .descending (.object contestedFields) = some b ∧
      a.entries = [("ID", .bool true)] ∧ b.entries = [("id", .bool false)] ∧
      a.same b = false :=
  ⟨_, _, rfl, rfl, rfl, rfl, by decide +kernel⟩

end RouteValues
end InvocationRouting
