import Mathlib
import InvocationRouting.Proofs.Route.Decoding
import InvocationRouting.Value.Json.Reader

/-!
# Proofs.Route.Serialization — a dictionary comes back from its text

A dictionary is written as an object whose fields are sorted by their exact spelling, and read back
by way of a table that knows nothing of spellings. Nothing is lost on the way, because no two
entries of a dictionary are under one key: whatever order the table hands its rows out in, each of
them finds its key unwritten.

* `pairwise_sorted` : the fields come in strictly ascending order;
* `toValue_eq_iff` : the object tells the entries, and nothing about their history;
* `perm_of_decodes` : what is read from the object of a dictionary;
* `serialization_round_trips` : the way through the text and back.
-/

namespace InvocationRouting
namespace RouteValues

/-! ## The object of a dictionary -/

variable {a b values : RouteValues}

theorem nodup_names (values : RouteValues) : (Fields.names values.entries).Nodup := by
  have folded : RouteEntry.foldedKeys values.entries =
      (Fields.names values.entries).map RouteKey.folded := (List.map_map ..).symm
  exact (folded ▸ values.distinct).of_map _

theorem perm_sorted (values : RouteValues) : values.sorted.Perm values.entries :=
  List.mergeSort_perm values.entries _

/-- Of two fields the one with the smaller name comes first, where strings are compared by their
code points. -/
theorem pairwise_sorted (values : RouteValues) : values.sorted.Pairwise fun a b => a.1 < b.1 := by
  have ascending : values.sorted.Pairwise fun a b => decide (a.1 ≤ b.1) = true := by
    refine List.pairwise_mergeSort ?_ ?_ values.entries
    · intro a b c first second
      exact decide_eq_true (le_trans (of_decide_eq_true first) (of_decide_eq_true second))
    · intro a b
      simpa using le_total a.1 b.1
  -- The names are distinct already before they are folded, so that no two of them are equal.
  have apart : values.sorted.Pairwise fun a b => a.1 ≠ b.1 :=
    List.pairwise_map.1 ((values.perm_sorted.map Prod.fst).nodup_iff.2 values.nodup_names)
  refine (ascending.and apart).imp ?_
  rintro a b ⟨le, ne⟩
  exact lt_of_le_of_ne (of_decide_eq_true le) ne

theorem sorted_sorted (values : RouteValues) : Fields.Sorted values.sorted :=
  List.pairwise_map.2 values.pairwise_sorted

theorem toValue_eq_iff :
    a.toValue = b.toValue ↔ ∀ entry, entry ∈ a.entries ↔ entry ∈ b.entries := by
  constructor
  · intro equal entry
    have fields : a.sorted = b.sorted := Value.object.inj equal
    rw [← a.perm_sorted.mem_iff, ← b.perm_sorted.mem_iff, fields]
  · intro same
    have perm : a.entries.Perm b.entries :=
      (List.perm_ext_iff_of_nodup (a.nodup_names.of_map _) (b.nodup_names.of_map _)).2 same
    have perm' : a.sorted.Perm b.sorted :=
      a.perm_sorted.trans (perm.trans b.perm_sorted.symm)
    -- Fields that ascend strictly have one order only.
    have fields : a.sorted = b.sorted := by
      refine List.Perm.eq_of_pairwise ?_ a.pairwise_sorted b.pairwise_sorted perm'
      intro entry entry' _ _ before after
      exact absurd after before.asymm
    exact congrArg Value.object fields

/-! ## Reading it back -/

/-- Whatever is read from the object of a dictionary has the entries of the dictionary. -/
theorem perm_of_decodes {back : RouteValues} (decodes : Decodes values.toValue back) :
    back.entries.Perm values.entries := by
  rcases decodes_object_iff.1 decodes with ⟨rows, perm, rfl⟩
  rw [Fields.ofList_of_sorted values.sorted_sorted] at perm
  -- The rows are the entries of the dictionary, and those are under keys that differ.
  have perm' : rows.Perm values.entries := perm.trans values.perm_sorted
  have distinct : (RouteEntry.foldedKeys (empty.entries ++ rows)).Nodup :=
    (perm'.map _).nodup_iff.2 values.distinct
  exact (entries_extend distinct).symm ▸ perm'

theorem find?_eq_of_perm (perm : a.entries.Perm b.entries) (key : String) :
    RouteEntry.find? a.entries key = RouteEntry.find? b.entries key :=
  RouteEntry.find?_perm b.distinct perm key

theorem same_of_perm (perm : a.entries.Perm b.entries) : a.same b = true := by
  refine same_iff_agree.2 fun key => ?_
  rw [get?, get?, find?_eq_of_perm perm]
  exact .refl _

/-! ## The text of a dictionary -/

/-- The dictionaries that a text may be read as, where `parse` reads the value of a text. -/
def DecodesText (parse : String → Option Value) (text : String) (back : RouteValues) : Prop :=
  ∃ v, parse text = some v ∧ Decodes v back

/-- **Round trip.** Let the value of a dictionary's text be read as it was printed.

* The object of the dictionary has its entries for fields, under the spellings that are kept and
  each of them once, in strictly ascending order of code points;
* dictionaries have the same object, and then the same text, if they hold the same entries, whatever
  their histories;
* the text can be read, and whatever it is read as is equal to the dictionary and has as many
  entries, the same spellings, and the same entries altogether. -/
theorem serialization_round_trips (values : RouteValues) (parse : String → Option Value)
    (undoes : parse values.text = some values.toValue) :
    (∃ fields, values.toValue = .object fields ∧ fields.length = values.size ∧
      (∀ entry, entry ∈ fields ↔
        values.get? entry.1 = some entry.2 ∧ values.spelling? entry.1 = some entry.1) ∧
      fields.Pairwise fun a b => a.1 < b.1) ∧
    (∀ other : RouteValues,
      (other.toValue = values.toValue ↔ ∀ entry, entry ∈ other.entries ↔ entry ∈ values.entries) ∧
      ((∀ entry, entry ∈ other.entries ↔ entry ∈ values.entries) → other.text = values.text)) ∧
    (∀ order, ∃ back, ofValue? order values.toValue = some back ∧
      DecodesText parse values.text back) ∧
    (∀ back, DecodesText parse values.text back →
      back.same values = true ∧ back.size = values.size ∧
      (∀ key, back.spelling? key = values.spelling? key) ∧
      ∀ entry, entry ∈ back.entries ↔ entry ∈ values.entries) := by
  refine ⟨⟨values.sorted, rfl, ?_, ?_, values.pairwise_sorted⟩, ?_, ?_, ?_⟩
  · exact values.perm_sorted.length_eq
  · intro entry
    rw [values.perm_sorted.mem_iff, mem_entries_iff]
  · intro other
    refine ⟨toValue_eq_iff, fun same => ?_⟩
    exact congrArg Value.text (toValue_eq_iff.2 same)
  · intro order
    exact ⟨_, rfl, values.toValue, undoes, order, rfl⟩
  · rintro back ⟨v, parsed, decodes⟩
    cases undoes.symm.trans parsed
    have perm := perm_of_decodes decodes
    refine ⟨same_of_perm perm, perm.length_eq, ?_, fun entry => perm.mem_iff⟩
    intro key
    rw [spelling?, spelling?, find?_eq_of_perm perm]

/-- A dictionary that was respelled, and whose text needs an escape. -/
def quotedText : RouteValues :=
  (empty.performAll [.insert "text" .null, .insert "Üb" (.array [.bool true]), .remove "TEXT",
    .insert "tExt" (.string "a\"b"), .insert "üB" (.array [])]).2

/-- The reader of texts that is used for settings reads this text as it was printed, and so the
dictionary comes back, from either order of its two fields. -/
theorem serialization_round_trips_quoted :
    Value.ofJson? 128 quotedText.text = some quotedText.toValue ∧
      (∃ back, DecodesText (Value.ofJson? 128) quotedText.text back ∧
        back.same quotedText = true ∧ back.size = 2 ∧ back.spelling? "TEXT" = some "tExt") ∧
      (ofList [("tExt", .string "a\"b"), ("Üb", .array [])]).text = quotedText.text := by
  have entries : quotedText.entries = [("Üb", .array []), ("tExt", .string "a\"b")] := rfl
  have undoes : Value.ofJson? 128 quotedText.text = some quotedText.toValue := by
    rw [text, toValue, sorted, entries]
    cbv
  rcases serialization_round_trips quotedText (Value.ofJson? 128) undoes with
    ⟨-, alike, readable, returns⟩
  rcases readable .descending with ⟨back, -, decodes⟩
  rcases returns back decodes with ⟨equal, size, spellings, -⟩
  have perm : (ofList [("tExt", .string "a\"b"), ("Üb", .array [])]).entries.Perm
      quotedText.entries := List.Perm.swap ..
  exact ⟨undoes, ⟨back, decodes, equal, size, spellings "TEXT"⟩,
    (alike _).2 fun entry => perm.mem_iff⟩

end RouteValues
end InvocationRouting
