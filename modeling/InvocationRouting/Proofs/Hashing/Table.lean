import InvocationRouting.Hashing.Table
import Mathlib.Data.List.Basic

/-!
# Proofs.Hashing.Table — keys that keep the contract find their entries

A table looks into one bucket only. If comparison is an equivalence and keys that are one feed the
same pieces, then nothing can be missed: what is found under a key is told by the history of the
table alone, without buckets and whatever the hasher makes of the pieces.

* `KeyKind.Lawful` : the contract that a kind of keys is to keep;
* `TableOperation.entryAfter` : what one operation does to the entry under a key;
* `KeyKind.Lawful.find?_apply` : one operation on one bucket;
* `HashTable.find?_perform`, `HashTable.find?_run` : one operation on a table, and a history;
* `HashTable.find?_stored` : an entry is found under every key that equals the one it was stored
  under.
-/

namespace InvocationRouting

variable {κ ν : Type} {kind : KeyKind κ}

/-! ## The contract -/

namespace KeyKind

/-- The contract of hashed tables: comparison is an equivalence, and keys that are one feed the same
pieces to a hasher. -/
structure Lawful (kind : KeyKind κ) : Prop where
  equivalence : Equivalence fun a b => kind.same a b = true
  hashPieces_eq : ∀ a b, kind.same a b = true → kind.hashPieces a = kind.hashPieces b

namespace Lawful

variable {a b : κ}

theorem same_comm (lawful : kind.Lawful) (a b : κ) : kind.same a b = kind.same b a := by
  rw [Bool.eq_iff_iff]
  exact ⟨lawful.equivalence.symm, lawful.equivalence.symm⟩

/-- Equal keys are interchangeable on the left of a comparison. -/
theorem same_congr_left (lawful : kind.Lawful) (h : kind.same a b = true) (c : κ) :
    kind.same a c = kind.same b c := by
  rw [Bool.eq_iff_iff]
  exact ⟨lawful.equivalence.trans (lawful.equivalence.symm h), lawful.equivalence.trans h⟩

/-- Equal keys are interchangeable on the right of a comparison. -/
theorem same_congr_right (lawful : kind.Lawful) (h : kind.same a b = true) (c : κ) :
    kind.same c a = kind.same c b := by
  rw [lawful.same_comm c a, lawful.same_congr_left h, lawful.same_comm b c]

theorem bucketOf_eq (lawful : kind.Lawful) (hasher : Hasher) (h : kind.same a b = true) :
    HashTable.bucketOf kind hasher a = HashTable.bucketOf kind hasher b := by
  rw [HashTable.bucketOf, HashTable.bucketOf, lawful.hashPieces_eq a b h]

/-! ## One bucket -/

/-- Equal keys find one entry. -/
theorem find?_congr (lawful : kind.Lawful) (h : kind.same a b = true) (entries : List (κ × ν)) :
    kind.find? entries a = kind.find? entries b := by
  unfold KeyKind.find?
  congr 1
  funext entry
  exact lawful.same_congr_right h entry.1

/-- The entry that is set keeps the key of the one before it. -/
theorem find?_set (lawful : kind.Lawful) (key other : κ) (value : ν) (entries : List (κ × ν)) :
    kind.find? (kind.set key value entries) other =
      if kind.same key other then
        some (((kind.find? entries other).map (·.1)).getD key, value)
      else kind.find? entries other := by
  induction entries with
  | nil => by_cases h : kind.same key other = true <;> simp [set, KeyKind.find?, h]
  | cons entry rest ih =>
      -- Both stop at the first entry under their key, so that only the head needs a split.
      by_cases hit : kind.same entry.1 key = true
      · have there := lawful.same_congr_left hit other
        by_cases h : kind.same key other = true <;> simp [set, KeyKind.find?, hit, there, h]
      · by_cases found : kind.same entry.1 other = true
        · have h : ¬ kind.same key other = true := by
            intro h
            rw [lawful.same_congr_right h] at hit
            exact hit found
          simp [set, KeyKind.find?, hit, found, h]
        · have skip : ∀ l : List (κ × ν), kind.find? (entry :: l) other = kind.find? l other := by
            intro l
            simp [KeyKind.find?, found]
          rw [skip, ← ih, set, if_neg hit, skip]

/-- What is erased is not found any more, and all else is. -/
theorem find?_erase (lawful : kind.Lawful) (key other : κ) (entries : List (κ × ν)) :
    kind.find? (kind.erase key entries) other =
      if kind.same key other then none else kind.find? entries other := by
  unfold KeyKind.find? erase
  rw [List.find?_filter]
  by_cases h : kind.same key other = true
  · simp [lawful.same_congr_right h, h]
  · -- An entry that is found under the other key is not under the one that is erased.
    have test : ∀ entry : κ × ν, (!kind.same entry.1 key && kind.same entry.1 other) =
        kind.same entry.1 other := by
      intro entry
      cases found : kind.same entry.1 other with
      | false => simp
      | true => simp [lawful.same_congr_left found, lawful.same_comm other key, h]
    simp [test, h]

end Lawful
end KeyKind

/-! ## What a history leaves -/

namespace TableOperation

/-- The entry under a key after one more operation. -/
def entryAfter (kind : KeyKind κ) (key : κ) (found : Option (κ × ν)) :
    TableOperation κ ν → Option (κ × ν)
  | insert written value =>
      if kind.same written key then some ((found.map (·.1)).getD written, value) else found
  | remove removed => if kind.same removed key then none else found

/-- The value that an operation writes under a key, if it does. -/
def written? (kind : KeyKind κ) (key : κ) : TableOperation κ ν → Option ν
  | insert written value => if kind.same written key then some value else none
  | remove _ => none

/-- Does the operation remove the entry under a key? -/
def removes (kind : KeyKind κ) (key : κ) : TableOperation κ ν → Bool
  | insert _ _ => false
  | remove removed => kind.same removed key

theorem entryAfter_of_other {operation : TableOperation κ ν} {key : κ}
    (other : kind.same operation.key key = false) (found : Option (κ × ν)) :
    operation.entryAfter kind key found = found := by
  cases operation with
  | insert written value => simp_all [entryAfter, TableOperation.key]
  | remove removed => simp_all [entryAfter, TableOperation.key]

/-- While no operation removes it, an entry keeps its key and takes the values that are written. -/
theorem foldl_entryAfter_some {key : κ} {history : List (TableOperation κ ν)}
    (stays : ∀ operation ∈ history, operation.removes kind key = false) (stored : κ) (value : ν) :
    history.foldl (entryAfter kind key) (some (stored, value)) =
      some (stored, (history.filterMap (written? kind key)).getLast?.getD value) := by
  induction history generalizing value with
  | nil => rfl
  | cons operation rest ih =>
      have step : operation.entryAfter kind key (some (stored, value)) =
          some (stored, (operation.written? kind key).getD value) := by
        have kept := stays operation List.mem_cons_self
        cases operation with
        | insert written new =>
            by_cases h : kind.same written key = true <;> simp [entryAfter, written?, h]
        | remove removed => simp_all [entryAfter, written?, removes]
      rw [List.foldl_cons, step, ih fun later member => stays later (List.mem_cons_of_mem _ member),
        List.filterMap_cons]
      cases operation.written? kind key with
      | none => rfl
      | some new => rw [List.getLast?_cons, Option.getD_some, Option.getD_some]

end TableOperation

/-- An operation on the bucket of its key does there what it does to the entries under all keys. -/
theorem KeyKind.Lawful.find?_apply (lawful : kind.Lawful) (operation : TableOperation κ ν)
    (entries : List (κ × ν)) (key : κ) :
    kind.find? (operation.apply kind entries) key =
      operation.entryAfter kind key (kind.find? entries key) := by
  cases operation with
  | insert written value => exact lawful.find?_set written key value entries
  | remove removed => exact lawful.find?_erase removed key entries

namespace HashTable

variable {hasher : Hasher}

/-- An operation changes what is found as if there were no buckets. -/
theorem find?_perform (lawful : kind.Lawful) (table : HashTable kind hasher ν)
    (operation : TableOperation κ ν) (key : κ) :
    (table.perform operation).find? key = operation.entryAfter kind key (table.find? key) := by
  by_cases bucket : bucketOf kind hasher key = bucketOf kind hasher operation.key
  · simp only [find?, perform, if_pos bucket]
    exact lawful.find?_apply operation _ key
  · -- Keys of different buckets are different, for equal ones have one hash.
    have other : kind.same operation.key key = false := by
      rw [Bool.eq_false_iff]
      intro h
      exact bucket (lawful.bucketOf_eq hasher h).symm
    simp only [find?, perform, if_neg bucket, TableOperation.entryAfter_of_other other]

/-- What is found after a history is told by the operations alone. -/
theorem find?_run (lawful : kind.Lawful) (hasher : Hasher) (history : List (TableOperation κ ν))
    (key : κ) :
    (run kind hasher history).find? key =
      history.foldl (TableOperation.entryAfter kind key) none :=
  (List.foldl_hom (fun table : HashTable kind hasher ν => table.find? key)
    fun table operation => (find?_perform lawful table operation key).symm).symm

theorem find?_congr (lawful : kind.Lawful) (table : HashTable kind hasher ν) {a b : κ}
    (h : kind.same a b = true) : table.find? a = table.find? b := by
  rw [find?, find?, lawful.bucketOf_eq hasher h, lawful.find?_congr h]

/-- An entry that was stored under a key is found under every key that equals it until it is
removed, with the key that it was stored under and the value that was written last. -/
theorem find?_stored (lawful : kind.Lawful) (hasher : Hasher)
    {before after : List (TableOperation κ ν)} {key key' : κ} (value : ν)
    (h : kind.same key key' = true) (fresh : (run kind hasher before).find? key = none)
    (stays : ∀ operation ∈ after, operation.removes kind key = false) :
    (run kind hasher (before ++ .insert key value :: after)).find? key' =
      some (key, (after.filterMap (TableOperation.written? kind key)).getLast?.getD value) := by
  have stored : TableOperation.entryAfter kind key none (.insert key value) =
      some (key, value) := by
    simp [TableOperation.entryAfter, lawful.equivalence.refl key]
  rw [← find?_congr lawful _ h, find?_run lawful, List.foldl_append, List.foldl_cons,
    ← find?_run lawful, fresh, stored, TableOperation.foldl_entryAfter_some stays]

end HashTable
end InvocationRouting
