import InvocationRouting.Proofs.Fold
import InvocationRouting.Proofs.Hashing.Table
import InvocationRouting.Route.Values

/-!
# Proofs.Route.Dictionary — what a dictionary holds after writing

A dictionary is read through two views, `get?` for values and `spelling?` for kept spellings. This
file says what each operation does to both views:

* `get?_insert`, `spelling?_insert` : one write;
* `get?_insertIfAbsent`, `spelling?_insertIfAbsent` : one write into a gap;
* `get?_remove`, `spelling?_remove` : one removal;
* `get?_extend`, `spelling?_extend` : many writes, where the **last** one gives the value and the
  **first** one the spelling;
* `entries_extend` : entries under new keys are stored as they are written;
* `mem_entries_iff` : both views together tell which entries are stored;
* `RouteEntry.find?_perm` : the order in which distinct entries are listed does not matter.
-/

namespace InvocationRouting

/-- Route keys keep the contract of hashed tables. -/
theorem KeyKind.lawful_route : route.Lawful where
  equivalence := by
    simp only [route_same, RouteKey.same_iff]
    exact ⟨fun _ => rfl, Eq.symm, Eq.trans⟩
  hashPieces_eq a b h := by
    rw [route_hashPieces, route_hashPieces, RouteKey.hashPieces, RouteKey.hashPieces,
      RouteKey.same_iff.1 h]

namespace RouteKey

/-- Spellings of one key are interchangeable on the left of a comparison. -/
theorem same_congr_left {a b : String} (h : same a b = true) (c : String) :
    same a c = same b c :=
  KeyKind.lawful_route.same_congr_left h c

end RouteKey

/-! ## Entries -/

namespace RouteEntry

/-- The entries of a dictionary are written like those of a bucket. -/
theorem set_eq_route (key : String) (value : Value) (entries : List RouteEntry) :
    set key value entries = KeyKind.route.set key value entries := by
  induction entries with
  | nil => rfl
  | cons entry rest ih => rw [set, KeyKind.set, ih, KeyKind.route_same]

/-- Spellings of one key find one entry. -/
theorem find?_congr {a b : String} (h : RouteKey.same a b = true) (entries : List RouteEntry) :
    find? entries a = find? entries b :=
  KeyKind.lawful_route.find?_congr h entries

/-- A found entry is under the key it was looked for. -/
theorem same_of_find? {entries : List RouteEntry} {key : String} {entry : RouteEntry}
    (h : find? entries key = some entry) : RouteKey.same entry.1 key = true := by
  unfold find? at h
  simpa using List.find?_some h

/-- The entry that is set keeps the spelling of the one before it. -/
theorem find?_set (key other : String) (value : Value) (entries : List RouteEntry) :
    find? (set key value entries) other =
      if RouteKey.same key other then
        some ((((find? entries other).map (·.1)).getD key), value)
      else find? entries other := by
  rw [set_eq_route]
  exact KeyKind.lawful_route.find?_set key other value entries

/-- A value under a new key goes to the end. -/
theorem set_of_fresh {key : String} (value : Value) {entries : List RouteEntry}
    (fresh : RouteKey.folded key ∉ foldedKeys entries) :
    set key value entries = entries ++ [(key, value)] := by
  induction entries with
  | nil => rfl
  | cons entry rest ih =>
      rw [foldedKeys_cons, List.mem_cons, not_or] at fresh
      have other : ¬ RouteKey.same entry.1 key = true := by
        intro hit
        exact fresh.1 (RouteKey.same_iff.1 hit).symm
      rw [set, if_neg other, ih fresh.2, List.cons_append]

/-- What is erased is not found any more, and all else is. -/
theorem find?_erase (key other : String) (entries : List RouteEntry) :
    find? (erase entries key) other =
      if RouteKey.same key other then none else find? entries other :=
  KeyKind.lawful_route.find?_erase key other entries

/-- Where folded keys are distinct, an entry is found exactly if it is there. -/
theorem find?_eq_some_iff {entries : List RouteEntry} (distinct : (foldedKeys entries).Nodup)
    {key : String} {entry : RouteEntry} :
    find? entries key = some entry ↔ entry ∈ entries ∧ RouteKey.same entry.1 key = true := by
  constructor
  · intro h
    exact ⟨List.mem_of_find?_eq_some h, same_of_find? h⟩
  · rintro ⟨member, hit⟩
    induction entries with
    | nil => simp at member
    | cons first rest ih =>
        rw [foldedKeys_cons, List.nodup_cons] at distinct
        rcases List.mem_cons.1 member with rfl | later
        · simp [find?, hit]
        · -- An earlier entry under the key would fold like this one.
          have fresh : ¬ RouteKey.same first.1 key = true := by
            intro h
            have folds : RouteKey.folded first.1 = RouteKey.folded entry.1 :=
              (RouteKey.same_iff.1 h).trans (RouteKey.same_iff.1 hit).symm
            exact distinct.1 (folds ▸ List.mem_map_of_mem later)
          have found : find? rest key = some entry := ih distinct.2 later
          simpa [find?, fresh] using found

/-- The order in which distinct entries are listed does not matter. -/
theorem find?_perm {entries order : List RouteEntry} (distinct : (foldedKeys entries).Nodup)
    (complete : order.Perm entries) (key : String) : find? order key = find? entries key := by
  have folds : (foldedKeys order).Perm (foldedKeys entries) := complete.map _
  have distinct' : (foldedKeys order).Nodup := folds.nodup_iff.2 distinct
  apply Option.ext
  intro entry
  rw [find?_eq_some_iff distinct, find?_eq_some_iff distinct', complete.mem_iff]

end RouteEntry

/-! ## Dictionaries -/

namespace RouteValues

theorem get?_congr {a b : String} (h : RouteKey.same a b = true) (values : RouteValues) :
    values.get? a = values.get? b := by
  simp only [get?, RouteEntry.find?_congr h]

theorem isSome_spelling? (values : RouteValues) (key : String) :
    (values.spelling? key).isSome = values.contains key := by
  rw [spelling?, contains, get?, Option.isSome_map, Option.isSome_map]

/-- Stored entries are those that both views agree on. -/
theorem mem_entries_iff (values : RouteValues) (entry : RouteEntry) :
    entry ∈ values.entries ↔
      values.get? entry.1 = some entry.2 ∧ values.spelling? entry.1 = some entry.1 := by
  have found : RouteEntry.find? values.entries entry.1 = some entry ↔ entry ∈ values.entries := by
    rw [RouteEntry.find?_eq_some_iff values.distinct, RouteKey.same_refl, and_iff_left rfl]
  rw [← found]
  unfold get? spelling?
  cases RouteEntry.find? values.entries entry.1 with
  | none => simp
  | some other => simp [Prod.ext_iff, and_comm]

@[simp] theorem get?_empty (key : String) : empty.get? key = none := rfl

@[simp] theorem spelling?_empty (key : String) : empty.spelling? key = none := rfl

theorem get?_insert (values : RouteValues) (key other : String) (value : Value) :
    (values.insert key value).get? other =
      if RouteKey.same key other then some value else values.get? other := by
  unfold get? insert
  rw [RouteEntry.find?_set]
  split <;> rfl

/-- A write keeps the spelling that is there. -/
theorem spelling?_insert (values : RouteValues) (key other : String) (value : Value) :
    (values.insert key value).spelling? other =
      if RouteKey.same key other then (values.spelling? other).or (some key)
      else values.spelling? other := by
  unfold spelling? insert
  rw [RouteEntry.find?_set]
  split
  · cases RouteEntry.find? values.entries other <;> rfl
  · rfl

theorem contains_insert (values : RouteValues) (key other : String) (value : Value) :
    (values.insert key value).contains other =
      (RouteKey.same key other || values.contains other) := by
  rw [contains, contains, get?_insert]
  cases RouteKey.same key other <;> rfl

theorem entries_insert {values : RouteValues} {key : String} (value : Value)
    (fresh : RouteKey.folded key ∉ RouteEntry.foldedKeys values.entries) :
    (values.insert key value).entries = values.entries ++ [(key, value)] :=
  RouteEntry.set_of_fresh value fresh

/-- A write into a gap changes nothing where there is an entry. -/
theorem find?_insertIfAbsent (values : RouteValues) (key other : String) (value : Value) :
    RouteEntry.find? (values.insertIfAbsent key value).entries other =
      (RouteEntry.find? values.entries other).or
        (if RouteKey.same key other then some (key, value) else none) := by
  unfold insertIfAbsent contains
  by_cases hit : RouteKey.same key other = true
  · rw [get?_congr hit]
    cases h : RouteEntry.find? values.entries other <;>
      simp [get?, insert, RouteEntry.find?_set, hit, h]
  · -- Under another key it is the same whether something was written or not.
    split <;> simp [insert, RouteEntry.find?_set, hit]

theorem get?_insertIfAbsent (values : RouteValues) (key other : String) (value : Value) :
    (values.insertIfAbsent key value).get? other =
      (values.get? other).or (if RouteKey.same key other then some value else none) := by
  unfold get?
  rw [find?_insertIfAbsent, Option.map_or]
  congr 1
  split <;> rfl

theorem spelling?_insertIfAbsent (values : RouteValues) (key other : String) (value : Value) :
    (values.insertIfAbsent key value).spelling? other =
      (values.spelling? other).or (if RouteKey.same key other then some key else none) := by
  unfold spelling?
  rw [find?_insertIfAbsent, Option.map_or]
  congr 1
  split <;> rfl

theorem get?_remove (values : RouteValues) (key other : String) :
    (values.remove key).get? other =
      if RouteKey.same key other then none else values.get? other := by
  unfold get? remove
  rw [RouteEntry.find?_erase]
  split <;> rfl

theorem spelling?_remove (values : RouteValues) (key other : String) :
    (values.remove key).spelling? other =
      if RouteKey.same key other then none else values.spelling? other := by
  unfold spelling? remove
  rw [RouteEntry.find?_erase]
  split <;> rfl

/-! ## Many writes -/

theorem extend_cons (values : RouteValues) (entry : RouteEntry) (rest : List RouteEntry) :
    values.extend (entry :: rest) = (values.insert entry.1 entry.2).extend rest := rfl

/-- After many writes a key has the value of the last of them that was under it. -/
theorem get?_extend (values : RouteValues) (entries : List RouteEntry) (key : String) :
    (values.extend entries).get? key =
      ((entries.filter fun entry => RouteKey.same entry.1 key).getLast?.map (·.2)).or
        (values.get? key) := by
  refine foldl_overwrite_or (fun values entry => values.insert entry.1 entry.2)
    (fun values => values.get? key) (fun entry => RouteKey.same entry.1 key) (·.2) ?_ entries values
  intro values entry
  exact get?_insert values entry.1 key entry.2

theorem get?_ofList (entries : List RouteEntry) (key : String) :
    (ofList entries).get? key =
      (entries.filter fun entry => RouteKey.same entry.1 key).getLast?.map (·.2) := by
  rw [ofList, get?_extend, get?_empty, Option.or_none]

/-- After many writes a key has the spelling it had before, or else that of the first of them that
was under it. -/
theorem spelling?_extend (values : RouteValues) (entries : List RouteEntry) (key : String) :
    (values.extend entries).spelling? key =
      (values.spelling? key).or ((RouteEntry.find? entries key).map (·.1)) := by
  induction entries generalizing values with
  | nil => simp [extend, RouteEntry.find?]
  | cons entry rest ih =>
      rw [extend_cons, ih, spelling?_insert]
      -- The head counts before all that come after it.
      by_cases hit : RouteKey.same entry.1 key = true
      · simp [hit, RouteEntry.find?]
      · simp [hit, RouteEntry.find?]

/-- Entries under keys that are new, and that differ from one another, are stored as they come. -/
theorem entries_extend {values : RouteValues} {entries : List RouteEntry}
    (distinct : (RouteEntry.foldedKeys (values.entries ++ entries)).Nodup) :
    (values.extend entries).entries = values.entries ++ entries := by
  induction entries generalizing values with
  | nil => exact (List.append_nil _).symm
  | cons entry rest ih =>
      have fresh : RouteKey.folded entry.1 ∉ RouteEntry.foldedKeys values.entries := by
        intro member
        rw [RouteEntry.foldedKeys, List.map_append, List.nodup_append] at distinct
        exact distinct.2.2 _ member _ List.mem_cons_self rfl
      have stored := entries_insert entry.2 fresh
      have distinct' :
          (RouteEntry.foldedKeys ((values.insert entry.1 entry.2).entries ++ rest)).Nodup := by
        rwa [stored, List.append_assoc]
      calc
        (values.extend (entry :: rest)).entries
            = ((values.insert entry.1 entry.2).extend rest).entries := rfl
        _ = (values.insert entry.1 entry.2).entries ++ rest := ih distinct'
        _ = (values.entries ++ [entry]) ++ rest := by rw [stored]
        _ = values.entries ++ entry :: rest := List.append_assoc _ _ _

end RouteValues
end InvocationRouting
