import InvocationRouting.Merge
import InvocationRouting.Proofs.Hashing.Table
import InvocationRouting.Proofs.Method.Identity
import InvocationRouting.Proofs.Route.Dictionary
import InvocationRouting.Route.Reading

/-!
# Proofs.Hashing.Keys — methods and route keys keep the contract of hashed tables

Comparison and hashing of a key are two walks over its parts. For methods the comparison stops where
the shorter list of parameters ends, and the hash says how many there are; for route keys both walk
over folded characters, of which one character may give several.

* `KeyKind.method_same_iff`, `KeyKind.lawful_method` : methods, given by places of a store;
* `RouteKey.folded_eq_of_hashPieces_eq`, `RouteKey.agree_ofText` : route keys;
* `RouteValues.find?_foldl_follow` : dictionaries find what tables with such keys would;
* `Merger.isNameKey_eq_contains` : mergers take for a name what a dictionary finds under it;
* `KeyKind.keys_keep_contract` : the contract of both, and what it does for tables.
-/

namespace InvocationRouting

/-! ## Methods -/

namespace Method

/-- Declarations with one identity feed the same pieces. -/
theorem hashPieces_congr {a b : Method} (h : a.identity = b.identity) :
    a.hashPieces = b.hashPieces := by
  have pieces (m : Method) : (m.parameters.map fun p => HashPiece.text p.typeName) =
      (m.parameters.map (·.typeName)).map .text := by simp
  rcases identity_eq_iff.1 h with ⟨type, name, length, types⟩
  rw [hashPieces, hashPieces, type, name, length, pieces a, pieces b, types]

end Method

namespace KeyKind

theorem method_same_iff {store : Nat → Method} {p q : Nat} :
    (method store).same p q = true ↔ (store p).identity = (store q).identity := by
  rw [method_same, Method.sameAt_eq, Method.beq_iff]

theorem lawful_method (store : Nat → Method) : (method store).Lawful where
  equivalence := by
    simp only [method_same_iff]
    exact ⟨fun _ => rfl, Eq.symm, Eq.trans⟩
  hashPieces_eq p q h := by
    rw [method_hashPieces, method_hashPieces, Method.hashPieces_congr (method_same_iff.1 h)]

end KeyKind

/-! ## Route keys -/

namespace RouteKey

/-- The pieces of a route key tell its folded characters. -/
theorem folded_eq_of_hashPieces_eq {a b : String} (h : hashPieces a = hashPieces b) :
    folded a = folded b := by
  have characters : (folded a).map HashPiece.char = (folded b).map .char :=
    List.append_cancel_right h
  refine List.map_injective_iff.2 ?_ characters
  intro c d same
  cases same
  rfl

/-- Folding while reading comes to the same as folding before. -/
theorem agree_ofText (a b : String) : Reading.agree (.ofText a) (.ofText b) = same a b := by
  rw [Bool.eq_iff_iff, Reading.agree_iff, same_iff, Reading.remaining_ofText,
    Reading.remaining_ofText]

end RouteKey

/-! ## Dictionaries -/

namespace RouteValues

/-- Does to a dictionary what an operation does to a table. -/
def follow (values : RouteValues) : TableOperation String Value → RouteValues
  | .insert key value => values.insert key value
  | .remove key => values.remove key

theorem find?_follow (values : RouteValues) (operation : TableOperation String Value)
    (key : String) :
    RouteEntry.find? (values.follow operation).entries key =
      operation.entryAfter .route key (RouteEntry.find? values.entries key) := by
  cases operation with
  | insert written value => exact RouteEntry.find?_set written key value values.entries
  | remove removed => exact RouteEntry.find?_erase removed key values.entries

/-- A dictionary finds the entries that a table would, whatever the hasher of the table. -/
theorem find?_foldl_follow (hasher : Hasher) (history : List (TableOperation String Value))
    (key : String) :
    RouteEntry.find? (history.foldl follow empty).entries key =
      (HashTable.run .route hasher history).find? key := by
  rw [HashTable.find?_run KeyKind.lawful_route]
  exact (List.foldl_hom (fun values : RouteValues => RouteEntry.find? values.entries key)
    fun values operation => (find?_follow values operation key).symm).symm

end RouteValues

/-! ## Mergers -/

namespace Merger

/-- A key stands for a name exactly if a dictionary with the keys for names finds it. -/
theorem isNameKey_eq_contains (merger : Merger) (key : String) :
    merger.isNameKey key =
      ((RouteValues.empty.insert merger.handlerKey .null).insert merger.actionKey .null).contains
        key := by
  rw [isNameKey, RouteValues.contains_insert, RouteValues.contains_insert,
    RouteKey.same_comm key merger.handlerKey, RouteKey.same_comm key merger.actionKey]
  cases RouteKey.same merger.handlerKey key <;> simp [RouteValues.contains]

/-- A default passes for that of the area exactly if a dictionary with the area key finds it. -/
theorem admitsDefault_eq_contains {merger : Merger} (area : merger.policy = .areaOnly)
    (key : String) :
    merger.admitsDefault key = (RouteValues.empty.insert merger.areaKey .null).contains key := by
  rw [admitsDefault, area, RouteValues.contains_insert, RouteKey.same_comm]
  simp [RouteValues.contains]

end Merger

/-! ## The contract of both -/

namespace KeyKind

/-- What tables with such keys are good for, whatever the hasher: the entry under a key is told by
what was done to the table, and an entry is found under every key that equals the one it was stored
under until it is removed. -/
structure Retrieves {κ : Type} (kind : KeyKind κ) : Prop where
  recalls : ∀ {ν : Type} (hasher : Hasher) (history : List (TableOperation κ ν)) (key : κ),
    (HashTable.run kind hasher history).find? key =
      history.foldl (TableOperation.entryAfter kind key) none
  stored : ∀ {ν : Type} (hasher : Hasher) (before after : List (TableOperation κ ν))
    (key key' : κ) (value : ν), kind.same key key' = true →
    (HashTable.run kind hasher before).find? key = none →
    (∀ operation ∈ after, operation.removes kind key = false) →
      (HashTable.run kind hasher (before ++ .insert key value :: after)).find? key' =
        some (key, (after.filterMap (TableOperation.written? kind key)).getLast?.getD value)

theorem Lawful.retrieves {κ : Type} {kind : KeyKind κ} (lawful : kind.Lawful) :
    kind.Retrieves where
  recalls hasher history key := HashTable.find?_run lawful hasher history key
  stored hasher _ _ _ _ value h fresh stays :=
    HashTable.find?_stored lawful hasher value h fresh stays

/-- **The contract.** Methods and route keys are compared by equivalences, keys that are one feed
the same pieces to every hasher, and so no table misses an entry. Two methods are one exactly if
their declaring types, their names and the lists of their parameter types coincide. Two route keys
are one exactly if their folded characters coincide, if they agree when they are read in step, and
if they feed the same pieces; dictionaries find what tables would, and mergers take for reserved
keys what dictionaries find under them. -/
theorem keys_keep_contract :
    (∀ store : Nat → Method,
      (method store).Lawful ∧ (method store).Retrieves ∧
      ∀ p q, ((method store).same p q = (store p == store q)) ∧
        ((method store).same p q = true ↔
          (store p).declaringType.id = (store q).declaringType.id ∧
            (store p).name = (store q).name ∧
            (store p).parameters.length = (store q).parameters.length ∧
            (store p).parameters.map (·.typeName) = (store q).parameters.map (·.typeName))) ∧
    route.Lawful ∧ route.Retrieves ∧
    (∀ a b,
      (route.same a b = true ↔ RouteKey.folded a = RouteKey.folded b) ∧
      RouteKey.Reading.agree (.ofText a) (.ofText b) = route.same a b ∧
      (route.hashPieces a = route.hashPieces b → route.same a b = true)) ∧
    (∀ hasher history key,
      RouteEntry.find? (history.foldl RouteValues.follow .empty).entries key =
        (HashTable.run route hasher history).find? key) ∧
    ∀ (merger : Merger) (key : String),
      merger.isNameKey key =
        ((RouteValues.empty.insert merger.handlerKey .null).insert merger.actionKey .null).contains
          key ∧
      (merger.policy = .areaOnly →
        merger.admitsDefault key =
          (RouteValues.empty.insert merger.areaKey .null).contains key) := by
  refine ⟨?_, lawful_route, lawful_route.retrieves, ?_, RouteValues.find?_foldl_follow, ?_⟩
  · intro store
    refine ⟨lawful_method store, (lawful_method store).retrieves, ?_⟩
    intro p q
    refine ⟨Method.sameAt_eq store p q, ?_⟩
    rw [method_same_iff, Method.identity_eq_iff]
  · intro a b
    refine ⟨RouteKey.same_iff, RouteKey.agree_ofText a b, ?_⟩
    intro pieces
    exact RouteKey.same_iff.2 (RouteKey.folded_eq_of_hashPieces_eq pieces)
  · intro merger key
    exact ⟨merger.isNameKey_eq_contains key, fun area => merger.admitsDefault_eq_contains area key⟩

/-- A hasher that ends in one number whatever it takes, so that all keys share a bucket. -/
def blunt : Hasher where
  State := Unit
  start := ()
  absorb _ _ := ()
  finish _ := 0

/-- Two declarations of one method, under different names for its parameter, and an overload. -/
def overloads : Nat → Method
  | 0 => ⟨⟨0, "Shop"⟩, "show", [⟨"id", "i32"⟩]⟩
  | 1 => ⟨⟨0, "Shop"⟩, "show", [⟨"number", "i32"⟩]⟩
  | _ => ⟨⟨0, "Shop"⟩, "show", [⟨"id", "i32"⟩, ⟨"page", "i32"⟩]⟩

/-- A merger that takes over defaults for the area only. -/
def areaMerger : Merger :=
  { Merger.default with policy := .areaOnly }

/-- In one bucket, an entry under a key whose first character has a lowercase form of two characters
is found under other spellings, and one under a method is found under another declaration. -/
theorem keys_keep_contract_colliding :
    (HashTable.run route blunt
        ([.insert "id" 0] ++ .insert "İd" 1 :: [.insert "i\u0307D" 2, .remove "ID"])).find?
          "I\u0307d" = some ("İd", 2) ∧
    (HashTable.run (method overloads) blunt ([.insert 2 0] ++ .insert 0 1 :: [.remove 2])).find? 1 =
        some (0, 1) ∧
    (method overloads).same 0 2 = false ∧
    route.same "İd" "i\u0307D" = true ∧
    areaMerger.admitsDefault "AREA" = true := by
  rcases keys_keep_contract with ⟨methods, -, routes, keys, -, mergers⟩
  rcases methods overloads with ⟨-, retrieves, same⟩
  refine ⟨?_, ?_, ?_, ?_, ?_⟩
  · exact routes.stored blunt _ _ "İd" "I\u0307d" 1 (by decide +kernel) (by decide +kernel)
      (by decide +kernel)
  · exact retrieves.stored blunt _ _ 0 1 1 ((same 0 1).2.2 (by decide)) (by decide +kernel)
      (by decide +kernel)
  · refine Bool.eq_false_iff.2 fun one => ?_
    exact absurd ((same 0 2).2.1 one).2.2.1 (by decide)
  · exact (keys "İd" "i\u0307D").2.2 (by decide +kernel)
  · exact ((mergers areaMerger "AREA").2 rfl).trans (by decide +kernel)

end KeyKind
end InvocationRouting
