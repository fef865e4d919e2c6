import Mathlib.Data.String.Basic
import InvocationRouting.Value.Basic

/-!
# Proofs.Value.Fields — setting fields one after the other

Fields are set by insertion into a sorted list. What was set last under a name is what is found
there, and what was never set is not found.

* `Fields.get?_insert_self`, `Fields.get?_insert_ne` : one field is set, the others stay;
* `Fields.get?_ofList` : the last entry of a name counts;
* `Fields.mem_names_ofList`, `Fields.sorted_ofList` : the names, each once and in order;
* `Fields.ofList_of_sorted` : fields that are sorted already stay as they are.
-/

namespace InvocationRouting

namespace Fields

/-- The names of the fields, in their order. -/
def names (fields : List (String × Value)) : List String :=
  fields.map Prod.fst

/-- Each name comes before the next. -/
def Sorted (fields : Fields) : Prop :=
  (names fields).Pairwise (· < ·)

variable {fields : Fields} {name other : String} {value : Value}

/-! ## One field -/

theorem get?_cons (field : String × Value) (rest : Fields) (name : String) :
    get? (field :: rest) name = if name = field.1 then some field.2 else get? rest name := by
  rcases field with ⟨shown, value⟩
  unfold get?
  rw [List.lookup_cons]
  by_cases same : name = shown
  · simp [same]
  · have apart : (name == shown) = false := beq_false_of_ne same
    simp [same, apart]

theorem get?_insert_self (fields : Fields) (name : String) (value : Value) :
    (fields.insert name value).get? name = some value := by
  induction fields with
  | nil => exact (get?_cons _ _ _).trans (if_pos rfl)
  | cons field rest ih =>
      unfold insert
      split_ifs with same before
      · exact (get?_cons _ _ _).trans (if_pos rfl)
      · exact (get?_cons _ _ _).trans (if_pos rfl)
      · rw [get?_cons, if_neg same]
        exact ih

theorem get?_insert_ne (fields : Fields) (value : Value) (apart : other ≠ name) :
    (fields.insert name value).get? other = fields.get? other := by
  induction fields with
  | nil => exact (get?_cons _ _ _).trans (if_neg apart)
  | cons field rest ih =>
      unfold insert
      split_ifs with same before
      · -- The field that is replaced had the name that is not asked for.
        have apart' : other ≠ field.1 := same ▸ apart
        rw [get?_cons, get?_cons, if_neg apart, if_neg apart']
      · rw [get?_cons, if_neg apart]
      · rw [get?_cons, get?_cons, ih]

theorem mem_names_insert : other ∈ names (fields.insert name value) ↔
    other = name ∨ other ∈ names fields := by
  induction fields with
  | nil => simp [insert, names]
  | cons field rest ih =>
      unfold insert
      split_ifs with same before
      · simp [names, same]
      · simp [names]
      · simp only [names, List.map_cons, List.mem_cons] at ih ⊢
        rw [ih]
        exact or_left_comm

theorem Sorted.insert (sorted : Sorted fields) (name : String) (value : Value) :
    Sorted (fields.insert name value) := by
  induction fields with
  | nil => exact List.pairwise_singleton _ _
  | cons field rest ih =>
      have first : ∀ other ∈ names rest, field.1 < other := (List.pairwise_cons.1 sorted).1
      have later : Sorted rest := (List.pairwise_cons.1 sorted).2
      unfold Fields.insert
      split_ifs with same before
      · refine List.pairwise_cons.2 ⟨?_, later⟩
        intro other member
        rw [same]
        exact first other member
      · refine List.pairwise_cons.2 ⟨?_, sorted⟩
        intro other member
        rcases List.mem_cons.1 member with rfl | member
        · exact before
        · exact lt_trans before (first other member)
      · refine List.pairwise_cons.2 ⟨?_, ih later⟩
        intro other member
        rcases mem_names_insert.1 member with rfl | member
        · exact lt_of_le_of_ne (not_lt.1 before) (Ne.symm same)
        · exact first other member

/-! ## Many fields -/

/-- Fields that are set one after the other. -/
def setAll (fields : Fields) (entries : List (String × Value)) : Fields :=
  entries.foldl (fun fields entry => fields.insert entry.1 entry.2) fields

theorem ofList_eq_setAll (entries : List (String × Value)) : ofList entries = setAll [] entries :=
  rfl

theorem setAll_append (fields : Fields) (entries entries' : List (String × Value)) :
    setAll fields (entries ++ entries') = setAll (setAll fields entries) entries' :=
  List.foldl_append

/-- What is not set stays what it was. -/
theorem get?_setAll_of_not_mem {entries : List (String × Value)} (unset : name ∉ names entries)
    (fields : Fields) : (setAll fields entries).get? name = fields.get? name := by
  induction entries generalizing fields with
  | nil => rfl
  | cons entry rest ih =>
      have apart : name ≠ entry.1 := fun same => unset (same ▸ List.mem_cons_self)
      have unset' : name ∉ names rest := fun member => unset (List.mem_cons_of_mem _ member)
      calc
        (setAll fields (entry :: rest)).get? name
            = (setAll (fields.insert entry.1 entry.2) rest).get? name := rfl
        _ = (fields.insert entry.1 entry.2).get? name := ih unset' _
        _ = fields.get? name := get?_insert_ne fields entry.2 apart

/-- The last entry of a name counts. -/
theorem get?_ofList {before after : List (String × Value)} (last : name ∉ names after) :
    (ofList (before ++ (name, value) :: after)).get? name = some value := by
  have set : setAll [] (before ++ (name, value) :: after) =
      setAll ((setAll [] before).insert name value) after := setAll_append _ _ _
  rw [ofList_eq_setAll, set, get?_setAll_of_not_mem last]
  exact get?_insert_self _ name value

theorem get?_ofList_of_not_mem {entries : List (String × Value)} (absent : name ∉ names entries) :
    (ofList entries).get? name = none := by
  rw [ofList_eq_setAll, get?_setAll_of_not_mem absent]
  rfl

theorem mem_names_setAll {entries : List (String × Value)} :
    name ∈ names (setAll fields entries) ↔ name ∈ names fields ∨ name ∈ names entries := by
  induction entries generalizing fields with
  | nil => simp [setAll, names]
  | cons entry rest ih =>
      have step : name ∈ names (setAll (fields.insert entry.1 entry.2) rest) ↔
          name ∈ names (fields.insert entry.1 entry.2) ∨ name ∈ names rest := ih
      have split : name ∈ names (entry :: rest) ↔ name = entry.1 ∨ name ∈ names rest :=
        List.mem_cons
      -- The names set by the head may be counted before or after those that are there.
      rw [split]
      refine step.trans ?_
      rw [mem_names_insert, or_assoc]
      exact or_left_comm

/-- The names that are set, and no others. -/
theorem mem_names_ofList {entries : List (String × Value)} :
    name ∈ names (ofList entries) ↔ name ∈ names entries := by
  rw [ofList_eq_setAll, mem_names_setAll]
  simp [names]

theorem Sorted.setAll (sorted : Sorted fields) (entries : List (String × Value)) :
    Sorted (setAll fields entries) := by
  induction entries generalizing fields with
  | nil => exact sorted
  | cons entry rest ih => exact ih (sorted.insert entry.1 entry.2)

theorem sorted_ofList (entries : List (String × Value)) : Sorted (ofList entries) := by
  have empty : Sorted ([] : Fields) := List.Pairwise.nil
  exact empty.setAll entries

/-! ## Fields that are sorted -/

/-- A name that comes after all others goes to the end. -/
theorem insert_of_last (value : Value) (last : ∀ other ∈ names fields, other < name) :
    fields.insert name value = fields ++ [(name, value)] := by
  induction fields with
  | nil => rfl
  | cons field rest ih =>
      have before : field.1 < name := last field.1 List.mem_cons_self
      have later : ∀ other ∈ names rest, other < name := by
        intro other member
        exact last other (List.mem_cons_of_mem _ member)
      unfold insert
      rw [if_neg before.ne', if_neg before.asymm, ih later, List.cons_append]

theorem setAll_of_sorted {entries : List (String × Value)}
    (sorted : Sorted (fields ++ entries)) : setAll fields entries = fields ++ entries := by
  induction entries generalizing fields with
  | nil => exact (List.append_nil fields).symm
  | cons entry rest ih =>
      have last : ∀ other ∈ names fields, other < entry.1 := by
        intro other member
        rw [Sorted, names, List.map_append] at sorted
        exact (List.pairwise_append.1 sorted).2.2 other member entry.1 List.mem_cons_self
      have sorted' : Sorted ((fields ++ [(entry.1, entry.2)]) ++ rest) := by
        rwa [List.append_assoc]
      calc
        setAll fields (entry :: rest)
            = setAll (fields.insert entry.1 entry.2) rest := rfl
        _ = setAll (fields ++ [(entry.1, entry.2)]) rest := by rw [insert_of_last _ last]
        _ = (fields ++ [(entry.1, entry.2)]) ++ rest := ih sorted'
        _ = fields ++ entry :: rest := List.append_assoc _ _ _

/-- Fields that are sorted already are the table that is made of them. -/
theorem ofList_of_sorted (sorted : Sorted fields) : ofList fields = fields :=
  setAll_of_sorted sorted

end Fields

end InvocationRouting
