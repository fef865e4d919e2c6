import InvocationRouting.Value.Basic

/-!
# Proofs.Value.Equality — structural equality is an equivalence

`Value.same` goes through two values side by side and compares numbers within their kind. Equal
values need not be identical, since the two floating-point zeros are equal, so that its laws do not
come with those of `=`.

* `Value.same_refl`, `Value.same_comm`, `Value.same_trans` : the laws of an equivalence, through
  arrays and objects of any depth;
* `Value.Alike` : equal values, or both of them missing.
-/

namespace InvocationRouting

/-! ## Numbers -/

namespace Number

theorem identical_refl (n : Number) : n.identical n = true := by
  cases n with
  | int i => exact beq_self_eq_true i.val
  | float x => exact beq_self_eq_true x.units

theorem identical_comm (m n : Number) : m.identical n = n.identical m := by
  cases m with
  | int i =>
      cases n with
      | int j => exact BEq.comm
      | float y => rfl
  | float x =>
      cases n with
      | int j => rfl
      | float y => exact BEq.comm

theorem identical_trans {l m n : Number} (first : l.identical m = true)
    (second : m.identical n = true) : l.identical n = true := by
  cases l with
  | int i =>
      cases m with
      | int j =>
          cases n with
          | int k => exact BEq.trans first second
          | float z => cases second
      | float y => cases first
  | float x =>
      cases m with
      | int j => cases first
      | float y =>
          cases n with
          | int k => cases second
          | float z => exact BEq.trans (a := x.units) first second

end Number

/-! ## Values -/

namespace Value

mutual

theorem same_refl (v : Value) : v.same v = true := by
  cases v with
  | null => rfl
  | bool b => exact beq_self_eq_true b
  | number n => exact n.identical_refl
  | string s => exact beq_self_eq_true s
  | array elements => exact sameElements_refl elements
  | object fields => exact sameFields_refl fields

theorem sameElements_refl (vs : List Value) : sameElements vs vs = true := by
  cases vs with
  | nil => rfl
  | cons v vs =>
      have head := same_refl v
      have tail := sameElements_refl vs
      simp only [sameElements, head, tail, Bool.and_self]

theorem sameFields_refl (fs : List (String × Value)) : sameFields fs fs = true := by
  cases fs with
  | nil => rfl
  | cons f fs =>
      have head := same_refl f.2
      have tail := sameFields_refl fs
      simp only [sameFields, head, tail, beq_self_eq_true, Bool.and_self]

end

mutual

theorem same_comm (a b : Value) : a.same b = b.same a := by
  cases a with
  | null => cases b <;> rfl
  | bool x =>
      cases b with
      | bool y => exact BEq.comm
      | _ => rfl
  | number m =>
      cases b with
      | number n => exact m.identical_comm n
      | _ => rfl
  | string s =>
      cases b with
      | string t => exact BEq.comm
      | _ => rfl
  | array xs =>
      cases b with
      | array ys => exact sameElements_comm xs ys
      | _ => rfl
  | object xs =>
      cases b with
      | object ys => exact sameFields_comm xs ys
      | _ => rfl

theorem sameElements_comm (xs ys : List Value) : sameElements xs ys = sameElements ys xs := by
  cases xs with
  | nil => cases ys <;> rfl
  | cons x xs =>
      cases ys with
      | nil => rfl
      | cons y ys =>
          have heads := same_comm x y
          have tails := sameElements_comm xs ys
          simp only [sameElements, heads, tails]

theorem sameFields_comm (xs ys : List (String × Value)) : sameFields xs ys = sameFields ys xs := by
  cases xs with
  | nil => cases ys <;> rfl
  | cons x xs =>
      cases ys with
      | nil => rfl
      | cons y ys =>
          have names : (x.1 == y.1) = (y.1 == x.1) := BEq.comm
          have heads := same_comm x.2 y.2
          have tails := sameFields_comm xs ys
          simp only [sameFields, names, heads, tails]

end

mutual

theorem same_trans {a b c : Value} (first : a.same b = true) (second : b.same c = true) :
    a.same c = true := by
  -- Values of different kinds are never equal, so that all three are of one kind.
  cases a with
  | null =>
      cases b with
      | null => exact second
      | _ => cases first
  | bool x =>
      cases b with
      | bool y =>
          have equal : x = y := eq_of_beq first
          rw [equal]
          exact second
      | _ => cases first
  | number m =>
      cases b with
      | number n =>
          cases c with
          | number k => exact @Number.identical_trans m n k first second
          | _ => cases second
      | _ => cases first
  | string s =>
      cases b with
      | string t =>
          have equal : s = t := eq_of_beq first
          rw [equal]
          exact second
      | _ => cases first
  | array xs =>
      cases b with
      | array ys =>
          cases c with
          | array zs => exact @sameElements_trans xs ys zs first second
          | _ => cases second
      | _ => cases first
  | object xs =>
      cases b with
      | object ys =>
          cases c with
          | object zs => exact @sameFields_trans xs ys zs first second
          | _ => cases second
      | _ => cases first
termination_by structural a

theorem sameElements_trans {xs ys zs : List Value} (first : sameElements xs ys = true)
    (second : sameElements ys zs = true) : sameElements xs zs = true := by
  cases xs with
  | nil =>
      cases ys with
      | nil => exact second
      | cons y ys => cases first
  | cons x xs =>
      cases ys with
      | nil => cases first
      | cons y ys =>
          cases zs with
          | nil => cases second
          | cons z zs =>
              simp only [sameElements, Bool.and_eq_true] at first second ⊢
              exact ⟨same_trans first.1 second.1, sameElements_trans first.2 second.2⟩
termination_by structural xs

theorem sameFields_trans {xs ys zs : List (String × Value)} (first : sameFields xs ys = true)
    (second : sameFields ys zs = true) : sameFields xs zs = true := by
  cases xs with
  | nil =>
      cases ys with
      | nil => exact second
      | cons y ys => cases first
  | cons x xs =>
      cases ys with
      | nil => cases first
      | cons y ys =>
          cases zs with
          | nil => cases second
          | cons z zs =>
              simp only [sameFields, Bool.and_eq_true, beq_iff_eq] at first second ⊢
              refine ⟨⟨first.1.1.trans second.1.1, ?_⟩, ?_⟩
              · exact same_trans first.1.2 second.1.2
              · exact sameFields_trans first.2 second.2
termination_by structural xs

end

/-! ## Values that may be missing -/

/-- Both are missing, or both are there and equal. -/
def Alike : Option Value → Option Value → Prop :=
  Option.Rel fun v w => v.same w = true

namespace Alike

variable {x y x' y' : Option Value}

theorem refl (x : Option Value) : Alike x x := by
  cases x with
  | none => exact .none
  | some v => exact .some v.same_refl

theorem symm (h : Alike x y) : Alike y x := by
  cases h with
  | none => exact .none
  | some equal => exact .some ((same_comm _ _).trans equal)

theorem trans {z : Option Value} (first : Alike x y) (second : Alike y z) : Alike x z := by
  cases first with
  | none => exact second
  | some equal =>
      cases second with
      | some equal' => exact .some (same_trans equal equal')

theorem isSome_eq (h : Alike x y) : x.isSome = y.isSome := by
  cases h <;> rfl

theorem some_iff {v w : Value} : Alike (some v) (some w) ↔ v.same w = true := by
  constructor
  · intro h
    cases h with
    | some equal => exact equal
  · intro equal
    exact .some equal

theorem not_some_none {v : Value} : ¬ Alike (some v) none :=
  nofun

/-- What stands in for a missing value may be replaced as well. -/
theorem or (first : Alike x y) (second : Alike x' y') : Alike (x.or x') (y.or y') := by
  cases first with
  | none => exact second
  | some equal => exact .some equal

end Alike

end Value
end InvocationRouting
