import InvocationRouting.Method

/-!
# Proofs.Method.Identity — when two declarations are one method

`Method.sameAs` compares declarations piece by piece. It agrees with equality of `Method.identity`,
so that it is an equivalence and may be used as a key. That places of a store are compared before
the declarations that they hold makes no difference.
-/

namespace InvocationRouting
namespace Method

/-- Lists of equal length that agree pair by pair under a view have one image under it. -/
theorem zip_all_iff_map_eq {α β : Type} [BEq β] [LawfulBEq β] (view : α → β) (xs ys : List α) :
    (xs.length == ys.length && (xs.zip ys).all fun pair => view pair.1 == view pair.2) = true ↔
      xs.map view = ys.map view := by
  induction xs generalizing ys with
  | nil => cases ys <;> simp
  | cons x xs ih =>
      cases ys with
      | nil => simp
      | cons y ys =>
          have tails := ih ys
          simp only [Bool.and_eq_true, beq_iff_eq] at tails
          simp only [List.length_cons, List.zip_cons_cons, List.all_cons, List.map_cons,
            List.cons.injEq, Bool.and_eq_true, beq_iff_eq, Nat.add_right_cancel_iff]
          rw [← tails]
          constructor
          · rintro ⟨lengths, head, rest⟩
            exact ⟨head, lengths, rest⟩
          · rintro ⟨head, lengths, rest⟩
            exact ⟨lengths, head, rest⟩

/-- Two declarations are one method exactly if their identities are equal. -/
theorem beq_iff {a b : Method} : (a == b) = true ↔ a.identity = b.identity := by
  have parameters := zip_all_iff_map_eq Parameter.typeName a.parameters b.parameters
  have unfolded : (a == b) = (a.declaringType.id == b.declaringType.id && a.name == b.name &&
      a.parameters.length == b.parameters.length &&
      (a.parameters.zip b.parameters).all fun pair => pair.1.typeName == pair.2.typeName) := rfl
  rw [unfolded, Bool.and_assoc, Bool.and_eq_true, parameters]
  simp [identity, and_assoc]

theorem beq_congr_right {a b : Method} (h : a.identity = b.identity) (c : Method) :
    (c == a) = (c == b) := by
  rw [Bool.eq_iff_iff, beq_iff, beq_iff, h]

/-- Declarations of one method have as many parameters. -/
theorem arity_eq_of_identity {a b : Method} (same : a.identity = b.identity) :
    a.arity = b.arity := by
  have types : a.parameters.map (·.typeName) = b.parameters.map (·.typeName) :=
    congrArg MethodIdentity.parameterTypes same
  simpa [arity] using congrArg List.length types

/-- An identity holds nothing but the declaring type, the name and the types of the parameters, and
so says how many parameters there are. -/
theorem identity_eq_iff {a b : Method} : a.identity = b.identity ↔
    a.declaringType.id = b.declaringType.id ∧ a.name = b.name ∧
      a.parameters.length = b.parameters.length ∧
      a.parameters.map (·.typeName) = b.parameters.map (·.typeName) := by
  constructor
  · intro h
    exact ⟨congrArg MethodIdentity.declaringType h, congrArg MethodIdentity.name h,
      arity_eq_of_identity h, congrArg MethodIdentity.parameterTypes h⟩
  · rintro ⟨type, name, -, types⟩
    rw [identity, identity, type, name, types]

/-- Comparing places first does not change the answer. -/
theorem sameAt_eq (store : Nat → Method) (p q : Nat) :
    sameAt store p q = (store p == store q) := by
  by_cases place : p = q
  · subst place
    have itself : (store p == store p) = true := beq_iff.2 rfl
    rw [sameAt, itself, Bool.or_true]
  · simp [sameAt, place]

end Method
end InvocationRouting
