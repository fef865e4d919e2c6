import InvocationRouting.Proofs.Merge.Precedence

/-!
# Proofs.Merge.DeclaredKeys — callers do not choose keys

An argument comes with the name that its caller has for the parameter. Merging falls back on that
name only past the end of the registered declaration, where no argument of a call to the method
stands. Keys of arguments therefore come from the registered target.

* `ArgumentValue.unnamed` : an argument without the caller's name;
* `Merger.declaredKeys` : the keys for arguments of a target, by position;
* `argumentKey_declared`, `merge_congr` : where all arguments are declared, callers' names do not
  matter;
* `key_of_mem_merge` : every key of a merged route is one of the target's.
-/

namespace InvocationRouting

/-- The position and the value of an argument, without the name that the caller has for it. -/
def ArgumentValue.unnamed (argument : ArgumentValue) : Nat × Value :=
  (argument.position, argument.value)

namespace Merger

variable {target : DispatchTarget} {arguments arguments' : List ArgumentValue}

/-- The keys under which the arguments of a target are written, in the order of its parameters: the
binding of a parameter, or its declared name. -/
def declaredKeys (target : DispatchTarget) : List String :=
  target.method.parameters.map fun parameter =>
    (target.bindingFor? parameter.name).getD parameter.name

/-- A declared argument is written under the declared key. -/
theorem argumentKey_declared {argument : ArgumentValue}
    (declared : argument.position < target.method.arity) :
    (declaredKeys target)[argument.position]? = some (argumentKey target argument) := by
  have known : target.method.parameters[argument.position]? =
      some target.method.parameters[argument.position] := List.getElem?_eq_getElem declared
  unfold declaredKeys argumentKey parameterName
  rw [List.getElem?_map, known]
  rfl

/-- Declared arguments write the same entries under whatever names. -/
theorem writeArguments_congr
    (declared : ∀ argument ∈ arguments, argument.position < target.method.arity)
    (same : arguments.map ArgumentValue.unnamed = arguments'.map ArgumentValue.unnamed)
    (values : RouteValues) :
    writeArguments target arguments values = writeArguments target arguments' values := by
  -- What is written for an argument can be read off its position and value.
  let entry (position : Nat × Value) : RouteEntry :=
    ((declaredKeys target)[position.1]?.getD "", position.2)
  have written (arguments : List ArgumentValue)
      (declared : ∀ argument ∈ arguments, argument.position < target.method.arity) :
      (arguments.map fun argument => (argumentKey target argument, argument.value)) =
        (arguments.map ArgumentValue.unnamed).map entry := by
    rw [List.map_map]
    apply List.map_congr_left
    intro argument member
    simp only [Function.comp_apply, ArgumentValue.unnamed, entry,
      argumentKey_declared (declared argument member), Option.getD_some]
  have declared' : ∀ argument ∈ arguments', argument.position < target.method.arity := by
    intro argument member
    have unnamed : argument.unnamed ∈ arguments.map ArgumentValue.unnamed :=
      same ▸ List.mem_map_of_mem member
    rcases List.mem_map.1 unnamed with ⟨other, there, equal⟩
    have position : other.position = argument.position := congrArg Prod.fst equal
    exact position ▸ declared other there
  rw [writeArguments_eq_extend, writeArguments_eq_extend, written arguments declared,
    written arguments' declared', same]

theorem merge_congr (merger : Merger)
    (declared : ∀ argument ∈ arguments, argument.position < target.method.arity)
    (same : arguments.map ArgumentValue.unnamed = arguments'.map ArgumentValue.unnamed) :
    merger.merge target arguments = merger.merge target arguments' := by
  unfold merge mergeInOrder
  rw [writeArguments_congr declared same]

/-- Every key of a merged route is a declared one, or that of a constraint, or that of a default. -/
theorem key_of_mem_merge (merger : Merger)
    (declared : ∀ argument ∈ arguments, argument.position < target.method.arity)
    {entry : RouteEntry} (member : entry ∈ (merger.merge target arguments).values.entries) :
    entry.1 ∈ declaredKeys target ∨ entry.1 ∈ target.constraints.map (·.key) ∨
      entry.1 ∈ target.defaults.entries.map (·.1) := by
  have kept := ((RouteValues.mem_entries_iff _ _).1 member).2
  have law := spelling?_merge merger target arguments (List.Perm.refl _) entry.1
  rw [merge, law, spellingFor?, Option.or_eq_some_iff, Option.or_eq_some_iff] at kept
  rcases kept with argument | ⟨-, constraint | ⟨-, default⟩⟩
  · rcases Option.map_eq_some_iff.1 argument with ⟨first, found, key⟩
    have declaredKey := argumentKey_declared (declared first (List.mem_of_find?_eq_some found))
    rw [argumentKey_eq_effectiveKey, key] at declaredKey
    exact .inl (List.mem_of_getElem? declaredKey)
  · rcases Option.map_eq_some_iff.1 constraint with ⟨first, found, key⟩
    split at found
    · cases found
    · exact .inr (.inl (List.mem_map.2 ⟨first, List.mem_of_find?_eq_some found, key⟩))
  · split at default
    · rcases Option.map_eq_some_iff.1 default with ⟨first, found, key⟩
      exact .inr (.inr (List.mem_map.2 ⟨first, List.mem_of_find?_eq_some found, key⟩))
    · cases default

end Merger
end InvocationRouting
