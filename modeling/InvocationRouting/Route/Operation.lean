import InvocationRouting.Route.Values

/-!
# Route.Operation — single operations on a dictionary of route values

Everything a caller can do to one dictionary, as data. An operation answers and leaves a dictionary
behind, so a history of a dictionary is a list of operations.

- `RouteOperation` : the operations;
- `RouteAnswer` : what an operation answers;
- `RouteValues.perform` : one operation;
- `RouteValues.performAll` : a history, with the dictionary it ends in.
-/

namespace InvocationRouting

inductive RouteOperation where
  | get (key : String)
  | contains (key : String)
  | size
  | insert (key : String) (value : Value)
  | insertIfAbsent (key : String) (value : Value)
  | remove (key : String)
  | extend (entries : List RouteEntry)

inductive RouteAnswer where
  | value (found : Option Value)
  | flag (holds : Bool)
  | count (n : Nat)
  | done

namespace RouteValues

/-- One operation. Writing and removing answer the value that was there before; writing only where
nothing is answers whether it wrote. -/
def perform (values : RouteValues) : RouteOperation → RouteAnswer × RouteValues
  | .get key => (.value (values.get? key), values)
  | .contains key => (.flag (values.contains key), values)
  | .size => (.count values.size, values)
  | .insert key value => (.value (values.get? key), values.insert key value)
  | .insertIfAbsent key value => (.flag (!values.contains key), values.insertIfAbsent key value)
  | .remove key => (.value (values.get? key), values.remove key)
  | .extend entries => (.done, values.extend entries)

/-- The operations one after another: their answers, and the dictionary in the end. -/
def performAll (values : RouteValues) : List RouteOperation → List RouteAnswer × RouteValues
  | [] => ([], values)
  | operation :: rest =>
      let (answer, after) := values.perform operation
      let (answers, final) := after.performAll rest
      (answer :: answers, final)

@[simp] theorem performAll_nil (values : RouteValues) : values.performAll [] = ([], values) := rfl

theorem performAll_cons (values : RouteValues) (operation : RouteOperation)
    (rest : List RouteOperation) :
    values.performAll (operation :: rest) =
      ((values.perform operation).1 :: ((values.perform operation).2.performAll rest).1,
        ((values.perform operation).2.performAll rest).2) := rfl

end RouteValues
end InvocationRouting
