import InvocationRouting.Text.Casing

/-!
# Route.Key — the names of route values

A route value is kept under a key whose spelling does not matter: two spellings are one key when
their characters agree in lowercase.

- `RouteKey.folded` : the characters by which a key is compared;
- `RouteKey.same` : are two texts spellings of one key?
-/

namespace InvocationRouting
namespace RouteKey

/-- The characters by which a route key is compared. -/
def folded (key : String) : List Char :=
  Casing.fold key

/-- Are the texts spellings of one route key? -/
def same (a b : String) : Bool :=
  folded a == folded b

theorem same_iff {a b : String} : same a b = true ↔ folded a = folded b := by
  simp [same]

theorem same_refl (a : String) : same a a = true := by
  simp [same]

theorem same_comm (a b : String) : same a b = same b a :=
  BEq.comm

end RouteKey
end InvocationRouting
