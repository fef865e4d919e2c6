import InvocationRouting.Expr.Basic
import Mathlib.Data.List.Basic

/-!
# Proofs.Expr.Places — where deferred computations stand

Computations that stand at different places of an expression may be equal in all respects. What
tells the places apart is their order: they are numbered from left to right, and new labels can be
given to all of them by number.

* `Expr.places` : all places of an expression, from left to right;
* `Expr.listing`, `Invocation.listing` : the places outside calls, with their numbers;
* `Expr.relabel`, `Invocation.relabel` : the same with new labels;
* `Place.numbered_ascending`, `Expr.listing_relabel` : numbers ascend, and labels go by number.
-/

namespace InvocationRouting

/-! ## Lists of places -/

/-- A place where a deferred computation stands, and whether a call is around it. -/
structure Place where
  computation : Deferred
  inCall : Bool

/-- The computation under another label. -/
def Deferred.relabel (label : String) (computation : Deferred) : Deferred :=
  { computation with label := label }

namespace Place

/-- The place with a call around it. -/
def enclose (place : Place) : Place :=
  { place with inCall := true }

/-- The computations outside calls with the numbers of their places, the first place being number
`start`. -/
def numbered (start : Nat) (places : List Place) : List (Deferred × Nat) :=
  ((places.zipIdx start).filter fun entry => !entry.1.inCall).map fun entry =>
    (entry.1.computation, entry.2)

/-- The places with new labels by number. -/
def relabel (labels : Nat → String) (start : Nat) (places : List Place) : List Place :=
  (places.zipIdx start).map fun entry =>
    { entry.1 with computation := entry.1.computation.relabel (labels entry.2) }

variable {labels : Nat → String} {start : Nat} {places places' : List Place}

theorem numbered_cons (place : Place) :
    numbered start (place :: places) =
      if place.inCall then numbered (start + 1) places
      else (place.computation, start) :: numbered (start + 1) places := by
  cases h : place.inCall <;> simp [numbered, List.zipIdx_cons, h]

theorem relabel_cons (place : Place) :
    relabel labels start (place :: places) =
      { place with computation := place.computation.relabel (labels start) } ::
        relabel labels (start + 1) places := rfl

@[simp] theorem numbered_append :
    numbered start (places ++ places') =
      numbered start places ++ numbered (start + places.length) places' := by
  simp [numbered, List.zipIdx_append]

@[simp] theorem relabel_append :
    relabel labels start (places ++ places') =
      relabel labels start places ++ relabel labels (start + places.length) places' := by
  simp [relabel, List.zipIdx_append]

@[simp] theorem length_relabel : (relabel labels start places).length = places.length := by
  simp [relabel]

/-- Calls around all places do not change their labels. -/
@[simp] theorem relabel_enclose :
    relabel labels start (places.map enclose) = (relabel labels start places).map enclose := by
  simp [relabel, List.zipIdx_map, enclose]

/-- A computation outside calls keeps its number when it gets its label. -/
theorem numbered_relabel :
    numbered start (relabel labels start places) =
      (numbered start places).map fun entry => (entry.1.relabel (labels entry.2), entry.2) := by
  induction places generalizing start with
  | nil => rfl
  | cons place places ih =>
      rw [relabel_cons, numbered_cons, numbered_cons, ih]
      cases place.inCall <;> rfl

theorem numbered_ascending : (numbered start places).Pairwise fun p q => p.2 < q.2 := by
  have counted : (places.zipIdx start).Pairwise fun p q => p.2 < q.2 := by
    rw [← List.pairwise_map, List.zipIdx_map_snd]
    exact List.pairwise_lt_range'
  exact List.pairwise_map.2 (counted.filter _)

end Place

/-! ## The places of an expression -/

namespace Expr

mutual

/-- The places of an expression, from left to right. -/
def places : Expr → List Place
  | constant _ | parameter | captured .. => []
  | member target _ => places target
  | index target position => places target ++ places position
  | unary _ operand => places operand
  | binary _ left right => places left ++ places right
  | conditional condition whenTrue whenFalse =>
      places condition ++ (places whenTrue ++ places whenFalse)
  | coalesce value fallback => places value ++ places fallback
  | array elements => placesElements elements
  | object fields => placesFields fields
  | call receiver _ arguments =>
      let receiverPlaces := match receiver with
        | none => []
        | some e => places e
      (receiverPlaces ++ placesElements arguments).map Place.enclose
  | deferred computation => [⟨computation, false⟩]

/-- The places of elements. -/
def placesElements : List Expr → List Place
  | [] => []
  | x :: xs => places x ++ placesElements xs

/-- The places of fields. -/
def placesFields : List (String × Expr) → List Place
  | [] => []
  | (_, x) :: xs => places x ++ placesFields xs

end

mutual

/-- An expression with new labels by number, its first place being number `start`. -/
def relabel (labels : Nat → String) (start : Nat) : Expr → Expr
  | constant value => constant value
  | parameter => parameter
  | captured name value => captured name value
  | member target name => member (relabel labels start target) name
  | index target position =>
      index (relabel labels start target)
        (relabel labels (start + (places target).length) position)
  | unary op operand => unary op (relabel labels start operand)
  | binary op left right =>
      binary op (relabel labels start left) (relabel labels (start + (places left).length) right)
  | conditional condition whenTrue whenFalse =>
      conditional (relabel labels start condition)
        (relabel labels (start + (places condition).length) whenTrue)
        (relabel labels (start + (places condition).length + (places whenTrue).length) whenFalse)
  | coalesce value fallback =>
      coalesce (relabel labels start value)
        (relabel labels (start + (places value).length) fallback)
  | array elements => array (relabelElements labels start elements)
  | object fields => object (relabelFields labels start fields)
  | call receiver method arguments =>
      match receiver with
      | none => call none method (relabelElements labels start arguments)
      | some e =>
          call (some (relabel labels start e)) method
            (relabelElements labels (start + (places e).length) arguments)
  | deferred computation => deferred (computation.relabel (labels start))

/-- Elements with new labels. -/
def relabelElements (labels : Nat → String) (start : Nat) : List Expr → List Expr
  | [] => []
  | x :: xs =>
      relabel labels start x :: relabelElements labels (start + (places x).length) xs

/-- Fields with new labels. -/
def relabelFields (labels : Nat → String) (start : Nat) :
    List (String × Expr) → List (String × Expr)
  | [] => []
  | (name, x) :: xs =>
      (name, relabel labels start x) :: relabelFields labels (start + (places x).length) xs

end

variable (labels : Nat → String)

mutual

/-- A place has the label of its number. -/
theorem places_relabel (start : Nat) (e : Expr) :
    (e.relabel labels start).places = Place.relabel labels start e.places := by
  cases e with
  | constant value => rfl
  | parameter => rfl
  | captured name value => rfl
  | member target name => simp only [relabel, places, places_relabel]
  | index target position => simp only [relabel, places, places_relabel, Place.relabel_append]
  | unary op operand => simp only [relabel, places, places_relabel]
  | binary op left right => simp only [relabel, places, places_relabel, Place.relabel_append]
  | conditional condition whenTrue whenFalse =>
      simp only [relabel, places, places_relabel, Place.relabel_append]
  | coalesce value fallback => simp only [relabel, places, places_relabel, Place.relabel_append]
  | array elements => simp only [relabel, places, placesElements_relabel]
  | object fields => simp only [relabel, places, placesFields_relabel]
  | call receiver method arguments =>
      cases receiver with
      | none => simp [relabel, places, placesElements_relabel]
      | some e => simp [relabel, places, places_relabel, placesElements_relabel]
  | deferred computation => rfl

theorem placesElements_relabel (start : Nat) (es : List Expr) :
    placesElements (relabelElements labels start es) =
      Place.relabel labels start (placesElements es) := by
  cases es with
  | nil => rfl
  | cons e es =>
      simp only [relabelElements, placesElements, places_relabel, placesElements_relabel,
        Place.relabel_append]

theorem placesFields_relabel (start : Nat) (fs : List (String × Expr)) :
    placesFields (relabelFields labels start fs) =
      Place.relabel labels start (placesFields fs) := by
  cases fs with
  | nil => rfl
  | cons f fs =>
      simp only [relabelFields, placesFields, places_relabel, placesFields_relabel,
        Place.relabel_append]

end

/-! ## Listings -/

/-- The computations of an expression outside calls, with the numbers of their places. -/
def listing (e : Expr) : List (Deferred × Nat) :=
  Place.numbered 0 e.places

/-- The computations of the arguments of a body, outside further calls, with the numbers of their
places. The places of a receiver come first, but are not listed. -/
def argumentListing : Expr → List (Deferred × Nat)
  | call none _ arguments => Place.numbered 0 (placesElements arguments)
  | call (some receiver) _ arguments =>
      Place.numbered receiver.places.length (placesElements arguments)
  | _ => []

theorem listing_relabel (e : Expr) :
    (e.relabel labels 0).listing =
      e.listing.map fun entry => (entry.1.relabel (labels entry.2), entry.2) := by
  rw [listing, places_relabel, Place.numbered_relabel, listing]

theorem argumentListing_relabel (body : Expr) :
    (body.relabel labels 0).argumentListing =
      body.argumentListing.map fun entry => (entry.1.relabel (labels entry.2), entry.2) := by
  cases body with
  | call receiver method arguments =>
      cases receiver with
      | none =>
          simp only [relabel, argumentListing, placesElements_relabel, Place.numbered_relabel]
      | some e =>
          simp only [relabel, argumentListing, places_relabel, Place.length_relabel, Nat.zero_add,
            placesElements_relabel, Place.numbered_relabel]
  | _ => rfl

theorem argumentListing_ascending (body : Expr) :
    body.argumentListing.Pairwise fun p q => p.2 < q.2 := by
  cases body with
  | call receiver method arguments =>
      cases receiver <;> exact Place.numbered_ascending
  | _ => exact .nil

/-! ## What stays as it is -/

@[simp] theorem isConstant_relabel (start : Nat) (e : Expr) :
    (e.relabel labels start).isConstant = e.isConstant := by
  cases e with
  | call receiver method arguments => cases receiver <;> rfl
  | _ => rfl

@[simp] theorem length_relabelElements (start : Nat) (es : List Expr) :
    (relabelElements labels start es).length = es.length := by
  induction es generalizing start with
  | nil => rfl
  | cons e es ih => simp only [relabelElements, List.length_cons, ih]

end Expr

/-- The invocation with new labels in its body. -/
def Invocation.relabel (labels : Nat → String) (invocation : Invocation) : Invocation :=
  { invocation with body := invocation.body.relabel labels 0 }

end InvocationRouting
