import InvocationRouting.Method
import InvocationRouting.Route.Key

/-!
# Hashing — what keys feed to a hasher

A hashed table finds an entry under any key that equals the stored one, provided that equal keys
feed the same sequence of pieces to the hasher.

- `HashPiece` : the pieces that are fed;
- `Method.hashPieces`, `RouteKey.hashPieces` : the sequences for the two kinds of keys;
- `KeyKind` : a kind of keys, by what they are compared and hashed with;
- `Hasher` : what makes a number of a sequence of pieces.
-/

namespace InvocationRouting

inductive HashPiece where
  | identity (id : Nat)
  | text (s : String)
  | length (n : Nat)
  | char (c : Char)
  | byte (n : Nat)
  deriving DecidableEq

/-- A method feeds its declaring type, its name, its arity and its parameter types. -/
def Method.hashPieces (method : Method) : List HashPiece :=
  [.identity method.declaringType.id, .text method.name, .length method.parameters.length] ++
    method.parameters.map fun p => .text p.typeName

/-- A route key feeds its folded characters and a final byte that is no character. -/
def RouteKey.hashPieces (key : String) : List HashPiece :=
  (folded key).map .char ++ [.byte 0xff]

/-- A kind of keys: when two of them are one key, and what each feeds to a hasher. -/
structure KeyKind (κ : Type) where
  same : κ → κ → Bool
  hashPieces : κ → List HashPiece

def KeyKind.route : KeyKind String :=
  ⟨RouteKey.same, RouteKey.hashPieces⟩

/-- Methods as keys, given by the places of a store that hold their declarations. -/
def KeyKind.method (store : Nat → Method) : KeyKind Nat :=
  ⟨Method.sameAt store, fun place => (store place).hashPieces⟩

namespace KeyKind

@[simp] theorem route_same (a b : String) : route.same a b = RouteKey.same a b := rfl

@[simp] theorem route_hashPieces (key : String) :
    route.hashPieces key = RouteKey.hashPieces key := rfl

@[simp] theorem method_same (store : Nat → Method) (p q : Nat) :
    (method store).same p q = Method.sameAt store p q := rfl

@[simp] theorem method_hashPieces (store : Nat → Method) (place : Nat) :
    (method store).hashPieces place = (store place).hashPieces := rfl

end KeyKind

/-- A hasher takes pieces one after another and ends in a number. Nothing is known of what it makes
of a piece. -/
structure Hasher where
  State : Type
  start : State
  absorb : State → HashPiece → State
  finish : State → Nat

def Hasher.hash (hasher : Hasher) (pieces : List HashPiece) : Nat :=
  hasher.finish (pieces.foldl hasher.absorb hasher.start)

end InvocationRouting
