import InvocationRouting.Route.Key

/-!
# Route.Reading — keys that are compared while they are read

Two keys need not be folded as wholes before they are compared. A reading gives the folded
characters of a text one at a time, and two readings are compared in step until they differ or one
of them ends.

- `Reading.next?` : the next folded character;
- `Reading.agree` : do two readings give the same characters?
- `Reading.agree_iff` : they do exactly if the same characters are still to come from both.
-/

namespace InvocationRouting
namespace RouteKey

/-- A text that is being read: the lowercase characters still to come from the character that was
read last, and the rest of the text. -/
structure Reading where
  pending : List Char
  rest : List Char

namespace Reading

/-- The reading that begins with the text. -/
def ofText (s : String) : Reading :=
  ⟨[], s.toList⟩

/-- The folded characters that are still to come. -/
def remaining (reading : Reading) : List Char :=
  reading.pending ++ reading.rest.flatMap Casing.lowerChars

/-- The first of the pending characters, or else the first that the rest of the text gives. -/
def nextOf? : List Char → List Char → Option (Char × Reading)
  | c :: pending, rest => some (c, ⟨pending, rest⟩)
  | [], [] => none
  | [], c :: rest => nextOf? (Casing.lowerChars c) rest

def next? (reading : Reading) : Option (Char × Reading) :=
  nextOf? reading.pending reading.rest

theorem remaining_nextOf? (pending rest : List Char) :
    remaining ⟨pending, rest⟩ =
      match nextOf? pending rest with
      | some (c, later) => c :: later.remaining
      | none => [] := by
  fun_induction nextOf? pending rest with
  | case1 rest c pending => simp [remaining]
  | case2 => simp [remaining]
  | case3 c rest ih => simpa [remaining] using ih

/-- What is still to come is the next character and what is still to come behind it. -/
theorem remaining_eq (reading : Reading) :
    reading.remaining =
      match reading.next? with
      | some (c, later) => c :: later.remaining
      | none => [] :=
  remaining_nextOf? reading.pending reading.rest

theorem remaining_of_next? {reading later : Reading} {c : Char}
    (h : reading.next? = some (c, later)) : reading.remaining = c :: later.remaining := by
  rw [remaining_eq, h]

theorem remaining_of_next?_none {reading : Reading} (h : reading.next? = none) :
    reading.remaining = [] := by
  rw [remaining_eq, h]

/-- Do the readings give the same characters? They are compared one character at a time, and neither
may end before the other. -/
def agree (a b : Reading) : Bool :=
  match _ha : a.next?, b.next? with
  | none, none => true
  | some (x, a'), some (y, b') => x == y && agree a' b'
  | _, _ => false
termination_by a.remaining.length
decreasing_by
  rw [remaining_of_next? _ha]
  exact Nat.lt_succ_self _

theorem agree_iff {a b : Reading} : agree a b = true ↔ a.remaining = b.remaining := by
  fun_induction agree a b with
  | case1 a b ha hb => simp [remaining_of_next?_none ha, remaining_of_next?_none hb]
  | case2 a b x a' y b' ha hb ih =>
      simp [remaining_of_next? ha, remaining_of_next? hb, ih]
  | case3 a b bothEnd bothGo =>
      -- One reading has ended, and the other has not.
      cases ha : a.next? with
      | none =>
          cases hb : b.next? with
          | none => exact absurd hb (bothEnd ha)
          | some right =>
              simp [remaining_of_next?_none ha, remaining_of_next? hb]
      | some left =>
          cases hb : b.next? with
          | none => simp [remaining_of_next? ha, remaining_of_next?_none hb]
          | some right => exact absurd hb (bothGo _ _ _ _ ha)

theorem remaining_ofText (s : String) : (ofText s).remaining = folded s := rfl

end Reading
end RouteKey
end InvocationRouting
