import InvocationRouting.Number.Decimal
import InvocationRouting.Text.Casing

/-!
# Settings.Path — where the entry of a source belongs

The name of an entry may lead below other names: points stand between names, and an integer between
brackets is a place in a list. A name that has another form stands for itself as a whole. The case
of names does not matter.

- `PathStep` : a step of a path;
- `Path.steps?` : the steps of a text that has the form of a path;
- `Path.ofName` : the path that the name of an entry stands for.
-/

namespace InvocationRouting

/-- A step: to the entry of a table, or to a place in a list. Which place does not matter, since no
setting is in a list. -/
inductive PathStep where
  | name (s : String)
  | place

namespace Path

def isNameChar (c : Char) : Bool :=
  c.isAlphanum || c == ' ' || c == '_' || c == '-'

/-- A character that may stand around an integer between brackets. -/
def isBlank (c : Char) : Bool :=
  c == ' ' || c == '\t'

/-- Is the text, apart from blanks around it, an integer that fits a signed word? -/
def isPlace (cs : List Char) : Bool :=
  let trimmed := ((cs.dropWhile isBlank).reverse.dropWhile isBlank).reverse
  let (negative, digits) := match trimmed with
    | '-' :: digits => (true, digits)
    | digits => (false, digits)
  !digits.isEmpty && digits.all Char.isDigit &&
    decide (Decimal.digitsValue digits < 2 ^ 63 + if negative then 1 else 0)

def nameStep (cs : List Char) : PathStep :=
  .name (Casing.lowercase (String.ofList cs))

/-- The steps behind a first name, of which there are at most `fuel`. -/
def moreSteps? : Nat → List Char → Option (List PathStep)
  | _, [] => some []
  | 0, _ :: _ => none
  | fuel + 1, '.' :: rest =>
      let name := rest.takeWhile isNameChar
      if name.isEmpty then none
      else (moreSteps? fuel (rest.dropWhile isNameChar)).map (nameStep name :: ·)
  | fuel + 1, '[' :: rest =>
      match rest.dropWhile (· != ']') with
      | ']' :: more =>
          if isPlace (rest.takeWhile (· != ']')) then (moreSteps? fuel more).map (.place :: ·)
          else none
      | _ => none
  | _, _ => none

def steps? (cs : List Char) : Option (List PathStep) :=
  let name := cs.takeWhile isNameChar
  if name.isEmpty then none
  else (moreSteps? cs.length (cs.dropWhile isNameChar)).map (nameStep name :: ·)

def ofName (s : String) : List PathStep :=
  (steps? s.toList).getD [nameStep s.toList]

end Path
end InvocationRouting
