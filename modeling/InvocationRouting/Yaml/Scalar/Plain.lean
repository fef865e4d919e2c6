import InvocationRouting.Yaml.Scalar.Gap

/-!
# Yaml.Scalar.Plain — scalars without quotes

- `Plain.mayContinue` : may a character be part of such a scalar?
- `Cursor.plain?` : the text of a scalar, and the position behind it.
-/

namespace InvocationRouting
namespace Yaml

namespace Plain

/-- May a character stand inside a scalar before the next one? A colon at the end of a word may not,
and inside a flow collection neither may the indicators of such collections. -/
def mayContinue (inFlow : Bool) (c : Char) (next : Option Char) : Bool :=
  if c == ':' then !endsWord next && !(inFlow && next.any isFlow)
  else !(inFlow && isFlow c)

def word (inFlow : Bool) : List Char → List Char
  | [] => []
  | c :: rest =>
      if isBlank c || isBreak c || !mayContinue inFlow c rest.head? then []
      else c :: word inFlow rest

/-- Tabulators at the start of a line are refused where the text of the scalar cannot stand, unless
the line has no text. -/
def tab? (limit : Int) (c : Cursor) : Option Cursor :=
  if c.column < limit then
    match c.restOfLine? with
    | some next => if endsLine next.peek? then some next else none
    | none => none
  else
    some (c.advance 1)

/-- More words of a scalar, of which there are at most `fuel`. Outside of flow collections the
scalar ends with a line that starts before the column `limit`. -/
def words? (inFlow : Bool) (limit : Int) :
    Nat → List Char → Gap → Cursor → Option (List Char × Cursor)
  | 0, text, _, c => some (text, c)
  | fuel + 1, text, gap, c =>
      if c.atDocumentMark || c.peek? == some '#' then
        some (text, c)
      else if inFlow && c.peek? == some '-' && c.second?.any isFlow then
        none
      else
        let next := word inFlow c.rest
        if next.isEmpty then
          some (text, c)
        else
          let text := text ++ gap.text ++ next
          let c := c.visible next.length
          match c.passGap? (tab? limit) c.rest.length Gap.empty with
          | none => none
          | some (gap, c) =>
              if !inFlow && decide (c.column < limit) then some (text, c)
              else words? inFlow limit fuel text gap c

end Plain

/-- A scalar without quotes inside the indentation `indent`, and the position behind it. -/
def Cursor.plain? (c : Cursor) (inFlow : Bool) (indent : Int) : Option (List Char × Cursor) :=
  if inFlow && decide (c.column < indent + 1) then
    none
  else
    match Plain.words? inFlow (indent + 1) c.rest.length [] Gap.empty c with
    | some ([], _) => none
    | other => other

end Yaml
end InvocationRouting
