import InvocationRouting.Yaml.Cursor

/-!
# Yaml.Scalar.Gap — what lies between the words of a scalar

Between two words of one line blanks stay. A line end is a space, and further line ends stay while
the first one does not count. Blanks at both ends of a line do not count.

- `Gap` : blanks and line ends between two words;
- `Gap.text` : what they stand for;
- `Cursor.passGap?` : the position behind a gap.
-/

namespace InvocationRouting
namespace Yaml

structure Gap where
  /-- The blanks before the first line end. -/
  blanks : List Char
  /-- Has the line ended? -/
  ended : Bool
  /-- Does the end of the line count as a space? -/
  space : Bool
  /-- How many further line ends there are. -/
  breaks : Nat

namespace Gap

def empty : Gap := ⟨[], false, false, 0⟩

def escaped : Gap := ⟨[], true, false, 0⟩

def addBlank (gap : Gap) (c : Char) : Gap :=
  if gap.ended then gap else { gap with blanks := gap.blanks ++ [c] }

/-- The gap with one more line end. -/
def addBreak (gap : Gap) : Gap :=
  if gap.ended then { gap with breaks := gap.breaks + 1 } else ⟨[], true, true, 0⟩

/-- What a gap stands for. -/
def text (gap : Gap) : List Char :=
  if !gap.ended then gap.blanks
  else if gap.breaks = 0 then if gap.space then [' '] else []
  else List.replicate gap.breaks '\n'

end Gap

/-- The position behind the blanks and line ends that come next, at most `fuel` characters, with the
gap that they make. The position behind a tabulator at the start of a line is given by `tab?`. -/
def Cursor.passGap? (tab? : Cursor → Option Cursor) :
    Nat → Gap → Cursor → Option (Gap × Cursor)
  | 0, gap, c => some (gap, c)
  | fuel + 1, gap, c =>
      match c.peek? with
      | none => some (gap, c)
      | some x =>
          if isBreak x then
            passGap? tab? fuel gap.addBreak c.passBreak
          else if gap.ended && x == '\t' then
            (tab? c).bind (passGap? tab? fuel gap)
          else if isBlank x then
            passGap? tab? fuel (gap.addBlank x) (c.advance 1)
          else
            some (gap, c)

end Yaml
end InvocationRouting
