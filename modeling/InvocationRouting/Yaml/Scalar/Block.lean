import InvocationRouting.Yaml.Cursor

/-!
# Yaml.Scalar.Block — scalars of indented lines

A header tells how many spaces the lines are indented by, unless the first line with text tells it,
and what becomes of the line ends behind the text. In a folded scalar a line end between two lines
that start with text is a space.

- `Chomping` : what becomes of the line ends behind the text;
- `Block.header?` : the header;
- `Block.lines` : the lines;
- `Cursor.block?` : the text of a scalar, and the position behind it.
-/

namespace InvocationRouting
namespace Yaml

inductive Chomping where
  /-- None stays. -/
  | strip
  /-- One stays. -/
  | clip
  /-- All stay. -/
  | keep
  deriving DecidableEq

namespace Block

def chomping? : Option Char → Option Chomping
  | some '+' => some .keep
  | some '-' => some .strip
  | _ => none

/-- The chomping and the number of spaces of a header, zero if there is none, and the position
behind both. They stand in any order, and the number is not written as zero. -/
def header? (c : Cursor) : Option (Chomping × Nat × Cursor) :=
  let width? (c : Cursor) : Option (Nat × Cursor) :=
    match c.peek? with
    | some '0' => none
    | some x => if x.isDigit then some (x.toNat - '0'.toNat, c.visible 1) else some (0, c)
    | none => some (0, c)
  match chomping? c.peek? with
  | some chomping => (width? (c.visible 1)).map fun (width, c) => (chomping, width, c)
  | none => do
      let (width, c) ← width? c
      match chomping? c.peek? with
      | some chomping => return (chomping, width, c.visible 1)
      | none => return (.clip, width, c)

/-- The position behind empty lines and behind the spaces before a line, of which no more than up to
the column `indent` are passed, and how many lines were empty. -/
def skipIndent (indent : Nat) : Nat → Nat → Cursor → Nat × Cursor
  | 0, breaks, c => (breaks, c)
  | fuel + 1, breaks, c =>
      let spaces := (c.rest.takeWhile (· == ' ')).length
      let c := c.advance (min spaces (indent - c.column))
      if c.peek?.any isBreak then skipIndent indent fuel (breaks + 1) c.passBreak else (breaks, c)

/-- The position of the first line with text, how many lines before it were empty, and the largest
column of a line among them. -/
def firstLine : Nat → Nat → Nat → Cursor → Nat × Nat × Cursor
  | 0, breaks, column, c => (breaks, column, c)
  | fuel + 1, breaks, column, c =>
      let c := c.advance (c.rest.takeWhile (· == ' ')).length
      let column := max column c.column
      if c.peek?.any isBreak then firstLine fuel (breaks + 1) column c.passBreak
      else (breaks, column, c)

structure Lines where
  text : List Char
  /-- Is there a line end behind the text? -/
  ended : Bool
  /-- How many empty lines there are behind it. -/
  breaks : Nat
  /-- Did the last line start with a blank? -/
  startedBlank : Bool

/-- What stands between the lines so far and the next one, which may start with a blank. -/
def Lines.joint (lines : Lines) (folded blank : Bool) : List Char :=
  let empty := List.replicate lines.breaks '\n'
  -- Line ends are folded between two lines of words only.
  if folded && lines.ended && !lines.startedBlank && !blank then
    if lines.breaks = 0 then [' '] else empty
  else
    (if lines.ended then ['\n'] else []) ++ empty

/-- The lines that start in the column `indent`, of which there are at most `fuel` more. -/
def lines (folded : Bool) (indent : Nat) : Nat → Lines → Cursor → Lines × Cursor
  | 0, before, c => (before, c)
  | fuel + 1, before, c =>
      if c.column != indent || c.rest.isEmpty || (indent == 0 && c.atMark '.') then
        (before, c)
      else
        let blank := c.peek?.any isBlank
        let text := before.text ++ before.joint folded blank ++ c.lineText
        let c := c.skipLine
        if c.rest.isEmpty then
          (⟨text, false, 0, blank⟩, c)
        else
          let (breaks, c) := skipIndent indent c.rest.length 0 c.passBreak
          lines folded indent fuel ⟨text, true, breaks, blank⟩ c

/-- The line ends that stay behind the text, if the position behind it is `c`. -/
def Lines.tail (lines : Lines) (chomping : Chomping) (indent : Nat) (c : Cursor) : List Char :=
  let first := (if lines.ended then ['\n'] else []) ++
    if c.rest.isEmpty && decide (max indent 1 ≤ c.column) then ['\n'] else []
  match chomping with
  | .strip => []
  | .clip => first
  | .keep => first ++ List.replicate lines.breaks '\n'

/-- The text of a scalar without lines, where `ended` tells whether its header has a line end and
`breaks` how many empty lines follow. -/
def emptyText (chomping : Chomping) (ended : Bool) (breaks : Nat) : List Char :=
  if !ended then []
  else
    match chomping with
    | .strip => []
    | .clip => ['\n']
    | .keep => List.replicate (max breaks 1) '\n'

end Block

/-- A scalar that starts with its indicator inside the indentation `indent`, and the position behind
it. -/
def Cursor.block? (c : Cursor) (folded : Bool) (indent : Int) : Option (List Char × Cursor) := do
  let (chomping, width, c) ← Block.header? (c.visible 1)
  let header ← c.restOfLine?
  if !endsLine header.peek? then failure
  let c := header.passBreak
  if c.peek? == some '\t' then failure
  -- The header gives the column of the lines, or else the first line with text does.
  let (breaks, column, c) :=
    if width = 0 then
      let (breaks, column, c) := Block.firstLine (c.rest.length + 1) 0 0 c
      (breaks, max column (indent + 1).toNat, c)
    else
      let column := (max indent 0).toNat + width
      let (breaks, c) := Block.skipIndent column (c.rest.length + 1) 0 c
      (breaks, column, c)
  if c.rest.isEmpty then
    return (Block.emptyText chomping (!header.rest.isEmpty) breaks, c)
  if c.column < column ∧ indent < c.column then failure
  let (lines, c) := Block.lines folded column (c.rest.length + 1) ⟨[], false, breaks, false⟩ c
  return (lines.text ++ lines.tail chomping column c, c)

end Yaml
end InvocationRouting
