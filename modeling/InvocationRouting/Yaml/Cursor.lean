import InvocationRouting.Yaml.Character

/-!
# Yaml.Cursor — positions in YAML text

- `Cursor` : the rest of a text, with the place where it starts;
- `Cursor.advance`, `Cursor.visible`, `Cursor.passBreak` : the position behind blanks, behind other
  characters, and behind a line end;
- `Cursor.restOfLine?` : the position behind blanks and a comment;
- `Cursor.atMark` : does a mark of documents stand here?
-/

namespace InvocationRouting
namespace Yaml

structure Cursor where
  rest : List Char
  index : Nat
  line : Nat
  column : Nat
  /-- Is there nothing but blanks between the start of the line and the position? -/
  leading : Bool

namespace Cursor

/-- The start of a text, which ends before its first null character. -/
def ofText (s : String) : Cursor :=
  ⟨s.toList.takeWhile (· != '\x00'), 0, 1, 0, true⟩

def peek? (c : Cursor) : Option Char :=
  c.rest.head?

def second? (c : Cursor) : Option Char :=
  (c.rest.drop 1).head?

/-- The position behind blanks, or behind what counts like blanks. -/
def advance (count : Nat) (c : Cursor) : Cursor :=
  { c with rest := c.rest.drop count, index := c.index + count, column := c.column + count }

def visible (count : Nat) (c : Cursor) : Cursor :=
  { c.advance count with leading := false }

def newLine (rest : List Char) (count : Nat) (c : Cursor) : Cursor :=
  ⟨rest, c.index + count, c.line + 1, 0, true⟩

def passBreak (c : Cursor) : Cursor :=
  match c.rest with
  | '\r' :: '\n' :: rest => c.newLine rest 2
  | '\r' :: rest => c.newLine rest 1
  | '\n' :: rest => c.newLine rest 1
  | _ => c

def lineText (c : Cursor) : List Char :=
  c.rest.takeWhile fun x => !isBreak x

def skipLine (c : Cursor) : Cursor :=
  c.advance c.lineText.length

def blanks (c : Cursor) : List Char :=
  c.rest.takeWhile isBlank

def skipBlanks (c : Cursor) : Cursor :=
  c.advance c.blanks.length

/-- The position behind blanks and a comment. A comment that no blank stands before is refused. -/
def restOfLine? (c : Cursor) : Option Cursor :=
  let next := c.skipBlanks
  if next.peek? == some '#' then
    if c.blanks.isEmpty then none else some next.skipLine
  else
    some next

/-- Do three of these characters stand at the start of the line, and nothing else beside them? -/
def atMark (mark : Char) (c : Cursor) : Bool :=
  c.column == 0 && c.rest.take 3 == [mark, mark, mark] && endsWord (c.rest.drop 3).head?

/-- Does the mark of the start or the end of a document stand here? -/
def atDocumentMark (c : Cursor) : Bool :=
  c.atMark '-' || c.atMark '.'

end Cursor

end Yaml
end InvocationRouting
