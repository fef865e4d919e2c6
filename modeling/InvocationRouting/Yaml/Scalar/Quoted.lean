import InvocationRouting.Value.Json.Token
import InvocationRouting.Yaml.Scalar.Gap

/-!
# Yaml.Scalar.Quoted — scalars between quotes

Between single quotes, a quote is written twice and all else stands for itself. Between double
quotes a backslash starts an escape, and one at the end of a line joins the next line without a
space.

- `Quoted.escape?` : an escape behind its backslash;
- `Cursor.quoted?` : the text of a scalar, and the position behind it.
-/

namespace InvocationRouting
namespace Yaml

namespace Quoted

/-- The character of hexadecimal digits, and how many characters they are with the mark before
them. -/
def escapedCode? (digits : List Char) (count : Nat) : Option (Char × Nat) := do
  if digits.length < count then failure
  let n ← Json.Token.hexNumber? digits
  if n.isValidChar then some (Char.ofNat n, count + 1) else none

/-- The character that an escape stands for, and how many characters follow the backslash. -/
def escape? : List Char → Option (Char × Nat)
  | [] => none
  | c :: rest =>
      match c with
      | '0' => some ('\x00', 1)
      | 'a' => some ('\x07', 1)
      | '\t' => some ('\t', 1)
      | 'v' => some ('\x0b', 1)
      | 'e' => some ('\x1b', 1)
      | ' ' => some (' ', 1)
      | 'N' => some ('\u0085', 1)
      | '_' => some ('\u00a0', 1)
      | 'L' => some ('\u2028', 1)
      | 'P' => some ('\u2029', 1)
      | 'x' => escapedCode? (rest.take 2) 2
      | 'u' => escapedCode? (rest.take 4) 4
      | 'U' => escapedCode? (rest.take 8) 8
      | c => (Json.Token.escaped? c).map (·, 1)

/-- The next word, at most `fuel` characters: up to a blank, a line end or the closing quote. An
escaped line end is passed and starts the gap behind the word. -/
def word? (quote : Char) : Nat → List Char → Cursor → Option (List Char × Gap × Cursor)
  | 0, word, c => some (word, Gap.empty, c)
  | fuel + 1, word, c =>
      match c.rest with
      | [] => some (word, Gap.empty, c)
      | x :: rest =>
          if isBlank x || isBreak x then
            some (word, Gap.empty, c)
          else if x == quote then
            -- Two single quotes are one character, and no end.
            if quote == '\'' && rest.head? == some quote then
              word? quote fuel (word ++ [x]) (c.visible 2)
            else
              some (word, Gap.empty, c)
          else if x == '\\' && quote == '"' then
            if rest.head?.any isBreak then
              some (word, Gap.escaped, (c.visible 1).passBreak)
            else do
              let (meant, count) ← escape? rest
              word? quote fuel (word ++ [meant]) (c.visible (count + 1))
          else
            word? quote fuel (word ++ [x]) (c.visible 1)

/-- A tabulator at the start of a line is refused inside the indentation. -/
def tab? (indent : Int) (c : Cursor) : Option Cursor :=
  if c.column < indent then none else some (c.advance 1)

/-- More words of a scalar up to the closing quote, of which there are at most `fuel`. No line of it
starts inside the indentation. -/
def words? (quote : Char) (indent : Int) : Nat → List Char → Cursor → Option (List Char × Cursor)
  | 0, _, _ => none
  | fuel + 1, text, c =>
      if c.atDocumentMark || c.rest.isEmpty || decide (c.column < indent) then
        none
      else do
        let (text, gap, c) ← word? quote c.rest.length text c
        if c.peek? == some quote then
          some (text, c.visible 1)
        else do
          let (gap, c) ← c.passGap? (tab? indent) c.rest.length gap
          words? quote indent fuel (text ++ gap.text) c

/-- May a scalar that started on the line `start` be followed by the next character? -/
def mayFollow (inFlow : Bool) (start : Nat) (c : Cursor) : Bool :=
  match c.peek? with
  | some ':' => inFlow || c.line == start
  | some x => isBreak x || (inFlow && (x == ',' || x == ']' || x == '\x7d'))
  | none => true

end Quoted

/-- A scalar that starts with a quote inside the indentation `indent`, and the position behind it
and behind blanks and a comment. -/
def Cursor.quoted? (c : Cursor) (quote : Char) (inFlow : Bool) (indent : Int) :
    Option (List Char × Cursor) := do
  let (text, next) ← Quoted.words? quote indent (c.rest.length + 1) [] (c.visible 1)
  let next ← next.restOfLine?
  if Quoted.mayFollow inFlow c.line next then some (text, next) else none

end Yaml
end InvocationRouting
