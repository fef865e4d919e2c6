import InvocationRouting.Value.Json.Number

/-!
# Json.Token — the lexemes of JSON

- `Token` : brackets, separators, and complete scalars;
- `Token.scan?` : the lexemes of a text, or `none` at the first character that starts none.
-/

namespace InvocationRouting
namespace Json

/-- A lexeme. Strings are apart from other scalars since they may also name a field. -/
inductive Token where
  | openArray
  | closeArray
  | openObject
  | closeObject
  | colon
  | comma
  | string (s : String)
  | scalar (v : Value)

namespace Token

def hexValue? (c : Char) : Option Nat :=
  if c.isDigit then some (c.toNat - '0'.toNat)
  else if 'a' ≤ c ∧ c ≤ 'f' then some (c.toNat - 'a'.toNat + 10)
  else if 'A' ≤ c ∧ c ≤ 'F' then some (c.toNat - 'A'.toNat + 10)
  else none

def hexNumber? (cs : List Char) : Option Nat :=
  cs.foldlM (fun value c => (hexValue? c).map (16 * value + ·)) 0

/-- The character behind a backslash, for the escapes of one character. -/
def escaped? : Char → Option Char
  | '"' => some '"'
  | '\\' => some '\\'
  | '/' => some '/'
  | 'b' => some '\x08'
  | 'f' => some '\x0c'
  | 'n' => some '\n'
  | 'r' => some '\r'
  | 't' => some '\t'
  | _ => none

/-- The code units of a string up to its closing quote, and the rest of the text. A character that
stands for itself is one unit, and so is a numeric escape. -/
def stringUnits? : List Char → Option (List Nat × List Char)
  | [] => none
  | '"' :: rest => some ([], rest)
  | '\\' :: 'u' :: a :: b :: c :: d :: rest => do
      let unit ← hexNumber? [a, b, c, d]
      let (units, rest) ← stringUnits? rest
      return (unit :: units, rest)
  | '\\' :: c :: rest => do
      let meant ← escaped? c
      let (units, rest) ← stringUnits? rest
      return (meant.toNat :: units, rest)
  | c :: rest =>
      if c.toNat < 0x20 then
        none
      else do
        let (units, rest) ← stringUnits? rest
        return (c.toNat :: units, rest)

/-- The characters of code units: two halves of a surrogate pair make one, and no half stands
alone. -/
def unitChars? : List Nat → Option (List Char)
  | [] => some []
  | [unit] => if 0xD800 ≤ unit ∧ unit < 0xE000 then none else some [Char.ofNat unit]
  | unit :: next :: rest =>
      if 0xD800 ≤ unit ∧ unit < 0xDC00 then
        if 0xDC00 ≤ next ∧ next < 0xE000 then do
          let chars ← unitChars? rest
          return Char.ofNat (0x10000 + (unit - 0xD800) * 0x400 + (next - 0xDC00)) :: chars
        else
          none
      else if 0xDC00 ≤ unit ∧ unit < 0xE000 then
        none
      else do
        let chars ← unitChars? (next :: rest)
        return Char.ofNat unit :: chars

/-- A character that may occur in a number. -/
def isNumberChar (c : Char) : Bool :=
  c.isDigit || c == '-' || c == '+' || c == '.' || c == 'e' || c == 'E'

def word? (cs : List Char) : Option Value :=
  if cs = "null".toList then some .null
  else if cs = "true".toList then some (.bool true)
  else if cs = "false".toList then some (.bool false)
  else none

def scanWithin? : Nat → List Char → Option (List Token)
  | _, [] => some []
  | 0, _ :: _ => none
  | fuel + 1, c :: rest =>
      let single (token : Token) := (scanWithin? fuel rest).map (token :: ·)
      match c with
      | ' ' | '\n' | '\r' | '\t' => scanWithin? fuel rest
      | '[' => single openArray
      | ']' => single closeArray
      | '\x7b' => single openObject
      | '\x7d' => single closeObject
      | ':' => single colon
      | ',' => single comma
      | '"' => do
          let (units, rest) ← stringUnits? rest
          let chars ← unitChars? units
          let tokens ← scanWithin? fuel rest
          return string (String.ofList chars) :: tokens
      | c =>
          if isNumberChar c then do
            let v ← Value.ofJsonNumber? ((c :: rest).takeWhile isNumberChar)
            let tokens ← scanWithin? fuel ((c :: rest).dropWhile isNumberChar)
            return scalar v :: tokens
          else do
            let v ← word? ((c :: rest).takeWhile Char.isAlpha)
            let tokens ← scanWithin? fuel ((c :: rest).dropWhile Char.isAlpha)
            return scalar v :: tokens

/-- The lexemes of a text. Each takes at least one character. -/
def scan? (cs : List Char) : Option (List Token) :=
  scanWithin? cs.length cs

end Token
end Json
end InvocationRouting
