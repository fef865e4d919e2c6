import InvocationRouting.Settings.Item
import InvocationRouting.Text.Blank
import InvocationRouting.Text.Letter
import InvocationRouting.Value.Json.Token

/-!
# Settings.Json5 — settings from JSON5 text

JSON5 adds to JSON comments, single quotes, names without quotes, more escapes and more forms of
numbers, and a comma may stand behind the last part of a container.

- `Json5.skip` : the text behind blanks and comments;
- `Json5.string?`, `Json5.name?`, `Json5.number?` : the parts of containers;
- `Json5.value?` : a value;
- `Item.ofJson5?` : the item of a text.
-/

namespace InvocationRouting
namespace Json5

/-! ## Between the parts -/

def isLineEnd (c : Char) : Bool :=
  c == '\n' || c == '\r' || c == '\u2028' || c == '\u2029'

/-- A blank: white space but the next-line character, and byte order marks. -/
def isBlank (c : Char) : Bool :=
  (Blank.isBlank c && c != '\u0085') || c == '\ufeff'

def behindComment? : List Char → Option (List Char)
  | '*' :: '/' :: rest => some rest
  | _ :: rest => behindComment? rest
  | [] => none

/-- The text behind blanks and comments, of which there are at most `fuel`. -/
def skipWithin : Nat → List Char → List Char
  | 0, cs => cs
  | fuel + 1, cs =>
      match cs.dropWhile isBlank with
      | '/' :: '/' :: rest => skipWithin fuel (rest.dropWhile fun c => !isLineEnd c)
      | '/' :: '*' :: rest =>
          match behindComment? rest with
          | some rest => skipWithin fuel rest
          | none => '/' :: '*' :: rest
      | rest => rest

def skip (cs : List Char) : List Char :=
  skipWithin (cs.length + 1) cs

/-! ## Strings and names -/

/-- The character behind a backslash, for the escapes of one character. Digits but zero make none.
-/
def escaped? (c : Char) : Option Char :=
  match c with
  | 'b' => some '\x08'
  | 'f' => some '\x0c'
  | 'n' => some '\n'
  | 'r' => some '\r'
  | 't' => some '\t'
  | 'v' => some '\x0b'
  | '0' => some '\x00'
  | c => if c.isDigit || c == 'x' || c == 'u' then none else some c

/-- The code units of a string up to its closing quote, and the rest of the text. A backslash at the
end of a line joins it to the next one. -/
def stringUnits? (quote : Char) : List Char → Option (List Nat × List Char)
  | [] => none
  | '\\' :: 'u' :: a :: b :: c :: d :: rest => do
      let unit ← Json.Token.hexNumber? [a, b, c, d]
      let (units, rest) ← stringUnits? quote rest
      return (unit :: units, rest)
  | '\\' :: 'x' :: a :: b :: rest => do
      let unit ← Json.Token.hexNumber? [a, b]
      let (units, rest) ← stringUnits? quote rest
      return (unit :: units, rest)
  | '\\' :: '\r' :: '\n' :: rest => stringUnits? quote rest
  | '\\' :: c :: rest =>
      if isLineEnd c then
        stringUnits? quote rest
      else do
        let meant ← escaped? c
        let (units, rest) ← stringUnits? quote rest
        return (meant.toNat :: units, rest)
  | c :: rest =>
      if c == quote then
        some ([], rest)
      else if c == '\\' || isLineEnd c then
        none
      else do
        let (units, rest) ← stringUnits? quote rest
        return (c.toNat :: units, rest)

def ofUnits? (units : List Nat) : Option String :=
  (Json.Token.unitChars? units).map String.ofList

/-- The rest of a string up to its closing quote, and the rest of the text. -/
def string? (quote : Char) (cs : List Char) : Option (String × List Char) := do
  let (units, rest) ← stringUnits? quote cs
  return (← ofUnits? units, rest)

def isNameStart (c : Char) : Bool :=
  Letter.isLetter c || c == '$' || c == '_'

def isNamePart (c : Char) : Bool :=
  isNameStart c || Letter.isJoiner c || c == '\u200c' || c == '\u200d'

/-- The code units of the rest of a name, and the rest of the text. -/
def nameUnits? : List Char → Option (List Nat × List Char)
  | '\\' :: 'u' :: a :: b :: c :: d :: rest => do
      let unit ← Json.Token.hexNumber? [a, b, c, d]
      let (units, rest) ← nameUnits? rest
      return (unit :: units, rest)
  | c :: rest =>
      if isNamePart c then do
        let (units, rest) ← nameUnits? rest
        return (c.toNat :: units, rest)
      else
        some ([], c :: rest)
  | [] => some ([], [])

/-- A name between quotes or without them, and the rest of the text. -/
def name? (cs : List Char) : Option (String × List Char) :=
  match cs with
  | [] => none
  | c :: rest =>
      if c == '"' || c == '\'' then
        string? c rest
      else if isNameStart c || c == '\\' then do
        let (units, rest) ← nameUnits? (c :: rest)
        if units.isEmpty then none else return (← ofUnits? units, rest)
      else
        none

/-! ## Numbers -/

def behindWord? (word : String) (cs : List Char) : Option (List Char) :=
  if word.toList.isPrefixOf cs then some (cs.drop word.length) else none

/-- A number of base sixteen behind its mark; it fits half a word. -/
def hexItem? (cs : List Char) : Option (Item × List Char) := do
  let digits := cs.takeWhile fun c => (Json.Token.hexValue? c).isSome
  if digits.isEmpty then failure
  let n ← Json.Token.hexNumber? digits
  if n < 2 ^ 32 then some (.integer n, cs.drop digits.length) else none

/-- An exponent at the start of a text, and the rest; both are empty without one. -/
def cutExponent (cs : List Char) : List Char × List Char :=
  match cs with
  | [] => ([], [])
  | c :: rest =>
      if c == 'e' || c == 'E' then
        let (sign, digits) := match rest with
          | '+' :: more => (['+'], more)
          | '-' :: more => (['-'], more)
          | more => ([], more)
        (c :: sign ++ digits.takeWhile Char.isDigit, digits.dropWhile Char.isDigit)
      else
        ([], c :: rest)

/-- A decimal number, and the rest of the text. It is an integer without a point and an exponent,
and must be finite with one. -/
def decimal? (negative : Bool) (cs : List Char) : Option (Item × List Char) := do
  let whole := cs.takeWhile Char.isDigit
  let (fraction, rest) := match cs.dropWhile Char.isDigit with
    | '.' :: rest => ('.' :: rest.takeWhile Char.isDigit, rest.dropWhile Char.isDigit)
    | rest => ([], rest)
  let (exponent, rest) := cutExponent rest
  if whole.head? == some '0' && 1 < whole.length then failure
  let d ← Decimal.ofChars? (whole ++ fraction ++ exponent)
  if fraction.isEmpty && exponent.isEmpty then
    let i : Int := if negative then -(d.digits : Int) else d.digits
    if -2 ^ 63 ≤ i ∧ i < 2 ^ 63 then some (.integer i, rest) else none
  else
    let x ← Decimal.toBinary64? { d with negative := negative }
    return (.real (.finite x), rest)

/-- A number, and the rest of the text. Only decimal numbers have a plus, and those of base sixteen
have no sign. -/
def number? (cs : List Char) : Option (Item × List Char) :=
  let (sign, body) := match cs with
    | '+' :: body => (some '+', body)
    | '-' :: body => (some '-', body)
    | body => (none, body)
  let negative := sign == some '-'
  match behindWord? "Infinity" body, behindWord? "NaN" body, body with
  | some rest, _, _ => if sign == some '+' then none else some (.real (.infinite negative), rest)
  | _, some rest, _ => if sign == some '+' then none else some (.real .nan, rest)
  | _, _, '0' :: 'x' :: rest | _, _, '0' :: 'X' :: rest =>
      if sign.isSome then none else hexItem? rest
  | _, _, _ => decimal? negative body

/-! ## Values -/

def word? (cs : List Char) : Option (Item × List Char) :=
  match behindWord? "null" cs, behindWord? "true" cs, behindWord? "false" cs with
  | some rest, _, _ => some (.null, rest)
  | _, some rest, _ => some (.boolean true, rest)
  | _, _, some rest => some (.boolean false, rest)
  | _, _, _ => number? cs

mutual

def value? : Nat → List Char → Option (Item × List Char)
  | 0, _ => none
  | fuel + 1, cs =>
      match cs with
      | [] => none
      | c :: rest =>
          if c == '[' then
            (elements? fuel (skip rest)).map fun rest => (.list, rest)
          else if c == '\x7b' then
            (members? fuel [] (skip rest)).map fun (entries, rest) => (.table entries, rest)
          else if c == '"' || c == '\'' then
            (string? c rest).map fun (s, rest) => (.text s, rest)
          else
            word? (c :: rest)

/-- Elements up to the end of an array, and the rest of the text. -/
def elements? : Nat → List Char → Option (List Char)
  | 0, _ => none
  | fuel + 1, cs =>
      match cs with
      | ']' :: rest => some rest
      | cs => do
          let (_, rest) ← value? fuel cs
          match skip rest with
          | ',' :: rest => elements? fuel (skip rest)
          | ']' :: rest => some rest
          | _ => none

/-- Members up to the end of an object, and the rest of the text. Of members with one name the last
holds. -/
def members? : Nat → Entries Item → List Char → Option (Entries Item × List Char)
  | 0, _, _ => none
  | fuel + 1, entries, cs =>
      match cs with
      | '\x7d' :: rest => some (entries, rest)
      | cs => do
          let (name, rest) ← name? cs
          match skip rest with
          | ':' :: rest => do
              let (item, rest) ← value? fuel (skip rest)
              let entries := Entries.upsert name item entries
              match skip rest with
              | ',' :: rest => members? fuel entries (skip rest)
              | '\x7d' :: rest => some (entries, rest)
              | _ => none
          | _ => none

end

end Json5

/-- The item of a JSON5 text. Each part of it takes at least one character. -/
def Item.ofJson5? (s : String) : Option Item :=
  match Json5.value? (2 * s.length + 1) (Json5.skip s.toList) with
  | some (item, rest) => if (Json5.skip rest).isEmpty then some item else none
  | none => none

end InvocationRouting
