import InvocationRouting.Settings.Item
import InvocationRouting.Value.Json.Token

/-!
# Settings.Ron — settings from object notation with named types

The notation has maps between braces, structures and tuples between parentheses, which a name may
stand before, lists between brackets, optional values, and unit, which a name alone is too.

- `Ron.skip?` : the text behind blanks and comments;
- `Ron.identifier?`, `Ron.string?`, `Ron.character?`, `Ron.number?` : parts without parts;
- `Ron.value?` : a value;
- `Item.ofRon?` : the item of a text.
-/

namespace InvocationRouting
namespace Ron

/-! ## Between the parts -/

/-- A blank. -/
def isBlank (c : Char) : Bool :=
  c == ' ' || c == '\t' || c == '\n' || c == '\r'

/-- The text behind a comment between stars, in which `depth` more such comments are open. -/
def behindComment? : Nat → List Char → Option (List Char)
  | depth, '/' :: '*' :: rest => behindComment? (depth + 1) rest
  | 0, '*' :: '/' :: rest => some rest
  | depth + 1, '*' :: '/' :: rest => behindComment? depth rest
  | depth, _ :: rest => behindComment? depth rest
  | _, [] => none

/-- The text behind blanks and comments, of which there are at most `fuel`. A stroke starts a
comment. -/
def skipWithin? : Nat → List Char → Option (List Char)
  | 0, _ => none
  | fuel + 1, cs =>
      match cs.dropWhile isBlank with
      | '/' :: '/' :: rest => skipWithin? fuel (rest.dropWhile (· != '\n'))
      | '/' :: '*' :: rest => (behindComment? 0 rest).bind (skipWithin? fuel)
      | '/' :: _ => none
      | rest => some rest

def skip? (cs : List Char) : Option (List Char) :=
  skipWithin? (cs.length + 1) cs

/-- The text behind a comma, which may be missing, and whether there is one. -/
def comma? (cs : List Char) : Option (Bool × List Char) := do
  match ← skip? cs with
  | ',' :: rest => return (true, ← skip? rest)
  | rest => return (false, rest)

/-! ## Names -/

def isNameStart (c : Char) : Bool :=
  c.isAlpha || c == '_'

def isNameChar (c : Char) : Bool :=
  c.isAlphanum || c == '_'

def isRawNameChar (c : Char) : Bool :=
  isNameChar c || c == '.' || c == '+' || c == '-'

/-- A name and the rest of the text. What must be a raw name without its mark is none. -/
def identifier? (cs : List Char) : Option (String × List Char) :=
  match cs with
  | [] => none
  | 'r' :: '"' :: _ => none
  | 'r' :: '#' :: rest =>
      let name := rest.takeWhile isRawNameChar
      if name.isEmpty then none else some (String.ofList name, rest.drop name.length)
  | c :: rest =>
      let name := (c :: rest).takeWhile isNameChar
      if isNameStart c && ((c :: rest).takeWhile isRawNameChar).length == name.length then
        some (String.ofList name, (c :: rest).drop name.length)
      else
        none

/-- The text behind a word that no other character of a name follows. -/
def behindWord? (word : String) (cs : List Char) : Option (List Char) :=
  let rest := cs.drop word.length
  if word.toList.isPrefixOf cs && !rest.head?.any isNameChar then some rest else none

/-! ## Parts without parts -/

/-- The character between braces behind the mark of its code: one to six hexadecimal digits. -/
def code? (cs : List Char) : Option (Char × List Char) := do
  let digits := cs.takeWhile (· != '\x7d')
  if digits.isEmpty || 6 < digits.length || digits.length == cs.length then failure
  let n ← Json.Token.hexNumber? digits
  if n.isValidChar then some (Char.ofNat n, cs.drop (digits.length + 1)) else none

/-- The character behind a backslash, and the rest of the text. -/
def escape? : List Char → Option (Char × List Char)
  | '\'' :: rest => some ('\'', rest)
  | '"' :: rest => some ('"', rest)
  | '\\' :: rest => some ('\\', rest)
  | 'n' :: rest => some ('\n', rest)
  | 'r' :: rest => some ('\r', rest)
  | 't' :: rest => some ('\t', rest)
  | '0' :: rest => some ('\x00', rest)
  | 'x' :: a :: b :: rest => (Json.Token.hexNumber? [a, b]).map fun n => (Char.ofNat n, rest)
  | 'u' :: '\x7b' :: rest => code? rest
  | _ => none

/-- The rest of a string of at most `fuel` characters up to its closing quote, and the rest of the
text. -/
def quoted? : Nat → List Char → Option (List Char × List Char)
  | 0, _ => none
  | _ + 1, [] => none
  | _ + 1, '"' :: rest => some ([], rest)
  | fuel + 1, '\\' :: rest => do
      let (meant, rest) ← escape? rest
      let (text, rest) ← quoted? fuel rest
      return (meant :: text, rest)
  | fuel + 1, c :: rest => do
      let (text, rest) ← quoted? fuel rest
      return (c :: text, rest)

def before? (ending : List Char) : List Char → Option (List Char × List Char)
  | [] => none
  | c :: rest =>
      if ending.isPrefixOf (c :: rest) then some ([], (c :: rest).drop ending.length)
      else (before? ending rest).map fun (text, rest) => (c :: text, rest)

/-- A string and the rest of the text. A raw string has no escapes; signs around its quotes tell
where it ends. -/
def string? (cs : List Char) : Option (String × List Char) := do
  let (text, rest) ← match cs with
    | '"' :: rest => quoted? (rest.length + 1) rest
    | 'r' :: rest =>
        let signs := rest.takeWhile (· == '#')
        match rest.drop signs.length with
        | '"' :: rest => before? ('"' :: signs) rest
        | _ => none
    | _ => none
  return (String.ofList text, rest)

/-- A character between single quotes, and the rest of the text. -/
def character? (cs : List Char) : Option (Char × List Char) := do
  let (c, rest) ← match cs with
    | '\'' :: '\\' :: rest => escape? rest
    | '\'' :: c :: rest => if c == '\'' then none else some (c, rest)
    | _ => none
  match rest with
  | '\'' :: rest => some (c, rest)
  | _ => none

/-- A character of a decimal number with a point or an exponent. -/
def isFloatChar (c : Char) : Bool :=
  c.isDigit || c == '.' || c == 'E' || c == 'e' || c == '+' || c == '-' || c == '_'

def isIntegerChar (c : Char) : Bool :=
  (Json.Token.hexValue? c).isSome || c == '_'

def cutBase : List Char → Nat × List Char
  | '0' :: 'x' :: rest => (16, rest)
  | '0' :: 'b' :: rest => (2, rest)
  | '0' :: 'o' :: rest => (8, rest)
  | cs => (10, cs)

/-- An integer behind its sign, and the rest of the text. Without a sign it may take up a whole
word, and then it is a floating-point number if it does not fit a signed one. -/
def integer? (sign : Option Char) (cs : List Char) : Option (Item × List Char) := do
  let (base, body) := cutBase cs
  let digits := body.takeWhile isIntegerChar
  if digits.isEmpty then failure
  let n ← (digits.filter (· != '_')).foldlM (fun value c => do
    let digit ← Json.Token.hexValue? c
    if digit < base then some (base * value + digit) else none) 0
  -- The sign comes before the test of the range, so that the least integer fits.
  let i : Int := if sign == some '-' then -(n : Int) else n
  let rest := body.drop digits.length
  if -2 ^ 63 ≤ i ∧ i < 2 ^ 63 then return (.integer i, rest)
  else if sign.isNone && decide (n < 2 ^ 64) then
    return (.real (.finite (← Binary64.ofInt? i)), rest)
  else failure

def float? (cs : List Char) : Option (Item × List Char) := do
  let d ← Decimal.ofChars? (cs.takeWhile isFloatChar)
  return (.real (.ofDecimal d), cs.dropWhile isFloatChar)

/-- A number, and the rest of the text. What is no integer, or does not fit one, may be a decimal
number. -/
def number? (cs : List Char) : Option (Item × List Char) :=
  let (sign, body) := match cs with
    | '+' :: body => (some '+', body)
    | '-' :: body => (some '-', body)
    | body => (none, body)
  -- A point, an exponent or one more sign makes it a decimal number.
  let looksFloat := (body.takeWhile isIntegerChar).length < (body.takeWhile isFloatChar).length
  if looksFloat then float? cs else (integer? sign body).or (float? cs)

def word? (cs : List Char) : Option (Item × List Char) :=
  let words : List (String × Item) :=
    [("true", .boolean true), ("false", .boolean false), ("None", .null),
      ("inf", .real (.infinite false)), ("-inf", .real (.infinite true)), ("NaN", .real .nan)]
  words.findSome? fun (word, item) => (behindWord? word cs).map (item, ·)

/-- A value without parts, and the rest of the text. -/
def simple? (cs : List Char) : Option (Item × List Char) :=
  match cs with
  | [] => none
  | c :: _ =>
      if c == '"' || c == 'r' then
        (string? cs).map fun (s, rest) => (.text s, rest)
      else if c == '\'' then
        (character? cs).map fun (c, rest) => (.text c.toString, rest)
      else if c.isDigit || c == '+' || c == '-' then
        number? cs
      else if c == '.' then
        float? cs
      else
        none

/-! ## Values -/

/-- Does the text behind an opening parenthesis start with the name of a field? -/
def startsField? (cs : List Char) : Option Bool :=
  match identifier? cs with
  | none => some false
  | some (_, rest) => do
      match ← skip? rest with
      | [] => none
      | c :: _ => some (c == ':')

def nesting : Nat := 128

mutual

/-- A value and the rest of the text, in which `depth` more values may be nested. -/
def valueWithin? (depth : Nat) : Nat → List Char → Option (Item × List Char)
  | 0, _ => none
  | fuel + 1, cs =>
      match word? cs, behindWord? "Some" cs, cs with
      | some found, _, _ => some found
      | none, some rest, _ => optional? depth fuel rest
      | none, none, '(' :: ')' :: rest => some (.null, rest)
      | none, none, '[' :: rest => do
          let rest ← elements? depth ']' fuel true rest
          return (.list, rest)
      | none, none, '\x7b' :: rest => do
          let (entries, rest) ← entries? depth false fuel true [] rest
          return (.table entries, rest)
      | none, none, cs =>
          match identifier? cs, cs with
          | some (_, rest), _ => do
              -- The name of a structure. Without parts it stands for a unit.
              match ← skip? rest with
              | '(' :: rest => parts? depth fuel rest
              | rest => return (.null, rest)
          | none, '(' :: rest => parts? depth fuel rest
          | none, cs => simple? cs

def optional? (depth : Nat) : Nat → List Char → Option (Item × List Char)
  | 0, _ => none
  | fuel + 1, cs => do
      match depth, ← skip? cs with
      | depth + 1, '(' :: rest => do
          let (item, rest) ← valueWithin? depth fuel (← skip? rest)
          match ← comma? rest with
          | (_, ')' :: rest) => return (item, rest)
          | _ => none
      | _, _ => none

def parts? (depth : Nat) : Nat → List Char → Option (Item × List Char)
  | 0, _ => none
  | fuel + 1, cs => do
      let cs ← skip? cs
      if ← startsField? cs then
        let (entries, rest) ← entries? depth true fuel true [] cs
        return (.table entries, rest)
      else
        let rest ← elements? depth ')' fuel true cs
        return (.list, rest)

/-- Elements up to their end, and the rest of the text. -/
def elements? (depth : Nat) (ending : Char) : Nat → Bool → List Char → Option (List Char)
  | 0, _, _ => none
  | fuel + 1, mayFollow, cs => do
      match depth, ← skip? cs with
      | _, [] => none
      | 0, c :: rest => if c == ending then return rest else none
      | depth + 1, c :: rest =>
          if c == ending then return rest
          else if !mayFollow then none
          else do
            let (_, rest) ← valueWithin? depth fuel (c :: rest)
            let (comma, rest) ← comma? rest
            elements? (depth + 1) ending fuel comma rest

/-- Entries up to their end, and the rest of the text. The keys of fields are names, and other keys
are texts. Of entries with one key the last holds. -/
def entries? (depth : Nat) (areFields : Bool) :
    Nat → Bool → Entries Item → List Char → Option (Entries Item × List Char)
  | 0, _, _, _ => none
  | fuel + 1, mayFollow, entries, cs => do
      let ending := if areFields then ')' else '\x7d'
      match depth, ← skip? cs with
      | _, [] => none
      | 0, c :: rest => if c == ending then return (entries, rest) else none
      | depth + 1, c :: rest =>
          if c == ending then return (entries, rest)
          else if !mayFollow then none
          else do
            let (key, rest) ←
              if areFields then
                (identifier? (c :: rest)).map fun (name, rest) => (Item.text name, rest)
              else
                valueWithin? depth fuel (c :: rest)
            match key, ← skip? rest with
            | .text name, ':' :: rest => do
                let (item, rest) ← valueWithin? depth fuel (← skip? rest)
                let (comma, rest) ← comma? rest
                entries? (depth + 1) areFields fuel comma (Entries.upsert name item entries) rest
            | _, _ => none

end

/-! ## Documents -/

/-- The names of the extensions that a document may ask for. -/
def extensionNames : List String :=
  ["unwrap_newtypes", "implicit_some", "unwrap_variant_newtypes"]

def behindWords? : List String → List Char → Option (List Char)
  | [], cs => some cs
  | word :: words, cs =>
      if word.toList.isPrefixOf cs then
        (skip? (cs.drop word.length)).bind (behindWords? words)
      else
        none

/-- The text behind names of extensions, of which there are at most `fuel`. -/
def behindNames? : Nat → List Char → Option (List Char)
  | 0, _ => none
  | fuel + 1, cs => do
      let (name, rest) ← identifier? cs
      if !extensionNames.contains name then failure
      let (comma, rest) ← comma? rest
      match comma, rest.head?.any isNameChar with
      | true, true => behindNames? fuel rest
      | false, true => none
      | _, false => return rest

/-- The text behind the attributes of a document, of which there are at most `fuel`. -/
def behindAttributes? : Nat → List Char → Option (List Char)
  | 0, _ => none
  | fuel + 1, cs =>
      match cs with
      | '#' :: _ => do
          let cs ← behindWords? ["#", "!", "[", "enable", "("] cs
          let cs ← behindNames? (cs.length + 1) cs
          behindAttributes? fuel (← behindWords? [")", "]"] cs)
      | cs => some cs

def document? (cs : List Char) : Option Item := do
  let cs ← behindAttributes? (cs.length + 1) (← skip? cs)
  let (item, rest) ← valueWithin? nesting (3 * cs.length + 3) cs
  if (← skip? rest).isEmpty then some item else none

end Ron

def Item.ofRon? (s : String) : Option Item :=
  Ron.document? s.toList

end InvocationRouting
