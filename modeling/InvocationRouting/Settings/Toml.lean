import InvocationRouting.Settings.Item
import InvocationRouting.Value.Json.Token

/-!
# Settings.Toml — settings from TOML text

A TOML document is a sequence of lines: blank lines and comments, headers of tables, and entries of
the table whose header came last. Names may be dotted, and no name may be given twice.

- `Toml.Node` : the document while it is read, where tables remember how they came about;
- `Toml.value?` : reads a value;
- `Toml.document?` : reads a document;
- `Item.ofToml?` : the table of a document.
-/

namespace InvocationRouting
namespace Toml

/-! ## The document while it is read -/

/-- How a table came about, which decides whether it may be opened again. -/
inductive TableKind where
  /-- On the way of a header to another table. -/
  | implied
  /-- By a header of its own. -/
  | opened
  /-- On the way of dotted names to an entry. -/
  | dotted
  /-- Between braces. -/
  | closed
  deriving DecidableEq

/-- A part of a document. -/
inductive Node where
  | leaf (item : Item)
  | table (kind : TableKind) (entries : List (String × Node))
  /-- Tables that share one header, the latest first. -/
  | tables (all : List (List (String × Node)))

mutual

def Node.item : Node → Item
  | .leaf item => item
  | .table _ entries => .table (itemsOf entries)
  | .tables _ => .list

def itemsOf : List (String × Node) → List (String × Item)
  | [] => []
  | (name, node) :: rest => (name, node.item) :: itemsOf rest

end

/-- Sets a new name below dotted names. These lead through tables that have no header of their own,
of several tables under one name into the latest, and the last of them must be there for dotted
names only. -/
def setDotted? (node : Node) (entries : Entries Node) : List String → Option (Entries Node)
  | [] => none
  | [name] =>
      match entries.lookup name with
      | some _ => none
      | none => some (entries ++ [(name, node)])
  | name :: next :: path =>
      match entries.lookup name with
      | none => do
          let below ← setDotted? node [] (next :: path)
          return entries ++ [(name, .table .dotted below)]
      | some (.table .dotted es) => do
          let below ← setDotted? node es (next :: path)
          return Entries.upsert name (.table .dotted below) entries
      | some (.table .implied es) =>
          -- Headers lead through this table. It may be passed, but gets no entry of its own here.
          if path.isEmpty then none
          else do
            let below ← setDotted? node es (next :: path)
            return Entries.upsert name (.table .implied below) entries
      | some (.tables (es :: others)) =>
          if path.isEmpty then none
          else do
            let below ← setDotted? node es (next :: path)
            return Entries.upsert name (.tables (below :: others)) entries
      | some _ => none

/-- Changes the table at a path of names. Tables on the way are made if they are missing, and of
several tables under one name the latest is meant. -/
def changeAt? (change : Entries Node → Option (Entries Node)) (entries : Entries Node) :
    List String → Option (Entries Node)
  | [] => change entries
  | name :: path =>
      match entries.lookup name with
      | none => do
          let below ← changeAt? change [] path
          return entries ++ [(name, .table .implied below)]
      | some (.table .closed _) => none
      | some (.table kind es) => do
          let below ← changeAt? change es path
          return Entries.upsert name (.table kind below) entries
      | some (.tables (es :: others)) => do
          let below ← changeAt? change es path
          return Entries.upsert name (.tables (below :: others)) entries
      | some _ => none

def openTable? (name : String) (entries : Entries Node) : Option (Entries Node) :=
  match entries.lookup name with
  | none => some (entries ++ [(name, .table .opened [])])
  | some (.table .implied es) => some (Entries.upsert name (.table .opened es) entries)
  | some _ => none

def openAnother? (name : String) (entries : Entries Node) : Option (Entries Node) :=
  match entries.lookup name with
  | none => some (entries ++ [(name, .tables [[]])])
  | some (.tables all) => some (Entries.upsert name (.tables ([] :: all)) entries)
  | some _ => none

/-! ## Characters -/

def isSpace (c : Char) : Bool :=
  c == ' ' || c == '\t'

def isControl (c : Char) : Bool :=
  (c.toNat < 0x20 && c != '\t') || c.toNat == 0x7F

def skipSpaces (cs : List Char) : List Char :=
  cs.dropWhile isSpace

/-- The text behind the end of a line, which may come after spaces and a comment. The end of the
text ends a line. -/
def endLine? (cs : List Char) : Option (List Char) :=
  let rest := match skipSpaces cs with
    | '#' :: comment => comment.dropWhile fun c => !isControl c
    | rest => rest
  match rest with
  | [] => some []
  | '\n' :: rest => some rest
  | '\r' :: '\n' :: rest => some rest
  | _ => none

/-- The text behind spaces, line ends and comments, of which there are at most `fuel`. -/
def skipLines : Nat → List Char → List Char
  | 0, cs => cs
  | fuel + 1, cs =>
      match skipSpaces cs with
      | [] => []
      | c :: rest =>
          if c == '#' || c == '\n' || c == '\r' then
            match endLine? (c :: rest) with
            | some rest => skipLines fuel rest
            | none => c :: rest
          else
            c :: rest

/-! ## Strings and names -/

/-- The character behind a backslash, and the rest of the text. -/
def escape? : List Char → Option (Char × List Char)
  | 'u' :: a :: b :: c :: d :: rest => do
      let n ← Json.Token.hexNumber? [a, b, c, d]
      if n.isValidChar then some (Char.ofNat n, rest) else none
  | 'U' :: a :: b :: c :: d :: e :: f :: g :: h :: rest => do
      let n ← Json.Token.hexNumber? [a, b, c, d, e, f, g, h]
      if n.isValidChar then some (Char.ofNat n, rest) else none
  | '/' :: _ => none
  | c :: rest => (Json.Token.escaped? c).map (·, rest)
  | [] => none

/-- The rest of a string of one line up to its closing quote. A double quote allows escapes. -/
def lineString? (quote : Char) : Nat → List Char → Option (List Char × List Char)
  | 0, _ => none
  | _ + 1, [] => none
  | fuel + 1, c :: rest =>
      if c == quote then
        some ([], rest)
      else if c == '\\' && quote == '"' then do
        let (meant, rest) ← escape? rest
        let (text, rest) ← lineString? quote fuel rest
        return (meant :: text, rest)
      else if isControl c then
        none
      else do
        let (text, rest) ← lineString? quote fuel rest
        return (c :: text, rest)

def skipWhite : List Char → List Char
  | '\n' :: rest => skipWhite rest
  | '\r' :: '\n' :: rest => skipWhite rest
  | c :: rest => if isSpace c then skipWhite rest else c :: rest
  | [] => []

/-- The rest of a string of several lines up to three closing quotes; one or two more belong to the
string. A backslash at the end of a line joins it to the next visible character. -/
def linesString? (quote : Char) : Nat → List Char → Option (List Char × List Char)
  | 0, _ => none
  | _ + 1, [] => none
  | fuel + 1, c :: rest =>
      let continued (c : Char) (rest : List Char) : Option (List Char × List Char) := do
        let (text, rest) ← linesString? quote fuel rest
        return (c :: text, rest)
      if c == quote then
        match rest with
        | q₁ :: q₂ :: more =>
            if q₁ == quote && q₂ == quote then
              let extra := (more.takeWhile (· == quote)).length
              if extra ≤ 2 then some (List.replicate extra quote, more.drop extra) else none
            else
              continued c rest
        | _ => continued c rest
      else if c == '\\' && quote == '"' then
        match skipSpaces rest with
        | '\n' :: _ | '\r' :: '\n' :: _ => linesString? quote fuel (skipWhite rest)
        | _ => do
            let (meant, rest) ← escape? rest
            continued meant rest
      else if c == '\r' then
        match rest with
        | '\n' :: rest => continued '\n' rest
        | _ => none
      else if isControl c && c != '\n' then
        none
      else
        continued c rest

def skipFirstLineEnd : List Char → List Char
  | '\n' :: rest => rest
  | '\r' :: '\n' :: rest => rest
  | cs => cs

/-- A string, with one quote or three, and the rest of the text. -/
def string? (cs : List Char) : Option (String × List Char) := do
  let (text, rest) ← match cs with
    | '"' :: '"' :: '"' :: rest => linesString? '"' cs.length (skipFirstLineEnd rest)
    | '\'' :: '\'' :: '\'' :: rest => linesString? '\'' cs.length (skipFirstLineEnd rest)
    | '"' :: rest => lineString? '"' cs.length rest
    | '\'' :: rest => lineString? '\'' cs.length rest
    | _ => none
  return (String.ofList text, rest)

def isNameChar (c : Char) : Bool :=
  c.isAlphanum || c == '_' || c == '-'

def name? (cs : List Char) : Option (String × List Char) :=
  match cs with
  | '"' :: rest => (lineString? '"' cs.length rest).map fun (s, rest) => (String.ofList s, rest)
  | '\'' :: rest => (lineString? '\'' cs.length rest).map fun (s, rest) => (String.ofList s, rest)
  | _ =>
      let word := cs.takeWhile isNameChar
      if word.isEmpty then none
      else some (String.ofList word, cs.dropWhile isNameChar)

/-- How many names may stand in a row, and how many containers may be open at once. -/
def nesting : Nat := 79

/-- At most `limit` names with points between them, and the rest of the text behind spaces. -/
def namesWithin? : Nat → List Char → Option (List String × List Char)
  | 0, _ => none
  | limit + 1, cs => do
      let (first, rest) ← name? (skipSpaces cs)
      match skipSpaces rest with
      | '.' :: rest => do
          let (others, rest) ← namesWithin? limit rest
          return (first :: others, rest)
      | rest => return ([first], rest)

/-- Names with points between them, and the rest of the text behind spaces. -/
def dottedNames? (cs : List Char) : Option (List String × List Char) :=
  namesWithin? nesting cs

/-! ## Numbers and dates -/

/-- Digits without the underscores between them. No underscore stands first, last or beside
another. -/
def plainDigits? (isDigit : Char → Bool) : List Char → Option (List Char)
  | [] => none
  | [c] => if isDigit c then some [c] else none
  | c :: '_' :: rest => if isDigit c then (plainDigits? isDigit rest).map (c :: ·) else none
  | c :: rest => if isDigit c then (plainDigits? isDigit rest).map (c :: ·) else none

def isBaseDigit (base : Nat) (c : Char) : Bool :=
  match Json.Token.hexValue? c with
  | some value => value < base
  | none => false

def baseNumber? (base : Nat) (cs : List Char) : Option Nat := do
  let digits ← plainDigits? (isBaseDigit base) cs
  digits.foldlM (fun value c => (Json.Token.hexValue? c).map (base * value + ·)) 0

def signedItem? (i : Int) : Option Item :=
  if -2 ^ 63 ≤ i ∧ i < 2 ^ 63 then some (.integer i) else none

/-- Digits of a whole part: without a superfluous leading zero. -/
def wholeDigits? (cs : List Char) : Option (List Char) := do
  let digits ← plainDigits? Char.isDigit cs
  if digits.head? == some '0' && 1 < digits.length then none else some digits

/-- Cuts a text before the first character for which the test holds. -/
def cut (test : Char → Bool) (cs : List Char) : List Char × List Char :=
  (cs.takeWhile fun c => !test c, cs.dropWhile fun c => !test c)

/-- A number with a point or an exponent. One that rounds past the largest number is refused. -/
def real? (negative : Bool) (cs : List Char) : Option Item := do
  let (mantissa, tail) := cut (fun c => c == 'e' || c == 'E') cs
  let (whole, fraction) := cut (· == '.') mantissa
  let wholeText ← wholeDigits? whole
  let fractionText ← match fraction with
    | [] => some []
    | _ :: digits => (plainDigits? Char.isDigit digits).map ('.' :: ·)
  let exponentText ← match tail with
    | [] => some []
    | mark :: rest =>
        let (sign, digits) := match rest with
          | '+' :: digits => (['+'], digits)
          | '-' :: digits => (['-'], digits)
          | digits => ([], digits)
        (plainDigits? Char.isDigit digits).map fun digits => mark :: (sign ++ digits)
  let d ← Decimal.ofChars? (wholeText ++ fractionText ++ exponentText)
  match FloatReading.ofDecimal { d with negative := negative } with
  | .infinite false => none
  | reading => some (.real reading)

def number? (cs : List Char) : Option Item :=
  match cs with
  | '0' :: 'x' :: digits => (baseNumber? 16 digits).bind fun n => signedItem? n
  | '0' :: 'o' :: digits => (baseNumber? 8 digits).bind fun n => signedItem? n
  | '0' :: 'b' :: digits => (baseNumber? 2 digits).bind fun n => signedItem? n
  | _ =>
      let (negative, body) := Decimal.splitSign cs
      if body = "inf".toList then some (.real (.infinite negative))
      else if body = "nan".toList then some (.real .nan)
      else if body.any fun c => c == '.' || c == 'e' || c == 'E' then real? negative body
      else do
        let magnitude : Int := Decimal.digitsValue (← wholeDigits? body)
        signedItem? (if negative then -magnitude else magnitude)

def twoDigits? : List Char → Option Nat
  | [a, b] => if a.isDigit && b.isDigit then some (Decimal.digitsValue [a, b]) else none
  | _ => none

def daysOf (year month : Nat) : Nat :=
  if month = 2 then
    if year % 4 = 0 ∧ (year % 100 ≠ 0 ∨ year % 400 = 0) then 29 else 28
  else if [4, 6, 9, 11].contains month then 30
  else 31

/-- Is the text a date of year, month and day? -/
def isDate : List Char → Bool
  | [y₁, y₂, y₃, y₄, '-', m₁, m₂, '-', d₁, d₂] =>
      [y₁, y₂, y₃, y₄].all Char.isDigit &&
        (match twoDigits? [m₁, m₂], twoDigits? [d₁, d₂] with
        | some month, some day =>
            1 ≤ month && month ≤ 12 && 1 ≤ day &&
              day ≤ daysOf (Decimal.digitsValue [y₁, y₂, y₃, y₄]) month
        | _, _ => false)
  | _ => false

/-- Is the text nothing, or a point with digits? -/
def isSecondFraction : List Char → Bool
  | [] => true
  | '.' :: digits => !digits.isEmpty && digits.all Char.isDigit
  | _ => false

/-- Is the text a time of day? -/
def isTime : List Char → Bool
  | h₁ :: h₂ :: ':' :: m₁ :: m₂ :: ':' :: s₁ :: s₂ :: fraction =>
      (match twoDigits? [h₁, h₂], twoDigits? [m₁, m₂], twoDigits? [s₁, s₂] with
      | some hour, some minute, some second => hour ≤ 23 && minute ≤ 59 && second ≤ 60
      | _, _, _ => false) && isSecondFraction fraction
  | _ => false

/-- Is the text a distance from universal time in hours and minutes? -/
def isOffset : List Char → Bool
  | [sign, h₁, h₂, ':', m₁, m₂] =>
      (sign == '+' || sign == '-') &&
        (match twoDigits? [h₁, h₂], twoDigits? [m₁, m₂] with
        | some hour, some minute => hour ≤ 23 && minute ≤ 59
        | _, _ => false)
  | _ => false

/-- A fraction of a second, to nine digits and without zeros at its end. -/
def fractionText (fraction : List Char) : List Char :=
  match DecimalLayout.trimZeros ((fraction.drop 1).take 9) with
  | [] => []
  | digits => '.' :: digits

def timeText (time : List Char) : List Char :=
  time.take 8 ++ fractionText (time.drop 8)

/-- The text of a distance from universal time, or nothing if the text is neither empty nor such a
distance. -/
def zoneText? (zone : List Char) : Option (List Char) :=
  if zone.isEmpty then some []
  else if zone = ['Z'] ∨ zone = ['z'] then some ['Z']
  else if zone = "-00:00".toList then some "+00:00".toList
  else if isOffset zone then some zone
  else none

/-- A date, a time of day, or both with a letter between them; it is a setting as a text. -/
def date? (cs : List Char) : Option Item :=
  if isDate cs then
    some (.text (String.ofList cs))
  else if isTime cs then
    some (.text (String.ofList (timeText cs)))
  else
    let day := cs.take 10
    match cs.drop 10 with
    | mark :: rest => do
        let (time, zone) := cut (fun c => c == 'Z' || c == 'z' || c == '+' || c == '-') rest
        let zoneText ← zoneText? zone
        if (mark == 'T' || mark == 't') && isDate day && isTime time then
          some (.text (String.ofList (day ++ ['T'] ++ timeText time ++ zoneText)))
        else
          none
    | [] => none

def word? (cs : List Char) : Option Item :=
  if cs = "true".toList then some (.boolean true)
  else if cs = "false".toList then some (.boolean false)
  else (number? cs).or (date? cs)

/-! ## Values -/

/-- Does the character end a value without quotes or brackets? -/
def endsWord (c : Char) : Bool :=
  isSpace c || isControl c || c == ',' || c == ']' || c == '\x7d' || c == '#'

/-- The text of a value without quotes or brackets, and the rest. A space may stand between a date
and a time of day. -/
def cutWord (cs : List Char) : List Char × List Char :=
  let (word, rest) := cut endsWord cs
  match rest with
  | ' ' :: c :: more =>
      if isDate word && c.isDigit then
        let (time, rest) := cut endsWord (c :: more)
        (word ++ 'T' :: time, rest)
      else
        (word, rest)
  | _ => (word, rest)

mutual

/-- A value and the rest of the text, where `depth` more containers may be opened. -/
def valueWithin? (depth : Nat) : Nat → List Char → Option (Node × List Char)
  | 0, _ => none
  | fuel + 1, cs =>
      match cs with
      | [] => none
      | '[' :: rest =>
          match depth with
          | 0 => none
          | depth + 1 => do
              let rest ← elements? depth fuel rest
              return (.leaf .list, rest)
      | '\x7b' :: rest =>
          match depth, skipSpaces rest with
          | 0, _ => none
          | _ + 1, '\x7d' :: rest => some (.table .closed [], rest)
          | depth + 1, rest => do
              let (entries, rest) ← inlineEntries? depth fuel [] rest
              return (.table .closed entries, rest)
      | c :: rest =>
          if c == '"' || c == '\'' then do
            let (s, rest) ← string? (c :: rest)
            return (.leaf (.text s), rest)
          else do
            let (word, rest) := cutWord (c :: rest)
            let item ← word? word
            return (.leaf item, rest)

/-- Elements of an array up to its end, and the rest of the text. -/
def elements? (depth : Nat) : Nat → List Char → Option (List Char)
  | 0, _ => none
  | fuel + 1, cs =>
      match skipLines cs.length cs with
      | ']' :: rest => some rest
      | cs => do
          let (_, rest) ← valueWithin? depth fuel cs
          match skipLines rest.length rest with
          | ',' :: rest => elements? depth fuel rest
          | ']' :: rest => some rest
          | _ => none

/-- Entries between braces up to their end, and the rest of the text. -/
def inlineEntries? (depth : Nat) :
    Nat → Entries Node → List Char → Option (Entries Node × List Char)
  | 0, _, _ => none
  | fuel + 1, entries, cs => do
      let (names, rest) ← dottedNames? cs
      match rest with
      | '=' :: rest => do
          let (node, rest) ← valueWithin? depth fuel (skipSpaces rest)
          let entries ← setDotted? node entries names
          match skipSpaces rest with
          | ',' :: rest => inlineEntries? depth fuel entries rest
          | '\x7d' :: rest => some (entries, rest)
          | _ => none
      | _ => none

end

/-- A value and the rest of the text. Each part takes at least one character. -/
def value? (cs : List Char) : Option (Node × List Char) :=
  valueWithin? nesting cs.length cs

/-! ## Documents -/

/-- A header up to the end of its line: its names, whether it is one of several, and the rest. -/
def header? (cs : List Char) : Option (List String × Bool × List Char) := do
  let (several, inside) := match cs with
    | '[' :: '[' :: rest => (true, rest)
    | cs => (false, cs.drop 1)
  let (names, rest) ← dottedNames? inside
  let rest ← match several, rest with
    | true, ']' :: ']' :: rest => endLine? rest
    | false, ']' :: rest => endLine? rest
    | _, _ => none
  return (names, several, rest)

/-- The document with one more entry of the current table, and the rest of the text. -/
def entry? (document : Entries Node) (current : List String) (cs : List Char) :
    Option (Entries Node × List Char) := do
  let (names, rest) ← dottedNames? cs
  match rest with
  | '=' :: rest => do
      let (node, rest) ← value? (skipSpaces rest)
      let document ← changeAt? (fun entries => setDotted? node entries names) document current
      return (document, ← endLine? rest)
  | _ => none

/-- The rest of a document of at most `fuel` lines, where the header of the current table came
last. -/
def lines? : Nat → Entries Node → List String → List Char → Option (Entries Node)
  | 0, _, _, _ => none
  | fuel + 1, document, current, cs =>
      match skipLines cs.length cs with
      | [] => some document
      | '[' :: rest => do
          let (names, several, rest) ← header? ('[' :: rest)
          let last ← names.getLast?
          let document ←
            changeAt? (if several then openAnother? last else openTable? last) document
              names.dropLast
          lines? fuel document names rest
      | cs => do
          let (document, rest) ← entry? document current cs
          lines? fuel document current rest

/-- The entries of a document, which a byte order mark may stand before. Each line takes at least
one character. -/
def document? (cs : List Char) : Option (Entries Node) :=
  let body := match cs with
    | '\ufeff' :: rest => rest
    | cs => cs
  lines? (body.length + 1) [] [] body

end Toml

def Item.ofToml? (s : String) : Option Item :=
  (Toml.document? s.toList).map fun entries => .table (Toml.itemsOf entries)

end InvocationRouting
