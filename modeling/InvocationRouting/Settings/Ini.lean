import InvocationRouting.Settings.Item
import InvocationRouting.Text.Blank
import InvocationRouting.Value.Json.Token

/-!
# Settings.Ini — settings from INI text

An INI document has entries `name = text` or `name: text`, each up to the end of its line, headings
in brackets that make tables of the entries below them, and comments on lines of their own. Names
and headings may go over several lines.

- `Ini.textUntil?` : a text with escapes up to a character that ends it;
- `Ini.Document` : what has been read;
- `Item.ofIni?` : the table of a document.
-/

namespace InvocationRouting
namespace Ini

/-! ## Texts -/

/-- The character of four hexadecimal digits, of which the first may be a plus instead. -/
def code? (digits : List Char) : Option Char := do
  let n ← Json.Token.hexNumber? (if digits.head? == some '+' then digits.drop 1 else digits)
  if n.isValidChar then some (Char.ofNat n) else none

/-- The character that a backslash and another character stand for. -/
def escaped (c : Char) : Char :=
  match c with
  | '0' => '\x00'
  | 'a' => '\x07'
  | 'b' => '\x08'
  | 't' => '\t'
  | 'r' => '\r'
  | 'n' => '\n'
  | c => c

/-- The text before a character that ends it, and the rest from this character on. A backslash at
the end of a line joins it to the next one. -/
def textUntil? (ends : Char → Bool) (mayEnd : Bool) : List Char → Option (List Char × List Char)
  | [] => if mayEnd then some ([], []) else none
  | '\\' :: 'x' :: a :: b :: c :: d :: rest => do
      let meant ← code? [a, b, c, d]
      let (text, rest) ← textUntil? ends mayEnd rest
      return (meant :: text, rest)
  | '\\' :: '\n' :: rest => textUntil? ends mayEnd rest
  | '\\' :: c :: rest =>
      if c == 'x' then
        none
      else do
        let (text, rest) ← textUntil? ends mayEnd rest
        return (escaped c :: text, rest)
  | ['\\'] => none
  | c :: rest =>
      if ends c then
        some ([], c :: rest)
      else do
        let (text, rest) ← textUntil? ends mayEnd rest
        return (c :: text, rest)

def lineText? (cs : List Char) : Option (List Char × List Char) :=
  textUntil? (fun c => c == '\n' || c == '\r') true cs

/-- A value up to the end of the line. It may start with a part between quotes, which may go over
several lines. -/
def value? (cs : List Char) : Option (List Char × List Char) :=
  match cs.dropWhile fun c => Blank.isBlank c && c != '\n' && c != '\r' with
  | [] => some ([], [])
  | c :: rest =>
      if c == '"' || c == '\'' then do
        let (quoted, rest) ← textUntil? (· == c) false rest
        let (more, rest) ← lineText? (rest.drop 1)
        return (quoted ++ more, rest)
      else
        lineText? (c :: rest)

def trimmed (cs : List Char) : String :=
  String.ofList ((cs.dropWhile Blank.isBlank).reverse.dropWhile Blank.isBlank).reverse

/-! ## Documents -/

/-- The entries so far, and the heading of the table that entries go to. -/
structure Document where
  entries : Entries Item
  heading : Option String

namespace Document

/-- Starts a table, in place of an earlier one of its heading. -/
def startTable (heading : String) (document : Document) : Document :=
  ⟨Entries.upsert heading (.table []) document.entries, some heading⟩

/-- Sets an entry of the table that was started last, or of the document. -/
def set (name value : String) (document : Document) : Document :=
  match document.heading with
  | none => ⟨Entries.upsert name (.text value) document.entries, none⟩
  | some heading =>
      let table := ((document.entries.lookup heading).map Item.entries).getD []
      let changed := Item.table (Entries.upsert name (.text value) table)
      ⟨Entries.upsert heading changed document.entries, some heading⟩

end Document

/-- Is the character that follows these ones the first of its line? -/
def startsLine (before : List Char) (isFirst : Bool) : Bool :=
  match before.getLast? with
  | some c => c == '\n'
  | none => isFirst

/-- The document with the rest of its text, of at most `fuel` parts, where `isFirst` tells whether
the rest starts a line. A comment must start a line. -/
def parts? : Nat → Document → Bool → List Char → Option Document
  | 0, _, _, _ => none
  | fuel + 1, document, isFirst, cs =>
      let isFirst := startsLine (cs.takeWhile Blank.isBlank) isFirst
      match cs.dropWhile Blank.isBlank with
      | [] => some document
      | c :: rest =>
          if c == ';' || c == '#' then
            if isFirst then parts? fuel document true ((rest.dropWhile (· != '\n')).drop 1)
            else none
          else if c == '[' then do
            let (heading, rest) ← textUntil? (· == ']') false rest
            parts? fuel (document.startTable (trimmed heading)) false (rest.drop 1)
          else if c == '=' || c == ':' then
            none
          else do
            let (name, rest) ← textUntil? (fun x => x == '=' || x == ':') false (c :: rest)
            let (value, rest) ← value? (rest.drop 1)
            if (trimmed name).isEmpty then none
            else parts? fuel (document.set (trimmed name) (trimmed value)) false rest

end Ini

def Item.ofIni? (s : String) : Option Item :=
  (Ini.parts? (s.length + 1) ⟨[], none⟩ true s.toList).map fun document => .table document.entries

end InvocationRouting
