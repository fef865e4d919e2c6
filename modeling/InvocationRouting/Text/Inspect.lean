import InvocationRouting.Text.Printable

/-!
# Inspect — structural text for people who look into values

The text shows how a value was built: `Name`, `Name(a, b)`, `Name { field: a }`, `[a, b]`,
`{"key": a}`, and quoted strings in which nothing invisible remains.

- `quoted` : a string between quotes;
- `tuple`, `record` : a constructor with positional or named parts;
- `list`, `pair`, `map` : collections;
- `option` : an optional part.
-/

namespace InvocationRouting
namespace Inspect

/-- A character inside a quoted string. Apostrophes stay as they are. -/
def escapeChar (c : Char) : String :=
  match c with
  | '"' => "\\\""
  | '\\' => "\\\\"
  | '\n' => "\\n"
  | '\r' => "\\r"
  | '\t' => "\\t"
  | '\x00' => "\\0"
  | c =>
      if Printable.extending.contains c || Printable.invisible.contains c then
        "\\u\x7b" ++ String.ofList (Nat.toDigits 16 c.toNat) ++ "\x7d"
      else
        c.toString

/-- The string between quotes, with quotes, backslashes and invisible characters escaped. -/
def quoted (s : String) : String :=
  "\"" ++ String.join (s.toList.map escapeChar) ++ "\""

def commaSeparated (parts : List String) : String :=
  String.intercalate ", " parts

def tuple (name : String) (parts : List String) : String :=
  name ++ "(" ++ commaSeparated parts ++ ")"

def record (name : String) (fields : List (String × String)) : String :=
  name ++ " \x7b " ++ commaSeparated (fields.map fun field => field.1 ++ ": " ++ field.2) ++ " \x7d"

def list (parts : List String) : String :=
  "[" ++ commaSeparated parts ++ "]"

def pair (a b : String) : String :=
  tuple "" [a, b]

def map (entries : List (String × String)) : String :=
  "\x7b" ++ commaSeparated (entries.map fun entry => quoted entry.1 ++ ": " ++ entry.2) ++ "\x7d"

def option : Option String → String
  | none => "None"
  | some part => tuple "Some" [part]

end Inspect
end InvocationRouting
