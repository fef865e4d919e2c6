import InvocationRouting.Value.Basic

/-!
# Json — the text form of values

Compact JSON: no spaces, fields in their order, and strings in which only quotes, backslashes and
control characters are escaped.

- `Json.stringText` : a string between quotes;
- `Json.objectText` : an object from the texts of its fields;
- `Value.text` : the text form of a value.
-/

namespace InvocationRouting

namespace Json

/-- A digit of base sixteen, as a small letter from ten on. -/
def hexDigit (n : Nat) : Char :=
  Nat.digitChar n

def escapeChar (c : Char) : String :=
  match c with
  | '"' => "\\\""
  | '\\' => "\\\\"
  | '\x08' => "\\b"
  | '\x0c' => "\\f"
  | '\n' => "\\n"
  | '\r' => "\\r"
  | '\t' => "\\t"
  | c =>
      if c.toNat < 0x20 then
        String.ofList ['\\', 'u', '0', '0', hexDigit (c.toNat / 16), hexDigit (c.toNat % 16)]
      else
        c.toString

def stringText (s : String) : String :=
  "\"" ++ String.join (s.toList.map escapeChar) ++ "\""

def arrayText (elements : List String) : String :=
  "[" ++ String.intercalate "," elements ++ "]"

def objectText (fields : List (String × String)) : String :=
  "\x7b" ++ String.intercalate "," (fields.map fun field => stringText field.1 ++ ":" ++ field.2) ++
    "\x7d"

end Json

namespace Value

mutual

/-- The text form. -/
def text : Value → String
  | null => "null"
  | bool b => if b then "true" else "false"
  | number n => n.text
  | string s => Json.stringText s
  | array elements => Json.arrayText (elementTexts elements)
  | object fields => Json.objectText (fieldTexts fields)

def elementTexts : List Value → List String
  | [] => []
  | x :: xs => text x :: elementTexts xs

def fieldTexts : List (String × Value) → List (String × String)
  | [] => []
  | (name, x) :: xs => (name, text x) :: fieldTexts xs

end

end Value

end InvocationRouting
