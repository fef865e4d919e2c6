/-!
# Yaml.Character — kinds of characters in YAML text

- `isBreak`, `isBlank`, `isFlow` : line ends, blanks, and the indicators of flow collections;
- `endsWord`, `endsLine` : what may follow a word, or a line, where nothing is the end of the text;
- `isWordChar`, `isUriChar`, `isTagChar`, `isAnchorChar` : the characters of names and tags.
-/

namespace InvocationRouting
namespace Yaml

/-- A line end. -/
def isBreak (c : Char) : Bool :=
  c == '\n' || c == '\r'

/-- A space or a tabulator. -/
def isBlank (c : Char) : Bool :=
  c == ' ' || c == '\t'

/-- An indicator of flow collections. -/
def isFlow (c : Char) : Bool :=
  c == ',' || c == '[' || c == ']' || c == '\x7b' || c == '\x7d'

/-- Is there a line end or the end of the text? -/
def endsLine : Option Char → Bool
  | none => true
  | some c => isBreak c

/-- Is there a blank, a line end or the end of the text? -/
def endsWord : Option Char → Bool
  | none => true
  | some c => isBlank c || isBreak c

/-- A character of the name of a directive or of the handle of a tag. -/
def isWordChar (c : Char) : Bool :=
  c.isAlphanum || c == '_' || c == '-'

def isUriChar (c : Char) : Bool :=
  isWordChar c || "#;/?:@&=+$,.!~*'()[]%".toList.contains c

/-- A character of the name of a tag: of a resource identifier, but no indicator. -/
def isTagChar (c : Char) : Bool :=
  isUriChar c && !isFlow c && c != '!'

def isAnchorChar (c : Char) : Bool :=
  !isBlank c && !isBreak c && !isFlow c && c != '\ufeff'

end Yaml
end InvocationRouting
