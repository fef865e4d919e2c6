import InvocationRouting.Yaml.Tag

/-!
# Yaml.Token — the lexemes of YAML

- `Token` : a lexeme. The start and the end of collections that only their indentation shows are
  lexemes too.
-/

namespace InvocationRouting
namespace Yaml

/-- A lexeme. -/
inductive Token where
  | directive (d : Directive)
  | documentStart
  | documentEnd
  | blockSequenceStart
  | blockMappingStart
  | blockEnd
  | flowSequenceStart
  | flowSequenceEnd
  | flowMappingStart
  | flowMappingEnd
  | blockEntry
  | flowEntry
  | key
  | value
  | reference (name : String)
  | anchor (name : String)
  | tag (t : Tag)
  | scalar (isPlain : Bool) (text : String)
  deriving DecidableEq

end Yaml
end InvocationRouting
