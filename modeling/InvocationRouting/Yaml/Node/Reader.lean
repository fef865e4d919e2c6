import InvocationRouting.Yaml.Node
import InvocationRouting.Yaml.Token.Scan

/-!
# Yaml.Node.Reader — nodes from lexemes

- `Anchors` : the nodes that may be referred to;
- `Reading` : the lexemes that are left, with what is known from those before;
- `Reading.node?` : a node;
- `Node.ofText?` : the node of a text with one document, or with none.
-/

namespace InvocationRouting
namespace Yaml

/-- The anchors of a document. An anchor of a name that came before hides the earlier one. -/
structure Anchors where
  /-- The numbers of the anchors under their names, latest first. -/
  numbers : List (String × Nat)
  /-- The nodes that are complete, under the numbers of their anchors. -/
  nodes : List (Nat × Node)

namespace Anchors

def declare (anchors : Anchors) (name : String) : Anchors :=
  { anchors with numbers := (name, anchors.numbers.length) :: anchors.numbers }

def complete (anchors : Anchors) (number : Nat) (node : Node) : Anchors :=
  { anchors with nodes := (number, node) :: anchors.nodes }

/-- The node of the latest anchor of a name; it is unfit as long as it is not complete. -/
def resolve? (anchors : Anchors) (name : String) : Option Node :=
  (anchors.numbers.lookup name).map fun number => (anchors.nodes.lookup number).getD .unfit

end Anchors

/-- The lexemes that are left, the spaces of names of handles, and the anchors. -/
structure Reading where
  tokens : List Token
  spaces : List (String × String)
  anchors : Anchors

/-- What is said about a node before it: a tag, and the number of an anchor. -/
structure Properties where
  tag : Option Tag
  anchor : Option Nat

namespace Reading

def passTo (tokens : List Token) (r : Reading) : Reading :=
  { r with tokens := tokens }

def isNext (tokens : List Token) (r : Reading) : Bool :=
  r.tokens.head?.any tokens.contains

/-- A tag with the space of names that its handle stands for. A handle with two marks must be
declared, unless it is the secondary one. -/
def resolve? (r : Reading) (tag : Tag) : Option Tag :=
  match r.spaces.lookup tag.handle with
  | some meaning => some { tag with handle := meaning }
  | none =>
      if tag.handle = "!!" then some { tag with handle := Node.coreSpace }
      else if isNamedHandle tag.handle.toList then none
      else some tag

def anchor (r : Reading) : Option Nat × Reading :=
  match r.tokens with
  | .anchor name :: rest =>
      (some r.anchors.numbers.length, ⟨rest, r.spaces, r.anchors.declare name⟩)
  | _ => (none, r)

def tag? (r : Reading) : Option (Option Tag × Reading) :=
  match r.tokens with
  | .tag tag :: rest => (r.resolve? tag).map fun tag => (some tag, r.passTo rest)
  | _ => some (none, r)

/-- A tag and an anchor in any order, each of which may be missing. -/
def properties? (r : Reading) : Option (Properties × Reading) :=
  match r.anchor with
  | (some number, r) => r.tag?.map fun (tag, r) => (⟨tag, some number⟩, r)
  | (none, r) =>
      r.tag?.map fun (tag, r) =>
        match tag with
        | some tag => let (number, r) := r.anchor; (⟨some tag, number⟩, r)
        | none => (⟨none, none⟩, r)

/-- A node without text, which needs properties. -/
def absent? (properties : Properties) (r : Reading) : Option (Node × Reading) :=
  if properties.tag.isNone && properties.anchor.isNone then none
  else some (.ofScalar true properties.tag "", r)

def collect? (collection? : List Node → Option Node) (read : Option (List Node × Reading)) :
    Option (Node × Reading) := do
  let (nodes, r) ← read
  return (← collection? nodes, r)

/-- The reading behind the comma before a part of a flow collection that is not the first one. -/
def passComma? (first : Bool) (r : Reading) : Option Reading :=
  if first then some r
  else
    match r.tokens with
    | .flowEntry :: rest => some (r.passTo rest)
    | _ => none

mutual

/-- A node, at most `fuel` parts deep and long. Block collections may be missing, or their first
lexeme may be missing where `indentless` allows that. -/
def node? : Nat → Bool → Bool → Reading → Option (Node × Reading)
  | 0, _, _, _ => none
  | fuel + 1, block, indentless, r =>
      match r.tokens with
      | .reference name :: rest => (r.anchors.resolve? name).map fun node => (node, r.passTo rest)
      | _ => do
          let (properties, r) ← r.properties?
          let (node, r) ← content? fuel block indentless properties r
          match properties.anchor with
          | some number => return (node, { r with anchors := r.anchors.complete number node })
          | none => return (node, r)

def content? : Nat → Bool → Bool → Properties → Reading → Option (Node × Reading)
  | 0, _, _, _, _ => none
  | fuel + 1, block, indentless, properties, r =>
      match r.tokens with
      | .blockEntry :: _ =>
          if indentless then collect? (some ∘ .list) (indentlessSequence? fuel r)
          else absent? properties r
      | .scalar isPlain text :: rest =>
          some (.ofScalar isPlain properties.tag text, r.passTo rest)
      | .flowSequenceStart :: rest =>
          collect? (some ∘ .list) (flowSequence? fuel true (r.passTo rest))
      | .flowMappingStart :: rest =>
          collect? Node.mapping? (flowMapping? fuel true (r.passTo rest))
      | .blockSequenceStart :: rest =>
          if block then collect? (some ∘ .list) (blockSequence? fuel (r.passTo rest))
          else absent? properties r
      | .blockMappingStart :: rest =>
          if block then collect? Node.mapping? (blockMapping? fuel (r.passTo rest))
          else absent? properties r
      | _ => absent? properties r

def part? : Nat → List Token → Bool → Bool → Reading → Option (Node × Reading)
  | 0, _, _, _, _ => none
  | fuel + 1, ends, block, indentless, r =>
      if r.isNext ends then some (.null, r) else node? fuel block indentless r

/-- The elements of a block sequence up to its end. -/
def blockSequence? : Nat → Reading → Option (List Node × Reading)
  | 0, _ => none
  | fuel + 1, r =>
      match r.tokens with
      | .blockEnd :: rest => some ([], r.passTo rest)
      | .blockEntry :: rest => do
          let (node, r) ← part? fuel [.blockEntry, .blockEnd] true false (r.passTo rest)
          let (nodes, r) ← blockSequence? fuel r
          return (node :: nodes, r)
      | _ => none

/-- The elements of a block sequence in the column of the mapping that it belongs to. -/
def indentlessSequence? : Nat → Reading → Option (List Node × Reading)
  | 0, _ => none
  | fuel + 1, r =>
      match r.tokens with
      | .blockEntry :: rest => do
          let (node, r) ←
            part? fuel [.blockEntry, .key, .value, .blockEnd] true false (r.passTo rest)
          let (nodes, r) ← indentlessSequence? fuel r
          return (node :: nodes, r)
      | _ => some ([], r)

def blockMapping? : Nat → Reading → Option (List Node × Reading)
  | 0, _ => none
  | fuel + 1, r =>
      match r.tokens with
      | .blockEnd :: rest => some ([], r.passTo rest)
      | .key :: rest => do
          let (key, r) ← part? fuel [.key, .value, .blockEnd] true true (r.passTo rest)
          blockPair? fuel key r
      | .value :: _ => blockPair? fuel .null r
      | _ => none

/-- The keys and values of a block mapping up to its end, behind a key. -/
def blockPair? : Nat → Node → Reading → Option (List Node × Reading)
  | 0, _, _ => none
  | fuel + 1, key, r => do
      let (value, r) ← match r.tokens with
        | .value :: rest => part? fuel [.key, .value, .blockEnd] true true (r.passTo rest)
        | _ => some (.null, r)
      let (nodes, r) ← blockMapping? fuel r
      return (key :: value :: nodes, r)

/-- The elements of a flow sequence up to its end. A question mark starts a mapping of one pair. -/
def flowSequence? : Nat → Bool → Reading → Option (List Node × Reading)
  | 0, _, _ => none
  | fuel + 1, first, r =>
      match r.tokens with
      | .flowSequenceEnd :: rest => some ([], r.passTo rest)
      | _ => do
          let r ← r.passComma? first
          match r.tokens with
          | .flowSequenceEnd :: rest => some ([], r.passTo rest)
          | .key :: rest => do
              let (node, r) ← collect? Node.mapping? (flowPair? fuel (r.passTo rest))
              let (nodes, r) ← flowSequence? fuel false r
              return (node :: nodes, r)
          | _ => do
              let (node, r) ← node? fuel false false r
              let (nodes, r) ← flowSequence? fuel false r
              return (node :: nodes, r)

/-- The key and the value of a pair in a flow sequence. Where the key is missing, the lexeme in its
place is passed over. -/
def flowPair? : Nat → Reading → Option (List Node × Reading)
  | 0, _ => none
  | fuel + 1, r => do
      let (key, r) ←
        if r.isNext [.value, .flowEntry, .flowSequenceEnd] then
          some (.null, r.passTo (r.tokens.drop 1))
        else
          node? fuel false false r
      let (value, r) ← match r.tokens with
        | .value :: rest => part? fuel [.flowEntry, .flowSequenceEnd] false false (r.passTo rest)
        | _ => some (.null, r)
      return ([key, value], r)

def flowMapping? : Nat → Bool → Reading → Option (List Node × Reading)
  | 0, _, _ => none
  | fuel + 1, first, r =>
      match r.tokens with
      | .flowMappingEnd :: rest => some ([], r.passTo rest)
      | _ => do
          let r ← r.passComma? first
          match r.tokens with
          | .flowMappingEnd :: rest => some ([], r.passTo rest)
          | .key :: rest => do
              let (key, r) ←
                part? fuel [.value, .flowEntry, .flowMappingEnd] false false (r.passTo rest)
              flowValue? fuel key r
          | .value :: _ => flowValue? fuel .null r
          | _ => do
              let (key, r) ← node? fuel false false r
              let (nodes, r) ← flowMapping? fuel false r
              return (key :: .null :: nodes, r)

/-- The keys and values of a flow mapping up to its end, behind a key. -/
def flowValue? : Nat → Node → Reading → Option (List Node × Reading)
  | 0, _, _ => none
  | fuel + 1, key, r => do
      let (value, r) ← match r.tokens with
        | .value :: rest => part? fuel [.flowEntry, .flowMappingEnd] false false (r.passTo rest)
        | _ => some (.null, r)
      let (nodes, r) ← flowMapping? fuel false r
      return (key :: value :: nodes, r)

end

/-! ## Documents -/

/-- The reading behind the directives before a document, of which at most one tells the version.
What the last one says about handles holds. -/
def passDirectives? (versionSeen : Bool) (spaces : List (String × String)) :
    List Token → Option Reading
  | .directive .version :: rest => if versionSeen then none else passDirectives? true [] rest
  | .directive (.space handle meaning) :: rest =>
      passDirectives? versionSeen [(handle, meaning)] rest
  | tokens => some ⟨tokens, spaces, ⟨[], []⟩⟩

def endsDocument : Token → Bool
  | .directive _ | .documentStart | .documentEnd => true
  | _ => false

/-- The content of a document, with enough fuel for all lexemes that are left. -/
def document? (r : Reading) : Option (Node × Reading) :=
  node? (4 * r.tokens.length + 4) true false r

/-- The content of a document that its mark or directives start. It may be missing. -/
def explicitDocument? (tokens : List Token) : Option (Node × Reading) := do
  let r ← passDirectives? false [] tokens
  match r.tokens with
  | .documentStart :: rest =>
      let r := r.passTo rest
      if rest.isEmpty || rest.head?.any endsDocument then some (.null, r) else document? r
  | _ => none

def passEnds (tokens : List Token) : List Token :=
  tokens.dropWhile (· = .documentEnd)

end Reading

/-- The node of a text. A text without a document is an empty mapping, and one with several is
refused. -/
def Node.ofText? (s : String) : Option Node := do
  match Reading.passEnds (← Token.scan? s) with
  | [] => some (.mapping [])
  | first :: rest => do
      let (node, r) ← match first with
        | .directive _ | .documentStart => Reading.explicitDocument? (first :: rest)
        | _ => Reading.document? ⟨first :: rest, [], ⟨[], []⟩⟩
      if (Reading.passEnds r.tokens).isEmpty then some node else none

end Yaml
end InvocationRouting
