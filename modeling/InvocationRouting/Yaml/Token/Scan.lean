import InvocationRouting.Yaml.Scalar.Block
import InvocationRouting.Yaml.Scalar.Plain
import InvocationRouting.Yaml.Scalar.Quoted
import InvocationRouting.Yaml.Token.Layout

/-!
# Yaml.Token.Scan — lexemes from text

- `Layout.skipBetween?` : what stands between lexemes;
- `Layout.next?` : the layout behind the next lexeme;
- `Token.scan?` : the lexemes of a text.
-/

namespace InvocationRouting
namespace Yaml

namespace Layout

/-- The layout behind blanks, line ends and comments, at most `fuel` characters. A tabulator that
indents something inside a block collection is refused. -/
def skipBetween? : Nat → Layout → Option Layout
  | 0, l => some l
  | fuel + 1, l =>
      match l.cursor.peek? with
      | none => some l
      | some x =>
          let indents := !l.indents.isEmpty && l.cursor.leading && decide (l.column < l.indent)
          if x == '\t' && indents then
            -- It indents nothing on a line without text.
            match l.cursor.restOfLine? with
            | some c => if endsLine c.peek? then skipBetween? fuel (l.moveTo c) else none
            | none => none
          else if isBlank x then
            skipBetween? fuel (l.moveTo (l.cursor.advance 1))
          else if isBreak x then
            skipBetween? fuel
              { l with cursor := l.cursor.passBreak, keyAllowed := l.keyAllowed || !l.inFlow }
          else if x == '#' then
            skipBetween? fuel (l.moveTo l.cursor.skipLine)
          else
            some l

def between? (l : Layout) : Option Layout :=
  skipBetween? l.cursor.rest.length l

def restOfLine? (l : Layout) : Option Layout :=
  l.cursor.restOfLine?.map l.moveTo

def visible (count : Nat) (l : Layout) : Layout :=
  l.moveTo (l.cursor.visible count)

/-! ## Collections -/

def flowStart? (isSequence : Bool) (l : Layout) : Option Layout := do
  let l ← l.saveKey.rollOpen.openFlow?
  let l := if isSequence then { l with pairs := false :: l.pairs } else { l with inMapping := true }
  let l ← ({ l with keyAllowed := true }.visible 1).restOfLine?
  return l.push (if isSequence then .flowSequenceStart else .flowMappingStart)

def flowEnd? (isSequence : Bool) (l : Layout) : Option Layout := do
  let l := (← l.dropKey?).closeFlow
  let l := if isSequence then { l.endPair with pairs := l.pairs.drop 1 } else l
  let l ← ({ l with keyAllowed := false }.visible 1).restOfLine?
  let l := if l.inFlow then { l with adjacent := l.cursor.index } else l
  return l.push (if isSequence then .flowSequenceEnd else .flowMappingEnd)

def flowEntry? (l : Layout) : Option Layout := do
  let l := { ← l.dropKey? with keyAllowed := true }.endPair
  return (← (l.visible 1).restOfLine?).push .flowEntry

def blockEntry? (l : Layout) : Option Layout := do
  if l.inFlow || !l.keyAllowed then failure
  let behind := (l.visible 1).roll l.column l.tokens.size .blockSequenceStart
  let l ← behind.restOfLine?
  let another := l.cursor.peek? == some '-' && endsWord l.cursor.second?
  if behind.cursor.blanks.contains '\t' && another then failure
  let l := if l.cursor.peek?.any fun x => isBreak x || isFlow x then l.rollOpen else l
  let l ← l.dropKey?
  return { l with keyAllowed := true }.push .blockEntry

/-! ## Keys and values -/

/-- The layout behind spaces, line ends and comments, at most `fuel` characters. -/
def skipSpaces : Nat → Layout → Layout
  | 0, l => l
  | fuel + 1, l =>
      match l.cursor.peek? with
      | some ' ' => skipSpaces fuel (l.moveTo (l.cursor.advance 1))
      | some '#' => skipSpaces fuel (l.moveTo l.cursor.skipLine)
      | some x =>
          if isBreak x then
            skipSpaces fuel
              { l with cursor := l.cursor.passBreak, keyAllowed := l.keyAllowed || !l.inFlow }
          else
            l
      | none => l

/-- A question mark before a key of any form, with a space behind it. -/
def key? (l : Layout) : Option Layout := do
  if !l.inFlow && !l.keyAllowed then failure
  let l := if l.inFlow then { l with inMapping := true }
    else l.roll l.column l.tokens.size .blockMappingStart
  let l ← l.dropKey?
  let marked := { l with keyAllowed := !l.inFlow }.visible 1
  if !(marked.cursor.peek?.any fun x => x == ' ' || isBreak x) then failure
  let l := skipSpaces marked.cursor.rest.length marked
  if l.cursor.peek? == some '\t' then failure
  return l.push .key

/-- The layout behind the colon before a value. A tabulator alone does not divide the colon from a
word. -/
def passColon? (l : Layout) : Option Layout :=
  let behind := l.visible 1
  if behind.cursor.peek? == some '\t' then do
    let l ← behind.restOfLine?
    let word := l.cursor.peek?.any isWordChar
    if !behind.cursor.blanks.contains ' ' && word then failure
    return l
  else
    some behind

/-- A colon before a value. What was read last is the key if it may be one; otherwise the key is
null or follows a question mark. -/
def value? (l : Layout) : Option Layout := do
  let isPair := !l.pairs.isEmpty && !l.inMapping
  let colon := l.cursor
  let l := if isPair then { l with pairs := true :: l.pairs.drop 1 } else l
  let l ← l.passColon?
  match l.key with
  | some key =>
      -- What was read last turns out to be a key: its mark goes before the lexemes of the node.
      let l := l.insert key.token .key
      if isPair && key.start.line < colon.line then failure
      let l := if isPair then l.insert key.token .flowMappingStart else l
      let l := (l.roll key.start.column key.token .blockMappingStart).rollOpen
      return { l with key := none, keyAllowed := false }.push .value
  | none =>
      let l := if isPair then l.push .flowMappingStart else l
      if !l.inFlow && !l.keyAllowed then failure
      let l := (l.roll colon.column l.tokens.size .blockMappingStart).rollOpen
      return { l with keyAllowed := !l.inFlow }.push .value

/-! ## Properties and scalars -/

def anchor? (isReference : Bool) (l : Layout) : Option Layout :=
  let l := { l.saveKey with keyAllowed := false }
  let (name, c) := (l.cursor.visible 1).run isAnchorChar
  let text := String.ofList name
  if name.isEmpty then none
  else some ((l.moveTo c).push (if isReference then .reference text else .anchor text))

def tag? (l : Layout) : Option Layout := do
  let l := { l.saveKey with keyAllowed := false }
  let (tag, c) ← l.cursor.tag? l.inFlow
  return (l.moveTo c).push (.tag tag)

def block? (folded : Bool) (l : Layout) : Option Layout := do
  let l := { l.saveKey with keyAllowed := true }.unrollOpen
  let (text, c) ← l.cursor.block? folded l.indent
  return (l.moveTo c).push (.scalar false (String.ofList text))

def quoted? (quote : Char) (l : Layout) : Option Layout := do
  let l := { l.saveKey with keyAllowed := false }
  let (text, c) ← l.cursor.quoted? quote l.inFlow l.indent
  let l ← (l.moveTo c).between?
  return { l with adjacent := l.cursor.index }.push (.scalar false (String.ofList text))

def plain? (l : Layout) : Option Layout := do
  let l := { l.saveKey with keyAllowed := false }.unrollOpen
  let (text, c) ← l.cursor.plain? l.inFlow l.indent
  let l := { l with cursor := c, keyAllowed := c.leading }
  return l.push (.scalar true (String.ofList text))

/-! ## Documents -/

def directive? (l : Layout) : Option Layout := do
  let l ← (l.unroll (-1)).dropKey?
  let (directive, c) ← l.cursor.directive?
  return { l with cursor := c, keyAllowed := false }.push (.directive directive)

/-- The mark of the start of a document. -/
def documentStart? (l : Layout) : Option Layout := do
  let l ← (l.unroll (-1)).dropKey?
  return ({ l with keyAllowed := false }.visible 3).push .documentStart

/-- The mark of the end of a document, with nothing else on its line. -/
def documentEnd? (l : Layout) : Option Layout := do
  let l ← (l.unroll (-1)).dropKey?
  let l ← (({ l with keyAllowed := false }.visible 3).push .documentEnd).restOfLine?
  if endsLine l.cursor.peek? then some l else none

def finish? (l : Layout) : Option (Array Token) :=
  if (l.key :: l.outerKeys).any fun key => key.any PossibleKey.required then none
  else some (l.unroll (-1)).tokens

def isValue (l : Layout) : Bool :=
  let next := l.cursor.second?
  endsWord next || (l.inFlow && (next.any isFlow || l.cursor.index == l.adjacent))

/-- The layout behind the lexeme that starts with a given character. -/
def lexeme? (x : Char) (l : Layout) : Option Layout :=
  let next := l.cursor.second?
  if l.cursor.column == 0 && x == '%' then l.directive?
  else if l.cursor.atMark '-' then l.documentStart?
  else if l.cursor.atMark '.' then l.documentEnd?
  else if l.column < l.indent then none
  else if x == '[' || x == '\x7b' then l.flowStart? (x == '[')
  else if x == ']' || x == '\x7d' then l.flowEnd? (x == ']')
  else if x == ',' then l.flowEntry?
  else if x == '-' && endsWord next then l.blockEntry?
  else if x == '?' && endsWord next then l.key?
  else if x == ':' && l.isValue then l.value?
  else if x == '*' || x == '&' then l.anchor? (x == '*')
  else if x == '!' then l.tag?
  else if (x == '|' || x == '>') && !l.inFlow then l.block? (x == '>')
  else if x == '"' || x == '\'' then l.quoted? x
  else if x == '%' || x == '@' || x == '\x60' then none
  else l.plain?

/-- The lexemes of the rest of the text, of which there are at most `fuel`. -/
def scan? : Nat → Layout → Option (Array Token)
  | 0, _ => none
  | fuel + 1, l => do
      let l := (← (← l.between?).dropStaleKey?)
      let l := l.unroll l.column
      match l.cursor.peek? with
      | none => l.finish?
      | some x => scan? fuel (← l.lexeme? x)

end Layout

/-- The lexemes of a text. Each takes at least one character. -/
def Token.scan? (s : String) : Option (List Token) :=
  let l := Layout.ofText s
  (l.scan? (l.cursor.rest.length + 1)).map Array.toList

end Yaml
end InvocationRouting
