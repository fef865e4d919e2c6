import InvocationRouting.Yaml.Token

/-!
# Yaml.Token.Layout — indentation and keys while lexemes are read

Indentation starts and ends block collections, and whether a node is a key shows only at the colon
behind it. Then the lexeme of a key is put before the node, which is why the lexemes so far are
kept.

- `Layout` : the position, the lexemes so far, the open collections and the possible keys;
- `Layout.roll`, `Layout.unroll` : block collections start and end;
- `Layout.saveKey`, `Layout.dropKey?`, `Layout.dropStaleKey?` : possible keys;
- `Layout.openFlow?`, `Layout.closeFlow` : flow collections start and end.
-/

namespace InvocationRouting
namespace Yaml

structure PossibleKey where
  /-- Is it an error if it is none, because nothing else may stand there? -/
  required : Bool
  /-- The number of lexemes before the node. -/
  token : Nat
  start : Cursor

structure Indent where
  outer : Int
  /-- Does a block collection end together with the deeper indentation? -/
  closes : Bool

/-- Lexemes that have been read, and what is open at the position behind them. -/
structure Layout where
  cursor : Cursor
  tokens : Array Token
  /-- May a key start here? -/
  keyAllowed : Bool
  key : Option PossibleKey
  /-- The possible keys outside of each open flow collection, innermost first. -/
  outerKeys : List (Option PossibleKey)
  /-- The column of the innermost block collection, or one below the first column. -/
  indent : Int
  /-- The indentations outside of it, innermost first. -/
  indents : List Indent
  /-- Are the pairs in a flow collection those of a mapping? -/
  inMapping : Bool
  /-- For each open flow sequence, innermost first: does a pair without braces start in it? -/
  pairs : List Bool
  /-- Where a colon stands for a value although a word follows it. -/
  adjacent : Nat

namespace Layout

def ofText (s : String) : Layout :=
  ⟨Cursor.ofText s, #[], true, none, [], -1, [], false, [], 0⟩

def inFlow (l : Layout) : Bool :=
  !l.outerKeys.isEmpty

/-- The column of the position, to be compared with indentations. -/
def column (l : Layout) : Int :=
  l.cursor.column

/-- Does the innermost indentation belong to a block collection? -/
def closes (l : Layout) : Bool :=
  l.indents.head?.any Indent.closes

def push (l : Layout) (token : Token) : Layout :=
  { l with tokens := l.tokens.push token }

def insert (l : Layout) (number : Nat) (token : Token) : Layout :=
  { l with tokens := l.tokens.insertIdxIfInBounds number token }

def moveTo (l : Layout) (c : Cursor) : Layout :=
  { l with cursor := c }

/-! ## Indentation -/

/-- Ends the block collections that are indented further than a column. -/
def unroll (column : Int) (l : Layout) : Layout :=
  if l.inFlow then l else go l.indents l
where
  /-- Ends block collections, from the innermost of the given indentations on. -/
  go : List Indent → Layout → Layout
    | [], l => l
    | i :: rest, l =>
        if column < l.indent then
          let left := { l with indent := i.outer, indents := rest }
          go rest (if i.closes then left.push .blockEnd else left)
        else
          l

/-- Leaves the indentations that belong to no block collection. -/
def unrollOpen (l : Layout) : Layout :=
  go l.indents l
where
  /-- Leaves indentations, from the innermost of the given ones on. -/
  go : List Indent → Layout → Layout
    | [], l => l
    | i :: rest, l => if i.closes then l else go rest { l with indent := i.outer, indents := rest }

/-- Starts a block collection in a column, before the lexemes from a number on, unless there is one
in that column. -/
def roll (column : Int) (number : Nat) (token : Token) (l : Layout) : Layout :=
  if l.inFlow then
    l
  else
    let l := match l.indents with
      | i :: rest =>
          if l.indent ≤ column && !i.closes then { l with indent := i.outer, indents := rest }
          else l
      | [] => l
    if l.indent < column then
      { l with indent := column, indents := ⟨l.indent, true⟩ :: l.indents }.insert number token
    else
      l

/-- What follows in a block collection must be indented further than the collection. -/
def rollOpen (l : Layout) : Layout :=
  if !l.inFlow && l.closes then
    { l with indent := l.indent + 1, indents := ⟨l.indent, false⟩ :: l.indents }
  else
    l

/-! ## Keys -/

def saveKey (l : Layout) : Layout :=
  if l.keyAllowed then
    let required := !l.inFlow && l.indent == l.column && l.closes
    { l with key := some ⟨required, l.tokens.size, l.cursor⟩ }
  else
    l

/-- The node that was read last is no key. -/
def dropKey? (l : Layout) : Option Layout :=
  if l.key.any PossibleKey.required then none else some { l with key := none }

def keyLength : Nat := 1024

/-- Outside of flow collections the node that was read last is no key if another line has started,
or if it was too long. -/
def dropStaleKey? (l : Layout) : Option Layout :=
  match l.key with
  | some key =>
      let stale := key.start.line < l.cursor.line || key.start.index + keyLength < l.cursor.index
      if !l.inFlow && stale then l.dropKey? else some l
  | none => some l

/-! ## Flow collections -/

def flowNesting : Nat := 255

def openFlow? (l : Layout) : Option Layout :=
  if l.outerKeys.length < flowNesting then
    some { l with outerKeys := l.key :: l.outerKeys, key := none }
  else
    none

def closeFlow (l : Layout) : Layout :=
  match l.outerKeys with
  | key :: rest => { l with key := key, outerKeys := rest }
  | [] => l

/-- Ends a pair without braces in a flow sequence. -/
def endPair (l : Layout) : Layout :=
  match l.pairs with
  | true :: rest => { l with inMapping := false, pairs := false :: rest }.push .flowMappingEnd
  | _ => l

end Layout

end Yaml
end InvocationRouting
