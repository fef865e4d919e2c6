import InvocationRouting.Text.Casing.Table

/-!
# Casing — lowercase forms of characters and of texts

Two notions of lowercase live side by side.

- `lowerChars` : the lowercase form of a single character, which may have two characters;
- `fold` : a text with each character replaced by its lowercase form, whatever stands around it;
- `lowercase` : the lowercase form of a whole text. It differs from `fold` at a capital sigma that
  ends a word, which becomes a final sigma.

Route keys are compared by `fold`, settings are checked by `lowercase`.
-/

namespace InvocationRouting
namespace Casing

/-- The image of a code point under the run, if it belongs to the run. -/
def CaseRun.map? (run : CaseRun) (n : Nat) : Option Nat :=
  if run.first ≤ n ∧ n ≤ run.last ∧ (n - run.first) % run.step = 0 then
    some (run.target + (n - run.first))
  else
    none

/-- The lowercase form of one character. Only the dotted capital I has a form of two characters. -/
def lowerChars (c : Char) : List Char :=
  if c = 'İ' then
    ['i', '\u0307']
  else
    match (lowerRuns.takeWhile (·.first ≤ c.toNat)).findSome? (·.map? c.toNat) with
    | some n => [Char.ofNat n]
    | none => [c]

/-- Each character of the text in its lowercase form, without regard to its neighbours. -/
def fold (s : String) : List Char :=
  s.toList.flatMap lowerChars

/-- The first character that is not skipped, if any, is cased. -/
def reachesCased (cs : List Char) : Bool :=
  match cs.dropWhile caseIgnorable.contains with
  | [] => false
  | c :: _ => cased.contains c

/-- The lowercase form of `rest`, which follows the reversed text `before`. A capital sigma with a
cased letter before it and none after it becomes a final sigma. -/
def lowercaseAfter (before : List Char) : List Char → List Char
  | [] => []
  | c :: rest =>
      let image :=
        if c = 'Σ' then
          [if reachesCased before && !reachesCased rest then 'ς' else 'σ']
        else
          lowerChars c
      image ++ lowercaseAfter (c :: before) rest

def lowercase (s : String) : String :=
  String.ofList (lowercaseAfter [] s.toList)

end Casing
end InvocationRouting
