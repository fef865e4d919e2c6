import InvocationRouting.Text.Casing

/-!
# Proofs.Text.FinalSigma — where the two lowercase forms differ

Folding takes one character at a time. The lowercase form of a text also looks at what stands around
a capital sigma, and writes a final sigma where it ends a word.

* `Casing.hasFinalSigma` : does a text hold a capital sigma that ends a word?
* `lowercase_eq_fold_iff` : the two forms of a text are one exactly if it does not;
* `lowercase_eq_lowercase_iff` : texts without such a sigma are told apart by both or by neither.
-/

namespace InvocationRouting
namespace Casing

/-- Does the text, which follows the reversed text `before`, hold a capital sigma with a cased
letter before it and none after it? -/
def hasFinalSigmaAfter (before : List Char) : List Char → Bool
  | [] => false
  | c :: rest =>
      (c == 'Σ' && (reachesCased before && !reachesCased rest)) ||
        hasFinalSigmaAfter (c :: before) rest

/-- Does the text hold a capital sigma that ends a word? -/
def hasFinalSigma (s : String) : Bool :=
  hasFinalSigmaAfter [] s.toList

theorem lowerChars_sigma : lowerChars 'Σ' = ['σ'] := by
  decide +kernel

theorem lowercaseAfter_cons (before : List Char) (c : Char) (rest : List Char) :
    lowercaseAfter before (c :: rest) =
      (if c = 'Σ' then [if reachesCased before && !reachesCased rest then 'ς' else 'σ']
        else lowerChars c) ++ lowercaseAfter (c :: before) rest := rfl

theorem lowercaseAfter_eq_flatMap_iff (before cs : List Char) :
    lowercaseAfter before cs = cs.flatMap lowerChars ↔ hasFinalSigmaAfter before cs = false := by
  induction cs generalizing before with
  | nil => simp [lowercaseAfter, hasFinalSigmaAfter]
  | cons c rest ih =>
      have later := ih (c :: before)
      rw [lowercaseAfter_cons, List.flatMap_cons, hasFinalSigmaAfter]
      by_cases sigma : c = 'Σ'
      · subst sigma
        cases final : reachesCased before && !reachesCased rest with
        | true => simp [lowerChars_sigma]
        | false => simp [lowerChars_sigma, later]
      · simp [sigma, later]

theorem lowercase_eq_fold_iff {s : String} :
    lowercase s = String.ofList (fold s) ↔ hasFinalSigma s = false := by
  have forms : lowercase s = String.ofList (fold s) ↔
      lowercaseAfter [] s.toList = s.toList.flatMap lowerChars := by
    simp [lowercase, fold, String.ofList_inj]
  rw [forms]
  exact lowercaseAfter_eq_flatMap_iff [] s.toList

/-- Without sigmas that end words, the lowercase forms of texts agree when their folds do. -/
theorem lowercase_eq_lowercase_iff {a b : String} (ha : hasFinalSigma a = false)
    (hb : hasFinalSigma b = false) : lowercase a = lowercase b ↔ fold a = fold b := by
  rw [lowercase_eq_fold_iff.2 ha, lowercase_eq_fold_iff.2 hb]
  simp [String.ofList_inj]

end Casing
end InvocationRouting
