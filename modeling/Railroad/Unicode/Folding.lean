import Railroad.Unicode.FoldingTable

/-!
# Simple case folding

The case variants of a character are the characters with the same folding.
-/

namespace Railroad.Unicode

/-- Whether the series moves the code point `n`. -/
def FoldSeries.moves (series : FoldSeries) (n : Nat) : Bool :=
  series.first ≤ n && n ≤ series.last && (n - series.first) % series.step == 0

/-- The code point of the series, if any, that folds to `n`. -/
def FoldSeries.preimage? (series : FoldSeries) (n : Nat) : Option Nat :=
  if series.target ≤ n && series.moves (n - series.target + series.first) then
    some (n - series.target + series.first)
  else none

/-- Simple case folding of a code point. -/
def foldCode (n : Nat) : Nat :=
  match foldSeries.find? (·.moves n) with
  | some series => n - series.first + series.target
  | none => n

/-- A character and all its case variants: what it folds to, and all that folds to the same. -/
def caseVariants (c : Char) : List Char :=
  let folded := foldCode c.toNat
  (folded :: foldSeries.filterMap (·.preimage? folded)).map Char.ofNat

end Railroad.Unicode
