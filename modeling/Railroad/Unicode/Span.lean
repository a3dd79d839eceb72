/-!
# Tables of code points

Membership in a sorted table of inclusive spans, and the look-up of the run that a code point lies in.
-/

namespace Railroad.Unicode

/-- Whether `n` lies in one of the spans. The spans ascend, so the search ends at the first one that
begins above `n`. -/
def inSpans (n : Nat) : List (Nat × Nat) → Bool
  | [] => false
  | (first, last) :: spans => if n < first then false else n ≤ last || inSpans n spans

/-- The index of the last entry among `low ..< high` that begins at or below `n`, where the entry at
`low` is known to do so. -/
def locate {α : Type} (runs : Array (Nat × α)) (n low high : Nat) : Nat :=
  if _h : low + 1 < high then
    let middle := (low + high) / 2
    match runs[middle]? with
    | some (first, _) =>
      if first ≤ n then locate runs n middle high else locate runs n low middle
    | none => low
  else low
termination_by high - low

/-- The value of the run that `n` lies in, for a table of runs that begins at zero. -/
def runValue? {α : Type} (runs : Array (Nat × α)) (n : Nat) : Option α :=
  (runs[locate runs n 0 runs.size]?).map (·.2)

end Railroad.Unicode
