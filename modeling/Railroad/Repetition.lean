/-!
# Repetitions

How often a quantified item may occur, in the notation of patterns and in words.
-/

namespace Railroad

/-- A range of counts, as a quantifier writes it. -/
inductive Repetition where
  /-- Any number of times. -/
  | zeroOrMore
  /-- At least once. -/
  | oneOrMore
  /-- At most once. -/
  | zeroOrOne
  /-- A fixed number of times. -/
  | exactly (count : Nat)
  /-- A number of times with a lower bound only. -/
  | atLeast (low : Nat)
  /-- A number of times with two bounds, which need not be in order. -/
  | between (low high : Nat)
  deriving DecidableEq, Repr

namespace Repetition

/-- The lower bound. -/
def min : Repetition → Nat
  | zeroOrMore | zeroOrOne => 0
  | oneOrMore => 1
  | exactly n | atLeast n | between n _ => n

/-- The upper bound, if there is one. -/
def max? : Repetition → Option Nat
  | zeroOrMore | oneOrMore | atLeast _ => none
  | zeroOrOne => some 1
  | exactly n => some n
  | between _ m => some m

/-- Whether the item may be left out. -/
def allowsZero (r : Repetition) : Bool := r.min == 0

/-- Whether the item may occur more than once. -/
def allowsMany (r : Repetition) : Bool :=
  match r.max? with
  | none => true
  | some m => 1 < m

/-- The repetition in words. -/
def describe : Repetition → String
  | zeroOrMore => "zero or more times"
  | oneOrMore => "one or more times"
  | zeroOrOne => "zero or one time"
  | exactly n => if n == 1 then "exactly 1 time" else s!"exactly {n} times"
  | atLeast n => s!"{n} or more times"
  | between n m => s!"between {n} and {m} times"

/-- The repetition as a quantifier writes it, without its mark. -/
def render : Repetition → String
  | zeroOrMore => "*"
  | oneOrMore => "+"
  | zeroOrOne => "?"
  | exactly n => "\x7b" ++ toString n ++ "\x7d"
  | atLeast n => "\x7b" ++ toString n ++ ",\x7d"
  | between n m => "\x7b" ++ toString n ++ "," ++ toString m ++ "\x7d"

end Repetition

end Railroad
