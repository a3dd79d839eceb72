import Railroad.Host
import Railroad.Regex.CharSet
import Railroad.Regex.Class
import Railroad.Regex.Expr

/-!
# Texts that are searched

Tests of single characters, and conditions on positions in a text.
-/

namespace Railroad.Regex

/-- A test of one character. -/
inductive CharTest where
  /-- Every character passes. -/
  | any
  /-- Every character but a line feed passes. -/
  | notLineFeed
  /-- One character passes. -/
  | exactly (c : Char)
  /-- The members of a set pass. -/
  | among (set : CharSet)
  deriving DecidableEq, Repr

/-- Whether a character passes. -/
def CharTest.passes : CharTest → Char → Bool
  | any, _ => true
  | notLineFeed, c => c != '\n'
  | exactly d, c => c == d
  | among set, c => set.contains c

/-- The test for a character and, if case is ignored, its variants. -/
def CharTest.ofLiteral (c : Char) (ignoreCase : Bool) : CharTest :=
  if ignoreCase then
    match Unicode.caseVariants c with
    | [d] => .exactly d
    | variants => .among (variants.foldr (fun d set => .either (.singleton d) set) .none)
  else .exactly c

/-- The test that an expression for one character is. The inner answer is missing for a class that
cannot be. -/
def Expr.charTest? : Expr → Option (Option CharTest)
  | any lineFeed => some (some (if lineFeed then .any else .notLineFeed))
  | literal c ignoreCase => some (some (.ofLiteral c ignoreCase))
  | shorthand s negated ignoreCase => some ((s.set? negated ignoreCase).map .among)
  | bracket atoms ignoreCase => some ((bracketSet? atoms ignoreCase).map .among)
  | _ => none

end Railroad.Regex

namespace Railroad.Subject

/-- Whether a word character stands at a position. -/
def isWordAt (text : Subject) (place : Nat) : Bool :=
  match text[place]? with
  | some c => Unicode.isWord c
  | none => false

/-- Whether a word character stands in front of a position. -/
def isWordBefore (text : Subject) : Nat → Bool
  | 0 => false
  | n + 1 => text.isWordAt n

/-- Whether the characters between two positions stand at a third position again. -/
def repeats (text : Subject) (start stop place : Nat) : Bool :=
  (List.range (stop - start)).all fun i => text[start + i]? == text[place + i]?

end Railroad.Subject

namespace Railroad.Regex

/-- Whether a condition holds at a position. -/
def Assertion.holds (a : Assertion) (text : Subject) (place : Nat) : Bool :=
  match a with
  | startText => place == 0
  | endText => place == text.size
  | startLine => place == 0 || text[place - 1]? == some '\n'
  | endLine => place == text.size || text[place]? == some '\n'
  | wordBoundary => text.isWordBefore place != text.isWordAt place
  | notWordBoundary => text.isWordBefore place == text.isWordAt place
  | wordStart => !text.isWordBefore place && text.isWordAt place
  | wordEnd => text.isWordBefore place && !text.isWordAt place

end Railroad.Regex
