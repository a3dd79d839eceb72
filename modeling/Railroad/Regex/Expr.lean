/-!
# Expressions

A pattern as the matcher sees it: every group has its number, every flag has been applied to what it
governs, and bracketed classes are kept as the characters they are written with.
-/

namespace Railroad.Regex

/-- A condition on a position. -/
inductive Assertion where
  /-- At the beginning of the text. -/
  | startText
  /-- At the end of the text. -/
  | endText
  /-- At the beginning of a line. -/
  | startLine
  /-- At the end of a line. -/
  | endLine
  /-- Between a word character and another one or an end. -/
  | wordBoundary
  /-- Not at a word boundary. -/
  | notWordBoundary
  /-- At the beginning of a word. -/
  | wordStart
  /-- At the end of a word. -/
  | wordEnd
  deriving DecidableEq, Repr

/-- Whether the condition looks at the kind of the characters around the position. -/
def Assertion.isAboutWords : Assertion → Bool
  | startText | endText | startLine | endLine => false
  | wordBoundary | notWordBoundary | wordStart | wordEnd => true

/-- A class that is written as an escape. -/
inductive Shorthand where
  /-- The digits. -/
  | digit
  /-- The blanks. -/
  | space
  /-- The word characters. -/
  | word
  /-- The hexadecimal digits. -/
  | hexDigit
  /-- The characters with the property that a text names. -/
  | property (text : List Char)
  deriving DecidableEq, Repr

/-- A piece of a bracketed class. -/
inductive ClassAtom where
  /-- A character as it stands. -/
  | plain (c : Char)
  /-- A character that only stands for itself. -/
  | quoted (c : Char)
  /-- A class inside the class. -/
  | shorthand (s : Shorthand) (negated : Bool)
  deriving DecidableEq, Repr

/-- A direction and a sign for looking around a position. -/
inductive Look where
  /-- What follows matches. -/
  | ahead
  /-- What follows does not match. -/
  | aheadNot
  /-- What precedes matches. -/
  | behind
  /-- What precedes does not match. -/
  | behindNot
  deriving DecidableEq, Repr

/-- An expression. -/
inductive Expr where
  /-- Nothing. -/
  | empty
  /-- Any character, line feeds included or not. -/
  | any (lineFeed : Bool)
  /-- One character, or any of its case variants. -/
  | literal (c : Char) (ignoreCase : Bool)
  /-- A member of a class that is written as an escape. -/
  | shorthand (s : Shorthand) (negated ignoreCase : Bool)
  /-- A member of a bracketed class, given by what follows the opening bracket. -/
  | bracket (atoms : List ClassAtom) (ignoreCase : Bool)
  /-- A condition on the position. -/
  | assertion (a : Assertion)
  /-- Expressions one behind the other. -/
  | concat (parts : List Expr)
  /-- Alternatives, the first ones preferred. -/
  | alternatives (options : List Expr)
  /-- A numbered group. -/
  | group (number : Nat) (content : Expr)
  /-- A look around the position. -/
  | look (kind : Look) (content : Expr)
  /-- A group that gives nothing back. -/
  | atomic (content : Expr)
  /-- The text of a group. -/
  | backreference (number : Nat)
  /-- The condition that a group has begun to match. -/
  | groupMatched (number : Nat)
  /-- A choice that depends on whether a condition matches. -/
  | conditional (condition ifTrue ifFalse : Expr)
  /-- The beginning of the match is moved here. -/
  | keepOut
  /-- Where the search began. -/
  | searchStart
  /-- A repetition between two counts, the second of which may be missing. -/
  | repeated (low : Nat) (high : Option Nat) (greedy : Bool) (content : Expr)
  deriving Repr

namespace Expr

/-- Whether the expression is empty. -/
def isEmpty : Expr → Bool
  | empty => true
  | _ => false

/-- Whether a quantifier may follow the expression. -/
def isRepeatable : Expr → Bool
  | empty | look _ _ | assertion _ => false
  | _ => true

/-- Expressions in a row. A single one stands for itself. -/
def ofParts : List Expr → Expr
  | [] => empty
  | [part] => part
  | parts => concat parts

mutual

/-- The numbers of the groups in an expression, in reading order. -/
def groups : Expr → List Nat
  | concat parts => groupsOfAll parts
  | alternatives options => groupsOfAll options
  | group number content => number :: content.groups
  | look _ content => content.groups
  | atomic content => content.groups
  | conditional condition ifTrue ifFalse =>
    condition.groups ++ ifTrue.groups ++ ifFalse.groups
  | repeated _ _ _ content => content.groups
  | empty | any _ | literal _ _ | shorthand _ _ _ | bracket _ _ | assertion _ | backreference _
  | groupMatched _ | keepOut | searchStart => []

/-- The numbers of the groups in several expressions. -/
def groupsOfAll : List Expr → List Nat
  | [] => []
  | e :: es => e.groups ++ groupsOfAll es

end

end Expr

end Railroad.Regex
