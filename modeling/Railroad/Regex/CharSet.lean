import Railroad.Unicode.Folding
import Railroad.Unicode.Property

/-!
# Sets of characters

A set is an expression over spans, classes and properties. Folding adds every case variant of every
member.
-/

namespace Railroad.Regex

/-- A set of characters. -/
inductive CharSet where
  /-- No character. -/
  | none
  /-- The characters between two, both included. -/
  | span (first last : Char)
  /-- The decimal digits of all scripts. -/
  | digit
  /-- The blanks. -/
  | space
  /-- The word characters. -/
  | word
  /-- The characters with a property. -/
  | property (p : Unicode.Property)
  /-- The members of one set or the other. -/
  | either (a b : CharSet)
  /-- The members of both sets. -/
  | both (a b : CharSet)
  /-- The members of the first set that are not in the second. -/
  | without (a b : CharSet)
  /-- The members of exactly one of two sets. -/
  | apart (a b : CharSet)
  /-- All characters but the members. -/
  | outside (a : CharSet)
  /-- The members and all their case variants. -/
  | folded (a : CharSet)
  deriving DecidableEq, Repr

namespace CharSet

/-- Whether a character is a member. -/
def contains : CharSet → Char → Bool
  | none, _ => false
  | span first last, c => first ≤ c && c ≤ last
  | digit, c => Unicode.isDecimal c
  | space, c => Unicode.isBlank c
  | word, c => Unicode.isWord c
  | property p, c => p.holds c
  | either a b, c => a.contains c || b.contains c
  | both a b, c => a.contains c && b.contains c
  | without a b, c => a.contains c && !b.contains c
  | apart a b, c => a.contains c != b.contains c
  | outside a, c => !a.contains c
  | folded a, c => a.contains c || (Unicode.caseVariants c).any a.contains

/-- The set with one member. -/
def singleton (c : Char) : CharSet := span c c

/-- The set of the members of several spans. -/
def ofSpans (spans : List (Char × Char)) : CharSet :=
  spans.foldr (fun (first, last) set => either (span first last) set) none

/-- The set, or all characters but its members. -/
def negatedIf (negated : Bool) (set : CharSet) : CharSet := if negated then outside set else set

/-- The set, or the set with all case variants. -/
def foldedIf (ignoreCase : Bool) (set : CharSet) : CharSet := if ignoreCase then folded set else set

/-- The hexadecimal digits of ASCII. -/
def hexDigit : CharSet := ofSpans [('0', '9'), ('A', 'F'), ('a', 'f')]

/-- The spans of a class that is written by a POSIX name. -/
def posixSpans? (name : String) : Option (List (Char × Char)) :=
  match name with
  | "alnum" => some [('0', '9'), ('A', 'Z'), ('a', 'z')]
  | "alpha" => some [('A', 'Z'), ('a', 'z')]
  | "ascii" => some [('\x00', '\x7f')]
  | "blank" => some [('\t', '\t'), (' ', ' ')]
  | "cntrl" => some [('\x00', '\x1f'), ('\x7f', '\x7f')]
  | "digit" => some [('0', '9')]
  | "graph" => some [('!', '~')]
  | "lower" => some [('a', 'z')]
  | "print" => some [(' ', '~')]
  | "punct" => some [('!', '/'), (':', '@'), ('[', '\x60'), ('\x7b', '~')]
  | "space" => some [('\t', '\r'), (' ', ' ')]
  | "upper" => some [('A', 'Z')]
  | "word" => some [('0', '9'), ('A', 'Z'), ('_', '_'), ('a', 'z')]
  | "xdigit" => some [('0', '9'), ('A', 'F'), ('a', 'f')]
  | _ => Option.none

end CharSet

end Railroad.Regex
