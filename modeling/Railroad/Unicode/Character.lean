import Railroad.Unicode.Alphabetic
import Railroad.Unicode.BinaryTable
import Railroad.Unicode.CategoryTable
import Railroad.Unicode.Extending

/-!
# Classes of characters

The character classes that patterns and their diagrams speak of: blanks, alphanumerics, digits, word
characters, and the characters that a quoted text cannot show as they are. On ASCII each class is
decided without a table.
-/

namespace Railroad.Unicode

/-- The spans of the White_Space property. -/
def blankSpans : List (Nat × Nat) := [
  (0x9, 0xD), (0x20, 0x20), (0x85, 0x85), (0xA0, 0xA0), (0x1680, 0x1680), (0x2000, 0x200A),
  (0x2028, 0x2029), (0x202F, 0x202F), (0x205F, 0x205F), (0x3000, 0x3000)]

/-- A blank: a character with the property White_Space. -/
def isBlank (c : Char) : Bool := inSpans c.toNat blankSpans

/-- The general category of a character. -/
def category (c : Char) : Category := (runValue? categoryRuns c.toNat).getD .cn

/-- A letter or a number: what a group name is made of, with the underscore. -/
def isAlphanumeric (c : Char) : Bool :=
  if c.toNat < 128 then c.isAlphanum
  else isAlphabetic c || Category.numbers.contains (category c)

/-- A decimal digit of any script. -/
def isDecimal (c : Char) : Bool :=
  if c.toNat < 128 then c.isDigit else category c == .nd

/-- A word character: alphabetic, a mark, a decimal digit, a connector such as the underscore, or one
of the two joiners. -/
def isWord (c : Char) : Bool :=
  if c.toNat < 128 then c.isAlphanum || c == '_'
  else isAlphabetic c || c.toNat == 0x200C || c.toNat == 0x200D ||
    match category c with
    | .mn | .mc | .me | .nd | .pc => true
    | _ => false

/-- A hexadecimal digit of ASCII. -/
def isHexDigit (c : Char) : Bool :=
  c.isDigit || ('a' ≤ c && c ≤ 'f') || ('A' ≤ c && c ≤ 'F')

/-- A character that a quoted text shows as an escape: controls, formats, everything unassigned or
private, every separator but the plain space, and what attaches to the character before it. -/
def isHidden (c : Char) : Bool :=
  if c == ' ' then false
  else isExtending c ||
    match category c with
    | .cc | .cf | .cs | .co | .cn | .zs | .zl | .zp => true
    | _ => false

end Railroad.Unicode
