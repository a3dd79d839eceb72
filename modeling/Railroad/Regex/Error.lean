/-!
# Errors of the matcher

A pattern is refused while it is read, with the byte at which reading stopped, or while it is prepared
for matching. A search is given up when it has gone back too often.
-/

namespace Railroad.Regex

/-- What is wrong where reading stopped. -/
inductive Fault where
  /-- The pattern ends inside parentheses. -/
  | openParenthesis
  /-- A closing parenthesis without an opening one. -/
  | trailingText
  /-- Something else where a condition has to close. -/
  | closeExpected
  /-- A conditional with nothing to match. -/
  | emptyConditional
  /-- The pattern ends inside a bracketed class. -/
  | openClass
  /-- Nothing that can be repeated stands in front of a quantifier. -/
  | targetNotRepeatable
  /-- Nothing follows a backslash. -/
  | trailingBackslash
  /-- A reference back to a number that is out of reach. -/
  | backReference
  /-- A reference back to a name that no group has. -/
  | unknownName (name : String)
  /-- A name that does not end, or is empty. -/
  | groupName
  /-- An escape without meaning, by its text. -/
  | escape (text : String)
  /-- The name of a property without end. -/
  | openProperty
  /-- A hexadecimal escape without its digits. -/
  | hexEscape
  /-- A hexadecimal escape for no character. -/
  | codePoint
  /-- A flag that does not exist, by the text up to it. -/
  | unknownFlag (text : String)
  /-- A switch that turns Unicode off. -/
  | unicodeOff
  /-- Too many groups in each other. -/
  | tooDeep
  deriving DecidableEq, Repr

/-- The wording of the fault. -/
def Fault.message : Fault → String
  | openParenthesis => "Opening parenthesis without closing parenthesis"
  | trailingText => "General parsing error: end of string not reached"
  | closeExpected => "General parsing error: expected close paren"
  | emptyConditional =>
    "General parsing error: expected conditional to be a backreference or at least an expression " ++
      "for when the condition is true"
  | openClass => "Invalid character class"
  | targetNotRepeatable => "Target of repeat operator is invalid"
  | trailingBackslash => "Backslash without following character"
  | backReference => "Invalid back reference"
  | unknownName name => s!"Invalid group name in back reference: {name}"
  | groupName => "Could not parse group name"
  | escape text => s!"Invalid escape: {text}"
  | openProperty => "Unicode escape not closed"
  | hexEscape => "Invalid hex escape"
  | codePoint => "Invalid codepoint for hex or unicode escape"
  | unknownFlag text => s!"Unknown group flag: {text}"
  | unicodeOff => "Disabling Unicode not supported"
  | tooDeep => "Pattern too deeply nested"

/-- What is wrong with a pattern that could be read. -/
inductive Defect where
  /-- A reference back by number in a pattern with named groups. -/
  | numberAmongNames
  /-- A reference back to a group that is not open yet. -/
  | backReference
  /-- A lookbehind whose length is not fixed. -/
  | lookBehindLength
  /-- A class, a property or a count that cannot be. -/
  | innerPattern
  /-- Counts that make the pattern too large. -/
  | innerSize
  deriving DecidableEq, Repr

/-- The wording of the defect. -/
def Defect.message : Defect → String
  | numberAmongNames =>
    "Numbered backref/call not allowed because named group was used, use a named backref instead"
  | backReference => "Invalid back reference"
  | lookBehindLength => "Look-behind assertion without constant size"
  | innerPattern => "Regex error: error parsing pattern 0"
  | innerSize => "Regex error: error building NFA"

/-- An error of the matcher. -/
inductive Error where
  /-- Reading stopped at this byte of the pattern. -/
  | reading (position : Nat) (fault : Fault)
  /-- The pattern cannot be matched. -/
  | compiling (defect : Defect)
  /-- The search was given up. -/
  | searching
  deriving DecidableEq, Repr

/-- The wording of the error. -/
def Error.message : Error → String
  | reading position fault => s!"Parsing error at position {position}: {fault.message}"
  | compiling defect => s!"Error compiling regex: {defect.message}"
  | searching => "Error executing regex: Max limit for backtracking count exceeded"

end Railroad.Regex
