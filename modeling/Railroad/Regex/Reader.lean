import Railroad.Regex.Error
import Railroad.Regex.Expr
import Railroad.Text.Numeral
import Railroad.Text.Piece

/-!
# Steps of reading

A pattern is read from left to right in one pass. A step of reading knows what is left, the flags in
force, the number of groups opened so far and their names. This module has the steps that are below the
grammar: blanks and comments, numbers, names, and references to groups.
-/

namespace Railroad.Regex

/-- The flags that govern how a pattern is read. -/
structure ReadFlags where
  /-- Whether case is ignored. -/
  ignoreCase : Bool
  /-- Whether the ends of lines count as ends. -/
  multiLine : Bool
  /-- Whether the dot matches a line feed. -/
  dotAll : Bool
  /-- Whether quantifiers are lazy unless marked. -/
  lazyFirst : Bool
  /-- Whether blanks and comments are skipped. -/
  extended : Bool
  deriving DecidableEq, Repr

/-- No flag is set. -/
def ReadFlags.none : ReadFlags := ⟨false, false, false, false, false⟩

/-- How far a pattern has been read. -/
structure Reading where
  /-- What is left. -/
  rest : List Char
  /-- The byte at which it begins. -/
  position : Nat
  /-- The number of bytes of the whole pattern. -/
  size : Nat
  /-- The flags in force. -/
  flags : ReadFlags
  /-- The number of groups opened so far. -/
  opened : Nat
  /-- The named groups so far, the latest first. -/
  names : List (String × Nat)
  /-- The groups that are referred back to. -/
  referenced : List Nat
  /-- Whether one of them is referred to by number. -/
  byNumber : Bool

/-- A step of reading: it takes text and gives a value, or stops with an error. -/
abbrev Reader := StateT Reading (Except Error)

namespace Reader

/-- Stops with a fault at a byte of the pattern. -/
def stop {α : Type} (position : Nat) (fault : Fault) : Reader α :=
  throw (.reading position fault)

/-- Stops with a fault at the current position. -/
def stopHere {α : Type} (fault : Fault) : Reader α := do
  stop (← get).position fault

/-- Goes on behind the next `n` characters. -/
def advance (n : Nat) : Reader Unit :=
  modify fun r => { r with
    rest := r.rest.drop n
    position := r.position + Text.byteLength (r.rest.take n) }

/-- What is left of the pattern. -/
def rest : Reader (List Char) := return (← get).rest

/-- The flags in force. -/
def flags : Reader ReadFlags := return (← get).flags

end Reader

/-- Where a run of blanks and comments is being skipped. -/
inductive Skipping where
  /-- Between comments. -/
  | outside
  /-- In a comment that ends with its line. -/
  | line
  /-- In a comment in parentheses. -/
  | comment
  /-- In such a comment, behind a backslash. -/
  | escaped
  deriving DecidableEq, Repr

/-- The number of characters of blanks and comments at the beginning of a text. Blanks and line
comments count in the extended notation only. A comment in parentheses that does not end is reported by
the number of bytes by which the search for its end ran past the text. -/
def spaceLength (extended : Bool) (skipping : Skipping) : List Char → Except Nat Nat
  | [] =>
    match skipping with
    | .outside | .line => .ok 0
    | .comment => .error 0
    | .escaped => .error 1
  | c :: rest =>
    match skipping with
    | .outside =>
      if extended && c == '#' then (spaceLength extended .line rest).map (· + 1)
      else if extended && (c == ' ' || c == '\r' || c == '\n' || c == '\t') then
        (spaceLength extended .outside rest).map (· + 1)
      else
        match c, rest with
        | '(', '?' :: '#' :: rest => (spaceLength extended .comment rest).map (· + 3)
        | _, _ => .ok 0
    | .line =>
      (spaceLength extended (if c == '\n' then .outside else .line) rest).map (· + 1)
    | .comment =>
      let next := if c == ')' then .outside else if c == '\\' then .escaped else .comment
      (spaceLength extended next rest).map (· + 1)
    | .escaped => (spaceLength extended .comment rest).map (· + 1)

/-- Skips blanks and comments. -/
def Reader.space : Reader Unit := do
  let r ← get
  match spaceLength r.flags.extended .outside r.rest with
  | .ok n => Reader.advance n
  | .error excess => Reader.stop (r.size + excess) .openParenthesis

/-- What follows blanks and comments, unless a comment does not end. -/
def afterSpace? (extended : Bool) (text : List Char) : Option (List Char) :=
  match spaceLength extended .outside text with
  | .ok n => some (text.drop n)
  | .error _ => none

/-- One more than the greatest number that a pattern can write. -/
def numberLimit : Nat := UInt64.size

/-- The decimal number at the beginning of a text, and what follows it. -/
def number? (text : List Char) : Option (Nat × List Char) :=
  let digits := text.takeWhile Char.isDigit
  if digits.isEmpty then none
  else
    let n := Text.decimalValue digits
    if n < numberLimit then some (n, text.drop digits.length) else none

/-- The bounds of a repetition behind an opening brace, and what follows the closing brace. A missing
lower bound is zero; a missing upper bound, or the greatest number, is none. -/
def braceBounds? (extended : Bool) (text : List Char) :
    Option (Nat × Option Nat × List Char) := do
  let text ← afterSpace? extended text
  let (low, text) ← match text with
    | ',' :: _ => some (0, text)
    | _ => number? text
  let text ← afterSpace? extended text
  let bound (n : Nat) : Option Nat := if n + 1 = numberLimit then none else some n
  match text with
  | '\x7d' :: text => some (low, bound low, text)
  | ',' :: text =>
    let text ← afterSpace? extended text
    let (high, text) := match number? text with
      | some (n, text) => (bound n, text)
      | none => (none, text)
    match ← afterSpace? extended text with
    | '\x7d' :: text => some (low, high, text)
    | _ => none
  | _ => none

/-- A character of a group name. -/
def isNameChar (c : Char) : Bool := Unicode.isAlphanumeric c || c == '_'

/-- The name between two delimiters at the beginning of a text, and the number of characters up to its
end. -/
def delimitedName? (opening closing : List Char) (text : List Char) : Option (String × Nat) :=
  match Text.after? opening text with
  | none => none
  | some rest =>
    let name := rest.takeWhile isNameChar
    if !name.isEmpty && closing.isPrefixOf (rest.drop name.length) then
      some (String.ofList name, opening.length + name.length + closing.length)
    else none

namespace Reader

/-- A reference back by number. The number has to be small enough for that many groups to fit into the
pattern. -/
def numberedReference : Reader Nat := do
  let r ← get
  match number? r.rest with
  | some (n, rest) =>
    if n < r.size / 2 then
      advance (r.rest.length - rest.length)
      modify fun r => { r with referenced := n :: r.referenced, byNumber := true }
      return n
    else stopHere .backReference
  | none => stopHere .backReference

/-- A reference back by name. A name that no group has may be the number of one. -/
def namedReference (opening closing : List Char) : Reader Nat := do
  let r ← get
  match delimitedName? opening closing r.rest with
  | none => stopHere .groupName
  | some (name, length) =>
    match (r.names.lookup name).or ((number? name.toList).map (·.1)) with
    | none => stopHere (.unknownName name)
    | some n =>
      advance length
      modify fun r => { r with referenced := n :: r.referenced }
      return n

end Reader

end Railroad.Regex
