import Railroad.Regex.Reader

/-!
# Escapes and bracketed classes

A backslash and what follows it is a character, a class, or something that matches no character. A
bracketed class is kept as the atoms that stand between its brackets; what they mean is settled later.
-/

namespace Railroad.Regex

namespace Reader

/-- The character that a hexadecimal escape stands for, behind its letter: a fixed number of digits, or
up to eight digits in braces. -/
def hexCharacter (digits : Nat) : Reader Char := do
  let text ← rest
  let fixed := text.take digits
  let found ← if fixed.length == digits && fixed.all Unicode.isHexDigit then pure (fixed, digits)
    else match text with
      | '\x7b' :: inner =>
        let run := inner.takeWhile Unicode.isHexDigit
        match inner.drop run.length with
        | '\x7d' :: _ =>
          if 0 < run.length && run.length ≤ 8 then pure (run, run.length + 2)
          else stopHere .hexEscape
        | _ => stopHere .hexEscape
      | _ => stopHere .hexEscape
  match Text.character? (Text.hexadecimalValue found.1) with
  | some c => do advance found.2; return c
  | none => stopHere .codePoint

/-- The text that names a property, behind the letter of its escape: up to a closing brace, or one
character. An escape that began at `start` and has no end is reported there. -/
def propertyText (start : Nat) : Reader (List Char) := do
  match ← rest with
  | '\x7b' :: inner =>
    match inner.findIdx? (· == '\x7d') with
    | some n => do advance (n + 2); return inner.take n
    | none => stop start .openProperty
  | c :: _ => do advance 1; return [c]
  | [] => return []

/-- What an escape stands for. -/
inductive Escape where
  /-- A character, that ignores case where the flag is set or never. -/
  | character (c : Char) (foldable : Bool)
  /-- A class. -/
  | shorthand (s : Shorthand) (negated : Bool)
  /-- Something that matches no single character. -/
  | other (e : Expr)

/-- The letters that stand for a control character. -/
def controls : List (Char × Char) := [
  ('a', '\x07'), ('b', '\x08'), ('f', '\x0c'), ('n', '\n'), ('r', '\r'), ('t', '\t'),
  ('v', '\x0b'), ('e', '\x1b')]

/-- The letters that a class allows behind a backslash although they mean nothing there. -/
def idleLetters : List Char := ['k', 'A', 'z', 'B', 'K', 'G']

/-- An escape outside a class that is a position, a mark or a reference. -/
def position? (c : Char) : Option Expr :=
  match c with
  | 'A' => some (.assertion .startText)
  | 'z' => some (.assertion .endText)
  | 'b' => some (.assertion .wordBoundary)
  | 'B' => some (.assertion .notWordBoundary)
  | '<' => some (.assertion .wordStart)
  | '>' => some (.assertion .wordEnd)
  | 'K' => some .keepOut
  | 'G' => some .searchStart
  | _ => none

/-- The class that a letter behind a backslash stands for. -/
def class? (c : Char) : Option (Shorthand × Bool) :=
  match c with
  | 'd' => some (.digit, false)
  | 'D' => some (.digit, true)
  | 's' => some (.space, false)
  | 'S' => some (.space, true)
  | 'w' => some (.word, false)
  | 'W' => some (.word, true)
  | 'h' => some (.hexDigit, false)
  | 'H' => some (.hexDigit, true)
  | _ => none

/-- An escape, from its backslash on, inside or outside a bracketed class. -/
def escape (inClass : Bool) : Reader Escape := do
  let start := (← get).position
  match (← rest).drop 1 with
  | [] => stopHere .trailingBackslash
  | c :: after =>
    if c.isDigit && !inClass then do
      advance 1
      return .other (.backreference (← numberedReference))
    else if c == 'k' && !inClass then do
      advance 2
      match after with
      | '\'' :: _ => return .other (.backreference (← namedReference ['\''] ['\'']))
      | _ => return .other (.backreference (← namedReference ['<'] ['>']))
    else match (if inClass then none else position? c), class? c with
      | some e, _ => do advance 2; return .other e
      | none, some (s, negated) => do advance 2; return .shorthand s negated
      | none, none =>
        if c == 'x' then do advance 2; return .character (← hexCharacter 2) true
        else if c == 'u' then do advance 2; return .character (← hexCharacter 4) true
        else if c == 'U' then do advance 2; return .character (← hexCharacter 8) true
        else if (c == 'p' || c == 'P') && !after.isEmpty then do
          advance 2
          return .shorthand (.property (← propertyText start)) (c == 'P')
        else match controls.lookup c with
          | some control => do advance 2; return .character control false
          | none =>
            if c.isAlpha && !(inClass && idleLetters.contains c) then
              stopHere (.escape (String.ofList ['\\', c]))
            else do advance 2; return .character c false

/-- The characters that a class has to quote for them to stand for themselves. -/
def needsQuote (c : Char) : Bool :=
  ['\\', '.', '+', '*', '?', '(', ')', '|', '[', ']', '\x7b', '\x7d', '^', '$', '#', '&', '-',
    '~'].contains c

/-- The atoms that an escape inside a class is. -/
def classAtoms (start : Nat) : Escape → Reader (List ClassAtom)
  | .character c _ => return [if needsQuote c then .quoted c else .plain c]
  | .shorthand .hexDigit negated =>
    return (if negated then "[^0-9A-Fa-f]" else "[0-9A-Fa-f]").toList.map .plain
  | .shorthand s negated => return [.shorthand s negated]
  | .other _ => stop start .openClass

/-- The atoms of a class up to the bracket that closes it, where `depth` brackets are open. Every turn
takes a character, so that as much `fuel` as there are characters is enough. -/
def bracketAtoms : Nat → Nat → Reader (List ClassAtom)
  | 0, _ => stopHere .openClass
  | fuel + 1, depth => do
    match ← rest with
    | [] => stopHere .openClass
    | '\\' :: _ =>
      let start := (← get).position
      let atoms ← classAtoms start (← escape true)
      return atoms ++ (← bracketAtoms fuel depth)
    | '[' :: _ => do
      advance 1
      return .plain '[' :: (← bracketAtoms fuel (depth + 1))
    | ']' :: _ => do
      advance 1
      if depth ≤ 1 then return [.plain ']']
      return .plain ']' :: (← bracketAtoms fuel (depth - 1))
    | c :: _ => do
      advance 1
      return .plain c :: (← bracketAtoms fuel depth)

/-- A bracketed class. A caret may come first, and a closing bracket in front of all members is a
member. -/
def bracket : Reader Expr := do
  advance 1
  let caret ← match ← rest with
    | '^' :: _ => do advance 1; pure [ClassAtom.plain '^']
    | _ => pure []
  let first ← match ← rest with
    | ']' :: _ => do advance 1; pure [ClassAtom.plain ']']
    | _ => pure []
  let atoms ← bracketAtoms ((← rest).length + 1) 1
  return .bracket (caret ++ first ++ atoms) (← flags).ignoreCase

end Reader

end Railroad.Regex
