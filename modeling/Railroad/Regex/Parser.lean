import Railroad.Regex.Escape

/-!
# Reading an expression

Alternatives are made of items, and an item may have a quantifier. What may stand inside a group is read
by the same rules one level deeper, down to a fixed depth, so reading always ends.
-/

namespace Railroad.Regex

namespace Reader

/-- One item without a quantifier. Blanks and comments in front of it are skipped; where no item can
begin nothing else is taken. -/
def atom (group : Reader Expr) : Reader Expr := do
  space
  let f ← flags
  match ← rest with
  | [] => return .empty
  | '.' :: _ => do advance 1; return .any f.dotAll
  | '^' :: _ => do
    advance 1
    return .assertion (if f.multiLine then .startLine else .startText)
  | '$' :: _ => do
    advance 1
    return .assertion (if f.multiLine then .endLine else .endText)
  | '(' :: _ => group
  | '\\' :: _ =>
    match ← escape false with
    | .character c foldable => return .literal c (foldable && f.ignoreCase)
    | .shorthand s negated => return .shorthand s negated f.ignoreCase
    | .other e => return e
  | '[' :: _ => bracket
  | c :: _ =>
    if c == '+' || c == '*' || c == '?' || c == '|' || c == ')' then return .empty
    else do advance 1; return .literal c f.ignoreCase

/-- The bounds of the quantifier that comes next, with its last character left to be taken. -/
def bounds : Reader (Option (Nat × Option Nat)) := do
  let r ← get
  match r.rest with
  | '?' :: _ => return some (0, some 1)
  | '*' :: _ => return some (0, none)
  | '+' :: _ => return some (1, none)
  | '\x7b' :: text =>
    match braceBounds? r.flags.extended text with
    | some (low, high, after) => do
      advance (r.rest.length - after.length - 1)
      return some (low, high)
    | none => return none
  | _ => return none

/-- An item with its quantifier, if it has one. A question mark behind the quantifier turns its order
around, and a plus sign behind that makes it possessive. -/
def piece (group : Reader Expr) : Reader Expr := do
  let item ← atom group
  space
  match ← bounds with
  | none => return item
  | some (low, high) =>
    if !item.isRepeatable then stopHere .targetNotRepeatable
    else do
      advance 1
      space
      let lazyMark ← match ← rest with
        | '?' :: _ => do advance 1; pure true
        | _ => pure false
      let repetition := Expr.repeated low high (lazyMark == (← flags).lazyFirst) item
      match ← rest with
      | '+' :: _ => do advance 1; return .atomic repetition
      | _ => return repetition

/-- Items up to where none can begin. Every turn but the last takes a character, so that one more than
the number of characters is enough `fuel`. -/
def pieces (group : Reader Expr) : Nat → Reader (List Expr)
  | 0 => return []
  | fuel + 1 => do
    let before := (← rest).length
    if before == 0 then return []
    let item ← piece group
    if (← rest).length == before then return []
    let more ← pieces group fuel
    return if item.isEmpty then more else item :: more

/-- One alternative. -/
def branch (group : Reader Expr) : Reader Expr := do
  return .ofParts (← pieces group ((← rest).length + 1))

/-- Further alternatives, each behind a bar. Every turn takes the bar. -/
def moreBranches (group : Reader Expr) : Nat → Reader (List Expr)
  | 0 => return []
  | fuel + 1 => do
    match ← rest with
    | '|' :: _ =>
      advance 1
      let option ← branch group
      space
      return option :: (← moreBranches group fuel)
    | _ => return []

/-- Alternatives up to the end or to a closing parenthesis. Where there is only one, numbers may not
refer to groups if groups have names. -/
def expression (group : Reader Expr) : Reader Expr := do
  let option ← branch group
  space
  match ← moreBranches group ((← rest).length + 1) with
  | [] =>
    let r ← get
    if r.byNumber && !r.names.isEmpty then throw (.compiling .numberAmongNames)
    return option
  | more => return .alternatives (option :: more)

/-- The parenthesis that closes a group. -/
def closing : Reader Unit := do
  space
  match ← rest with
  | [] => stopHere .openParenthesis
  | ')' :: _ => advance 1
  | _ => stopHere .closeExpected

/-- Takes the number of the next group. -/
def openNumber : Reader Nat := do
  let n := (← get).opened + 1
  modify fun r => { r with opened := n }
  return n

/-- A group with a name, at the question mark behind its parenthesis; `skip` characters stand in front
of the name. -/
def namedGroup (skip : Nat) (inside : Reader Expr) : Reader Expr := do
  let n ← openNumber
  match delimitedName? ['<'] ['>'] ((← rest).drop skip) with
  | none => stopHere .groupName
  | some (name, length) =>
    modify fun r => { r with names := (name, n) :: r.names }
    advance (skip + length)
    let content ← inside
    closing
    return .group n content

/-- A lookaround or an atomic group, behind the `skip` characters that mark it. -/
def markedGroup (skip : Nat) (wrap : Expr → Expr) (inside : Reader Expr) : Reader Expr := do
  advance skip
  let content ← inside
  closing
  return wrap content

/-- The flags with one of them set or cleared by its letter. -/
def setFlag? (c : Char) (value : Bool) (f : ReadFlags) : Option ReadFlags :=
  match c with
  | 'i' => some { f with ignoreCase := value }
  | 'm' => some { f with multiLine := value }
  | 's' => some { f with dotAll := value }
  | 'U' => some { f with lazyFirst := value }
  | 'x' => some { f with extended := value }
  | _ => none

/-- The flags of a group, which begins with them at byte `start`, or of a switch that stands alone.
`written` is the text from there on, and `negated` tells that a minus sign has been read. Every turn
takes a character. -/
def flagGroup (start : Nat) (written : List Char) (outer : ReadFlags) (inside : Reader Expr) :
    Bool → Nat → Reader Expr
  | _, 0 => stopHere .openParenthesis
  | negated, fuel + 1 => do
    space
    let r ← get
    let length := written.length - r.rest.length
    let unknown : Reader Expr :=
      stop start (.unknownFlag (String.ofList ('(' :: '?' :: written.take (length + 1))))
    match r.rest with
    | [] => stopHere .openParenthesis
    | ')' :: _ =>
      if length == 0 || (negated && length == 1) then unknown
      else do advance 1; return .empty
    | ':' :: _ =>
      if negated && length == 1 then unknown
      else do
        advance 1
        let content ← inside
        match ← rest with
        | [] => stopHere .openParenthesis
        | _ =>
          advance 1
          modify fun r => { r with flags := outer }
          return content
    | '-' :: _ =>
      if negated then unknown
      else do advance 1; flagGroup start written outer inside true fuel
    | 'u' :: _ =>
      if negated then stopHere .unicodeOff
      else do advance 1; flagGroup start written outer inside negated fuel
    | c :: _ =>
      match setFlag? c (!negated) r.flags with
      | none => unknown
      | some f =>
        modify fun r => { r with flags := f }
        advance 1
        flagGroup start written outer inside negated fuel

/-- A condition that is a reference back, if it is one. -/
def conditionReference : Reader (Option Nat) := do
  match ← rest with
  | '\'' :: _ => return some (← namedReference ['\''] ['\''])
  | '<' :: _ => return some (← namedReference ['<'] ['>'])
  | c :: _ => if c.isDigit then return some (← numberedReference) else return none
  | [] => stopHere .openParenthesis

/-- A conditional, behind the parenthesis that opens its condition. The first alternative is for a
condition that matches, the others are for one that does not. -/
def conditional (inside : Reader Expr) : Reader Expr := do
  let written ← match ← conditionReference with
    | some n => pure (Expr.backreference n)
    | none => inside
  let (condition, isReference) := match written with
    | .backreference n => (Expr.groupMatched n, true)
    | e => (e, false)
  closing
  let before := (← rest).length
  let content ← inside
  if (← rest).length == before then
    if isReference then do closing; return condition
    else stopHere .emptyConditional
  else
    let (ifTrue, ifFalse) := match content with
      | .alternatives [first, second] => (first, second)
      | .alternatives (first :: others) => (first, Expr.alternatives others)
      | _ => (content, Expr.empty)
    closing
    return if ifTrue.isEmpty && ifFalse.isEmpty then condition
      else .conditional condition ifTrue ifFalse

/-- A group, from its parenthesis on, whose inside is read by `inside`. -/
def groupOf (inside : Reader Expr) : Reader Expr := do
  advance 1
  space
  match ← rest with
  | '?' :: '=' :: _ => markedGroup 2 (.look .ahead) inside
  | '?' :: '!' :: _ => markedGroup 2 (.look .aheadNot) inside
  | '?' :: '<' :: '=' :: _ => markedGroup 3 (.look .behind) inside
  | '?' :: '<' :: '!' :: _ => markedGroup 3 (.look .behindNot) inside
  | '?' :: '<' :: _ => namedGroup 1 inside
  | '?' :: 'P' :: '<' :: _ => namedGroup 2 inside
  | '?' :: 'P' :: '=' :: _ => do
    advance 3
    return .backreference (← namedReference [] [')'])
  | '?' :: '>' :: _ => markedGroup 2 .atomic inside
  | '?' :: '(' :: _ => do
    advance 2
    conditional inside
  | '?' :: _ => do
    advance 1
    let r ← get
    flagGroup r.position r.rest r.flags inside false (r.rest.length + 1)
  | _ =>
    let n ← openNumber
    let content ← inside
    closing
    return .group n content

/-- A group below which `levels` more may be nested, or none. -/
def group : Nat → Reader Expr
  | 0 => stopHere .tooDeep
  | levels + 1 => groupOf (expression (group levels))

/-- The number of groups that may be nested in each other. -/
def depthLimit : Nat := 63

/-- A whole pattern. -/
def pattern : Reader Expr := do
  let e ← expression (group depthLimit)
  match ← rest with
  | [] => return e
  | _ => stopHere .trailingText

end Reader

/-- What reading a pattern gives. -/
structure Outline where
  /-- The expression. -/
  expr : Expr
  /-- The named groups, the latest first. -/
  names : List (String × Nat)
  /-- The groups that are referred back to. -/
  referenced : List Nat

/-- Reads a pattern. -/
def read (pattern : String) : Except Error Outline :=
  let start : Reading :=
    { rest := pattern.toList
      position := 0
      size := pattern.utf8ByteSize
      flags := .none
      opened := 0
      names := []
      referenced := []
      byNumber := false }
  match Reader.pattern.run start with
  | .ok (e, r) => .ok ⟨e, r.names, r.referenced⟩
  | .error e => .error e

end Railroad.Regex
