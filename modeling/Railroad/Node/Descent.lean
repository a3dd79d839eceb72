import Railroad.Node.Parser

/-!
# Building the tree by descent

A second way of reading tokens: one reader for each rule of the grammar, each of which begins where the
one before it stopped. Two loops go through the alternatives of a group and through the items of an
alternative. A reader of a primary also answers what it could only meet if the loops around it let it:
the end of the tokens, a bar or a close. What it answers there is left open, and so is how a token is
turned into a terminal or a kind of group, which may have no answer at all.

The loops and the groups inside each other are counted, and a count that is used up has no outcome. Since
every item takes a token, a count above the number of tokens that are left is never used up.
-/

namespace Railroad.Node

/-- How far a descent has come. -/
structure Cursor where
  /-- The tokens that are left. -/
  rest : List Token
  /-- The number of the next group. -/
  next : Nat
  /-- The named groups so far with their numbers, the latest first. -/
  names : List (String × Nat)

/-- A reader of a descent. It ends with a value or an error, and a reader whose count is used up or that asks
for something without an answer has no outcome. -/
abbrev Descent (α : Type) : Type := StateT Cursor (ExceptT ParseError Option) α

/-- What a descent needs to know about tokens. -/
structure Views where
  /-- The terminal for a token, given the known names. -/
  terminal : List (String × Nat) → Token → Option Terminal
  /-- The kind of the group that a token opens. -/
  kind : Opener → Token → Option GroupKind
  /-- The error where a primary is to begin with a bar, a close or, without a token, the end. -/
  astray : Option Token → ParseError

namespace Descent

/-- The answer to a question about a token, if there is one. -/
def ask {α : Type} (answer : Option α) : Descent α :=
  StateT.lift (ExceptT.lift answer)

/-- The next token, which stays where it is. -/
def peek : Descent (Option Token) := do
  return (← get).rest.head?

/-- Goes on behind the next token. -/
def advance : Descent Unit :=
  modify fun cursor => { cursor with rest := cursor.rest.drop 1 }

/-- Takes the number of the group that is opened, if it gets one. -/
def takeNumber (opener : Opener) : Descent (Option Nat) := do
  if opener.isCapturing then
    let number := (← get).next
    modify fun cursor => { cursor with next := number + 1 }
    return some number
  else
    return none

/-- Makes the name of a group known. -/
def declareName (kind : GroupKind) (number : Option Nat) : Descent Unit :=
  match kind, number with
  | .named name, some number =>
    modify fun cursor => { cursor with names := (name, number) :: cursor.names }
  | _, _ => return ()

/-- Returns a node, unless a quantifier follows that something is to be done about. -/
def unlessQuantifier (node : Node) (act : Token → Quantifier → Descent Node) : Descent Node := do
  match ← peek with
  | some token =>
    match token.kind with
    | .quantifier q => act token q
    | _ => return node
  | none => return node

section Readers

/- The reader of the alternatives in parentheses is the one that is being defined, so it is handed down to
the readers that come across an opener. -/
variable (inside : Descent Node) (views : Views)

/-- A group behind its opener. -/
def group (opener : Opener) (token : Token) : Descent Node := do
  let number ← takeNumber opener
  let kind ← ask (views.kind opener token)
  declareName kind number
  let content ← inside
  match ← peek with
  | some last =>
    match last.kind with
    | .groupClose =>
      advance
      return Node.group kind number (kind.label number) content
    | _ => throw .unbalancedParentheses
  | none => throw .unbalancedParentheses

/-- A terminal or a group. -/
def primary : Descent Node := do
  match ← peek with
  | none => throw (views.astray none)
  | some token =>
    advance
    match token.kind with
    | .groupOpen opener => group inside views opener token
    | .quantifier _ => throw (.nothingToRepeat token.raw)
    | .groupClose | .alternation => throw (views.astray (some token))
    | .trivia => throw (.unexpectedToken token.raw)
    | _ =>
      let t ← ask (views.terminal (← get).names token)
      return .terminal t

/-- A primary with at most one quantifier. -/
def item : Descent Node := do
  let content ← primary inside views
  unlessQuantifier content fun token q =>
    if content.isZeroWidth then
      throw (.quantifiedAssertion token.raw)
    else do
      advance
      unlessQuantifier (quantify q content) fun second _ => throw (.repeatedQuantifier second.raw)

/-- The items of an alternative behind those that have been read. -/
def items : Nat → List Node → Descent Node
  | 0, _ => ask none
  | limit + 1, parts => do
    match ← peek with
    | some token =>
      match token.kind with
      | .groupClose | .alternation => return .ofParts parts
      | _ =>
        let part ← item inside views
        items limit (parts ++ [part])
    | none => return .ofParts parts

/-- The alternatives behind those that have been read. -/
def moreOptions : Nat → List Node → Descent Node
  | 0, _ => ask none
  | limit + 1, options => do
    match ← peek with
    | some token =>
      match token.kind with
      | .alternation =>
        advance
        let option ← items inside views limit []
        moreOptions limit (options ++ [option])
      | _ => return .ofOptions options
    | none => return .ofOptions options

end Readers

/-- Sequences with bars between them. -/
def alternatives (views : Views) : Nat → Descent Node
  | 0 => ask none
  | limit + 1 => do
    let first ← items (alternatives views limit) views (limit + 1) []
    moreOptions (alternatives views limit) views (limit + 1) [first]

/-- A tree that takes all tokens. -/
def whole (views : Views) (limit : Nat) : Descent Node := do
  let node ← alternatives views limit
  match ← peek with
  | some token => throw (.unexpectedToken token.raw)
  | none => return node

end Descent

/-- The tree of a list of tokens, by descent. -/
def descend (views : Views) (tokens : List Token) : Option (Except ParseError Node) :=
  ((Descent.whole views (tokens.length + 1)).run' ⟨tokens, 1, []⟩).run

end Railroad.Node
