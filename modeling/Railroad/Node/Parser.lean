import Railroad.Terminal.Wording
import Railroad.Token.Lexer

/-!
# Building the tree

The tokens are read from left to right. What has been read is kept as a stack of open groups, and each
level of the stack holds its finished alternatives and the items of the current one. A token either
extends the innermost level, opens a level, or closes one, so a fault is found at the first token that
has no place.
-/

namespace Railroad

/-- Why tokens form no tree. -/
inductive ParseError where
  /-- A group is still open at the end. -/
  | unbalancedParentheses
  /-- A token that has no place where it stands, by its text. -/
  | unexpectedToken (raw : String)
  /-- A quantifier with nothing in front of it. -/
  | nothingToRepeat (raw : String)
  /-- A quantifier behind another one. -/
  | repeatedQuantifier (raw : String)
  /-- A quantifier behind a position. -/
  | quantifiedAssertion (raw : String)
  deriving DecidableEq, Repr

/-- The wording of the error. -/
def ParseError.message : ParseError → String
  | unbalancedParentheses => "unbalanced parentheses"
  | unexpectedToken raw => s!"unexpected token: {raw}"
  | nothingToRepeat raw => s!"nothing to repeat before quantifier {raw}"
  | repeatedQuantifier raw => s!"quantifier {raw} cannot follow another quantifier"
  | quantifiedAssertion raw => s!"quantifier {raw} cannot apply to a zero-width assertion"

namespace Node

/-- The caption of the group that a possessive quantifier stands for. -/
def possessiveLabel : String := "Atomic group (possessive)"

/-- A node under a quantifier. A possessive quantifier is an atomic group around the repetition. -/
def quantify (q : Quantifier) (node : Node) : Node :=
  let repeated := quantified q.repetition q.greedy node
  if q.possessive then group .atomic none possessiveLabel repeated else repeated

/-- A finished item of an alternative. -/
structure Item where
  /-- The tree of the item. -/
  node : Node
  /-- Whether a quantifier has been read for it. -/
  repeated : Bool

/-- What has been read inside one pair of parentheses. -/
structure Level where
  /-- The finished alternatives, the latest first. -/
  options : List Node
  /-- The items of the current alternative, the latest first. -/
  items : List Item

namespace Level

/-- The level in which nothing has been read. -/
def empty : Level := ⟨[], []⟩

/-- The current alternative. -/
def alternative (level : Level) : Node :=
  ofParts (level.items.reverse.map (·.node))

/-- All alternatives together. -/
def node (level : Level) : Node :=
  ofOptions (level.alternative :: level.options).reverse

/-- The level with one more item. -/
def push (level : Level) (node : Node) : Level :=
  ⟨level.options, ⟨node, false⟩ :: level.items⟩

/-- The level behind a bar, which finishes the current alternative. -/
def behindBar (level : Level) : Level :=
  ⟨level.alternative :: level.options, []⟩

end Level

/-- A group that has been opened. -/
structure OpenGroup where
  /-- What was read outside it before. -/
  outer : Level
  /-- Its kind. -/
  kind : GroupKind
  /-- Its number, if it has one. -/
  index : Option Nat

/-- The group with its content, once it is closed. -/
def OpenGroup.closed (g : OpenGroup) (content : Node) : Node :=
  group g.kind g.index (g.kind.label g.index) content

/-- How far the tokens have been read. -/
structure Progress where
  /-- The innermost level. -/
  level : Level
  /-- The open groups, the innermost first. -/
  groups : List OpenGroup
  /-- The number of the next group. -/
  next : Nat
  /-- The named groups so far with their numbers, the latest first. -/
  names : List (String × Nat)

namespace Progress

/-- Nothing has been read. -/
def start : Progress := ⟨.empty, [], 1, []⟩

/-- The terminal for a token that stands for itself. -/
def terminal? (progress : Progress) (token : Token) : Option Terminal :=
  let raw := token.raw
  match token.kind with
  | .charClass | .anchor | .controlChar => some ((Terminal.known? raw).getD (.literal raw))
  | .unicodeProperty negated => some (.unicodeProperty raw negated)
  | .bracket => some (.bracket raw)
  | .backreference number => some (.backreference raw number)
  | .namedBackreference =>
    let name := token.name?.getD ""
    some (.namedBackreference raw name (progress.names.lookup name))
  | .complex =>
    some ((Terminal.known? raw).getD
      (.unknown raw "Complex token the diagram does not break down."))
  | .escape => some (.escapedLiteral raw)
  | .inlineFlags => some (.modifier raw (token.flags?.getD ""))
  | .literal => some (.literal raw)
  | .quantifier _ | .groupOpen _ | .groupClose | .alternation | .trivia => none

/-- The kind of group that a token opens. -/
def kindOf (opener : Opener) (token : Token) : GroupKind :=
  match opener with
  | .capturing => .capturing
  | .named => .named (token.name?.getD "")
  | .nonCapturing => .nonCapturing
  | .flagged => .flagged (token.flags?.getD "")
  | .atomic => .atomic
  | .lookAhead => .lookAhead
  | .negativeLookAhead => .negativeLookAhead
  | .lookBehind => .lookBehind
  | .negativeLookBehind => .negativeLookBehind
  | .conditional => .conditional (token.condition?.getD "")

/-- The number of a group that is opened now. -/
def number? (progress : Progress) (opener : Opener) : Option Nat :=
  if opener.isCapturing then some progress.next else none

/-- Opens a group. A capturing group takes the next number here, so that numbers follow the opening
parentheses, and a name is known from here on. -/
def openGroup (progress : Progress) (opener : Opener) (token : Token) : Progress :=
  let kind := kindOf opener token
  { level := .empty
    groups := ⟨progress.level, kind, progress.number? opener⟩ :: progress.groups
    next := if opener.isCapturing then progress.next + 1 else progress.next
    names := match kind with
      | .named name => (name, progress.next) :: progress.names
      | _ => progress.names }

/-- Reads one token. -/
def step (progress : Progress) (token : Token) : Except ParseError Progress :=
  match token.kind with
  | .groupOpen opener => .ok (progress.openGroup opener token)
  | .groupClose =>
    match progress.groups with
    | [] => .error (.unexpectedToken token.raw)
    | g :: groups =>
      .ok { progress with level := g.outer.push (g.closed progress.level.node), groups := groups }
  | .alternation => .ok { progress with level := progress.level.behindBar }
  | .quantifier q =>
    match progress.level.items with
    | [] => .error (.nothingToRepeat token.raw)
    | item :: items =>
      if item.repeated then .error (.repeatedQuantifier token.raw)
      else if item.node.isZeroWidth then .error (.quantifiedAssertion token.raw)
      else .ok { progress with
        level := ⟨progress.level.options, ⟨quantify q item.node, true⟩ :: items⟩ }
  | _ =>
    match progress.terminal? token with
    | some t => .ok { progress with level := progress.level.push (.terminal t) }
    | none => .error (.unexpectedToken token.raw)

/-- Reads tokens until one has no place. -/
def run (progress : Progress) : List Token → Except ParseError Progress
  | [] => .ok progress
  | token :: tokens =>
    match progress.step token with
    | .ok progress => run progress tokens
    | .error e => .error e

/-- The tree, once every group is closed. -/
def finish (progress : Progress) : Except ParseError Node :=
  match progress.groups with
  | [] => .ok progress.level.node
  | _ :: _ => .error .unbalancedParentheses

end Progress

/-- The tree of a list of tokens. -/
def ofTokens (tokens : List Token) : Except ParseError Node :=
  match Progress.start.run tokens with
  | .ok progress => progress.finish
  | .error e => .error e

end Node

/-- Why a pattern has no tree. -/
inductive PatternError where
  /-- It cannot be cut into tokens. -/
  | tokens (error : TokenizeError)
  /-- Its tokens form no tree. -/
  | tree (error : ParseError)
  deriving DecidableEq, Repr

/-- The wording of the error. -/
def PatternError.message : PatternError → String
  | tokens e => e.message
  | tree e => e.message

/-- The tree of a pattern. Blanks and comments of the extended notation are left out. -/
def Node.ofPattern (pattern : String) : Except PatternError Node :=
  match tokenize pattern with
  | .error e => .error (.tokens e)
  | .ok tokens =>
    match Node.ofTokens (tokens.filter (·.kind != .trivia)) with
    | .error e => .error (.tree e)
    | .ok node => .ok node

end Railroad
