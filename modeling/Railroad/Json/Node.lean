import Railroad.Json
import Railroad.Node

/-!
# Syntax trees as structured text

Every node is an object that names its type first.
-/

namespace Railroad

/-- A repetition: a name, or a name with its bounds. -/
def Repetition.json : Repetition → Json
  | zeroOrMore => .string "zero-or-more"
  | oneOrMore => .string "one-or-more"
  | zeroOrOne => .string "zero-or-one"
  | exactly n => .object [("exactly", .nat n)]
  | atLeast n => .object [("at-least", .nat n)]
  | between n m => .object [("between", .array [.nat n, .nat m])]

/-- A kind of group, with its name, flags or condition. -/
def GroupKind.json (kind : GroupKind) : Json :=
  let plain (name : String) : Json := .object [("kind", .string name)]
  let tagged (name text : String) : Json := .object [("kind", .string name), ("name", .string text)]
  match kind with
  | capturing => plain "capturing"
  | named name => tagged "named" name
  | nonCapturing => plain "non-capturing"
  | flagged flags => tagged "flagged" flags
  | atomic => plain "atomic"
  | lookAhead => plain "look-ahead"
  | negativeLookAhead => plain "negative-look-ahead"
  | lookBehind => plain "look-behind"
  | negativeLookBehind => plain "negative-look-behind"
  | conditional condition => tagged "conditional" condition

/-- A kind of terminal. -/
def TerminalKind.json : TerminalKind → Json
  | charClass => .object [("class", .string "char-class")]
  | controlChar => .object [("class", .string "control-char")]
  | anchor => .object [("class", .string "anchor")]
  | literal value => .object [("class", .string "literal"), ("value", .string value)]
  | backreference group => .object [("class", .string "backreference"), ("group", .nat group)]
  | modifier => .object [("class", .string "modifier")]
  | unknown => .object [("class", .string "unknown")]

/-- The fields of a terminal. -/
def Terminal.jsonFields (t : Terminal) : List (String × Json) :=
  [("kind", t.kind.json), ("raw", .string t.raw), ("label", .string t.label),
    ("description", .string t.description), ("detail", .ofOption .string t.detail)]

namespace Node

mutual

/-- A syntax tree. -/
def json : Node → Json
  | sequence parts => .object [("type", .string "sequence"), ("parts", .array (jsonOfAll parts))]
  | choice options => .object [("type", .string "choice"), ("options", .array (jsonOfAll options))]
  | quantified repetition greedy content =>
    .object [("type", .string "quantifier"), ("kind", repetition.json), ("greedy", .bool greedy),
      ("content", content.json)]
  | group kind index label content =>
    .object [("type", .string "group"), ("kind", kind.json), ("index", .ofOption .nat index),
      ("label", .string label), ("content", content.json)]
  | terminal t => .object (("type", .string "terminal") :: t.jsonFields)

/-- Syntax trees in a row. -/
def jsonOfAll : List Node → List Json
  | [] => []
  | node :: nodes => node.json :: jsonOfAll nodes

end

end Node

end Railroad
