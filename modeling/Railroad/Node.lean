import Railroad.Repetition

/-!
# Syntax trees

A pattern as a tree of alternatives, sequences, repetitions, groups and terminals. The tree holds all
texts that a diagram shows.
-/

namespace Railroad

/-- The kind of a group. -/
inductive GroupKind where
  /-- A numbered group. -/
  | capturing
  /-- A numbered group with a name. -/
  | named (name : String)
  /-- A group for precedence only. -/
  | nonCapturing
  /-- A group with flags of its own. -/
  | flagged (flags : String)
  /-- A group that gives nothing back once it has matched. -/
  | atomic
  /-- A positive lookahead. -/
  | lookAhead
  /-- A negative lookahead. -/
  | negativeLookAhead
  /-- A positive lookbehind. -/
  | lookBehind
  /-- A negative lookbehind. -/
  | negativeLookBehind
  /-- A choice that depends on a condition, given by its text. -/
  | conditional (condition : String)
  deriving DecidableEq, Repr

namespace GroupKind

/-- Whether groups of this kind are numbered. -/
def isCapturing : GroupKind → Bool
  | capturing | named _ => true
  | _ => false

/-- Whether groups of this kind look at the text around a position. -/
def isLookaround : GroupKind → Bool
  | lookAhead | negativeLookAhead | lookBehind | negativeLookBehind => true
  | _ => false

/-- The caption of a condition: a group number, a group name in its delimiters, a lookaround or any
other expression. -/
def conditionLabel (condition : String) : String :=
  if condition.toList.all Char.isDigit then s!"Conditional (if group #{condition} matched)"
  else match condition.toList with
    | '<' :: _ | '\'' :: _ => s!"Conditional (if group {condition} matched)"
    | '?' :: _ => s!"Conditional (if ({condition}) matches)"
    | _ => s!"Conditional (if {condition} matches)"

/-- The caption of a group, with its number if it has one. -/
def label (kind : GroupKind) (index : Option Nat) : String :=
  match kind, index with
  | capturing, some i => s!"Capturing group #{i}"
  | named name, some i => s!"Capturing group #{i} <{name}>"
  | capturing, none => "Capturing group"
  | named name, none => s!"Capturing group <{name}>"
  | nonCapturing, _ => "Non-capturing group"
  | flagged flags, _ => s!"Non-capturing group (flags: {flags})"
  | atomic, _ => "Atomic group"
  | lookAhead, _ => "Positive lookahead"
  | negativeLookAhead, _ => "Negative lookahead"
  | lookBehind, _ => "Positive lookbehind"
  | negativeLookBehind, _ => "Negative lookbehind"
  | conditional condition, _ => conditionLabel condition

end GroupKind

/-- The kind of a terminal. -/
inductive TerminalKind where
  /-- A set of characters. -/
  | charClass
  /-- A control character. -/
  | controlChar
  /-- A position. -/
  | anchor
  /-- Plain text. -/
  | literal (value : String)
  /-- The text of an earlier group. -/
  | backreference (group : Nat)
  /-- A switch of flags. -/
  | modifier
  /-- Anything that is only named. -/
  | unknown
  deriving DecidableEq, Repr

/-- A leaf of the tree: one token and the texts that describe it. -/
structure Terminal where
  /-- The kind of terminal. -/
  kind : TerminalKind
  /-- The text of the token. -/
  raw : String
  /-- The caption of its box. -/
  label : String
  /-- A sentence about it. -/
  description : String
  /-- A second line in the box: the inside of a class that has no caption of its own. -/
  detail : Option String
  deriving DecidableEq, Repr

/-- A syntax tree. -/
inductive Node where
  /-- Parts that follow each other. -/
  | sequence (parts : List Node)
  /-- Alternatives. -/
  | choice (options : List Node)
  /-- A repeated part; a greedy one tries high counts first. -/
  | quantified (repetition : Repetition) (greedy : Bool) (content : Node)
  /-- A group, its number if it has one, and its caption. -/
  | group (kind : GroupKind) (index : Option Nat) (label : String) (content : Node)
  /-- A leaf. -/
  | terminal (t : Terminal)
  deriving Repr

namespace Node

/-- A sequence of parts, where a single part stands for itself. -/
def ofParts : List Node → Node
  | [part] => part
  | parts => .sequence parts

/-- A choice between options, where a single option stands for itself. -/
def ofOptions : List Node → Node
  | [option] => option
  | options => .choice options

/-- Whether the node is a position and takes no text. -/
def isZeroWidth : Node → Bool
  | terminal t =>
    match t.kind with
    | .anchor | .modifier => true
    | _ => false
  | group kind _ _ _ => kind.isLookaround
  | sequence _ | choice _ | quantified _ _ _ => false

mutual

/-- The numbers of the groups in a tree, in the order of their opening parentheses. -/
def captures : Node → List Nat
  | sequence parts => capturesOfAll parts
  | choice options => capturesOfAll options
  | quantified _ _ content => content.captures
  | group _ index _ content => index.toList ++ content.captures
  | terminal _ => []

/-- The numbers of the groups in a list of trees. -/
def capturesOfAll : List Node → List Nat
  | [] => []
  | node :: nodes => node.captures ++ capturesOfAll nodes

end

end Node

end Railroad
