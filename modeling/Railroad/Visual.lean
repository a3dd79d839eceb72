import Railroad.Scalar

/-!
# Diagrams

A diagram is a tree of shapes with their sizes: tracks of items, branches of rows, loops and frames
around a content, boxes, and the two ends of the whole.
-/

namespace Railroad

/-- The extent of a rectangle. -/
structure Size (α : Type) where
  /-- From left to right. -/
  width : α
  /-- From top to bottom. -/
  height : α
  deriving DecidableEq, Repr

/-- How the box of a terminal is drawn. -/
inductive BoxStyle where
  /-- A set of characters. -/
  | charClass
  /-- A control character. -/
  | controlChar
  /-- A position. -/
  | anchor
  /-- Plain text. -/
  | literal
  /-- The text of an earlier group. -/
  | backreference
  /-- A switch of flags. -/
  | modifier
  /-- Anything that is only named. -/
  | unknown
  deriving DecidableEq, Repr

/-- The name of the style. -/
def BoxStyle.name : BoxStyle → String
  | charClass => "char-class"
  | controlChar => "control-char"
  | anchor => "anchor"
  | literal => "literal"
  | backreference => "backreference"
  | modifier => "modifier"
  | unknown => "unknown"

/-- The texts of a box. -/
structure BoxText where
  /-- The caption. -/
  label : String
  /-- A second line. -/
  detail : Option String
  /-- A sentence that is shown on demand. -/
  tooltip : String
  deriving DecidableEq, Repr

/-- The rails of a loop around its content. -/
structure LoopRails where
  /-- Whether an arc above the content skips it. -/
  bypass : Bool
  /-- Whether an arc below the content returns to its beginning. -/
  loopBack : Bool
  /-- Whether low counts are tried first. -/
  lazy : Bool
  deriving DecidableEq, Repr

/-- A shape with its size, and the shapes inside it. -/
inductive Visual (α : Type) where
  /-- The entry of the diagram. -/
  | start (size : Size α)
  /-- The exit of the diagram. -/
  | finish (size : Size α)
  /-- Items from left to right, joined by straight rails. -/
  | track (size : Size α) (items : List (Visual α))
  /-- Rows that fan out from one entry and merge into one exit. -/
  | branch (size : Size α) (rows : List (Visual α))
  /-- A repeated content with a caption. -/
  | loop (size : Size α) (rails : LoopRails) (caption : String) (content : Visual α)
  /-- A dashed frame around a group. -/
  | frame (size : Size α) (label : String) (content : Visual α)
  /-- A box. -/
  | terminal (size : Size α) (style : BoxStyle) (text : BoxText)
  deriving Repr

namespace Visual

variable {α : Type}

/-- The size of a visual. -/
def size : Visual α → Size α
  | start size | finish size | track size _ | branch size _ | loop size _ _ _ | frame size _ _
  | terminal size _ _ => size

/-- The shapes apart from what they hold. -/
inductive Kind where
  /-- The entry. -/
  | start
  /-- The exit. -/
  | finish
  /-- A track. -/
  | track
  /-- A branch. -/
  | branch
  /-- A loop. -/
  | loop
  /-- A frame. -/
  | frame
  /-- A box. -/
  | terminal
  deriving DecidableEq, Repr

/-- The shape of a visual. -/
def kind : Visual α → Kind
  | start _ => .start
  | finish _ => .finish
  | track _ _ => .track
  | branch _ _ => .branch
  | loop _ _ _ _ => .loop
  | frame _ _ _ => .frame
  | terminal _ _ _ => .terminal

mutual

/-- The number of shapes of the given kinds in a diagram, the outermost one included. -/
def count (p : Kind → Bool) : Visual α → Nat
  | start _ => if p .start then 1 else 0
  | finish _ => if p .finish then 1 else 0
  | track _ items => (if p .track then 1 else 0) + countAll p items
  | branch _ rows => (if p .branch then 1 else 0) + countAll p rows
  | loop _ _ _ content => (if p .loop then 1 else 0) + content.count p
  | frame _ _ content => (if p .frame then 1 else 0) + content.count p
  | terminal _ _ _ => if p .terminal then 1 else 0

/-- The number of shapes of the given kinds in a list of diagrams. -/
def countAll (p : Kind → Bool) : List (Visual α) → Nat
  | [] => 0
  | visual :: visuals => visual.count p + countAll p visuals

end

end Visual

/-- A diagram and the zoom it was laid out at. -/
structure Diagram (α : Type) where
  /-- The zoom in percent. -/
  scale : Nat
  /-- The shapes, from the entry to the exit. -/
  root : Visual α
  deriving Repr

end Railroad
