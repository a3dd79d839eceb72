import Railroad.Node
import Railroad.Visual

/-!
# Layout

A syntax tree becomes a tree of shapes, each just large enough for what it holds. All lengths come from
metrics that are proportional to the zoom, so the zoom changes sizes and nothing else.
-/

namespace Railroad

open scoped Scalar

/-- The lengths that a layout is made of. -/
structure Metrics (α : Type) where
  /-- The width of a character. -/
  charWidth : α
  /-- The height of a line of text. -/
  lineHeight : α
  /-- The height of a second line in a box. -/
  detailHeight : α
  /-- The space left and right of the text in a box. -/
  boxPadX : α
  /-- The space above and below the text in a box. -/
  boxPadY : α
  /-- The least width of a box. -/
  boxMinWidth : α
  /-- The length of a rail between two items. -/
  path : α
  /-- The diameter of the entry and the exit. -/
  terminus : α
  /-- The height kept free for an arc. -/
  arc : α
  /-- The height of a caption. -/
  caption : α
  /-- The space between a frame and its content. -/
  framePad : α
  /-- The space outside a frame. -/
  frameMargin : α
  /-- The space left and right of a row. -/
  rowPadX : α
  /-- The space above and below a row. -/
  rowPadY : α
  /-- The height of the separator between two rows. -/
  separator : α
  /-- The length of a short piece of rail. -/
  stub : α
  deriving Repr

/-- The least zoom in percent. -/
def minScale : Nat := 25

/-- The greatest zoom in percent. -/
def maxScale : Nat := 150

/-- The zoom at which lengths are in whole pixels. -/
def defaultScale : Nat := 100

variable {α : Type} [Scalar α]

namespace Metrics

/-- The metrics at a zoom in percent. -/
def ofScale (scale : Nat) : Metrics α :=
  let k : α := Scalar.ofNat scale / 100
  { charWidth := 8 * k
    lineHeight := 16 * k
    detailHeight := 14 * k
    boxPadX := 12 * k
    boxPadY := 6 * k
    boxMinWidth := 50 * k
    path := 24 * k
    terminus := 48 * k
    arc := 16 * k
    caption := 16 * k
    framePad := 16 * k
    frameMargin := 8 * k
    rowPadX := 16 * k
    rowPadY := 8 * k
    separator := 16 * k
    stub := 8 * k }

/-- The width of a text in one line. -/
def textWidth (m : Metrics α) (text : String) : α := Scalar.ofNat text.length * m.charWidth

end Metrics

/-- The style of the box for a kind of terminal. -/
def TerminalKind.boxStyle : TerminalKind → BoxStyle
  | charClass => .charClass
  | controlChar => .controlChar
  | anchor => .anchor
  | literal _ => .literal
  | backreference _ => .backreference
  | modifier => .modifier
  | unknown => .unknown

/-- The sum of lengths from left to right. -/
def sumOf (lengths : List α) : α := lengths.foldl (· + ·) 0

/-- The greatest of the lengths, and at least zero. -/
def greatestOf (lengths : List α) : α := lengths.foldl max 0

namespace Visual

/-- The entry or the exit: a disc. -/
def terminusSize (m : Metrics α) : Size α := ⟨m.terminus, m.terminus⟩

/-- Items side by side with a rail between neighbours. Nothing at all is a piece of rail. -/
def trackOf (m : Metrics α) (items : List (Visual α)) : Visual α :=
  match items with
  | [] => .track ⟨m.path, m.lineHeight⟩ []
  | _ :: _ =>
    let joins := Scalar.ofNat (items.length - 1) * m.path
    .track ⟨sumOf (items.map (·.size.width)) + joins, greatestOf (items.map (·.size.height))⟩ items

/-- The size of a row of a branch with the rails that lead in and out. -/
def rowSize (m : Metrics α) (row : Visual α) : Size α :=
  ⟨row.size.width + 2 * (m.path + m.rowPadX), row.size.height + 2 * m.rowPadY⟩

/-- Rows one above the other with a separator between neighbours. -/
def branchOf (m : Metrics α) (rows : List (Visual α)) : Visual α :=
  let outer := rows.map (rowSize m)
  let separators := Scalar.ofNat (rows.length - 1) * m.separator
  .branch ⟨greatestOf (outer.map (·.width)), sumOf (outer.map (·.height)) + separators + 2 * m.stub⟩
    rows

/-- The caption of a loop. -/
def loopCaption (repetition : Repetition) (greedy : Bool) : String :=
  if greedy then repetition.describe else repetition.describe ++ " (lazy)"

/-- A loop around its content, with room for the arcs and for the caption. -/
def loopOf (m : Metrics α) (repetition : Repetition) (greedy : Bool) (content : Visual α) :
    Visual α :=
  let caption := loopCaption repetition greedy
  .loop ⟨max (content.size.width + 2 * m.path) (m.textWidth caption),
      content.size.height + 2 * (m.arc + m.caption)⟩
    ⟨repetition.allowsZero, repetition.allowsMany, !greedy⟩ caption content

/-- A frame around its content, with room for the caption. -/
def frameOf (m : Metrics α) (label : String) (content : Visual α) : Visual α :=
  let inner := max content.size.width (m.textWidth label)
  .frame ⟨inner + 2 * (m.framePad + m.frameMargin), content.size.height + 2 * m.framePad⟩
    label content

/-- The box of a terminal, one line high or two. -/
def boxOf (m : Metrics α) (t : Terminal) : Visual α :=
  let detailWidth : α := match t.detail with
    | some detail => m.textWidth detail
    | none => 0
  let text := max (m.textWidth t.label) detailWidth
  let line := m.lineHeight + 2 * m.boxPadY
  let height := match t.detail with
    | some _ => line + m.detailHeight
    | none => line
  .terminal ⟨max (text + 2 * m.boxPadX) m.boxMinWidth, height⟩ t.kind.boxStyle
    ⟨t.label, t.detail, t.description⟩

mutual

/-- The shapes of a syntax tree. -/
def ofNode (m : Metrics α) : Node → Visual α
  | .sequence parts => trackOf m (ofNodes m parts)
  | .choice options => branchOf m (ofNodes m options)
  | .quantified repetition greedy content => loopOf m repetition greedy (ofNode m content)
  | .group _ _ label content => frameOf m label (ofNode m content)
  | .terminal t => boxOf m t

/-- The shapes of a list of syntax trees. -/
def ofNodes (m : Metrics α) : List Node → List (Visual α)
  | [] => []
  | node :: nodes => ofNode m node :: ofNodes m nodes

end

end Visual

/-- The zoom within its bounds. -/
def clampScale (scale : Nat) : Nat := min (max scale minScale) maxScale

/-- The diagram of a syntax tree between an entry and an exit. A zoom out of bounds counts as the
nearest bound. -/
def Diagram.ofNode (node : Node) (scale : Nat) : Diagram α :=
  let m : Metrics α := .ofScale (clampScale scale)
  ⟨clampScale scale, Visual.trackOf m
    [.start (Visual.terminusSize m), Visual.ofNode m node, .finish (Visual.terminusSize m)]⟩

end Railroad
