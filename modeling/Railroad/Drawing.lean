import Railroad.Visual.Layout

/-!
# Drawing a diagram

A diagram is drawn as marks: rails, arcs, boxes and texts at places in the plane. Every shape is entered
on its left edge and left on its right edge, on the horizontal line through its middle, its axis.
-/

namespace Railroad

open scoped Scalar

/-- How a text is set. -/
inductive TextStyle where
  /-- In the middle of a box. -/
  | label
  /-- In the middle, less prominent. -/
  | note
  /-- From the left, less prominent. -/
  | caption
  deriving DecidableEq, Repr

/-- Something that is drawn. -/
inductive Mark (α : Type) where
  /-- A straight rail between two points. -/
  | rail (x1 y1 x2 y2 : α)
  /-- A detour between two points on the line at `axis`, through the line at `level`. -/
  | arc (lazy : Bool) (fromX toX level axis : α)
  /-- An arrow head to the left whose tip is at a point. -/
  | arrowHead (tip y size : α)
  /-- The disc of the entry or of the exit, with its word. -/
  | terminus (isEntry : Bool) (x y radius : α)
  /-- The frame of a group. -/
  | frame (x y width height radius : α)
  /-- The box of a terminal. -/
  | box (style : BoxStyle) (x y width height radius : α)
  /-- A text at a point. -/
  | text (style : TextStyle) (x y : α) (content : String)
  /-- Marks that show a sentence on demand. -/
  | titled (title : String) (marks : List (Mark α))
  deriving Repr

variable {α : Type} [Scalar α]

namespace Visual

/-- The disc and the word of an end of the diagram. -/
def terminusMarks (isEntry : Bool) (size : Size α) (x y : α) : List (Mark α) :=
  [.terminus isEntry (x + size.width / 2) (y + size.height / 2) (size.width / 2)]

/-- The frame of a group and its caption. -/
def frameMarks (m : Metrics α) (size : Size α) (label : String) (x y : α) : List (Mark α) :=
  [.frame (x + m.frameMargin) y (size.width - 2 * m.frameMargin) size.height m.stub,
    .text .caption (x + m.frameMargin + m.framePad / 2) (y + m.framePad / 2) label]

/-- The arcs of a loop around a content of the given place and size, and its caption. -/
def loopMarks (m : Metrics α) (size : Size α) (rails : LoopRails) (caption : String)
    (content : Size α) (x y : α) : List (Mark α) :=
  let axis := y + size.height / 2
  let left := x + (size.width - content.width) / 2
  let top := axis - content.height / 2
  let outerLeft := left - m.path / 2
  let outerRight := left + content.width + m.path / 2
  let upper := top - m.arc / 2
  let lower := top + content.height + m.arc / 2
  (if rails.bypass then [.arc false outerLeft outerRight upper axis] else []) ++
  (if rails.loopBack then
    [.arc rails.lazy outerRight outerLeft lower axis,
      .arrowHead (x + size.width / 2 - m.stub / 2) lower m.stub]
    else []) ++
  [.text .note (x + size.width / 2) (y + size.height - m.caption / 2) caption]

/-- The box of a terminal with its texts. -/
def boxMarks (m : Metrics α) (size : Size α) (style : BoxStyle) (text : BoxText) (x y : α) :
    List (Mark α) :=
  let labelY := y + m.boxPadY + m.lineHeight / 2
  let detail := match text.detail with
    | some detail =>
      [.text .note (x + size.width / 2) (labelY + m.lineHeight / 2 + m.detailHeight / 2) detail]
    | none => []
  [.titled text.tooltip
    ([.box style x y size.width size.height m.boxPadY,
      .text .label (x + size.width / 2) labelY text.label] ++ detail)]

/-- The vertical rails that join the rows of a branch, whose axes are given from top to bottom. -/
def spineMarks (size : Size α) (x : α) (axes : List α) : List (Mark α) :=
  match axes.head?, axes.getLast? with
  | some first, some last =>
    [.rail x first x last, .rail (x + size.width) first (x + size.width) last]
  | _, _ => []

/-- The axes of rows that stand one above the other from the line at `top` on. -/
def rowAxes (m : Metrics α) (top : α) : List (Visual α) → List α
  | [] => []
  | row :: rows =>
    let outer := rowSize m row
    (top + outer.height / 2) :: rowAxes m (top + outer.height + m.separator) rows

mutual

/-- The marks of a diagram whose top left corner is at a point. -/
def marks (m : Metrics α) (x y : α) : Visual α → List (Mark α)
  | start size => terminusMarks true size x y
  | finish size => terminusMarks false size x y
  | track size items =>
    let axis := y + size.height / 2
    match items with
    | [] => [.rail x axis (x + size.width) axis]
    | item :: rest =>
      item.marks m x (axis - item.size.height / 2) ++
        itemMarks m axis (x + item.size.width) rest
  | branch size rows =>
    rowMarks m size x (y + m.stub) rows ++ spineMarks size x (rowAxes m (y + m.stub) rows)
  | loop size rails caption content =>
    let axis := y + size.height / 2
    let left := x + (size.width - content.size.width) / 2
    .rail x axis left axis :: content.marks m left (axis - content.size.height / 2) ++
      .rail (left + content.size.width) axis (x + size.width) axis ::
        loopMarks m size rails caption content.size x y
  | frame size label content =>
    let axis := y + size.height / 2
    let left := x + (size.width - content.size.width) / 2
    frameMarks m size label x y ++
      .rail x axis left axis :: content.marks m left (y + m.framePad) ++
        [.rail (left + content.size.width) axis (x + size.width) axis]
  | terminal size style text => boxMarks m size style text x y

/-- The marks of further items of a track, each behind a rail that begins at `x`. -/
def itemMarks (m : Metrics α) (axis x : α) : List (Visual α) → List (Mark α)
  | [] => []
  | item :: rest =>
    .rail x axis (x + m.path) axis ::
      item.marks m (x + m.path) (axis - item.size.height / 2) ++
        itemMarks m axis (x + m.path + item.size.width) rest

/-- The marks of the rows of a branch of the given size that begins at `x`, from the line at `top`
on, with a separator behind each row but the last. -/
def rowMarks (m : Metrics α) (size : Size α) (x top : α) : List (Visual α) → List (Mark α)
  | [] => []
  | row :: rest =>
    let outer := rowSize m row
    let axis := top + outer.height / 2
    let left := x + (size.width - row.size.width) / 2
    let bottom := top + outer.height
    let separator := match rest with
      | [] => []
      | _ :: _ => [.text .note (x + size.width / 2) (bottom + m.separator / 2) "or"]
    .rail x axis left axis :: row.marks m left (axis - row.size.height / 2) ++
      .rail (left + row.size.width) axis (x + size.width) axis :: separator ++
        rowMarks m size x (bottom + m.separator) rest

end

end Visual

namespace Diagram

/-- The metrics that the diagram was laid out with. -/
def metrics (diagram : Diagram α) : Metrics α := .ofScale diagram.scale

/-- The size of the page: the diagram with a margin on all sides. -/
def pageSize (diagram : Diagram α) : Size α :=
  let margin := diagram.metrics.path
  ⟨diagram.root.size.width + 2 * margin, diagram.root.size.height + 2 * margin⟩

/-- The marks of the page. -/
def marks (diagram : Diagram α) : List (Mark α) :=
  let margin := diagram.metrics.path
  diagram.root.marks diagram.metrics margin margin

end Diagram

end Railroad
