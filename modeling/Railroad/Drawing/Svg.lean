import Railroad.Drawing
import Railroad.Drawing.Markup
import Railroad.Text.Decimal

/-!
# Vector graphics

The page of a diagram as a standalone SVG document. Lengths are written with one digit behind the
point; how a mark looks is left to one style sheet.
-/

namespace Railroad

open scoped Scalar

variable {α : Type} [Scalar α]

/-- The style sheet of every document. -/
def styleSheet : String := String.join [
  ".rail\x7bstroke:#dc2626;stroke-width:2;fill:none\x7d",
  ".lazy\x7bstroke-dasharray:4 3\x7d",
  ".frame\x7bstroke:#9ca3af;stroke-width:2;stroke-dasharray:6 4;fill:#f3f4f6\x7d",
  ".box\x7bstroke-width:2;fill:#fff\x7d",
  ".char-class\x7bstroke:#34d399\x7d.anchor\x7bstroke:#a78bfa\x7d",
  ".control-char\x7bstroke:#e879f9\x7d",
  ".literal\x7bstroke:#38bdf8\x7d.backreference\x7bstroke:#fb923c\x7d",
  ".modifier\x7bstroke:#94a3b8\x7d.unknown\x7bstroke:#64748b\x7d",
  ".start\x7bfill:#22c55e;stroke:#15803d\x7d.end\x7bfill:#334155;stroke:#0f172a\x7d",
  ".label\x7btext-anchor:middle;dominant-baseline:middle\x7d",
  ".note\x7bfill:#6b7280;text-anchor:middle;dominant-baseline:middle\x7d",
  ".caption\x7bfill:#6b7280;dominant-baseline:middle\x7d"]

/-- A length as it stands in a document. -/
def lengthText (length : α) : String := Text.oneDecimal (Scalar.value length)

/-- The class of a text style. -/
def TextStyle.name : TextStyle → String
  | label => "label"
  | note => "note"
  | caption => "caption"

namespace Mark

/-- The path of a detour. -/
def arcPath (fromX toX level axis : α) : String :=
  s!"M {lengthText fromX} {lengthText axis} V {lengthText level} H {lengthText toX} " ++
    s!"V {lengthText axis}"

/-- The path of an arrow head. -/
def arrowPath (tip y size : α) : String :=
  s!"M {lengthText tip} {lengthText y} l {lengthText size} {lengthText (-size / 2)} " ++
    s!"v {lengthText size} z"

mutual

/-- The elements of a mark. -/
def markup : Mark α → List Markup
  | rail x1 y1 x2 y2 =>
    [.empty "line" [("class", "rail"), ("x1", lengthText x1), ("y1", lengthText y1),
      ("x2", lengthText x2), ("y2", lengthText y2)]]
  | arc lazy fromX toX level axis =>
    [.empty "path" [("class", if lazy then "rail lazy" else "rail"),
      ("d", arcPath fromX toX level axis)]]
  | arrowHead tip y size => [.empty "path" [("fill", "#dc2626"), ("d", arrowPath tip y size)]]
  | terminus isEntry x y radius =>
    let word := if isEntry then "start" else "end"
    [.empty "circle" [("class", word), ("cx", lengthText x), ("cy", lengthText y),
        ("r", lengthText radius)],
      .holding "text" [("class", "label"), ("fill", "#fff"), ("x", lengthText x),
        ("y", lengthText y)] word]
  | frame x y width height radius =>
    [.empty "rect" [("class", "frame"), ("x", lengthText x), ("y", lengthText y),
      ("width", lengthText width), ("height", lengthText height), ("rx", lengthText radius)]]
  | box style x y width height radius =>
    [.empty "rect" [("class", "box " ++ style.name), ("x", lengthText x), ("y", lengthText y),
      ("width", lengthText width), ("height", lengthText height), ("rx", lengthText radius)]]
  | text style x y content =>
    [.holding "text" [("class", style.name), ("x", lengthText x), ("y", lengthText y)] content]
  | titled title marks => [.enclosing "g" [] (.holding "title" [] title :: markupOfAll marks)]

/-- The elements of marks in drawing order. -/
def markupOfAll : List (Mark α) → List Markup
  | [] => []
  | mark :: marks => mark.markup ++ markupOfAll marks

end

end Mark

namespace Diagram

/-- The document of a diagram as a tree of elements. -/
def svgMarkup (diagram : Diagram α) : Markup :=
  let page := diagram.pageSize
  let width := lengthText page.width
  let height := lengthText page.height
  let fontSize := lengthText (diagram.metrics.lineHeight * (8 / 10))
  .enclosing "svg" [("xmlns", "http://www.w3.org/2000/svg"), ("width", width), ("height", height),
      ("viewBox", s!"0 0 {width} {height}"), ("font-family", "monospace"), ("font-size", fontSize)]
    (.holding "style" [] styleSheet :: Mark.markupOfAll diagram.marks)

/-- The document of a diagram. -/
def svg (diagram : Diagram α) : String := diagram.svgMarkup.render

end Diagram

end Railroad
