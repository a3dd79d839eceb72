import Railroad.Json
import Railroad.Text.Decimal
import Railroad.Visual

/-!
# Diagrams as structured text

Every shape is an object with its size first and the name of its shape second.
-/

namespace Railroad

/-- A length, by the shortest numeral for it. -/
def Json.length (x : Float) : Json := .number (Text.shortest x)

/-- The size of a shape. -/
def Size.json (size : Size Float) : Json :=
  .object [("width", .length size.width), ("height", .length size.height)]

namespace Visual

/-- A shape with its size and further fields. -/
def jsonObject (size : Size Float) (shape : String) (fields : List (String × Json)) : Json :=
  .object (("size", size.json) :: ("shape", .string shape) :: fields)

mutual

/-- A shape and the shapes inside it. -/
def json : Visual Float → Json
  | start size => jsonObject size "start" []
  | finish size => jsonObject size "end" []
  | track size items => jsonObject size "track" [("items", .array (jsonOfAll items))]
  | branch size rows => jsonObject size "branch" [("rows", .array (jsonOfAll rows))]
  | loop size rails caption content =>
    jsonObject size "loop" [("bypass", .bool rails.bypass), ("loop_back", .bool rails.loopBack),
      ("lazy", .bool rails.lazy), ("caption", .string caption), ("content", content.json)]
  | frame size label content =>
    jsonObject size "frame" [("label", .string label), ("content", content.json)]
  | terminal size style text =>
    jsonObject size "terminal" [("style", .string style.name), ("label", .string text.label),
      ("detail", .ofOption .string text.detail), ("tooltip", .string text.tooltip)]

/-- Shapes in a row. -/
def jsonOfAll : List (Visual Float) → List Json
  | [] => []
  | visual :: visuals => visual.json :: jsonOfAll visuals

end

end Visual

/-- A diagram with its zoom. -/
def Diagram.json (diagram : Diagram Float) : Json :=
  .object [("scale", .nat diagram.scale), ("root", diagram.root.json)]

end Railroad
