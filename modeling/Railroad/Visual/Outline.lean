import Railroad.Visual

/-!
# Outlines

A diagram as indented lines of text. Items of a track stay at the depth of the track; what a branch, a
loop or a frame holds is one level deeper.
-/

namespace Railroad

variable {α : Type}

/-- A line of an outline. -/
structure OutlineLine where
  /-- How deep it is indented. -/
  depth : Nat
  /-- Its text. -/
  text : String
  deriving DecidableEq, Repr

/-- The line with its indentation and its end. -/
def OutlineLine.render (line : OutlineLine) : String :=
  String.ofList (List.replicate (2 * line.depth) ' ') ++ line.text ++ "\n"

/-- The mark of a loop: whether it can be skipped, and whether it can be repeated. -/
def LoopRails.mark (rails : LoopRails) : String :=
  match rails.bypass, rails.loopBack with
  | true, true => "↻?"
  | true, false => "?"
  | false, true => "↻"
  | false, false => "="

/-- The line of a box. -/
def BoxText.line (text : BoxText) : String :=
  match text.detail with
  | some detail => s!"[{text.label}] {detail}  -- {text.tooltip}"
  | none => s!"[{text.label}]  -- {text.tooltip}"

namespace Visual

mutual

/-- The lines of a diagram. -/
def outlineLines (depth : Nat) : Visual α → List OutlineLine
  | start _ => [⟨depth, "○ start"⟩]
  | finish _ => [⟨depth, "● end"⟩]
  | track _ [] => [⟨depth, "─ (nothing)"⟩]
  | track _ (item :: items) => item.outlineLines depth ++ itemLines depth items
  | branch _ rows =>
    ⟨depth, s!"┬ one of {rows.length} branches"⟩ :: match rows with
      | [] => []
      | row :: rows => row.outlineLines (depth + 1) ++ rowLines (depth + 1) rows
  | loop _ rails caption content =>
    ⟨depth, s!"{rails.mark} {caption}"⟩ :: content.outlineLines (depth + 1)
  | frame _ label content => ⟨depth, s!"┌ {label}"⟩ :: content.outlineLines (depth + 1)
  | terminal _ _ text => [⟨depth, text.line⟩]

/-- The lines of further items of a track. -/
def itemLines (depth : Nat) : List (Visual α) → List OutlineLine
  | [] => []
  | item :: items => item.outlineLines depth ++ itemLines depth items

/-- The lines of further rows of a branch, each behind a separator. -/
def rowLines (depth : Nat) : List (Visual α) → List OutlineLine
  | [] => []
  | row :: rows => ⟨depth, "── or ──"⟩ :: (row.outlineLines depth ++ rowLines depth rows)

end

end Visual

/-- The outline of a diagram. -/
def Diagram.outline (diagram : Diagram α) : String :=
  String.join ((diagram.root.outlineLines 0).map OutlineLine.render)

end Railroad
