import Mathlib.Logic.Relation
import Railroad.Drawing
import Railroad.Proofs.Filling

/-!
# The places of shapes in a drawing

The painter goes down the shapes and works out the corner of each one again. Here the corners are kept:
a placed shape has the shapes inside it at their places, and its drawing is what it draws itself together
with their drawings, each at its place. Which shapes come from a layout is said by one rule for each kind
of shape, so what holds of them is shown once for all trees.
-/

namespace Railroad

open scoped Scalar

/-- The shapes that a shape holds, in order. -/
def Visual.children {α : Type} : Visual α → List (Visual α)
  | start _ | finish _ | terminal _ _ _ => []
  | track _ visuals | branch _ visuals => visuals
  | loop _ _ _ content | frame _ _ content => [content]

/-- The shape that is reached by going down from a shape, at each step to the one that it holds at an
index. -/
def Visual.at? {α : Type} : List Nat → Visual α → Option (Visual α)
  | [], visual => some visual
  | index :: path, visual => visual.children[index]?.bind (at? path)

/-- A shape whose top left corner is at a point. -/
structure Placed (α : Type) where
  /-- The shape. -/
  visual : Visual α
  /-- How far right its corner is. -/
  x : α
  /-- How far down its corner is. -/
  y : α

variable {α : Type} [Scalar α]

namespace Placed

/-- The height of the line on which the shape is entered and left. -/
def axis (p : Placed α) : α := p.y + p.visual.size.height / 2

/-- The right side of the shape. -/
def right (p : Placed α) : α := p.x + p.visual.size.width

/-- The point where the shape is entered. -/
def entry (p : Placed α) : α × α := (p.x, p.axis)

/-- The point where the shape is left. -/
def exit (p : Placed α) : α × α := (p.right, p.axis)

/-- The drawing of the shape at its place. -/
def marks (m : Metrics α) (p : Placed α) : List (Mark α) := p.visual.marks m p.x p.y

/-- Further items of a track, each behind a rail, of which the first one begins at `x`. -/
def items (m : Metrics α) (axis x : α) : List (Visual α) → List (Placed α)
  | [] => []
  | item :: rest =>
    ⟨item, x + m.path, axis - item.size.height / 2⟩ ::
      items m axis (x + m.path + item.size.width) rest

/-- The rails in front of these items. -/
def joins (m : Metrics α) (axis x : α) : List (Visual α) → List (Mark α)
  | [] => []
  | item :: rest =>
    .rail x axis (x + m.path) axis :: joins m axis (x + m.path + item.size.width) rest

/-- The rows of a branch of the given size that begins at `x`, from the line at `top` on. -/
def rows (m : Metrics α) (size : Size α) (x top : α) : List (Visual α) → List (Placed α)
  | [] => []
  | row :: rest =>
    let outer := Visual.rowSize m row
    ⟨row, x + (size.width - row.size.width) / 2, top + outer.height / 2 - row.size.height / 2⟩ ::
      rows m size x (top + outer.height + m.separator) rest

/-- What stands around these rows: the rails to and from each one, and the word between two of them. -/
def forks (m : Metrics α) (size : Size α) (x top : α) : List (Visual α) → List (Mark α)
  | [] => []
  | row :: rest =>
    let outer := Visual.rowSize m row
    let axis := top + outer.height / 2
    let left := x + (size.width - row.size.width) / 2
    let bottom := top + outer.height
    let separator := match rest with
      | [] => []
      | _ :: _ => [.text .note (x + size.width / 2) (bottom + m.separator / 2) "or"]
    .rail x axis left axis :: .rail (left + row.size.width) axis (x + size.width) axis :: separator ++
      forks m size x (bottom + m.separator) rest

/-- The shapes that a placed shape holds, at their places. -/
def inside (m : Metrics α) (p : Placed α) : List (Placed α) :=
  match p.visual with
  | .start _ | .finish _ | .terminal _ _ _ | .track _ [] => []
  | .track _ (item :: rest) =>
    ⟨item, p.x, p.axis - item.size.height / 2⟩ :: items m p.axis (p.x + item.size.width) rest
  | .branch size visuals => rows m size p.x (p.y + m.stub) visuals
  | .loop size _ _ content =>
    [⟨content, p.x + (size.width - content.size.width) / 2, p.axis - content.size.height / 2⟩]
  | .frame size _ content =>
    [⟨content, p.x + (size.width - content.size.width) / 2, p.y + m.framePad⟩]

/-- The marks that a placed shape draws itself. -/
def own (m : Metrics α) (p : Placed α) : List (Mark α) :=
  match p.visual with
  | .start size => Visual.terminusMarks true size p.x p.y
  | .finish size => Visual.terminusMarks false size p.x p.y
  | .track _ [] => [.rail p.x p.axis p.right p.axis]
  | .track _ (item :: rest) => joins m p.axis (p.x + item.size.width) rest
  | .branch size visuals =>
    forks m size p.x (p.y + m.stub) visuals ++
      Visual.spineMarks size p.x (Visual.rowAxes m (p.y + m.stub) visuals)
  | .loop size rails caption content =>
    let left := p.x + (size.width - content.size.width) / 2
    .rail p.x p.axis left p.axis :: .rail (left + content.size.width) p.axis p.right p.axis ::
      Visual.loopMarks m size rails caption content.size p.x p.y
  | .frame size label content =>
    let left := p.x + (size.width - content.size.width) / 2
    .rail p.x p.axis left p.axis :: .rail (left + content.size.width) p.axis p.right p.axis ::
      Visual.frameMarks m size label p.x p.y
  | .terminal size style text => Visual.boxMarks m size style text p.x p.y

omit [Scalar α] in
/-- The drawing of one shape in front of others can be set aside. -/
theorem perm_setAside {drawing rest ownRest inside : List (Mark α)} (own : List (Mark α))
    (h : rest.Perm (ownRest ++ inside)) :
    (drawing ++ (own ++ rest)).Perm (own ++ (ownRest ++ (drawing ++ inside))) := by
  have hrest : (own ++ (drawing ++ rest)).Perm (own ++ (ownRest ++ (drawing ++ inside))) :=
    .append_left own ((h.append_left drawing).trans (List.perm_append_comm_assoc _ _ _))
  exact (List.perm_append_comm_assoc _ _ _).trans hrest

/-- Further items are drawn with the rails in front of them. -/
theorem itemMarks_perm (m : Metrics α) (axis x : α) (visuals : List (Visual α)) :
    (Visual.itemMarks m axis x visuals).Perm
      (joins m axis x visuals ++ (items m axis x visuals).flatMap (marks m)) := by
  induction visuals generalizing x with
  | nil => exact .refl _
  | cons item rest ih =>
    exact .cons _ (perm_setAside [] (ih _))

/-- Rows are drawn with what stands around them. -/
theorem rowMarks_perm (m : Metrics α) (size : Size α) (x top : α) (visuals : List (Visual α)) :
    (Visual.rowMarks m size x top visuals).Perm
      (forks m size x top visuals ++ (rows m size x top visuals).flatMap (marks m)) := by
  induction visuals generalizing top with
  | nil => exact .refl _
  | cons row rest ih =>
    have hrest := ih (top + (Visual.rowSize m row).height + m.separator)
    simp only [Visual.rowMarks, forks, rows, List.flatMap_cons, List.cons_append, List.append_assoc]
    exact .cons _ (perm_setAside (_ :: _) hrest)

/-- A shape is drawn by what it draws itself and by the drawings of the shapes inside it, each at its
place. -/
theorem marks_perm (m : Metrics α) (p : Placed α) :
    (p.marks m).Perm (p.own m ++ (p.inside m).flatMap (marks m)) := by
  obtain ⟨visual, x, y⟩ := p
  cases visual with
  | start size => exact .of_eq (List.append_nil _).symm
  | finish size => exact .of_eq (List.append_nil _).symm
  | terminal size style text => exact .of_eq (List.append_nil _).symm
  | track size visuals =>
    cases visuals with
    | nil => exact .refl _
    | cons item rest =>
      exact perm_setAside [] (itemMarks_perm m (y + size.height / 2) (x + item.size.width) rest)
  | branch size visuals =>
    have hrows := rowMarks_perm m size x (y + m.stub) visuals
    refine (hrows.append_right _).trans ?_
    simp only [own, inside, List.append_assoc]
    exact .append_left _ List.perm_append_comm
  | loop size rails caption content =>
    simp only [marks, Visual.marks, own, inside, List.flatMap_singleton, List.cons_append]
    refine .cons _ (List.perm_append_comm.trans ?_)
    exact .refl _
  | frame size label content =>
    simp only [marks, Visual.marks, own, inside, List.flatMap_singleton, List.cons_append]
    refine (List.perm_append_singleton _ _).trans ?_
    exact (List.perm_middle.cons _).trans (.swap _ _ _)

/-- Further items are placed in order. -/
theorem map_visual_items (m : Metrics α) (axis x : α) (visuals : List (Visual α)) :
    (items m axis x visuals).map (·.visual) = visuals := by
  induction visuals generalizing x with
  | nil => rfl
  | cons item rest ih => exact congrArg (item :: ·) (ih _)

/-- Rows are placed in order. -/
theorem map_visual_rows (m : Metrics α) (size : Size α) (x top : α) (visuals : List (Visual α)) :
    (rows m size x top visuals).map (·.visual) = visuals := by
  induction visuals generalizing top with
  | nil => rfl
  | cons row rest ih => exact congrArg (row :: ·) (ih _)

/-- The shapes inside a placed shape are those that the shape holds. -/
theorem map_visual_inside (m : Metrics α) (p : Placed α) :
    (p.inside m).map (·.visual) = p.visual.children := by
  obtain ⟨visual, x, y⟩ := p
  cases visual with
  | start size => rfl
  | finish size => rfl
  | terminal size style text => rfl
  | track size visuals =>
    cases visuals with
    | nil => rfl
    | cons item rest => exact congrArg (item :: ·) (map_visual_items m _ _ rest)
  | branch size visuals => exact map_visual_rows m size x _ visuals
  | loop size rails caption content => rfl
  | frame size label content => rfl

/-- A shape inside a placed shape is one that the shape holds. -/
theorem visual_mem_children {m : Metrics α} {p q : Placed α} (h : q ∈ p.inside m) :
    q.visual ∈ p.visual.children :=
  map_visual_inside m p ▸ List.mem_map_of_mem h

end Placed

/-- The shapes that come from a layout, each from the shapes inside it. Where `filled` holds, no branch is
without rows. -/
inductive Visual.LaidOut (m : Metrics α) (filled : Prop) : Visual α → Prop
  /-- The entry. -/
  | start : LaidOut m filled (.start (terminusSize m))
  /-- The exit. -/
  | finish : LaidOut m filled (.finish (terminusSize m))
  /-- A track. -/
  | track {items : List (Visual α)} (inside : ∀ item ∈ items, LaidOut m filled item) :
      LaidOut m filled (trackOf m items)
  /-- A branch. -/
  | branch {rows : List (Visual α)} (rows_ne_nil : filled → rows ≠ [])
      (inside : ∀ row ∈ rows, LaidOut m filled row) : LaidOut m filled (branchOf m rows)
  /-- A loop. -/
  | loop (repetition : Repetition) (greedy : Bool) {content : Visual α}
      (inside : LaidOut m filled content) : LaidOut m filled (loopOf m repetition greedy content)
  /-- A frame. -/
  | frame (label : String) {content : Visual α} (inside : LaidOut m filled content) :
      LaidOut m filled (frameOf m label content)
  /-- A box. -/
  | box (t : Terminal) : LaidOut m filled (boxOf m t)

namespace Visual

mutual

/-- The shapes of a tree come from a layout. -/
theorem laidOut_ofNode (m : Metrics α) {filled : Prop} : (node : Node) → (filled → node.Filled) →
    LaidOut m filled (ofNode m node)
  | .sequence parts, h => .track (laidOut_ofNodes m parts h)
  | .choice options, h =>
    .branch
      (fun hfilled hnone => by
        have hoptions : options ≠ [] := (h hfilled).1
        cases options with
        | nil => exact hoptions rfl
        | cons option options => cases hnone)
      (laidOut_ofNodes m options fun hfilled => (h hfilled).2)
  | .quantified repetition greedy content, h => .loop repetition greedy (laidOut_ofNode m content h)
  | .group _ _ label content, h => .frame label (laidOut_ofNode m content h)
  | .terminal t, _ => .box t

/-- The shapes of a list of trees come from a layout. -/
theorem laidOut_ofNodes (m : Metrics α) {filled : Prop} : (nodes : List Node) →
    (filled → Node.FilledAll nodes) → ∀ visual ∈ ofNodes m nodes, LaidOut m filled visual
  | [], _ => fun _ hmem => absurd hmem List.not_mem_nil
  | node :: nodes, h => by
    have hnode := laidOut_ofNode m node fun hfilled => (h hfilled).1
    have hmore := laidOut_ofNodes m nodes fun hfilled => (h hfilled).2
    exact List.forall_mem_cons.mpr ⟨hnode, hmore⟩

end

end Visual

/-- The shapes of a diagram come from a layout. -/
theorem Diagram.laidOut_root {filled : Prop} {node : Node} (h : filled → node.Filled) (scale : Nat) :
    let diagram : Diagram α := ofNode node scale
    diagram.root.LaidOut diagram.metrics filled := by
  intro diagram
  have hends : ∀ item ∈ [.start (Visual.terminusSize diagram.metrics),
      Visual.ofNode diagram.metrics node, .finish (Visual.terminusSize diagram.metrics)],
      item.LaidOut diagram.metrics filled := by
    simp only [List.forall_mem_cons]
    exact ⟨.start, Visual.laidOut_ofNode _ node h, .finish, List.forall_mem_nil _⟩
  exact .track hends

namespace Visual

/-- The shapes that a shape from a layout holds come from the layout as well. -/
theorem LaidOut.children {m : Metrics α} {filled : Prop} {visual child : Visual α}
    (h : visual.LaidOut m filled) (hchild : child ∈ visual.children) : child.LaidOut m filled := by
  cases h with
  | start => exact absurd hchild List.not_mem_nil
  | finish => exact absurd hchild List.not_mem_nil
  | box t => exact absurd hchild List.not_mem_nil
  | @track items inside =>
    cases items with
    | nil => exact absurd hchild List.not_mem_nil
    | cons item rest => exact inside child hchild
  | branch _ inside => exact inside child hchild
  | loop _ _ inside =>
    rw [List.mem_singleton.mp hchild]
    exact inside
  | frame _ inside =>
    rw [List.mem_singleton.mp hchild]
    exact inside

omit [Scalar α] in
/-- A shape is a larger tree than each one that it holds. -/
theorem sizeOf_children {visual child : Visual α} (h : child ∈ visual.children) :
    sizeOf child < sizeOf visual := by
  cases visual with
  | start size => exact absurd h List.not_mem_nil
  | finish size => exact absurd h List.not_mem_nil
  | terminal size style text => exact absurd h List.not_mem_nil
  | track size visuals =>
    have hmember := List.sizeOf_lt_of_mem h
    simp only [children, track.sizeOf_spec] at hmember ⊢
    omega
  | branch size visuals =>
    have hmember := List.sizeOf_lt_of_mem h
    simp only [children, branch.sizeOf_spec] at hmember ⊢
    omega
  | loop size rails caption content =>
    rw [List.mem_singleton.mp h, loop.sizeOf_spec]
    omega
  | frame size label content =>
    rw [List.mem_singleton.mp h, frame.sizeOf_spec]
    omega

end Visual

namespace Placed

/-- What holds of a shape wherever it holds of the shapes inside it holds of every shape. -/
theorem inside_induction {m : Metrics α} {motive : Placed α → Prop}
    (step : ∀ p, (∀ q ∈ p.inside m, motive q) → motive p) (p : Placed α) : motive p :=
  step p fun q _ => inside_induction step q
termination_by sizeOf p.visual
decreasing_by exact Visual.sizeOf_children (visual_mem_children ‹_›)

/-- A shape stands somewhere inside another one, or is that one. -/
def Within (m : Metrics α) : Placed α → Placed α → Prop :=
  Relation.ReflTransGen fun outer inner => inner ∈ outer.inside m

/-- Whatever stands inside a shape that comes from a layout comes from it as well. -/
theorem Within.laidOut {m : Metrics α} {filled : Prop} {p q : Placed α} (h : Within m p q)
    (hp : p.visual.LaidOut m filled) : q.visual.LaidOut m filled := by
  induction h with
  | refl => exact hp
  | tail _ hinside ih => exact ih.children (visual_mem_children hinside)

/-- The drawing of a shape inside another one is part of the drawing of the other one. -/
theorem Within.marks_subset {m : Metrics α} {p q : Placed α} (h : Within m p q) :
    q.marks m ⊆ p.marks m := by
  induction h with
  | refl => exact List.Subset.refl _
  | @tail r q _ hinside ih =>
    intro mark hmem
    have hdrawn : mark ∈ r.own m ++ (r.inside m).flatMap (marks m) :=
      List.mem_append_right _ (List.mem_flatMap.mpr ⟨q, hinside, hmem⟩)
    exact ih ((r.marks_perm m).mem_iff.mpr hdrawn)

end Placed

/-- The outermost shape of a diagram at its place on the page. -/
def Diagram.placed (diagram : Diagram α) : Placed α :=
  ⟨diagram.root, diagram.metrics.path, diagram.metrics.path⟩

end Railroad
