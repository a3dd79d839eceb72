import Railroad.Visual.Layout
import Railroad.Visual.Outline

/-!
# What a diagram shows of a tree

Every node of a syntax tree has one shape in the diagram, and the shapes are nested and ordered as the
nodes are. A shape has the texts of its node. The zoom has no part in this, and an outline, which has no
lengths, does not depend on it either.
-/

namespace Railroad

variable {α β : Type}

/-- The item may be left out when the lower bound is zero. -/
theorem Repetition.allowsZero_iff (r : Repetition) : r.allowsZero = true ↔ r.min = 0 := by
  rw [allowsZero, beq_iff_eq]

/-- The item may occur more than once when there is no upper bound, or one that is greater. -/
theorem Repetition.allowsMany_iff (r : Repetition) :
    r.allowsMany = true ↔ ∀ high, r.max? = some high → 1 < high := by
  unfold allowsMany
  cases r.max? with
  | none => simp only [reduceCtorEq, false_implies, implies_true]
  | some bound => simp only [decide_eq_true_eq, Option.some.injEq, forall_eq']

namespace Node

/-- The nodes apart from what they hold. -/
inductive Kind where
  /-- A sequence. -/
  | sequence
  /-- A choice. -/
  | choice
  /-- A repeated part. -/
  | quantified
  /-- A group. -/
  | group
  /-- A leaf. -/
  | terminal
  deriving DecidableEq, Repr

/-- The shape that stands for a node. -/
def Kind.shape : Kind → Visual.Kind
  | sequence => .track
  | choice => .branch
  | quantified => .loop
  | group => .frame
  | terminal => .terminal

/-- Nodes of different kinds have different shapes. -/
theorem Kind.shape_beq_shape (kind other : Kind) : (kind.shape == other.shape) = (kind == other) := by
  cases kind <;> cases other <;> rfl

/-- No node is drawn as the entry. -/
theorem Kind.shape_beq_start (kind : Kind) : (kind.shape == .start) = false := by
  cases kind <;> rfl

/-- No node is drawn as the exit. -/
theorem Kind.shape_beq_finish (kind : Kind) : (kind.shape == .finish) = false := by
  cases kind <;> rfl

mutual

/-- The number of nodes of the given kinds in a tree, the outermost one included. -/
def count (p : Kind → Bool) : Node → Nat
  | sequence parts => (if p .sequence then 1 else 0) + countAll p parts
  | choice options => (if p .choice then 1 else 0) + countAll p options
  | quantified _ _ content => (if p .quantified then 1 else 0) + content.count p
  | group _ _ _ content => (if p .group then 1 else 0) + content.count p
  | terminal _ => if p .terminal then 1 else 0

/-- The number of nodes of the given kinds in a list of trees. -/
def countAll (p : Kind → Bool) : List Node → Nat
  | [] => 0
  | node :: nodes => node.count p + countAll p nodes

end

mutual

/-- There are no nodes of no kind. -/
theorem count_false : (node : Node) → (node.count fun _ => false) = 0
  | .sequence parts => by rw [count, countAll_false parts]; rfl
  | .choice options => by rw [count, countAll_false options]; rfl
  | .quantified _ _ content => by rw [count, count_false content]; rfl
  | .group _ _ _ content => by rw [count, count_false content]; rfl
  | .terminal _ => rfl

/-- There are no nodes of no kind in a list of trees. -/
theorem countAll_false : (nodes : List Node) → countAll (fun _ => false) nodes = 0
  | [] => rfl
  | node :: nodes => by rw [countAll, count_false node, countAll_false nodes]

end

end Node

namespace Visual

mutual

/-- The shapes of a diagram without their sizes. -/
def unsized : Visual α → Visual Unit
  | start _ => .start ⟨(), ()⟩
  | finish _ => .finish ⟨(), ()⟩
  | track _ items => .track ⟨(), ()⟩ (unsizedAll items)
  | branch _ rows => .branch ⟨(), ()⟩ (unsizedAll rows)
  | loop _ rails caption content => .loop ⟨(), ()⟩ rails caption content.unsized
  | frame _ label content => .frame ⟨(), ()⟩ label content.unsized
  | terminal _ style text => .terminal ⟨(), ()⟩ style text

/-- The shapes of a list of diagrams without their sizes. -/
def unsizedAll : List (Visual α) → List (Visual Unit)
  | [] => []
  | visual :: visuals => visual.unsized :: unsizedAll visuals

end

mutual

/-- A shape stands for a node, whatever its size: it has the texts of the node, and what is inside it
stands for what is inside the node, one for one and in order. -/
inductive Depicts : Node → Visual α → Prop
  /-- A track for a sequence. -/
  | sequence (size : Size α) {parts : List Node} {items : List (Visual α)}
      (inside : DepictsAll parts items) : Depicts (.sequence parts) (.track size items)
  /-- A branch for a choice. -/
  | choice (size : Size α) {options : List Node} {rows : List (Visual α)}
      (inside : DepictsAll options rows) : Depicts (.choice options) (.branch size rows)
  /-- A loop for a repeated part: an arc that skips it if it may be left out, an arc back if it may
  occur more than once, and the repetition in words. -/
  | quantified (size : Size α) {repetition : Repetition} {greedy : Bool} {rails : LoopRails}
      {caption : String} {content : Node} {visual : Visual α}
      (bypass_iff : rails.bypass = true ↔ repetition.min = 0)
      (loopBack_iff : rails.loopBack = true ↔ ∀ high, repetition.max? = some high → 1 < high)
      (lazy_iff : rails.lazy = true ↔ greedy = false)
      (caption_greedy : greedy = true → caption = repetition.describe)
      (caption_lazy : greedy = false → caption = repetition.describe ++ " (lazy)")
      (inside : Depicts content visual) :
      Depicts (.quantified repetition greedy content) (.loop size rails caption visual)
  /-- A frame for a group. -/
  | group (size : Size α) {kind : GroupKind} {index : Option Nat} {label : String} {content : Node}
      {visual : Visual α} (inside : Depicts content visual) :
      Depicts (.group kind index label content) (.frame size label visual)
  /-- A box for a leaf. -/
  | terminal (size : Size α) {t : Terminal} :
      Depicts (.terminal t) (.terminal size t.kind.boxStyle ⟨t.label, t.detail, t.description⟩)

/-- Shapes stand for nodes one by one. -/
inductive DepictsAll : List Node → List (Visual α) → Prop
  /-- No shapes for no nodes. -/
  | nil : DepictsAll [] []
  /-- A shape for a node, and shapes for those behind it. -/
  | cons {node : Node} {nodes : List Node} {visual : Visual α} {visuals : List (Visual α)}
      (head : Depicts node visual) (tail : DepictsAll nodes visuals) :
      DepictsAll (node :: nodes) (visual :: visuals)

end

section

variable [Scalar α]

/-- A layout of items is a track, also where there is none. -/
theorem exists_trackOf (m : Metrics α) (items : List (Visual α)) :
    ∃ size, trackOf m items = .track size items := by
  cases items with
  | nil => exact ⟨_, rfl⟩
  | cons item items => exact ⟨_, rfl⟩

/-- The caption of a greedy loop is the repetition in words. -/
theorem loopCaption_greedy (r : Repetition) : loopCaption r true = r.describe :=
  if_pos rfl

/-- The caption of a lazy loop says so. -/
theorem loopCaption_lazy (r : Repetition) : loopCaption r false = r.describe ++ " (lazy)" :=
  if_neg Bool.false_ne_true

mutual

/-- The layout of a tree stands for the tree. -/
theorem depicts_ofNode (m : Metrics α) : (node : Node) → Depicts node (ofNode m node)
  | .sequence parts => by
    obtain ⟨size, htrack⟩ := exists_trackOf m (ofNodes m parts)
    rw [ofNode, htrack]
    exact .sequence size (depictsAll_ofNodes m parts)
  | .choice options => .choice _ (depictsAll_ofNodes m options)
  | .quantified repetition greedy content => by
    refine .quantified _ repetition.allowsZero_iff repetition.allowsMany_iff ?_ ?_ ?_
      (depicts_ofNode m content)
    · exact Bool.not_eq_true' greedy ▸ Iff.rfl
    · rintro rfl
      exact loopCaption_greedy repetition
    · rintro rfl
      exact loopCaption_lazy repetition
  | .group _ _ _ content => .group _ (depicts_ofNode m content)
  | .terminal _ => .terminal _

/-- The layouts of trees stand for the trees. -/
theorem depictsAll_ofNodes (m : Metrics α) : (nodes : List Node) → DepictsAll nodes (ofNodes m nodes)
  | [] => .nil
  | node :: nodes => .cons (depicts_ofNode m node) (depictsAll_ofNodes m nodes)

end

end

mutual

/-- There are as many shapes of any kinds as there are nodes that such shapes stand for. -/
theorem count_of_depicts (p : Kind → Bool) :
    {node : Node} → {visual : Visual α} → Depicts node visual →
      visual.count p = node.count fun kind => p kind.shape
  | .sequence _, _, .sequence _ inside => by
    rw [Visual.count, Node.count, countAll_of_depictsAll p inside, Node.Kind.shape]
  | .choice _, _, .choice _ inside => by
    rw [Visual.count, Node.count, countAll_of_depictsAll p inside, Node.Kind.shape]
  | .quantified _ _ _, _, .quantified _ _ _ _ _ _ inside => by
    rw [Visual.count, Node.count, count_of_depicts p inside, Node.Kind.shape]
  | .group _ _ _ _, _, .group _ inside => by
    rw [Visual.count, Node.count, count_of_depicts p inside, Node.Kind.shape]
  | .terminal _, _, .terminal _ => by
    rw [Visual.count, Node.count, Node.Kind.shape]

/-- There are as many shapes in a list as there are nodes that they stand for. -/
theorem countAll_of_depictsAll (p : Kind → Bool) :
    {nodes : List Node} → {visuals : List (Visual α)} → DepictsAll nodes visuals →
      countAll p visuals = Node.countAll (fun kind => p kind.shape) nodes
  | [], _, .nil => rfl
  | _ :: _, _, .cons head tail => by
    rw [Visual.countAll, Node.countAll, count_of_depicts p head, countAll_of_depictsAll p tail]

end

mutual

/-- Two diagrams of one tree differ in their sizes alone. -/
theorem unsized_of_depicts : {node : Node} → {first : Visual α} → {second : Visual β} →
    Depicts node first → Depicts node second → first.unsized = second.unsized
  | .sequence _, _, _, .sequence _ inside, .sequence _ inside' => by
    rw [unsized, unsized, unsizedAll_of_depictsAll inside inside']
  | .choice _, _, _, .choice _ inside, .choice _ inside' => by
    rw [unsized, unsized, unsizedAll_of_depictsAll inside inside']
  | .quantified _ greedy _, .loop _ rails _ _, .loop _ rails' _ _,
      .quantified _ bypass loopBack isLazy whenGreedy whenLazy inside,
      .quantified _ bypass' loopBack' isLazy' whenGreedy' whenLazy' inside' => by
    have hrails : rails = rails' := by
      have hbypass := Bool.eq_iff_iff.mpr (bypass.trans bypass'.symm)
      have hloopBack := Bool.eq_iff_iff.mpr (loopBack.trans loopBack'.symm)
      have hlazy := Bool.eq_iff_iff.mpr (isLazy.trans isLazy'.symm)
      cases rails
      cases rails'
      simp_all only
    rw [unsized, unsized, hrails, unsized_of_depicts inside inside']
    cases greedy with
    | false => rw [whenLazy rfl, whenLazy' rfl]
    | true => rw [whenGreedy rfl, whenGreedy' rfl]
  | .group _ _ _ _, _, _, .group _ inside, .group _ inside' => by
    rw [unsized, unsized, unsized_of_depicts inside inside']
  | .terminal _, _, _, .terminal _, .terminal _ => by rw [unsized, unsized]

/-- Two lists of diagrams of the same trees differ in their sizes alone. -/
theorem unsizedAll_of_depictsAll : {nodes : List Node} → {first : List (Visual α)} →
    {second : List (Visual β)} → DepictsAll nodes first → DepictsAll nodes second →
      unsizedAll first = unsizedAll second
  | [], _, _, .nil, .nil => rfl
  | _ :: _, _, _, .cons head tail, .cons head' tail' => by
    rw [unsizedAll, unsizedAll, unsized_of_depicts head head', unsizedAll_of_depictsAll tail tail']

end

/-- A list of shapes keeps its length when the sizes are left out. -/
theorem length_unsizedAll (visuals : List (Visual α)) :
    (unsizedAll visuals).length = visuals.length := by
  induction visuals with
  | nil => rfl
  | cons visual visuals ih => rw [unsizedAll, List.length_cons, List.length_cons, ih]

mutual

/-- The lines of an outline do not depend on the sizes. -/
theorem outlineLines_unsized (depth : Nat) : (visual : Visual α) →
    visual.unsized.outlineLines depth = visual.outlineLines depth
  | .start _ => rfl
  | .finish _ => rfl
  | .track _ [] => rfl
  | .track _ (item :: items) => by
    rw [unsized, unsizedAll, outlineLines, outlineLines, outlineLines_unsized depth item,
      itemLines_unsizedAll depth items]
  | .branch _ [] => rfl
  | .branch _ (row :: rows) => by
    rw [unsized, unsizedAll, outlineLines, outlineLines, outlineLines_unsized (depth + 1) row,
      rowLines_unsizedAll (depth + 1) rows, List.length_cons, List.length_cons, length_unsizedAll]
  | .loop _ _ _ content => by
    rw [unsized, outlineLines, outlineLines, outlineLines_unsized (depth + 1) content]
  | .frame _ _ content => by
    rw [unsized, outlineLines, outlineLines, outlineLines_unsized (depth + 1) content]
  | .terminal _ _ _ => rfl

/-- The lines of further items do not depend on the sizes. -/
theorem itemLines_unsizedAll (depth : Nat) : (items : List (Visual α)) →
    itemLines depth (unsizedAll items) = itemLines depth items
  | [] => rfl
  | item :: items => by
    rw [unsizedAll, itemLines, itemLines, outlineLines_unsized depth item,
      itemLines_unsizedAll depth items]

/-- The lines of further rows do not depend on the sizes. -/
theorem rowLines_unsizedAll (depth : Nat) : (rows : List (Visual α)) →
    rowLines depth (unsizedAll rows) = rowLines depth rows
  | [] => rfl
  | row :: rows => by
    rw [unsizedAll, rowLines, rowLines, outlineLines_unsized depth row,
      rowLines_unsizedAll depth rows]

end

end Visual

namespace Diagram

/-- A diagram shows a tree and nothing else. -/
structure Pictures (diagram : Diagram α) (node : Node) : Prop where
  /-- The shapes of the tree stand between the entry and the exit. -/
  between : ∃ size entry exit visual, diagram.root = .track size [.start entry, visual, .finish exit] ∧
    Visual.Depicts node visual
  /-- There is one entry. -/
  starts : diagram.root.count (· == .start) = 1
  /-- There is one exit. -/
  finishes : diagram.root.count (· == .finish) = 1
  /-- There is a loop for each repeated part. -/
  loops : diagram.root.count (· == .loop) = node.count (· == .quantified)
  /-- There is a frame for each group. -/
  frames : diagram.root.count (· == .frame) = node.count (· == .group)
  /-- There is a box for each leaf. -/
  boxes : diagram.root.count (· == .terminal) = node.count (· == .terminal)
  /-- There is a branch for each choice. -/
  branches : diagram.root.count (· == .branch) = node.count (· == .choice)
  /-- There is a track for each sequence, and the outermost one. -/
  tracks : diagram.root.count (· == .track) = node.count (· == .sequence) + 1

/-- The shapes of a page: the outermost track, the two ends, and the shapes of the tree. -/
theorem count_root {diagram : Diagram α} {node : Node} {size entry exit : Size α}
    {visual : Visual α} (hroot : diagram.root = .track size [.start entry, visual, .finish exit])
    (hvisual : Visual.Depicts node visual) (p : Visual.Kind → Bool) :
    diagram.root.count p = (if p .track then 1 else 0) + (if p .start then 1 else 0) +
      (if p .finish then 1 else 0) + node.count fun kind => p kind.shape := by
  have hcount := Visual.count_of_depicts p hvisual
  simp only [hroot, Visual.count, Visual.countAll, hcount]
  omega

/-- The diagram of a tree has the shapes of the tree between its two ends. -/
theorem exists_root [Scalar α] (node : Node) (scale : Nat) :
    ∃ size entry exit visual, (ofNode node scale : Diagram α).root =
      .track size [.start entry, visual, .finish exit] ∧ Visual.Depicts node visual :=
  ⟨_, _, _, _, rfl, Visual.depicts_ofNode _ node⟩

/-- The diagram of a tree shows the tree and nothing else. -/
theorem pictures_ofNode [Scalar α] (node : Node) (scale : Nat) :
    (ofNode node scale : Diagram α).Pictures node := by
  obtain ⟨size, entry, exit, visual, hroot, hvisual⟩ := exists_root (α := α) node scale
  have hcount := count_root hroot hvisual
  have hshape (kind : Node.Kind) :
      (node.count fun other => other.shape == kind.shape) = node.count (· == kind) := by
    simp only [Node.Kind.shape_beq_shape]
  have hstart : (node.count fun other => other.shape == .start) = 0 := by
    simp only [Node.Kind.shape_beq_start, Node.count_false]
  have hfinish : (node.count fun other => other.shape == .finish) = 0 := by
    simp only [Node.Kind.shape_beq_finish, Node.count_false]
  refine ⟨⟨size, entry, exit, visual, hroot, hvisual⟩, ?_, ?_, ?_, ?_, ?_, ?_, ?_⟩
  · rw [hcount, hstart]
    rfl
  · rw [hcount, hfinish]
    rfl
  · rw [hcount]
    exact (Nat.zero_add _).trans (hshape .quantified)
  · rw [hcount]
    exact (Nat.zero_add _).trans (hshape .group)
  · rw [hcount]
    exact (Nat.zero_add _).trans (hshape .terminal)
  · rw [hcount]
    exact (Nat.zero_add _).trans (hshape .choice)
  · rw [hcount]
    exact (Nat.add_comm _ _).trans (congrArg (· + 1) (hshape .sequence))

/-- The diagram of a tree is the image of the tree between an entry and an exit: one shape for each
node, nested and ordered as the nodes are, with the texts of the node. At any two zooms, and whether
lengths are floating point numbers or fractions, the shapes are the same but for their sizes, and so is
the outline. -/
theorem ofNode_image [Scalar α] [Scalar β] (node : Node) (scale scale' : Nat) :
    (ofNode node scale : Diagram α).Pictures node ∧
      (ofNode node scale : Diagram α).root.unsized = (ofNode node scale' : Diagram β).root.unsized ∧
      (ofNode node scale : Diagram α).outline = (ofNode node scale' : Diagram β).outline := by
  obtain ⟨size, entry, exit, visual, hroot, hvisual⟩ := exists_root (α := α) node scale
  obtain ⟨size', entry', exit', visual', hroot', hvisual'⟩ := exists_root (α := β) node scale'
  have hunsized : (ofNode node scale : Diagram α).root.unsized =
      (ofNode node scale' : Diagram β).root.unsized := by
    simp only [hroot, hroot', Visual.unsized, Visual.unsizedAll,
      Visual.unsized_of_depicts hvisual hvisual']
  have hlines : (ofNode node scale : Diagram α).root.outlineLines 0 =
      (ofNode node scale' : Diagram β).root.outlineLines 0 := by
    rw [← Visual.outlineLines_unsized, hunsized, Visual.outlineLines_unsized]
  exact ⟨pictures_ofNode node scale, hunsized, by rw [outline, outline, hlines]⟩

end Diagram

end Railroad
