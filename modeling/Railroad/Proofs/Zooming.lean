import Mathlib
import Railroad.Proofs.Depiction
import Railroad.Proofs.Sizes

/-!
# Zooming

All metrics are in proportion to the zoom, and a layout in exact fractions adds lengths, compares them and
takes the greatest. So a layout with metrics that are `k` times as large is the layout as it was, with every
shape in it `k` times as large, and the shapes at one place of two diagrams have sizes in the ratio of the
zooms.
-/

namespace Railroad

open scoped Scalar

/-- A size with both lengths multiplied. -/
def Size.times (k : Rat) (size : Size Rat) : Size Rat := ⟨size.width * k, size.height * k⟩

namespace Metrics

/-- Metrics with every length multiplied. -/
def times (k : Rat) (m : Metrics Rat) : Metrics Rat where
  charWidth := m.charWidth * k
  lineHeight := m.lineHeight * k
  detailHeight := m.detailHeight * k
  boxPadX := m.boxPadX * k
  boxPadY := m.boxPadY * k
  boxMinWidth := m.boxMinWidth * k
  path := m.path * k
  terminus := m.terminus * k
  arc := m.arc * k
  caption := m.caption * k
  framePad := m.framePad * k
  frameMargin := m.frameMargin * k
  rowPadX := m.rowPadX * k
  rowPadY := m.rowPadY * k
  separator := m.separator * k
  stub := m.stub * k

/-- The metrics at a zoom are those at one percent, multiplied by the zoom. -/
theorem ofScale_eq_times (scale : Nat) :
    (ofScale scale : Metrics Rat) = (ofScale 1).times scale := by
  have hlength (n : Nat) : (n : Rat) * (scale / 100) = n * (1 / 100) * scale := by ring
  simp only [ofScale, times, Metrics.mk.injEq]
  and_intros
  all_goals exact hlength _

/-- The width of a text is multiplied with that of a character. -/
theorem textWidth_times (k : Rat) (m : Metrics Rat) (text : String) :
    (m.times k).textWidth text = m.textWidth text * k :=
  (mul_assoc (text.length : Rat) m.charWidth k).symm

end Metrics

/-- A sum is multiplied with all that it adds up. -/
theorem sumOf_times (k : Rat) (lengths : List Rat) :
    sumOf (lengths.map (· * k)) = sumOf lengths * k := by
  induction lengths with
  | nil => exact (zero_mul k).symm
  | cons length lengths ih =>
    rw [List.map_cons, sumOf_cons, sumOf_cons, ih]
    ring

/-- The greater of two lengths is multiplied with them. -/
theorem max_times {k : Rat} (hk : 0 ≤ k) (first second : Rat) :
    max (first * k) (second * k) = max first second * k :=
  (max_mul_of_nonneg first second hk).symm

/-- The greatest length is multiplied with all lengths. -/
theorem greatestOf_times {k : Rat} (hk : 0 ≤ k) (lengths : List Rat) :
    greatestOf (lengths.map (· * k)) = greatestOf lengths * k := by
  have hfrom (least : Rat) :
      (lengths.map (· * k)).foldl max (least * k) = lengths.foldl max least * k := by
    induction lengths generalizing least with
    | nil => rfl
    | cons length lengths ih =>
      rw [List.map_cons, List.foldl_cons, List.foldl_cons, max_times hk, ih]
  have hzero := hfrom 0
  rwa [zero_mul] at hzero

/-- A row is multiplied with the gap and all that stands in it. -/
theorem inRow_times (k gap : Rat) (lengths : List Rat) :
    inRow (gap * k) (lengths.map (· * k)) = inRow gap lengths * k := by
  rw [inRow, inRow, sumOf_times, List.length_map]
  ring

namespace Visual

mutual

/-- A diagram with every shape in it multiplied. -/
def magnified (k : Rat) : Visual Rat → Visual Rat
  | start size => .start (size.times k)
  | finish size => .finish (size.times k)
  | track size items => .track (size.times k) (magnifiedAll k items)
  | branch size rows => .branch (size.times k) (magnifiedAll k rows)
  | loop size rails caption content => .loop (size.times k) rails caption (content.magnified k)
  | frame size label content => .frame (size.times k) label (content.magnified k)
  | terminal size style text => .terminal (size.times k) style text

/-- A list of diagrams with every shape multiplied. -/
def magnifiedAll (k : Rat) : List (Visual Rat) → List (Visual Rat)
  | [] => []
  | visual :: visuals => visual.magnified k :: magnifiedAll k visuals

end

/-- The diagrams of a list are multiplied one by one. -/
theorem magnifiedAll_eq (k : Rat) (visuals : List (Visual Rat)) :
    magnifiedAll k visuals = visuals.map (magnified k) := by
  induction visuals with
  | nil => rfl
  | cons visual visuals ih => rw [magnifiedAll, ih, List.map_cons]

/-- The outermost shape is multiplied. -/
@[simp] theorem size_magnified (k : Rat) (visual : Visual Rat) :
    (visual.magnified k).size = visual.size.times k := by
  cases visual <;> rfl

/-- The shapes inside are multiplied. -/
theorem children_magnified (k : Rat) (visual : Visual Rat) :
    (visual.magnified k).children = visual.children.map (magnified k) := by
  cases visual with
  | track size items => exact magnifiedAll_eq k items
  | branch size rows => exact magnifiedAll_eq k rows
  | start | finish | loop | frame | terminal => rfl

/-- The shape at every place is multiplied. -/
theorem at?_magnified (k : Rat) (path : List Nat) (visual : Visual Rat) :
    (visual.magnified k).at? path = (visual.at? path).map (magnified k) := by
  induction path generalizing visual with
  | nil => rfl
  | cons index path ih =>
    rw [at?, at?, children_magnified, List.getElem?_map]
    cases visual.children[index]? with
    | none => rfl
    | some child => exact ih child

mutual

/-- Sizes apart, nothing changes. -/
theorem unsized_magnified (k : Rat) : (visual : Visual Rat) →
    (visual.magnified k).unsized = visual.unsized
  | .start _ => rfl
  | .finish _ => rfl
  | .track _ items => by rw [magnified, unsized, unsized, unsizedAll_magnifiedAll k items]
  | .branch _ rows => by rw [magnified, unsized, unsized, unsizedAll_magnifiedAll k rows]
  | .loop _ _ _ content => by rw [magnified, unsized, unsized, unsized_magnified k content]
  | .frame _ _ content => by rw [magnified, unsized, unsized, unsized_magnified k content]
  | .terminal _ _ _ => rfl

/-- Sizes apart, nothing changes in a list. -/
theorem unsizedAll_magnifiedAll (k : Rat) : (visuals : List (Visual Rat)) →
    unsizedAll (magnifiedAll k visuals) = unsizedAll visuals
  | [] => rfl
  | visual :: visuals => by
    rw [magnifiedAll, unsizedAll, unsizedAll, unsized_magnified k visual,
      unsizedAll_magnifiedAll k visuals]

end

/-- Lengths that are multiplied with their shapes are multiplied in a list. -/
theorem map_magnifiedAll {k : Rat} {f g : Visual Rat → Rat}
    (h : ∀ visual, g (visual.magnified k) = f visual * k) (visuals : List (Visual Rat)) :
    (magnifiedAll k visuals).map g = (visuals.map f).map (· * k) := by
  rw [magnifiedAll_eq, List.map_map, List.map_map]
  exact List.map_congr_left fun visual _ => h visual

section

variable {k : Rat} (m : Metrics Rat)

/-- A row is multiplied with its content. -/
theorem rowSize_times (row : Visual Rat) :
    rowSize (m.times k) (row.magnified k) = (rowSize m row).times k := by
  have hwidth : row.size.width * k + 2 * (m.path * k + m.rowPadX * k) =
      (row.size.width + 2 * (m.path + m.rowPadX)) * k := by ring
  have hheight : row.size.height * k + 2 * (m.rowPadY * k) =
      (row.size.height + 2 * m.rowPadY) * k := by ring
  rw [rowSize, size_magnified]
  exact congrArg₂ Size.mk hwidth hheight

variable (hk : 0 ≤ k)

include hk

/-- A track of multiplied items is the track, multiplied. -/
theorem trackOf_times (items : List (Visual Rat)) :
    trackOf (m.times k) (magnifiedAll k items) = (trackOf m items).magnified k := by
  cases items with
  | nil => rfl
  | cons item rest =>
    have hsize : (trackOf (m.times k) (magnifiedAll k (item :: rest))).size =
        (trackOf m (item :: rest)).size.times k := by
      have hwidths := map_magnifiedAll (f := (·.size.width)) (g := (·.size.width))
        (fun visual => congrArg Size.width (size_magnified k visual)) (item :: rest)
      have hheights := map_magnifiedAll (f := (·.size.height)) (g := (·.size.height))
        (fun visual => congrArg Size.height (size_magnified k visual)) (item :: rest)
      have hpath : (m.times k).path = m.path * k := rfl
      rw [magnifiedAll, size_trackOf_cons, ← magnifiedAll, hwidths, hheights, hpath, inRow_times,
        greatestOf_times hk, size_trackOf_cons]
      rfl
    exact congrArg (Visual.track · (magnifiedAll k (item :: rest))) hsize

/-- A branch of multiplied rows is the branch, multiplied. -/
theorem branchOf_times (rows : List (Visual Rat)) :
    branchOf (m.times k) (magnifiedAll k rows) = (branchOf m rows).magnified k := by
  have hsize : (branchOf (m.times k) (magnifiedAll k rows)).size = (branchOf m rows).size.times k := by
    have hwidths := map_magnifiedAll (f := fun row => (rowSize m row).width)
      (g := fun row => (rowSize (m.times k) row).width)
      (fun row => congrArg Size.width (rowSize_times m row)) rows
    have hheights := map_magnifiedAll (f := fun row => (rowSize m row).height)
      (g := fun row => (rowSize (m.times k) row).height)
      (fun row => congrArg Size.height (rowSize_times m row)) rows
    have hseparator : (m.times k).separator = m.separator * k := rfl
    have hstub : (m.times k).stub = m.stub * k := rfl
    rw [size_branchOf, hwidths, hheights, hseparator, hstub, inRow_times,
      greatestOf_times hk, size_branchOf]
    refine congrArg (Size.mk _) ?_
    ring
  exact congrArg (Visual.branch · (magnifiedAll k rows)) hsize

/-- A loop around a multiplied content is the loop, multiplied. -/
theorem loopOf_times (repetition : Repetition) (greedy : Bool) (content : Visual Rat) :
    loopOf (m.times k) repetition greedy (content.magnified k) =
      (loopOf m repetition greedy content).magnified k := by
  have hinner : content.size.width * k + 2 * (m.path * k) =
      (content.size.width + 2 * m.path) * k := by ring
  have hwidth : max (content.size.width * k + 2 * (m.path * k))
      ((m.times k).textWidth (loopCaption repetition greedy)) =
        max (content.size.width + 2 * m.path) (m.textWidth (loopCaption repetition greedy)) * k := by
    rw [hinner, Metrics.textWidth_times, max_times hk]
  have hheight : content.size.height * k + 2 * (m.arc * k + m.caption * k) =
      (content.size.height + 2 * (m.arc + m.caption)) * k := by ring
  have hsize : (loopOf (m.times k) repetition greedy (content.magnified k)).size =
      (loopOf m repetition greedy content).size.times k := by
    rw [loopOf, size_magnified]
    exact congrArg₂ Size.mk hwidth hheight
  exact congrArg (Visual.loop · _ _ (content.magnified k)) hsize

/-- A frame around a multiplied content is the frame, multiplied. -/
theorem frameOf_times (label : String) (content : Visual Rat) :
    frameOf (m.times k) label (content.magnified k) = (frameOf m label content).magnified k := by
  have hwidth : max (content.size.width * k) ((m.times k).textWidth label) +
      2 * (m.framePad * k + m.frameMargin * k) =
        (max content.size.width (m.textWidth label) + 2 * (m.framePad + m.frameMargin)) * k := by
    rw [Metrics.textWidth_times, max_times hk]
    ring
  have hheight : content.size.height * k + 2 * (m.framePad * k) =
      (content.size.height + 2 * m.framePad) * k := by ring
  have hsize : (frameOf (m.times k) label (content.magnified k)).size =
      (frameOf m label content).size.times k := by
    rw [frameOf, size_magnified]
    exact congrArg₂ Size.mk hwidth hheight
  exact congrArg (Visual.frame · label (content.magnified k)) hsize

/-- A box is multiplied with the metrics. -/
theorem boxOf_times (t : Terminal) : boxOf (m.times k) t = (boxOf m t).magnified k := by
  have hwidth (text : Rat) : max (text * k + 2 * (m.boxPadX * k)) (m.boxMinWidth * k) =
      max (text + 2 * m.boxPadX) m.boxMinWidth * k := by
    rw [← max_times hk]
    ring_nf
  have hline : m.lineHeight * k + 2 * (m.boxPadY * k) = (m.lineHeight + 2 * m.boxPadY) * k := by ring
  have hsize : (boxOf (m.times k) t).size = (boxOf m t).size.times k := by
    cases hdetail : t.detail with
    | none =>
      have htext : max ((m.times k).textWidth t.label) 0 = max (m.textWidth t.label) 0 * k := by
        rw [Metrics.textWidth_times, ← max_times hk, zero_mul]
      simp only [boxOf, hdetail, size]
      refine congrArg₂ Size.mk ?_ hline
      rw [← hwidth]
      exact congrArg (fun text => max (text + _) _) htext
    | some detail =>
      have htext : max ((m.times k).textWidth t.label) ((m.times k).textWidth detail) =
          max (m.textWidth t.label) (m.textWidth detail) * k := by
        rw [Metrics.textWidth_times, Metrics.textWidth_times, max_times hk]
      have hheight : m.lineHeight * k + 2 * (m.boxPadY * k) + m.detailHeight * k =
          (m.lineHeight + 2 * m.boxPadY + m.detailHeight) * k := by ring
      simp only [boxOf, hdetail, size]
      refine congrArg₂ Size.mk ?_ hheight
      rw [← hwidth]
      exact congrArg (fun text => max (text + _) _) htext
  exact congrArg (Visual.terminal · t.kind.boxStyle ⟨t.label, t.detail, t.description⟩) hsize

end

mutual

/-- With metrics that are `k` times as large every shape of a tree is `k` times as large. -/
theorem ofNode_times {k : Rat} (hk : 0 ≤ k) (m : Metrics Rat) : (node : Node) →
    ofNode (m.times k) node = (ofNode m node).magnified k
  | .sequence parts => by rw [ofNode, ofNodes_times hk m parts, trackOf_times m hk, ofNode]
  | .choice options => by rw [ofNode, ofNodes_times hk m options, branchOf_times m hk, ofNode]
  | .quantified repetition greedy content => by
    rw [ofNode, ofNode_times hk m content, loopOf_times m hk, ofNode]
  | .group _ _ label content => by
    rw [ofNode, ofNode_times hk m content, frameOf_times m hk, ofNode]
  | .terminal t => boxOf_times m hk t

/-- With metrics that are `k` times as large every shape of a list of trees is `k` times as large. -/
theorem ofNodes_times {k : Rat} (hk : 0 ≤ k) (m : Metrics Rat) : (nodes : List Node) →
    ofNodes (m.times k) nodes = magnifiedAll k (ofNodes m nodes)
  | [] => rfl
  | node :: nodes => by
    rw [ofNodes, ofNode_times hk m node, ofNodes_times hk m nodes, ofNodes, magnifiedAll]

end

/-- Two shapes that are alike but for the sizes of the outer ones, which are to each other as two
numbers. -/
structure InRatio (s t : Rat) (visual other : Visual Rat) : Prop where
  /-- Sizes apart, they are the same, and so is all that they hold. -/
  alike : visual.unsized = other.unsized
  /-- The widths are in the ratio. -/
  width : visual.size.width * t = other.size.width * s
  /-- The heights are in the ratio. -/
  height : visual.size.height * t = other.size.height * s

/-- A shape multiplied by two numbers gives two shapes in their ratio. -/
theorem inRatio_magnified (s t : Rat) (visual : Visual Rat) :
    InRatio s t (visual.magnified s) (visual.magnified t) where
  alike := (unsized_magnified s visual).trans (unsized_magnified t visual).symm
  width := by
    rw [size_magnified, size_magnified]
    exact mul_right_comm _ _ _
  height := by
    rw [size_magnified, size_magnified]
    exact mul_right_comm _ _ _

end Visual

namespace Diagram

/-- A zoom within its bounds is kept. -/
theorem clampScale_of_le {scale : Nat} (hlow : 25 ≤ scale) (hhigh : scale ≤ 150) :
    clampScale scale = scale := by
  rw [clampScale, minScale, maxScale]
  omega

/-- The shapes of a diagram are those at one percent, multiplied by the zoom. -/
theorem exists_root_magnified (node : Node) :
    ∃ visual : Visual Rat, ∀ scale, 25 ≤ scale → scale ≤ 150 →
      (ofNode node scale : Diagram Rat).root = visual.magnified scale := by
  let m : Metrics Rat := .ofScale 1
  refine ⟨Visual.trackOf m [.start (Visual.terminusSize m), Visual.ofNode m node,
    .finish (Visual.terminusSize m)], fun scale hlow hhigh => ?_⟩
  have hscale : (0 : Rat) ≤ scale := Nat.cast_nonneg scale
  rw [← Visual.trackOf_times m hscale, ofNode, clampScale_of_le hlow hhigh]
  simp only [Metrics.ofScale_eq_times scale, Visual.ofNode_times hscale]
  rfl

/-- In the diagrams of a tree at any two zooms within the bounds, the shapes at every place are alike, and
width and height of each are in the ratio of the zooms. A zoom out of bounds gives the diagram at the
nearest bound. -/
theorem sizes_in_ratio (node : Node) {s t : Nat} (hs : 25 ≤ s ∧ s ≤ 150) (ht : 25 ≤ t ∧ t ≤ 150) :
    (∀ path, Option.Rel (Visual.InRatio s t) ((ofNode node s : Diagram Rat).root.at? path)
        ((ofNode node t : Diagram Rat).root.at? path)) ∧
      (∀ scale < 25, (ofNode node scale : Diagram Rat) = ofNode node 25) ∧
      ∀ scale > 150, (ofNode node scale : Diagram Rat) = ofNode node 150 := by
  refine ⟨fun path => ?_, fun scale hlow => ?_, fun scale hhigh => ?_⟩
  · obtain ⟨visual, hroot⟩ := exists_root_magnified node
    rw [hroot s hs.1 hs.2, hroot t ht.1 ht.2, Visual.at?_magnified, Visual.at?_magnified]
    cases visual.at? path with
    | none => exact .none
    | some inner => exact .some (Visual.inRatio_magnified s t inner)
  · have hclamp : clampScale scale = clampScale 25 := by
      rw [clampScale, clampScale, minScale, maxScale]
      omega
    rw [ofNode, ofNode, hclamp]
  · have hclamp : clampScale scale = clampScale 150 := by
      rw [clampScale, clampScale, minScale, maxScale]
      omega
    rw [ofNode, ofNode, hclamp]

/-- The loop in the second row of a branch, at a third of the greatest zoom and at the greatest. -/
theorem sizes_in_ratio_lazyLoop :
    let node : Node :=
      .choice [.sequence [], .quantified .zeroOrMore false (.terminal (.literal "a"))]
    (25 ≤ 50 ∧ 50 ≤ 150) ∧ (25 ≤ 150 ∧ 150 ≤ 150) ∧
      (∃ small large, (ofNode node 50 : Diagram Rat).root.at? [1, 1] = some small ∧
        (ofNode node 150 : Diagram Rat).root.at? [1, 1] = some large ∧ small.kind = .loop ∧
          small.InRatio (50 : Nat) (150 : Nat) large) ∧
      (ofNode node 7 : Diagram Rat) = ofNode node 25 := by
  intro node
  have hs : 25 ≤ 50 ∧ 50 ≤ 150 := by decide
  have ht : 25 ≤ 150 ∧ 150 ≤ 150 := by decide
  obtain ⟨hratio, hlow, -⟩ := sizes_in_ratio node hs ht
  refine ⟨hs, ht, ?_, hlow 7 (by decide)⟩
  obtain ⟨small, hsmall, hkind⟩ : ∃ small, (ofNode node 50 : Diagram Rat).root.at? [1, 1] =
      some small ∧ small.kind = .loop := ⟨_, rfl, rfl⟩
  obtain ⟨large, hlarge⟩ : ∃ large, (ofNode node 150 : Diagram Rat).root.at? [1, 1] =
      some large := ⟨_, rfl⟩
  have hpair := hratio [1, 1]
  rw [hsmall, hlarge] at hpair
  cases hpair with
  | some hinner => exact ⟨small, large, hsmall, hlarge, hkind, hinner⟩

end Diagram

end Railroad
