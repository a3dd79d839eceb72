import Mathlib
import Railroad.Proofs.Placement

/-!
# Sizes in exact fractions

In exact fractions the sizes of a layout add up: a track is as long as its items and the rails between
them, and a branch is as high as its rows and what stands between them. No length is negative, and so no
shape is smaller than what it holds.
-/

namespace Railroad

/-- No length is negative. -/
structure Metrics.Nonneg (m : Metrics Rat) : Prop where
  /-- A character has a width. -/
  charWidth : 0 ≤ m.charWidth
  /-- A line has a height. -/
  lineHeight : 0 ≤ m.lineHeight
  /-- A second line has a height. -/
  detailHeight : 0 ≤ m.detailHeight
  /-- There may be space left and right of a text. -/
  boxPadX : 0 ≤ m.boxPadX
  /-- There may be space above and below a text. -/
  boxPadY : 0 ≤ m.boxPadY
  /-- A box has a width. -/
  boxMinWidth : 0 ≤ m.boxMinWidth
  /-- A rail has a length. -/
  path : 0 ≤ m.path
  /-- An end has a diameter. -/
  terminus : 0 ≤ m.terminus
  /-- There may be space for an arc. -/
  arc : 0 ≤ m.arc
  /-- There may be space for a caption. -/
  caption : 0 ≤ m.caption
  /-- There may be space inside a frame. -/
  framePad : 0 ≤ m.framePad
  /-- There may be space outside a frame. -/
  frameMargin : 0 ≤ m.frameMargin
  /-- There may be space left and right of a row. -/
  rowPadX : 0 ≤ m.rowPadX
  /-- There may be space above and below a row. -/
  rowPadY : 0 ≤ m.rowPadY
  /-- There may be space between two rows. -/
  separator : 0 ≤ m.separator
  /-- A short piece of rail has a length. -/
  stub : 0 ≤ m.stub

/-- At no zoom is a length negative. -/
theorem Metrics.nonneg_ofScale (scale : Nat) : (ofScale scale : Metrics Rat).Nonneg := by
  have hzoom : (0 : Rat) ≤ scale / 100 := div_nonneg (Nat.cast_nonneg scale) (Nat.cast_nonneg 100)
  have hlength (n : Nat) : (0 : Rat) ≤ n * (scale / 100) := mul_nonneg (Nat.cast_nonneg n) hzoom
  exact
    { charWidth := hlength 8
      lineHeight := hlength 16
      detailHeight := hlength 14
      boxPadX := hlength 12
      boxPadY := hlength 6
      boxMinWidth := hlength 50
      path := hlength 24
      terminus := hlength 48
      arc := hlength 16
      caption := hlength 16
      framePad := hlength 16
      frameMargin := hlength 8
      rowPadX := hlength 16
      rowPadY := hlength 8
      separator := hlength 16
      stub := hlength 8 }

/-- Lengths in a row are added from the first one on. -/
theorem sumOf_cons (length : Rat) (lengths : List Rat) :
    sumOf (length :: lengths) = length + sumOf lengths := by
  have hsum (lengths : List Rat) : sumOf lengths = lengths.sum := List.sum_eq_foldl.symm
  rw [hsum, hsum, List.sum_cons]

/-- None of the lengths is greater than the greatest of them and a least one. -/
theorem le_foldl_max {length least : Rat} {lengths : List Rat} (h : length ∈ least :: lengths) :
    length ≤ lengths.foldl max least := by
  induction lengths generalizing length least with
  | nil => exact (List.mem_singleton.mp h).le
  | cons next lengths ih =>
    have hbound : max least next ≤ lengths.foldl max (max least next) := ih List.mem_cons_self
    rcases List.mem_cons.mp h with rfl | hmore
    · exact (le_max_left _ _).trans hbound
    · rcases List.mem_cons.mp hmore with rfl | hrest
      · exact (le_max_right _ _).trans hbound
      · exact ih (List.mem_cons_of_mem _ hrest)

/-- The greatest length is not negative. -/
theorem greatestOf_nonneg (lengths : List Rat) : 0 ≤ greatestOf lengths :=
  le_foldl_max List.mem_cons_self

/-- The length of things in a row with a gap between neighbours. -/
def inRow (gap : Rat) (lengths : List Rat) : Rat :=
  sumOf lengths + Scalar.ofNat (lengths.length - 1) * gap

/-- There is no gap beside a single thing. -/
theorem inRow_singleton (gap length : Rat) : inRow gap [length] = length := by
  have hrow : inRow gap [length] = (0 + length) + 0 * gap := rfl
  rw [hrow]
  ring

/-- A thing in front of others adds its length and a gap. -/
theorem inRow_cons_cons (gap length next : Rat) (rest : List Rat) :
    inRow gap (length :: next :: rest) = length + gap + inRow gap (next :: rest) := by
  have hgaps : (Scalar.ofNat ((length :: next :: rest).length - 1) : Rat) =
      Scalar.ofNat ((next :: rest).length - 1) + 1 := Nat.cast_succ rest.length
  rw [inRow, inRow, sumOf_cons, hgaps]
  ring

/-- A row is at least as long as the first thing in it. -/
theorem le_inRow_cons {gap length : Rat} {rest : List Rat} (hgap : 0 ≤ gap)
    (h : ∀ next ∈ rest, 0 ≤ next) : length ≤ inRow gap (length :: rest) := by
  induction rest generalizing length with
  | nil => exact (inRow_singleton gap length).ge
  | cons next rest ih =>
    obtain ⟨hnext, hrest⟩ := List.forall_mem_cons.mp h
    have hmore : next ≤ inRow gap (next :: rest) := ih hrest
    rw [inRow_cons_cons]
    linarith

/-- A row of things that are not shorter than nothing is not shorter than nothing. -/
theorem inRow_nonneg {gap : Rat} {lengths : List Rat} (hgap : 0 ≤ gap)
    (h : ∀ length ∈ lengths, 0 ≤ length) : 0 ≤ inRow gap lengths := by
  cases lengths with
  | nil => exact (add_nonneg le_rfl (mul_nonneg le_rfl hgap) : (0 : Rat) ≤ 0 + 0 * gap)
  | cons length rest =>
    obtain ⟨hlength, hrest⟩ := List.forall_mem_cons.mp h
    exact hlength.trans (le_inRow_cons hgap hrest)

namespace Visual

variable {m : Metrics Rat}

/-- The size of a track with items. -/
theorem size_trackOf_cons (item : Visual Rat) (rest : List (Visual Rat)) :
    (trackOf m (item :: rest)).size =
      ⟨inRow m.path ((item :: rest).map (·.size.width)),
        greatestOf ((item :: rest).map (·.size.height))⟩ := by
  rw [inRow, List.length_map]
  rfl

/-- The size of a branch. -/
theorem size_branchOf (rows : List (Visual Rat)) :
    (branchOf m rows).size =
      ⟨greatestOf (rows.map fun row => (rowSize m row).width),
        inRow m.separator (rows.map fun row => (rowSize m row).height) + 2 * m.stub⟩ := by
  rw [inRow, List.length_map, branchOf, size, List.map_map, List.map_map]
  rfl

/-- A row is not smaller than its content. -/
theorem size_le_rowSize (hm : m.Nonneg) (row : Visual Rat) :
    row.size.width ≤ (rowSize m row).width ∧ row.size.height ≤ (rowSize m row).height := by
  have hpath := hm.path
  have hpadX := hm.rowPadX
  have hpadY := hm.rowPadY
  constructor
  · have hwidth : (rowSize m row).width = row.size.width + 2 * (m.path + m.rowPadX) := rfl
    linarith
  · have hheight : (rowSize m row).height = row.size.height + 2 * m.rowPadY := rfl
    linarith

/-- A loop has room for its content with a rail on either side. -/
theorem le_width_loopOf (repetition : Repetition) (greedy : Bool) (content : Visual Rat) :
    content.size.width + 2 * m.path ≤ (loopOf m repetition greedy content).size.width :=
  le_max_left _ _

/-- A frame has room for its content with a margin on either side. -/
theorem le_width_frameOf (label : String) (content : Visual Rat) :
    content.size.width + 2 * (m.framePad + m.frameMargin) ≤ (frameOf m label content).size.width :=
  add_le_add_left (le_max_left _ _) _

/-- A box is not narrower than the narrowest one. -/
theorem le_width_boxOf (t : Terminal) : m.boxMinWidth ≤ (boxOf m t).size.width :=
  le_max_right _ _

/-- A box has room for a line. -/
theorem le_height_boxOf (hm : m.Nonneg) (t : Terminal) :
    m.lineHeight + 2 * m.boxPadY ≤ (boxOf m t).size.height := by
  have hdetail := hm.detailHeight
  rw [boxOf, size]
  cases t.detail with
  | none => exact le_rfl
  | some detail => exact le_add_of_nonneg_right hdetail

/-- No shape from a layout has a negative width or height. -/
theorem LaidOut.size_nonneg (hm : m.Nonneg) {filled : Prop} {visual : Visual Rat}
    (h : visual.LaidOut m filled) : 0 ≤ visual.size.width ∧ 0 ≤ visual.size.height := by
  induction h with
  | start => exact ⟨hm.terminus, hm.terminus⟩
  | finish => exact ⟨hm.terminus, hm.terminus⟩
  | @track items _ ih =>
    cases items with
    | nil => exact ⟨hm.path, hm.lineHeight⟩
    | cons item rest =>
      have hwidths : ∀ width ∈ (item :: rest).map (·.size.width), (0 : Rat) ≤ width :=
        List.forall_mem_map.mpr fun next hnext => (ih next hnext).1
      rw [size_trackOf_cons]
      exact ⟨inRow_nonneg hm.path hwidths, greatestOf_nonneg _⟩
  | @branch rows _ _ ih =>
    have hheights : ∀ height ∈ rows.map fun row => (rowSize m row).height, (0 : Rat) ≤ height :=
      List.forall_mem_map.mpr fun row hrow => (ih row hrow).2.trans (size_le_rowSize hm row).2
    have hrows := inRow_nonneg hm.separator hheights
    have hstub := hm.stub
    rw [size_branchOf]
    exact ⟨greatestOf_nonneg _, by linarith⟩
  | @loop repetition greedy content _ ih =>
    have hpath := hm.path
    have harc := hm.arc
    have hcaption := hm.caption
    have hwidth := le_width_loopOf (m := m) repetition greedy content
    have hheight : (loopOf m repetition greedy content).size.height =
        content.size.height + 2 * (m.arc + m.caption) := rfl
    exact ⟨by linarith [ih.1], by linarith [ih.2]⟩
  | @frame label content _ ih =>
    have hpad := hm.framePad
    have hmargin := hm.frameMargin
    have hwidth := le_width_frameOf (m := m) label content
    have hheight : (frameOf m label content).size.height = content.size.height + 2 * m.framePad := rfl
    exact ⟨by linarith [ih.1], by linarith [ih.2]⟩
  | box t =>
    have hline := hm.lineHeight
    have hpad := hm.boxPadY
    have hheight := le_height_boxOf hm t
    exact ⟨hm.boxMinWidth.trans (le_width_boxOf t), by linarith⟩

end Visual

end Railroad
