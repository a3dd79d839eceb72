import Railroad.Proofs.Rails

/-!
# Nothing outside its place

Every shape fills a rectangle, and a mark covers points: a text covers a line as long as it is measured.
In exact fractions the rectangles of the shapes that a shape holds lie apart inside its own, everything
that it draws itself lies inside it as well, and so the whole drawing lies on its page.
-/

namespace Railroad

/-- The metrics leave enough room for what has a length of its own. -/
structure Metrics.Roomy (m : Metrics Rat) : Prop extends m.Nonneg where
  /-- Two items do not touch. -/
  path_pos : 0 < m.path
  /-- Two rows do not touch. -/
  separator_pos : 0 < m.separator
  /-- The word of an end fits into its disc. -/
  terminusWord : ∀ isEntry : Bool, m.textWidth (if isEntry then "start" else "end") ≤ m.terminus
  /-- A line fits into the disc of an end. -/
  terminusLine : m.lineHeight ≤ m.terminus
  /-- A line fits below a loop. -/
  captionLine : m.lineHeight ≤ m.caption
  /-- A line fits above the content of a frame. -/
  frameLine : m.lineHeight ≤ m.framePad
  /-- A line fits between two rows. -/
  separatorLine : m.lineHeight ≤ m.separator
  /-- The word between two rows is not wider than a rail. -/
  separatorWord : m.textWidth "or" ≤ m.path
  /-- A line fits where the second line of a box stands. -/
  detailLine : m.lineHeight ≤ m.detailHeight + 2 * m.boxPadY
  /-- An arrow head is not wider than a rail. -/
  arrowWidth : m.stub ≤ m.path
  /-- An arrow head does not reach below the caption of a loop. -/
  arrowHeight : m.stub ≤ m.arc + 2 * m.caption

/-- At every zoom there is enough room. -/
theorem Metrics.roomy_ofScale {scale : Nat} (h : 0 < scale) : (ofScale scale : Metrics Rat).Roomy := by
  let zoom : Rat := scale / 100
  have hzoom : 0 < zoom := div_pos (Nat.cast_pos.mpr h) (Nat.cast_pos.mpr (by decide : 0 < 100))
  have hpos {n : Nat} (hn : 0 < n) : 0 < n * zoom := mul_pos (Nat.cast_pos.mpr hn) hzoom
  have hle {a b : Nat} (hab : a ≤ b) : a * zoom ≤ b * zoom :=
    mul_le_mul_of_nonneg_right (Nat.cast_le.mpr hab) hzoom.le
  have hword {n : Nat} (text : String) (hn : text.length * 8 ≤ n) :
      (ofScale scale : Metrics Rat).textWidth text ≤ n * zoom := by
    have hwidth : (ofScale scale : Metrics Rat).textWidth text = (text.length * 8 : Nat) * zoom := by
      rw [Nat.cast_mul, mul_assoc]
      rfl
    exact hwidth.trans_le (hle hn)
  have hsum {a b c : Nat} (habc : a ≤ b + 2 * c) : a * zoom ≤ b * zoom + 2 * (c * zoom) := by
    refine (hle habc).trans_eq ?_
    push_cast
    ring
  exact
    { toNonneg := nonneg_ofScale scale
      path_pos := hpos (by decide : 0 < 24)
      separator_pos := hpos (by decide : 0 < 16)
      terminusWord := by
        intro isEntry
        cases isEntry with
        | true => exact hword "start" (by decide : 5 * 8 ≤ 48)
        | false => exact hword "end" (by decide : 3 * 8 ≤ 48)
      terminusLine := hle (by decide : 16 ≤ 48)
      captionLine := le_rfl
      frameLine := le_rfl
      separatorLine := le_rfl
      separatorWord := hword "or" (by decide : 2 * 8 ≤ 24)
      detailLine := hsum (by decide : 16 ≤ 14 + 2 * 6)
      arrowWidth := hle (by decide : 8 ≤ 24)
      arrowHeight := hsum (by decide : 8 ≤ 16 + 2 * 16) }

/-- Where a text in this style begins that is set at a point. -/
def TextStyle.left (style : TextStyle) (x width : Rat) : Rat :=
  match style with
  | label | note => x - width / 2
  | caption => x

namespace Mark

/-- The rectangle of a line of text that is set at a point. -/
def line (m : Metrics Rat) (style : TextStyle) (x y : Rat) (content : String) : Set (Rat × Rat) :=
  Set.Icc (style.left x (m.textWidth content), y - m.lineHeight / 2)
    (style.left x (m.textWidth content) + m.textWidth content, y + m.lineHeight / 2)

/-- The word in the disc of an end. -/
def endWord (isEntry : Bool) : String := if isEntry then "start" else "end"

mutual

/-- The points that a mark covers. -/
def ink (m : Metrics Rat) : Mark Rat → Set (Rat × Rat)
  | rail x1 y1 x2 y2 => segment Rat (x1, y1) (x2, y2)
  | arc _ fromX toX level axis =>
    segment Rat (fromX, axis) (fromX, level) ∪ segment Rat (fromX, level) (toX, level) ∪
      segment Rat (toX, level) (toX, axis)
  | arrowHead tip y size =>
    convexHull Rat {(tip, y), (tip + size, y - size / 2), (tip + size, y + size / 2)}
  | terminus isEntry x y radius =>
    {point | (point.1 - x) ^ 2 + (point.2 - y) ^ 2 ≤ radius ^ 2} ∪
      line m .label x y (endWord isEntry)
  | frame x y width height _ => Set.Icc (x, y) (x + width, y + height)
  | box _ x y width height _ => Set.Icc (x, y) (x + width, y + height)
  | text style x y content => line m style x y content
  | titled _ marks => inkOfAll m marks

/-- The points that the marks of a list cover. -/
def inkOfAll (m : Metrics Rat) : List (Mark Rat) → Set (Rat × Rat)
  | [] => ∅
  | mark :: marks => mark.ink m ∪ inkOfAll m marks

end

mutual

/-- The texts that a mark shows. -/
def words : Mark Rat → List String
  | terminus isEntry _ _ _ => [endWord isEntry]
  | text _ _ _ content => [content]
  | titled _ marks => wordsOfAll marks
  | rail _ _ _ _ | arc _ _ _ _ _ | arrowHead _ _ _ | frame _ _ _ _ _ | box _ _ _ _ _ _ => []

/-- The texts that the marks of a list show. -/
def wordsOfAll : List (Mark Rat) → List String
  | [] => []
  | mark :: marks => mark.words ++ wordsOfAll marks

end

end Mark

/-- A thing in front of others adds its length and a gap. -/
theorem inRow_cons_of_ne_nil {gap length : Rat} {rest : List Rat} (h : rest ≠ []) :
    inRow gap (length :: rest) = length + gap + inRow gap rest := by
  obtain ⟨next, rest, rfl⟩ := List.exists_cons_of_ne_nil h
  exact inRow_cons_cons gap length next rest

namespace Visual

variable {m : Metrics Rat}

/-- A box is not narrower than its texts. -/
theorem textWidth_le_boxOf (hm : m.Nonneg) (t : Terminal) :
    m.textWidth t.label ≤ (boxOf m t).size.width ∧
      ∀ detail ∈ t.detail, m.textWidth detail ≤ (boxOf m t).size.width := by
  have hpad := hm.boxPadX
  have hpadded {width : Rat} : width ≤ width + 2 * m.boxPadX := by linarith
  constructor
  · exact (le_max_left _ _).trans (hpadded.trans (le_max_left _ _))
  · intro detail hdetail
    rw [boxOf, size, Option.mem_def.mp hdetail]
    exact (le_max_right _ _).trans (hpadded.trans (le_max_left _ _))

/-- A box has room for two lines where there is a second text. -/
theorem height_boxOf {t : Terminal} {detail : String} (h : t.detail = some detail) :
    (boxOf m t).size.height = m.lineHeight + 2 * m.boxPadY + m.detailHeight := by
  rw [boxOf, size, h]

end Visual

namespace Placed

/-- The lower side of the shape. -/
def bottom (p : Placed Rat) : Rat := p.y + p.visual.size.height

/-- The rectangle that the shape fills. -/
def rectangle (p : Placed Rat) : Set (Rat × Rat) := Set.Icc (p.x, p.y) (p.right, p.bottom)

/-- A mark covers no point outside a shape, and it shows no text that is wider than the shape. -/
structure Holds (m : Metrics Rat) (p : Placed Rat) (mark : Mark Rat) : Prop where
  /-- The points it covers lie in the rectangle of the shape. -/
  ink : mark.ink m ⊆ p.rectangle
  /-- The texts it shows are not wider. -/
  words : ∀ word ∈ mark.words, m.textWidth word ≤ p.visual.size.width

/-- What a shape holds and draws stays inside its rectangle. -/
structure Contains (m : Metrics Rat) (p : Placed Rat) : Prop where
  /-- The rectangles of the shapes inside lie in that of the shape. -/
  inside : ∀ q ∈ p.inside m, q.rectangle ⊆ p.rectangle
  /-- No two of them have a point in common. -/
  apart : (p.inside m).Pairwise fun a b => Disjoint a.rectangle b.rectangle
  /-- Its own marks stay inside. -/
  own : ∀ mark ∈ p.own m, p.Holds m mark

variable {m : Metrics Rat} {p q : Placed Rat}

/-- A point between the sides lies in the rectangle. -/
theorem mem_rectangle {u v : Rat} (hleft : p.x ≤ u) (hright : u ≤ p.right) (htop : p.y ≤ v)
    (hbottom : v ≤ p.bottom) : (u, v) ∈ p.rectangle :=
  ⟨⟨hleft, htop⟩, hright, hbottom⟩

/-- A rectangle whose sides lie between those of another one is a part of it. -/
theorem rectangle_subset (hleft : p.x ≤ q.x) (hright : q.right ≤ p.right) (htop : p.y ≤ q.y)
    (hbottom : q.bottom ≤ p.bottom) : q.rectangle ⊆ p.rectangle :=
  Set.Icc_subset_Icc ⟨hleft, htop⟩ ⟨hright, hbottom⟩

/-- A lower shape on the same axis lies between the upper and the lower side. -/
theorem rectangle_subset_of_axis (haxis : q.axis = p.axis)
    (hheight : q.visual.size.height ≤ p.visual.size.height) (hleft : p.x ≤ q.x)
    (hright : q.right ≤ p.right) : q.rectangle ⊆ p.rectangle := by
  rw [axis, axis] at haxis
  refine rectangle_subset hleft hright ?_ ?_
  · linarith
  · rw [bottom, bottom]
    linarith

/-- A shape to the right of another one has no point in common with it. -/
theorem disjoint_of_right_lt (h : p.right < q.x) : Disjoint p.rectangle q.rectangle :=
  Set.disjoint_left.mpr fun _ hp hq => absurd (hq.1.1.trans hp.2.1) h.not_ge

/-- A shape below another one has no point in common with it. -/
theorem disjoint_of_bottom_lt (h : p.bottom < q.y) : Disjoint p.rectangle q.rectangle :=
  Set.disjoint_left.mpr fun _ hp hq => absurd (hq.1.2.trans hp.2.2) h.not_ge

/-- A shape of some size is entered and left on the sides of its rectangle. -/
theorem ends_mem_rectangle (hwidth : 0 ≤ p.visual.size.width) (hheight : 0 ≤ p.visual.size.height) :
    p.entry ∈ p.rectangle ∧ p.exit ∈ p.rectangle := by
  have hright : p.x ≤ p.right := le_add_of_nonneg_right hwidth
  have htop : p.y ≤ p.axis := le_add_of_nonneg_right (div_nonneg hheight zero_le_two)
  have hbottom : p.axis ≤ p.bottom := add_le_add_right (half_le_self hheight) p.y
  exact ⟨mem_rectangle le_rfl hright htop hbottom, mem_rectangle hright le_rfl htop hbottom⟩

/-- The points between two points of the rectangle lie in it. -/
theorem segment_subset_rectangle {a b : Rat × Rat} (ha : a ∈ p.rectangle) (hb : b ∈ p.rectangle) :
    segment Rat a b ⊆ p.rectangle :=
  (convex_Icc _ _).segment_subset ha hb

/-- A rail stays inside if both ends do. -/
theorem holds_between {a b : Rat × Rat} (ha : a ∈ p.rectangle) (hb : b ∈ p.rectangle) :
    p.Holds m (Mark.between a b) :=
  ⟨segment_subset_rectangle ha hb, List.forall_mem_nil _⟩

/-- A detour stays inside if its corners do. -/
theorem holds_arc {lazy : Bool} {fromX toX level axis : Rat} (hfrom : (fromX, axis) ∈ p.rectangle)
    (hfrom' : (fromX, level) ∈ p.rectangle) (hto' : (toX, level) ∈ p.rectangle)
    (hto : (toX, axis) ∈ p.rectangle) : p.Holds m (.arc lazy fromX toX level axis) := by
  refine ⟨Set.union_subset (Set.union_subset ?_ ?_) ?_, List.forall_mem_nil _⟩
  · exact segment_subset_rectangle hfrom hfrom'
  · exact segment_subset_rectangle hfrom' hto'
  · exact segment_subset_rectangle hto' hto

/-- An arrow head stays inside if its corners do. -/
theorem holds_arrowHead {tip y size : Rat} (htip : (tip, y) ∈ p.rectangle)
    (hupper : (tip + size, y - size / 2) ∈ p.rectangle)
    (hlower : (tip + size, y + size / 2) ∈ p.rectangle) : p.Holds m (.arrowHead tip y size) := by
  refine ⟨convexHull_min ?_ (convex_Icc _ _), List.forall_mem_nil _⟩
  rintro corner (rfl | rfl | rfl)
  · exact htip
  · exact hupper
  · exact hlower

/-- A text in the middle that is not wider covers a line between the left and the right side. -/
theorem line_subset {style : TextStyle} (hstyle : style ≠ .caption) {y : Rat} {content : String}
    (hwidth : m.textWidth content ≤ p.visual.size.width) (htop : p.y ≤ y - m.lineHeight / 2)
    (hbottom : y + m.lineHeight / 2 ≤ p.bottom) :
    Mark.line m style (p.x + p.visual.size.width / 2) y content ⊆ p.rectangle := by
  have hleft : style.left (p.x + p.visual.size.width / 2) (m.textWidth content) =
      p.x + p.visual.size.width / 2 - m.textWidth content / 2 := by
    cases style with
    | label => rfl
    | note => rfl
    | caption => exact absurd rfl hstyle
  rw [Mark.line, hleft]
  refine Set.Icc_subset_Icc ⟨?_, htop⟩ ⟨?_, hbottom⟩
  · dsimp only
    linarith
  · dsimp only [right]
    linarith

/-- Such a text stays inside. -/
theorem holds_text {style : TextStyle} (hstyle : style ≠ .caption) {y : Rat} {content : String}
    (hwidth : m.textWidth content ≤ p.visual.size.width) (htop : p.y ≤ y - m.lineHeight / 2)
    (hbottom : y + m.lineHeight / 2 ≤ p.bottom) :
    p.Holds m (.text style (p.x + p.visual.size.width / 2) y content) :=
  ⟨line_subset hstyle hwidth htop hbottom, List.forall_mem_singleton.mpr hwidth⟩

/-- A shape that holds no other contains what it draws itself. -/
theorem contains_of_own (hinside : p.inside m = []) (hown : ∀ mark ∈ p.own m, p.Holds m mark) :
    p.Contains m := by
  refine ⟨?_, ?_, hown⟩
  · rw [hinside]
    exact List.forall_mem_nil _
  · rw [hinside]
    exact .nil

/-- The disc of an end and the word in it stay inside. -/
theorem holds_terminus (hm : m.Roomy) (isEntry : Bool) (hsize : p.visual.size = Visual.terminusSize m) :
    p.Holds m (.terminus isEntry (p.x + p.visual.size.width / 2) (p.y + p.visual.size.height / 2)
      (p.visual.size.width / 2)) := by
  have hwidth : p.visual.size.width = m.terminus := by rw [hsize, Visual.terminusSize]
  have hheight : p.visual.size.height = m.terminus := by rw [hsize, Visual.terminusSize]
  have hword : m.textWidth (Mark.endWord isEntry) ≤ p.visual.size.width :=
    (hm.terminusWord isEntry).trans hwidth.ge
  have hline := hm.terminusLine
  have hradius : 0 ≤ p.visual.size.width / 2 := div_nonneg (hm.terminus.trans hwidth.ge) zero_le_two
  refine ⟨Set.union_subset ?_ (line_subset (by decide) hword ?_ ?_), List.forall_mem_singleton.mpr hword⟩
  · rintro ⟨u, v⟩ hpoint
    have hu : (u - (p.x + p.visual.size.width / 2)) ^ 2 ≤ (p.visual.size.width / 2) ^ 2 :=
      (le_add_of_nonneg_right (sq_nonneg _)).trans hpoint
    have hv : (v - (p.y + p.visual.size.height / 2)) ^ 2 ≤ (p.visual.size.width / 2) ^ 2 :=
      (le_add_of_nonneg_left (sq_nonneg _)).trans hpoint
    obtain ⟨hleft, hright⟩ := abs_le_of_sq_le_sq' hu hradius
    obtain ⟨htop, hbottom⟩ := abs_le_of_sq_le_sq' hv hradius
    refine mem_rectangle ?_ ?_ ?_ ?_
    · linarith
    · rw [right]
      linarith
    · linarith
    · rw [bottom]
      linarith
  · linarith
  · rw [bottom]
    linarith

/-- Marks stay inside together. -/
theorem holds_titled {title : String} {marks : List (Mark Rat)} (h : ∀ mark ∈ marks, p.Holds m mark) :
    p.Holds m (.titled title marks) := by
  suffices hall : Mark.inkOfAll m marks ⊆ p.rectangle ∧
      ∀ word ∈ Mark.wordsOfAll marks, m.textWidth word ≤ p.visual.size.width from ⟨hall.1, hall.2⟩
  induction marks with
  | nil => exact ⟨Set.empty_subset _, List.forall_mem_nil _⟩
  | cons mark marks ih =>
    obtain ⟨hmark, hmarks⟩ := List.forall_mem_cons.mp h
    obtain ⟨hink, hwords⟩ := ih hmarks
    exact ⟨Set.union_subset hmark.ink hink, List.forall_mem_append.mpr ⟨hmark.words, hwords⟩⟩

/-- Marks that are drawn or not stay inside if they do where they are drawn. -/
theorem holds_optional {drawn : Bool} {marks : List (Mark Rat)} (h : ∀ mark ∈ marks, p.Holds m mark) :
    ∀ mark ∈ if drawn then marks else [], p.Holds m mark := by
  cases drawn with
  | true => exact h
  | false => exact List.forall_mem_nil _

/-- The box of a terminal and its texts stay inside where there is room for them. -/
theorem holds_boxMarks (hm : m.Roomy) {style : BoxStyle} {text : BoxText}
    (hlabel : m.textWidth text.label ≤ p.visual.size.width)
    (hheight : m.lineHeight + 2 * m.boxPadY ≤ p.visual.size.height)
    (hdetail : ∀ detail ∈ text.detail, m.textWidth detail ≤ p.visual.size.width ∧
      m.lineHeight + 2 * m.boxPadY + m.detailHeight ≤ p.visual.size.height) :
    ∀ mark ∈ Visual.boxMarks m p.visual.size style text p.x p.y, p.Holds m mark := by
  have hline := hm.lineHeight
  have hpad := hm.boxPadY
  have hdetailLine := hm.detailLine
  have hbottom : p.bottom = p.y + p.visual.size.height := rfl
  have hbox : p.Holds m (.box style p.x p.y p.visual.size.width p.visual.size.height m.boxPadY) :=
    ⟨Set.Subset.rfl, List.forall_mem_nil _⟩
  have hcaption : p.Holds m (.text .label (p.x + p.visual.size.width / 2)
      (p.y + m.boxPadY + m.lineHeight / 2) text.label) :=
    holds_text (by decide) hlabel (by linarith) (by linarith)
  obtain ⟨label, detail, tooltip⟩ := text
  refine List.forall_mem_singleton.mpr (holds_titled ?_)
  refine List.forall_mem_cons.mpr ⟨hbox, List.forall_mem_cons.mpr ⟨hcaption, ?_⟩⟩
  cases detail with
  | none => exact List.forall_mem_nil _
  | some detail =>
    obtain ⟨hwidth, htwo⟩ := hdetail detail rfl
    have hsecond : p.Holds m (.text .note (p.x + p.visual.size.width / 2)
        (p.y + m.boxPadY + m.lineHeight / 2 + m.lineHeight / 2 + m.detailHeight / 2) detail) :=
      holds_text (by decide) hwidth (by linarith) (by linarith)
    exact List.forall_mem_singleton.mpr hsecond

/-- The arcs of a loop, the arrow head and the caption stay inside where there is room for them. -/
theorem holds_loopMarks (hm : m.Roomy) {rails : LoopRails} {caption : String} {content : Size Rat}
    (hcontent : 0 ≤ content.width ∧ 0 ≤ content.height)
    (hwidth : content.width + 2 * m.path ≤ p.visual.size.width)
    (hcaption : m.textWidth caption ≤ p.visual.size.width)
    (hheight : p.visual.size.height = content.height + 2 * (m.arc + m.caption)) :
    ∀ mark ∈ Visual.loopMarks m p.visual.size rails caption content p.x p.y, p.Holds m mark := by
  obtain ⟨hcontentWidth, hcontentHeight⟩ := hcontent
  have hpath := hm.path
  have hline := hm.lineHeight
  have harc := hm.arc
  have hstub := hm.stub
  have hroom := hm.caption
  have hcaptionLine := hm.captionLine
  have harrowWidth := hm.arrowWidth
  have harrowHeight := hm.arrowHeight
  have hright : p.right = p.x + p.visual.size.width := rfl
  have hbottom : p.bottom = p.y + p.visual.size.height := rfl
  have hpoint {u v : Rat} (hu : p.x ≤ u ∧ u ≤ p.right) (hv : p.y ≤ v ∧ v ≤ p.bottom) :
      (u, v) ∈ p.rectangle := mem_rectangle hu.1 hu.2 hv.1 hv.2
  unfold Visual.loopMarks
  extract_lets axis left top outerLeft outerRight upper lower
  have haxis : axis = p.y + p.visual.size.height / 2 := rfl
  have hleft : left = p.x + (p.visual.size.width - content.width) / 2 := rfl
  have htop : top = axis - content.height / 2 := rfl
  have houterLeft : outerLeft = left - m.path / 2 := rfl
  have houterRight : outerRight = left + content.width + m.path / 2 := rfl
  have hupper : upper = top - m.arc / 2 := rfl
  have hlower : lower = top + content.height + m.arc / 2 := rfl
  have hfrom : p.x ≤ outerLeft ∧ outerLeft ≤ p.right := by constructor <;> linarith
  have hto : p.x ≤ outerRight ∧ outerRight ≤ p.right := by constructor <;> linarith
  have hmiddle : p.y ≤ axis ∧ axis ≤ p.bottom := by constructor <;> linarith
  have hover : p.y ≤ upper ∧ upper ≤ p.bottom := by constructor <;> linarith
  have hunder : p.y ≤ lower ∧ lower ≤ p.bottom := by constructor <;> linarith
  have hskip : p.Holds m (.arc false outerLeft outerRight upper axis) :=
    holds_arc (hpoint hfrom hmiddle) (hpoint hfrom hover) (hpoint hto hover) (hpoint hto hmiddle)
  have hreturn : p.Holds m (.arc rails.lazy outerRight outerLeft lower axis) :=
    holds_arc (hpoint hto hmiddle) (hpoint hto hunder) (hpoint hfrom hunder) (hpoint hfrom hmiddle)
  have harrow : p.Holds m (.arrowHead (p.x + p.visual.size.width / 2 - m.stub / 2) lower m.stub) := by
    refine holds_arrowHead (hpoint ?_ hunder) (hpoint ?_ ?_) (hpoint ?_ ?_)
    all_goals constructor <;> linarith
  have hnote : p.Holds m (.text .note (p.x + p.visual.size.width / 2)
      (p.y + p.visual.size.height - m.caption / 2) caption) :=
    holds_text (by decide) hcaption (by linarith) (by linarith)
  refine List.forall_mem_append.mpr ⟨List.forall_mem_append.mpr ⟨?_, ?_⟩, ?_⟩
  · exact holds_optional (List.forall_mem_singleton.mpr hskip)
  · exact holds_optional (List.forall_mem_cons.mpr ⟨hreturn, List.forall_mem_singleton.mpr harrow⟩)
  · exact List.forall_mem_singleton.mpr hnote

/-- A frame and its caption stay inside where there is room for them. -/
theorem holds_frameMarks (hm : m.Roomy) {label : String}
    (hlabel : m.textWidth label + 2 * (m.framePad + m.frameMargin) ≤ p.visual.size.width)
    (hheight : 2 * m.framePad ≤ p.visual.size.height) :
    ∀ mark ∈ Visual.frameMarks m p.visual.size label p.x p.y, p.Holds m mark := by
  have hpad := hm.framePad
  have hmargin := hm.frameMargin
  have hline := hm.lineHeight
  have hframeLine := hm.frameLine
  have hright : p.right = p.x + p.visual.size.width := rfl
  have hbottom : p.bottom = p.y + p.visual.size.height := rfl
  have hframe : p.Holds m (.frame (p.x + m.frameMargin) p.y (p.visual.size.width - 2 * m.frameMargin)
      p.visual.size.height m.stub) := by
    refine ⟨Set.Icc_subset_Icc ⟨?_, le_rfl⟩ ⟨?_, le_rfl⟩, List.forall_mem_nil _⟩
    · exact le_add_of_nonneg_right hmargin
    · dsimp only
      linarith
  have hcaption : p.Holds m (.text .caption (p.x + m.frameMargin + m.framePad / 2)
      (p.y + m.framePad / 2) label) := by
    have hwidth : m.textWidth label ≤ p.visual.size.width := by linarith
    refine ⟨Set.Icc_subset_Icc ⟨?_, ?_⟩ ⟨?_, ?_⟩, List.forall_mem_singleton.mpr hwidth⟩
    all_goals dsimp only [TextStyle.left]
    all_goals linarith
  exact List.forall_mem_cons.mpr ⟨hframe, List.forall_mem_singleton.mpr hcaption⟩

/-- A content in the middle of a shape stays inside with the rails to it and from it. -/
theorem contains_of_axis {visual : Visual Rat} {top : Rat} {marks : List (Mark Rat)}
    (hsize : 0 ≤ visual.size.width ∧ 0 ≤ visual.size.height)
    (hwidth : visual.size.width ≤ p.visual.size.width)
    (hheight : visual.size.height ≤ p.visual.size.height) :
    let content : Placed Rat := ⟨visual, p.x + (p.visual.size.width - visual.size.width) / 2, top⟩
    content.axis = p.axis → p.inside m = [content] →
      p.own m = .between (p.x, p.axis) (content.x, p.axis) ::
        .between (content.right, p.axis) (p.right, p.axis) :: marks →
      (∀ mark ∈ marks, p.Holds m mark) → p.Contains m := by
  intro content haxis hinside hown hmarks
  have hx : content.x = p.x + (p.visual.size.width - visual.size.width) / 2 := rfl
  have hcontentRight : content.right = content.x + visual.size.width := rfl
  have hright : p.right = p.x + p.visual.size.width := rfl
  have hsubset : content.rectangle ⊆ p.rectangle :=
    rectangle_subset_of_axis haxis hheight (by linarith) (by linarith)
  obtain ⟨hentry, hexit⟩ := ends_mem_rectangle (p := content) hsize.1 hsize.2
  rw [entry, haxis] at hentry
  rw [exit, haxis] at hexit
  obtain ⟨hfirst, hlast⟩ := ends_mem_rectangle (hsize.1.trans hwidth) (hsize.2.trans hheight)
  have hbefore : p.Holds m (.between (p.x, p.axis) (content.x, p.axis)) :=
    holds_between hfirst (hsubset hentry)
  have hbehind : p.Holds m (.between (content.right, p.axis) (p.right, p.axis)) :=
    holds_between (hsubset hexit) hlast
  refine ⟨?_, ?_, ?_⟩
  · rw [hinside]
    exact List.forall_mem_singleton.mpr hsubset
  · rw [hinside]
    exact List.pairwise_singleton _ _
  · rw [hown]
    exact List.forall_mem_cons.mpr ⟨hbefore, List.forall_mem_cons.mpr ⟨hbehind, hmarks⟩⟩

/-- A loop contains its content and what is drawn around it. -/
theorem contains_loop (hm : m.Roomy) (repetition : Repetition) (greedy : Bool) {content : Visual Rat}
    (hsize : 0 ≤ content.size.width ∧ 0 ≤ content.size.height) (x y : Rat) :
    (⟨Visual.loopOf m repetition greedy content, x, y⟩ : Placed Rat).Contains m := by
  have hpath := hm.path
  have harc := hm.arc
  have hcaption := hm.caption
  have hwidth := Visual.le_width_loopOf (m := m) repetition greedy content
  have hheight : (Visual.loopOf m repetition greedy content).size.height =
      content.size.height + 2 * (m.arc + m.caption) := rfl
  have htext : m.textWidth (Visual.loopCaption repetition greedy) ≤
      (Visual.loopOf m repetition greedy content).size.width := le_max_right _ _
  have hwider : content.size.width ≤ (Visual.loopOf m repetition greedy content).size.width := by linarith
  have hhigher : content.size.height ≤ (Visual.loopOf m repetition greedy content).size.height := by
    linarith
  exact contains_of_axis hsize hwider hhigher (axis_eq content _ _) rfl rfl
    (holds_loopMarks hm hsize hwidth htext hheight)

/-- A frame contains its content and its caption. -/
theorem contains_frame (hm : m.Roomy) (label : String) {content : Visual Rat}
    (hsize : 0 ≤ content.size.width ∧ 0 ≤ content.size.height) (x y : Rat) :
    (⟨Visual.frameOf m label content, x, y⟩ : Placed Rat).Contains m := by
  have hpad := hm.framePad
  have hmargin := hm.frameMargin
  have hwidth := Visual.le_width_frameOf (m := m) label content
  have hheight : (Visual.frameOf m label content).size.height =
      content.size.height + 2 * m.framePad := rfl
  have htext : m.textWidth label + 2 * (m.framePad + m.frameMargin) ≤
      (Visual.frameOf m label content).size.width := add_le_add_left (le_max_right _ _) _
  have hwider : content.size.width ≤ (Visual.frameOf m label content).size.width := by linarith
  have hhigher : content.size.height ≤ (Visual.frameOf m label content).size.height := by linarith
  have hroom : 2 * m.framePad ≤ (Visual.frameOf m label content).size.height := by linarith [hsize.2]
  have hmiddle : y + m.framePad + content.size.height / 2 =
      y + (content.size.height + 2 * m.framePad) / 2 := by ring
  exact contains_of_axis hsize hwider hhigher hmiddle rfl rfl (holds_frameMarks hm htext hroom)

/-- A box contains its texts. -/
theorem contains_box (hm : m.Roomy) (t : Terminal) (x y : Rat) :
    (⟨Visual.boxOf m t, x, y⟩ : Placed Rat).Contains m := by
  obtain ⟨hlabel, hdetail⟩ := Visual.textWidth_le_boxOf hm.toNonneg t
  have hheight := Visual.le_height_boxOf hm.toNonneg t
  refine contains_of_own rfl (holds_boxMarks hm hlabel hheight ?_)
  intro detail hmem
  exact ⟨hdetail detail hmem, (Visual.height_boxOf hmem).ge⟩

/-- Further items of a track follow each other without touching, between the left side of the item in
front of them and the right side of a row of them all. -/
theorem items_in_row (hm : m.Roomy) (axis : Rat) (previous : Placed Rat) {x : Rat}
    {visuals : List (Visual Rat)} (hx : previous.right = x)
    (hwidths : ∀ visual ∈ previous.visual :: visuals, 0 ≤ visual.size.width) :
    (previous :: items m axis x visuals).Pairwise (fun a b => a.right < b.x) ∧
      ∀ q ∈ previous :: items m axis x visuals, previous.x ≤ q.x ∧
        q.right ≤ previous.x + inRow m.path ((previous.visual :: visuals).map (·.size.width)) := by
  have hpath := hm.path_pos
  induction visuals generalizing previous x with
  | nil =>
    refine ⟨List.pairwise_singleton _ _, List.forall_mem_singleton.mpr ⟨le_rfl, ?_⟩⟩
    rw [List.map_singleton, inRow_singleton, right]
  | cons item rest ih =>
    let next : Placed Rat := ⟨item, x + m.path, axis - item.size.height / 2⟩
    obtain ⟨hwidth, hmore⟩ := List.forall_mem_cons.mp hwidths
    obtain ⟨hapart, hwithin⟩ := ih next rfl hmore
    have hnext : next.x = previous.x + previous.visual.size.width + m.path := by
      rw [← right, hx]
    have hrow : inRow m.path ((previous.visual :: item :: rest).map (·.size.width)) =
        previous.visual.size.width + m.path + inRow m.path ((item :: rest).map (·.size.width)) :=
      inRow_cons_cons ..
    have hright : previous.right = previous.x + previous.visual.size.width := rfl
    have hrest : 0 ≤ inRow m.path ((item :: rest).map (·.size.width)) :=
      inRow_nonneg hm.path (List.forall_mem_map.mpr hmore)
    refine ⟨List.pairwise_cons.mpr ⟨?_, hapart⟩, List.forall_mem_cons.mpr ⟨⟨le_rfl, ?_⟩, ?_⟩⟩
    · intro q hq
      have hleft := (hwithin q hq).1
      linarith
    · rw [hrow]
      linarith
    · intro q hq
      obtain ⟨hleft, hend⟩ := hwithin q hq
      rw [hrow]
      exact ⟨by linarith, by linarith⟩

/-- Further items of a track stand on its axis. -/
theorem axis_of_mem_items {axis x : Rat} {visuals : List (Visual Rat)} (h : q ∈ items m axis x visuals) :
    q.axis = axis := by
  induction visuals generalizing x with
  | nil => exact absurd h List.not_mem_nil
  | cons item rest ih =>
    rcases List.mem_cons.mp h with rfl | hrest
    · exact axis_eq item (x + m.path) axis
    · exact ih hrest

/-- A rail between neighbours begins where one shape is left and ends where another one is entered. -/
theorem exists_of_mem_joinsBetween {placed : List (Placed Rat)} {mark : Mark Rat}
    (h : mark ∈ joinsBetween placed) :
    ∃ a ∈ placed, ∃ b ∈ placed, mark = .between a.exit b.entry := by
  obtain ⟨i, hi, rfl⟩ := List.mem_iff_getElem.mp h
  rw [joinsBetween, List.length_zipWith, lt_min_iff] at hi
  refine ⟨_, List.getElem_mem hi.1, _, List.mem_of_mem_tail (List.getElem_mem hi.2), ?_⟩
  exact List.getElem_zipWith

/-- A track contains its items and the rails between them. -/
theorem contains_track (hm : m.Roomy) {items : List (Visual Rat)}
    (hsizes : ∀ item ∈ items, 0 ≤ item.size.width ∧ 0 ≤ item.size.height) (x y : Rat) :
    (⟨Visual.trackOf m items, x, y⟩ : Placed Rat).Contains m := by
  cases items with
  | nil =>
    let p : Placed Rat := ⟨Visual.trackOf m [], x, y⟩
    obtain ⟨hentry, hexit⟩ := ends_mem_rectangle (p := p) hm.path hm.lineHeight
    exact contains_of_own rfl (List.forall_mem_singleton.mpr (holds_between hentry hexit))
  | cons item rest =>
    let p : Placed Rat := ⟨Visual.trackOf m (item :: rest), x, y⟩
    let first : Placed Rat := ⟨item, x, p.axis - item.size.height / 2⟩
    have hwidths : ∀ visual ∈ first.visual :: rest, 0 ≤ visual.size.width :=
      fun visual hvisual => (hsizes visual hvisual).1
    obtain ⟨hapart, hwithin⟩ := items_in_row hm p.axis first rfl hwidths
    have hsize := Visual.size_trackOf_cons (m := m) item rest
    have hright : p.right = first.x + inRow m.path ((item :: rest).map (·.size.width)) := by
      rw [right, hsize]
    have haxis : ∀ q ∈ p.inside m, q.axis = p.axis :=
      List.forall_mem_cons.mpr ⟨axis_eq item x p.axis, fun q => axis_of_mem_items⟩
    have hchild : ∀ q ∈ p.inside m, q.visual ∈ item :: rest := fun q => visual_mem_children
    have hheight : ∀ q ∈ p.inside m, q.visual.size.height ≤ p.visual.size.height := by
      intro q hq
      have hmem := List.mem_map_of_mem (f := fun v : Visual Rat => v.size.height) (hchild q hq)
      rw [hsize]
      exact le_foldl_max (List.mem_cons_of_mem _ hmem)
    have hinside : ∀ q ∈ p.inside m, q.rectangle ⊆ p.rectangle := by
      intro q hq
      obtain ⟨hleft, hend⟩ := hwithin q hq
      exact rectangle_subset_of_axis (haxis q hq) (hheight q hq) hleft (hend.trans hright.ge)
    have hends : ∀ q ∈ p.inside m, q.entry ∈ p.rectangle ∧ q.exit ∈ p.rectangle := by
      intro q hq
      obtain ⟨hwidth, hheight⟩ := hsizes q.visual (hchild q hq)
      obtain ⟨hentry, hexit⟩ := ends_mem_rectangle hwidth hheight
      exact ⟨hinside q hq hentry, hinside q hq hexit⟩
    refine ⟨hinside, hapart.imp disjoint_of_right_lt, ?_⟩
    rw [(chained_track item rest x y).joins]
    intro mark hmark
    obtain ⟨a, ha, b, hb, rfl⟩ := exists_of_mem_joinsBetween hmark
    exact holds_between (hends a ha).2 (hends b hb).1

/-- Rows of a branch follow each other without touching, from the line where they begin to the end of a
column of them all. -/
theorem rows_in_column (hm : m.Roomy) (size : Size Rat) (x top : Rat) {visuals : List (Visual Rat)}
    (hheights : ∀ visual ∈ visuals, 0 ≤ visual.size.height) :
    (rows m size x top visuals).Pairwise (fun a b => a.bottom < b.y) ∧
      ∀ q ∈ rows m size x top visuals, top ≤ q.y ∧
        q.bottom ≤ top + inRow m.separator (visuals.map fun row => (Visual.rowSize m row).height) := by
  have hseparator := hm.separator_pos
  have hpad := hm.rowPadY
  induction visuals generalizing top with
  | nil => exact ⟨.nil, List.forall_mem_nil _⟩
  | cons row rest ih =>
    obtain ⟨hheight, hmore⟩ := List.forall_mem_cons.mp hheights
    let q : Placed Rat := ⟨row, x + (size.width - row.size.width) / 2,
      top + (Visual.rowSize m row).height / 2 - row.size.height / 2⟩
    obtain ⟨hapart, hwithin⟩ := ih (top + (Visual.rowSize m row).height + m.separator) hmore
    have houter : (Visual.rowSize m row).height = row.size.height + 2 * m.rowPadY := rfl
    have hy : q.y = top + (Visual.rowSize m row).height / 2 - row.size.height / 2 := rfl
    have hbottom : q.bottom = q.y + row.size.height := rfl
    have hfirst : (Visual.rowSize m row).height ≤
        inRow m.separator ((row :: rest).map fun row => (Visual.rowSize m row).height) :=
      le_inRow_cons hm.separator (List.forall_mem_map.mpr fun next hnext =>
        (hmore next hnext).trans (Visual.size_le_rowSize hm.toNonneg next).2)
    refine ⟨List.pairwise_cons.mpr ⟨?_, hapart⟩, List.forall_mem_cons.mpr ⟨⟨?_, ?_⟩, ?_⟩⟩
    · intro next hnext
      have htop := (hwithin next hnext).1
      linarith
    · linarith
    · linarith
    · intro next hnext
      obtain ⟨htop, hend⟩ := hwithin next hnext
      have hne : (rest.map fun row => (Visual.rowSize m row).height) ≠ [] := by
        intro hnil
        rw [List.map_eq_nil_iff.mp hnil] at hnext
        exact absurd hnext List.not_mem_nil
      rw [List.map_cons, inRow_cons_of_ne_nil hne]
      exact ⟨by linarith, by linarith⟩

/-- What stands around rows: a rail to or from one of them, or the word between two of them. -/
theorem forks_cases (hm : m.Nonneg) {size : Size Rat} {x top : Rat} {visuals : List (Visual Rat)}
    {mark : Mark Rat} (hheights : ∀ visual ∈ visuals, 0 ≤ visual.size.height)
    (h : mark ∈ forks m size x top visuals) :
    (∃ row ∈ rows m size x top visuals, mark = .between (x, row.axis) row.entry ∨
      mark = .between row.exit (x + size.width, row.axis)) ∨
    ∃ line, top ≤ line ∧ line + m.separator ≤
      top + inRow m.separator (visuals.map fun row => (Visual.rowSize m row).height) ∧
      mark = .text .note (x + size.width / 2) (line + m.separator / 2) "or" := by
  induction visuals generalizing top with
  | nil => exact absurd h List.not_mem_nil
  | cons row rest ih =>
    obtain ⟨hheight, hmore⟩ := List.forall_mem_cons.mp hheights
    have haxis := axis_eq row (x + (size.width - row.size.width) / 2) (top + (Visual.rowSize m row).height / 2)
    have hseparator := hm.separator
    have houter : 0 ≤ (Visual.rowSize m row).height :=
      hheight.trans (Visual.size_le_rowSize hm row).2
    have hrest : 0 ≤ inRow m.separator (rest.map fun row => (Visual.rowSize m row).height) :=
      inRow_nonneg hseparator (List.forall_mem_map.mpr fun next hnext =>
        (hmore next hnext).trans (Visual.size_le_rowSize hm next).2)
    rcases List.mem_cons.mp h with rfl | h
    · refine .inl ⟨_, List.mem_cons_self, .inl ?_⟩
      rw [entry, haxis]
      rfl
    rcases List.mem_cons.mp h with rfl | h
    · refine .inl ⟨_, List.mem_cons_self, .inr ?_⟩
      rw [exit, haxis]
      rfl
    -- Behind the two rails of the first row, there is something only if another row follows.
    have hne : (rest.map fun row => (Visual.rowSize m row).height) ≠ [] := by
      intro hnil
      rw [List.map_eq_nil_iff.mp hnil] at h
      exact absurd h List.not_mem_nil
    rw [List.map_cons, inRow_cons_of_ne_nil hne]
    rcases List.mem_append.mp h with hword | hforks
    · cases rest with
      | nil => exact absurd rfl hne
      | cons next rest =>
        refine .inr ⟨top + (Visual.rowSize m row).height, ?_, ?_, List.mem_singleton.mp hword⟩
        · linarith
        · linarith
    · rcases ih hmore hforks with ⟨q, hq, hmark⟩ | ⟨line, htop, hbottom, hmark⟩
      · exact .inl ⟨q, List.mem_cons_of_mem _ hq, hmark⟩
      · exact .inr ⟨line, by linarith, by linarith, hmark⟩

/-- The axes of rows are those of the rows at their places. -/
theorem map_axis_rows (size : Size Rat) (x top : Rat) (visuals : List (Visual Rat)) :
    (rows m size x top visuals).map axis = Visual.rowAxes m top visuals := by
  induction visuals generalizing top with
  | nil => rfl
  | cons row rest ih =>
    have haxis := axis_eq row (x + (size.width - row.size.width) / 2) (top + (Visual.rowSize m row).height / 2)
    exact congrArg₂ List.cons haxis (ih _)

/-- The rails at the edges of a branch stand beside its rows. -/
theorem exists_of_mem_spineMarks {size : Size Rat} {x : Rat} {axes : List Rat} {mark : Mark Rat}
    (h : mark ∈ Visual.spineMarks size x axes) :
    ∃ first ∈ axes, ∃ last ∈ axes, mark = .between (x, first) (x, last) ∨
      mark = .between (x + size.width, first) (x + size.width, last) := by
  cases hfirst : axes.head? with
  | none =>
    rw [Visual.spineMarks, hfirst] at h
    exact absurd h List.not_mem_nil
  | some first =>
    cases hlast : axes.getLast? with
    | none =>
      rw [Visual.spineMarks, hfirst, hlast] at h
      exact absurd h List.not_mem_nil
    | some last =>
      rw [Visual.spineMarks, hfirst, hlast] at h
      refine ⟨first, List.mem_of_head? hfirst, last, List.mem_of_getLast? hlast, ?_⟩
      rcases List.mem_cons.mp h with rfl | h
      · exact .inl rfl
      · exact .inr (List.mem_singleton.mp h)

/-- Rows stand in the middle between the edges of a branch. -/
theorem x_of_mem_rows {size : Size Rat} {x top : Rat} {visuals : List (Visual Rat)}
    (h : q ∈ rows m size x top visuals) : q.x = x + (size.width - q.visual.size.width) / 2 := by
  induction visuals generalizing top with
  | nil => exact absurd h List.not_mem_nil
  | cons row rest ih =>
    rcases List.mem_cons.mp h with rfl | hrest
    · rfl
    · exact ih hrest

/-- A branch contains its rows, the rails to and from them, and the words between them. -/
theorem contains_branch (hm : m.Roomy) {visuals : List (Visual Rat)}
    (hsizes : ∀ row ∈ visuals, 0 ≤ row.size.width ∧ 0 ≤ row.size.height) (x y : Rat) :
    (⟨Visual.branchOf m visuals, x, y⟩ : Placed Rat).Contains m := by
  let p : Placed Rat := ⟨Visual.branchOf m visuals, x, y⟩
  have hpath := hm.path
  have hpadX := hm.rowPadX
  have hstub := hm.stub
  have hline := hm.separatorLine
  have hright : p.right = x + p.visual.size.width := rfl
  have hbottom : p.bottom = y + m.stub +
      inRow m.separator (visuals.map fun row => (Visual.rowSize m row).height) + m.stub := by
    rw [bottom, Visual.size_branchOf]
    ring
  have hwidth : ∀ row ∈ visuals, row.size.width + 2 * (m.path + m.rowPadX) ≤ p.visual.size.width := by
    intro row hrow
    rw [Visual.size_branchOf]
    exact le_foldl_max (List.mem_cons_of_mem _
      (List.mem_map_of_mem (f := fun row => (Visual.rowSize m row).width) hrow))
  have hheights : ∀ row ∈ visuals, 0 ≤ row.size.height := fun row hrow => (hsizes row hrow).2
  obtain ⟨hapart, hwithin⟩ :=
    rows_in_column hm p.visual.size x (y + m.stub) hheights
  have hchild : ∀ q ∈ p.inside m, q.visual ∈ visuals := fun q => visual_mem_children
  have hinside : ∀ q ∈ p.inside m, q.rectangle ⊆ p.rectangle := by
    intro q hq
    obtain ⟨htop, hend⟩ := hwithin q hq
    have hx : q.x = x + (p.visual.size.width - q.visual.size.width) / 2 := x_of_mem_rows hq
    have hroom := hwidth q.visual (hchild q hq)
    have hqright : q.right = q.x + q.visual.size.width := rfl
    have hleft : x ≤ q.x := by linarith
    have htop' : y ≤ q.y := by linarith
    exact rectangle_subset hleft (by linarith) htop' (by linarith)
  have hpoints : ∀ q ∈ p.inside m, q.entry ∈ p.rectangle ∧ q.exit ∈ p.rectangle ∧
      (x, q.axis) ∈ p.rectangle ∧ (p.right, q.axis) ∈ p.rectangle := by
    intro q hq
    obtain ⟨hqwidth, hqheight⟩ := hsizes q.visual (hchild q hq)
    obtain ⟨hentry, hexit⟩ := ends_mem_rectangle hqwidth hqheight
    have hentry' := hinside q hq hentry
    have hwide : x ≤ p.right := hentry'.1.1.trans hentry'.2.1
    exact ⟨hentry', hinside q hq hexit, mem_rectangle le_rfl hwide hentry'.1.2 hentry'.2.2,
      mem_rectangle hwide le_rfl hentry'.1.2 hentry'.2.2⟩
  refine ⟨hinside, hapart.imp disjoint_of_bottom_lt, ?_⟩
  intro mark hmark
  rcases List.mem_append.mp hmark with hfork | hspine
  · rcases forks_cases hm.toNonneg hheights hfork with
      ⟨row, hrow, rfl | rfl⟩ | ⟨line, htop, hend, rfl⟩
    · exact holds_between (hpoints row hrow).2.2.1 (hpoints row hrow).1
    · exact holds_between (hpoints row hrow).2.1 (hpoints row hrow).2.2.2
    · obtain ⟨row, hrow⟩ := List.exists_mem_of_ne_nil visuals (by
        rintro rfl
        exact absurd hfork List.not_mem_nil)
      have hword : m.textWidth "or" ≤ p.visual.size.width := by
        linarith [hm.separatorWord, hwidth row hrow, (hsizes row hrow).1]
      have hupper : y ≤ line + m.separator / 2 - m.lineHeight / 2 := by linarith
      have hlower : line + m.separator / 2 + m.lineHeight / 2 ≤ p.bottom := by linarith
      exact holds_text (p := p) (by decide) hword hupper hlower
  · obtain ⟨first, hfirst, last, hlast, hmark⟩ := exists_of_mem_spineMarks hspine
    rw [← map_axis_rows p.visual.size x] at hfirst hlast
    obtain ⟨upper, hupper, rfl⟩ := List.mem_map.mp hfirst
    obtain ⟨lower, hlower, rfl⟩ := List.mem_map.mp hlast
    rcases hmark with rfl | rfl
    · exact holds_between (hpoints upper hupper).2.2.1 (hpoints lower hlower).2.2.1
    · exact holds_between (hpoints upper hupper).2.2.2 (hpoints lower hlower).2.2.2

/-- Every shape from a layout contains what it holds and draws. -/
theorem contains_of_laidOut (hm : m.Roomy) {filled : Prop} (h : p.visual.LaidOut m filled) :
    p.Contains m := by
  obtain ⟨visual, x, y⟩ := p
  dsimp only at h
  cases h with
  | start => exact contains_of_own rfl (List.forall_mem_singleton.mpr (holds_terminus hm true rfl))
  | finish => exact contains_of_own rfl (List.forall_mem_singleton.mpr (holds_terminus hm false rfl))
  | track inside =>
    exact contains_track hm (fun item hitem => (inside item hitem).size_nonneg hm.toNonneg) x y
  | branch _ inside =>
    exact contains_branch hm (fun row hrow => (inside row hrow).size_nonneg hm.toNonneg) x y
  | loop repetition greedy inside =>
    exact contains_loop hm repetition greedy (inside.size_nonneg hm.toNonneg) x y
  | frame label inside => exact contains_frame hm label (inside.size_nonneg hm.toNonneg) x y
  | box t => exact contains_box hm t x y

/-- A shape somewhere inside another one stays in the rectangle of that one. -/
theorem Within.rectangle_subset (hm : m.Roomy) {filled : Prop} (h : Within m p q)
    (hp : p.visual.LaidOut m filled) : q.rectangle ⊆ p.rectangle := by
  induction h with
  | refl => exact Set.Subset.rfl
  | tail hwithin hinside ih =>
    exact ((contains_of_laidOut hm (Within.laidOut hwithin hp)).inside _ hinside).trans ih

/-- The whole drawing of a shape stays in its rectangle. -/
theorem ink_subset_rectangle (hm : m.Roomy) {filled : Prop} (p : Placed Rat)
    (hp : p.visual.LaidOut m filled) : ∀ mark ∈ p.marks m, mark.ink m ⊆ p.rectangle := by
  -- What the shapes inside draw stays in their rectangles by the induction hypothesis.
  induction p using inside_induction (m := m) with
  | step p ih =>
    intro mark hmark
    have hcontains := contains_of_laidOut hm hp
    rcases List.mem_append.mp ((p.marks_perm m).mem_iff.mp hmark) with hown | hinside
    · exact (hcontains.own mark hown).ink
    · obtain ⟨q, hq, hdrawn⟩ := List.mem_flatMap.mp hinside
      have hchild := hp.children (visual_mem_children hq)
      exact (ih q hq hchild mark hdrawn).trans (hcontains.inside q hq)

end Placed

/-- The rectangle that the page of a diagram shows. -/
def Diagram.page (diagram : Diagram Rat) : Set (Rat × Rat) :=
  Set.Icc (0, 0) (diagram.pageSize.width, diagram.pageSize.height)

/-- A shape stays in its place on a page. -/
structure Placed.Confined (m : Metrics Rat) (page : Set (Rat × Rat)) (p : Placed Rat) : Prop where
  /-- The shapes inside it are those that the shape holds. -/
  shapes : (p.inside m).map (·.visual) = p.visual.children
  /-- The shape is drawn by its own marks and those of the shapes inside it. -/
  drawn : (p.marks m).Perm (p.own m ++ (p.inside m).flatMap (marks m))
  /-- Neither its width nor its height is negative. -/
  size : 0 ≤ p.visual.size.width ∧ 0 ≤ p.visual.size.height
  /-- The shapes inside lie apart in its rectangle, and its own marks and their texts stay in it. -/
  contains : p.Contains m
  /-- The rectangle lies on the page. -/
  page : p.rectangle ⊆ page

/-- In the diagram of every tree at every zoom, each shape stays in its place on the page, and the whole
drawing lies on the page. -/
theorem Diagram.drawing_confined (node : Node) (scale : Nat) :
    let diagram : Diagram Rat := ofNode node scale
    (∀ p, Placed.Within diagram.metrics diagram.placed p →
        p.Confined diagram.metrics diagram.page) ∧
      ∀ mark ∈ diagram.marks, mark.ink diagram.metrics ⊆ diagram.page := by
  intro diagram
  have hscale : 0 < clampScale scale := by
    rw [clampScale, minScale, maxScale]
    omega
  have hm : diagram.metrics.Roomy := Metrics.roomy_ofScale hscale
  have hroot : diagram.root.LaidOut diagram.metrics False := laidOut_root False.elim scale
  have hpath := hm.path
  have hwidth : diagram.pageSize.width = diagram.root.size.width + 2 * diagram.metrics.path := rfl
  have hheight : diagram.pageSize.height = diagram.root.size.height + 2 * diagram.metrics.path := rfl
  have hright : diagram.placed.right = diagram.metrics.path + diagram.root.size.width := rfl
  have hbottom : diagram.placed.bottom = diagram.metrics.path + diagram.root.size.height := rfl
  have hpage : diagram.placed.rectangle ⊆ diagram.page := by
    refine Set.Icc_subset_Icc ⟨hpath, hpath⟩ ⟨?_, ?_⟩
    · dsimp only
      linarith
    · dsimp only
      linarith
  refine ⟨?_, ?_⟩
  · intro p hwithin
    have hp := hwithin.laidOut hroot
    exact
      { shapes := p.map_visual_inside diagram.metrics
        drawn := p.marks_perm diagram.metrics
        size := hp.size_nonneg hm.toNonneg
        contains := Placed.contains_of_laidOut hm hp
        page := (hwithin.rectangle_subset hm hroot).trans hpage }
  · intro mark hmark
    exact (Placed.ink_subset_rectangle hm diagram.placed hroot mark hmark).trans hpage

/-- A branch with an empty row and a lazy loop, at a zoom below the least one. -/
theorem Diagram.drawing_confined_lazyLoop :
    let diagram : Diagram Rat :=
      ofNode (.choice [.sequence [], .quantified .zeroOrMore false (.terminal (.literal "a"))]) 7
    ∃ p, Placed.Within diagram.metrics diagram.placed p ∧ p.visual.kind = .branch ∧
      p.Confined diagram.metrics diagram.page ∧
      ∃ mark ∈ diagram.marks, mark.ink diagram.metrics ⊆ diagram.page := by
  intro diagram
  obtain ⟨hconfined, hdrawn⟩ := Diagram.drawing_confined
    (.choice [.sequence [], .quantified .zeroOrMore false (.terminal (.literal "a"))]) 7
  obtain ⟨first, branch, rest, hinside, hkind⟩ : ∃ first branch rest,
      diagram.placed.inside diagram.metrics = first :: branch :: rest ∧
        branch.visual.kind = .branch := ⟨_, _, _, rfl, rfl⟩
  have hmem : branch ∈ diagram.placed.inside diagram.metrics :=
    hinside ▸ List.mem_cons_of_mem first List.mem_cons_self
  have hwithin : Placed.Within diagram.metrics diagram.placed branch := .single hmem
  obtain ⟨mark, more, hmarks⟩ : ∃ mark more, diagram.marks = mark :: more := ⟨_, _, rfl⟩
  have hmark : mark ∈ diagram.marks := hmarks ▸ List.mem_cons_self
  exact ⟨branch, hwithin, hkind, hconfined branch hwithin, mark, hmark, hdrawn mark hmark⟩

end Railroad
