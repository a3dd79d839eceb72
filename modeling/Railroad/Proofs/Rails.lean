import Railroad.Proofs.Sizes

/-!
# The rails of a drawing

A shape is entered on its left edge and left on its right edge. How one leads to the other is said for
each kind of shape by its own rails and by the ends of the shapes inside it, and the whole drawing is put
together from that: every shape can be reached along the rails and be passed.
-/

namespace Railroad

namespace Mark

mutual

/-- The points that a mark leads over: those of a rail, of a box and of a disc. An arc leads around a
content that is passed anyway, and nothing leads over a frame or a text. -/
def way : Mark Rat → Set (Rat × Rat)
  | rail x1 y1 x2 y2 => segment Rat (x1, y1) (x2, y2)
  | terminus _ x y radius => {point | (point.1 - x) ^ 2 + (point.2 - y) ^ 2 ≤ radius ^ 2}
  | box _ x y width height _ => Set.Icc (x, y) (x + width, y + height)
  | titled _ marks => wayOfAll marks
  | arc _ _ _ _ _ | arrowHead _ _ _ | frame _ _ _ _ _ | text _ _ _ _ => ∅

/-- The points that the marks of a list lead over. -/
def wayOfAll : List (Mark Rat) → Set (Rat × Rat)
  | [] => ∅
  | mark :: marks => mark.way ∪ wayOfAll marks

end

/-- The rail between two points. -/
def between (a b : Rat × Rat) : Mark Rat := rail a.1 a.2 b.1 b.2

end Mark

/-- One way to get from a point to another: over a mark, or through a shape. -/
inductive Link (own : List (Mark Rat)) (inside : List (Placed Rat)) : Rat × Rat → Rat × Rat → Prop
  /-- A mark leads over both points. -/
  | mark {mark : Mark Rat} (mem : mark ∈ own) {a b : Rat × Rat} (left : a ∈ mark.way)
      (right : b ∈ mark.way) : Link own inside a b
  /-- The points are where a shape is entered and where it is left. -/
  | shape {q : Placed Rat} (mem : q ∈ inside) : Link own inside q.entry q.exit

/-- Two points are joined by marks and by shapes. -/
def Linked (own : List (Mark Rat)) (inside : List (Placed Rat)) : Rat × Rat → Rat × Rat → Prop :=
  Relation.EqvGen (Link own inside)

/-- Two points are joined by marks alone. -/
def Joined (drawing : List (Mark Rat)) : Rat × Rat → Rat × Rat → Prop := Linked drawing []

/-- The rails between neighbours, from where each shape is left to where the next one is entered. -/
def Placed.joinsBetween (placed : List (Placed Rat)) : List (Mark Rat) :=
  List.zipWith (fun a b => Mark.between a.exit b.entry) placed placed.tail

namespace Linked

variable {own : List (Mark Rat)} {inside : List (Placed Rat)} {a b c : Rat × Rat}

/-- One way behind another. -/
theorem trans (h : Linked own inside a b) (h' : Linked own inside b c) : Linked own inside a c :=
  Relation.EqvGen.trans a b c h h'

/-- The ends of a rail are joined. -/
theorem of_between (h : Mark.between a b ∈ own) : Linked own inside a b :=
  .rel _ _ (.mark h (left_mem_segment _ _ _) (right_mem_segment _ _ _))

/-- The ends of a shape are joined. -/
theorem of_shape {q : Placed Rat} (h : q ∈ inside) : Linked own inside q.entry q.exit :=
  .rel _ _ (.shape h)

/-- Two points on a rail from top to bottom are joined. -/
theorem of_vertical {x top bottom y y' : Rat} (h : Mark.rail x top x bottom ∈ own)
    (hy : top ≤ y ∧ y ≤ bottom) (hy' : top ≤ y' ∧ y' ≤ bottom) : Linked own inside (x, y) (x, y') := by
  have hway {z : Rat} (hz : top ≤ z ∧ z ≤ bottom) : (x, z) ∈ (Mark.rail x top x bottom).way := by
    have hmem : z ∈ segment Rat top bottom := (segment_eq_Icc (hz.1.trans hz.2)).ge hz
    exact (Prod.image_mk_segment_right x top bottom).le ⟨z, hmem, rfl⟩
  exact .rel _ _ (.mark h (hway hy) (hway hy'))

/-- What is joined by marks and shapes is joined by marks alone where the ends of the shapes are. -/
theorem joined {drawing : List (Mark Rat)} (h : Linked own inside a b) (hown : own ⊆ drawing)
    (hinside : ∀ q ∈ inside, Joined drawing q.entry q.exit) : Joined drawing a b := by
  induction h with
  | rel a b hlink =>
    cases hlink with
    | mark mem left right => exact .rel _ _ (.mark (hown mem) left right)
    | shape mem => exact hinside _ mem
  | refl a => exact .refl a
  | symm a b _ ih => exact .symm a b ih
  | trans a b c _ _ ih ih' => exact ih.trans ih'

/-- Along shapes with rails between neighbours, all are reached from the first. -/
theorem of_joinsBetween {first : Placed Rat} {rest : List (Placed Rat)} (hsub : first :: rest ⊆ inside)
    (hrails : Placed.joinsBetween (first :: rest) ⊆ own) :
    ∀ q ∈ first :: rest, Linked own inside first.entry q.entry := by
  induction rest generalizing first with
  | nil =>
    intro q hq
    rw [List.mem_singleton.mp hq]
    exact .refl _
  | cons next rest ih =>
    obtain ⟨hrail, hmore⟩ := List.cons_subset.mp hrails
    obtain ⟨hfirst, hrest⟩ := List.cons_subset.mp hsub
    have hpassed : Linked own inside first.entry first.exit := .of_shape hfirst
    have hnext : Linked own inside first.entry next.entry := hpassed.trans (.of_between hrail)
    intro q hq
    rcases List.mem_cons.mp hq with rfl | hlater
    · exact .refl _
    · exact hnext.trans (ih hrest hmore q hlater)

end Linked

namespace Placed

/-- A mark of the shape leads over the points where it is entered and left. -/
def Crossed (m : Metrics Rat) (p : Placed Rat) : Prop :=
  ∃ mark ∈ p.own m, p.entry ∈ mark.way ∧ p.exit ∈ mark.way

/-- The shapes inside follow each other from the entry to the exit. -/
structure Chained (m : Metrics Rat) (p : Placed Rat) : Prop where
  /-- There is a rail between neighbours and nothing else. -/
  joins : p.own m = joinsBetween (p.inside m)
  /-- The first of them is entered where the shape is entered. -/
  first : ∃ item, (p.inside m).head? = some item ∧ item.entry = p.entry
  /-- The last of them is left where the shape is left. -/
  last : ∃ item, (p.inside m).getLast? = some item ∧ item.exit = p.exit

/-- The shapes inside stand between two rails from top to bottom, at the edges of the shape. -/
structure Fanned (m : Metrics Rat) (p : Placed Rat) (top bottom : Rat) : Prop where
  /-- There is one of them at least. -/
  rows : p.inside m ≠ []
  /-- There is a rail at the left edge. -/
  left : Mark.rail p.x top p.x bottom ∈ p.own m
  /-- There is a rail at the right edge. -/
  right : Mark.rail p.right top p.right bottom ∈ p.own m
  /-- The two rails reach the axis of the shape. -/
  axis : top ≤ p.axis ∧ p.axis ≤ bottom
  /-- The two rails reach the axes of the shapes inside. -/
  rowAxis : ∀ row ∈ p.inside m, top ≤ row.axis ∧ row.axis ≤ bottom
  /-- A rail leads from the left edge to where each of them is entered. -/
  before : ∀ row ∈ p.inside m, Mark.between (p.x, row.axis) row.entry ∈ p.own m
  /-- A rail leads from where each of them is left to the right edge. -/
  behind : ∀ row ∈ p.inside m, Mark.between row.exit (p.right, row.axis) ∈ p.own m

/-- There is one shape inside, on the axis of the shape. -/
structure Centred (m : Metrics Rat) (p content : Placed Rat) : Prop where
  /-- It is the only one. -/
  inside : p.inside m = [content]
  /-- Its axis is that of the shape. -/
  axis : content.axis = p.axis
  /-- A rail leads to where it is entered. -/
  before : Mark.between p.entry content.entry ∈ p.own m
  /-- A rail leads from where it is left. -/
  behind : Mark.between content.exit p.exit ∈ p.own m

/-- How a shape of each kind is passed. -/
def Threaded (m : Metrics Rat) (p : Placed Rat) : Prop :=
  match p.visual with
  | .start _ | .finish _ | .terminal _ _ _ | .track _ [] => p.Crossed m
  | .track _ (_ :: _) => p.Chained m
  | .branch _ _ => ∃ top bottom, p.Fanned m top bottom
  | .loop _ _ _ _ | .frame _ _ _ => ∃ content, p.Centred m content

/-- The shape can be passed, and every shape inside it can be reached, along what it draws itself and
through the shapes inside. -/
structure Passable (m : Metrics Rat) (p : Placed Rat) : Prop where
  /-- From the entry to the exit. -/
  passed : Linked (p.own m) (p.inside m) p.entry p.exit
  /-- From the entry to where a shape inside is entered. -/
  reached : ∀ q ∈ p.inside m, Linked (p.own m) (p.inside m) p.entry q.entry

variable {m : Metrics Rat} {p : Placed Rat}

/-- A mark that leads over both ends is a way for a shape that holds no other. -/
theorem Crossed.passable (h : p.Crossed m) (hinside : p.inside m = []) : p.Passable m := by
  obtain ⟨mark, hmem, hentry, hexit⟩ := h
  refine ⟨.rel _ _ (.mark hmem hentry hexit), ?_⟩
  rw [hinside]
  exact List.forall_mem_nil _

/-- Shapes one behind the other are passed in turn. -/
theorem Chained.passable (h : p.Chained m) : p.Passable m := by
  obtain ⟨first, hfirst, hentry⟩ := h.first
  obtain ⟨last, hlast, hexit⟩ := h.last
  obtain ⟨rest, hitems⟩ := List.head?_eq_some_iff.mp hfirst
  have hreached : ∀ q ∈ p.inside m, Linked (p.own m) (p.inside m) p.entry q.entry := by
    have hsub : first :: rest ⊆ p.inside m := fun q hq => hitems ▸ hq
    have hrails : joinsBetween (first :: rest) ⊆ p.own m := fun mark hmark => by
      rwa [h.joins, hitems]
    have hall := Linked.of_joinsBetween hsub hrails
    rwa [← hitems, hentry] at hall
  have hmem : last ∈ p.inside m := List.mem_of_getLast? hlast
  have hpassed : Linked (p.own m) (p.inside m) p.entry last.exit :=
    (hreached last hmem).trans (.of_shape hmem)
  exact ⟨hexit ▸ hpassed, hreached⟩

/-- Each of the rows leads from one of the rails at the edges to the other. -/
theorem Fanned.passable {top bottom : Rat} (h : p.Fanned m top bottom) : p.Passable m := by
  have hreached : ∀ q ∈ p.inside m, Linked (p.own m) (p.inside m) p.entry q.entry := by
    intro q hq
    have hdown : Linked (p.own m) (p.inside m) p.entry (p.x, q.axis) :=
      .of_vertical h.left h.axis (h.rowAxis q hq)
    exact hdown.trans (.of_between (h.before q hq))
  obtain ⟨row, hrow⟩ := List.exists_mem_of_ne_nil _ h.rows
  have hleft : Linked (p.own m) (p.inside m) p.entry row.exit :=
    (hreached row hrow).trans (.of_shape hrow)
  have hright : Linked (p.own m) (p.inside m) (p.right, row.axis) p.exit :=
    .of_vertical h.right (h.rowAxis row hrow) h.axis
  exact ⟨hleft.trans ((Linked.of_between (h.behind row hrow)).trans hright), hreached⟩

/-- The way leads through the content. -/
theorem Centred.passable {content : Placed Rat} (h : p.Centred m content) : p.Passable m := by
  have hmem : content ∈ p.inside m := h.inside ▸ List.mem_singleton_self content
  have hentry : Linked (p.own m) (p.inside m) p.entry content.entry := .of_between h.before
  have hexit : Linked (p.own m) (p.inside m) content.exit p.exit := .of_between h.behind
  refine ⟨hentry.trans ((Linked.of_shape hmem).trans hexit), ?_⟩
  intro q hq
  rw [h.inside, List.mem_singleton] at hq
  rw [hq]
  exact hentry

/-- A shape that is passed as its kind is can be passed. -/
theorem Threaded.passable (h : p.Threaded m) : p.Passable m := by
  obtain ⟨visual, x, y⟩ := p
  cases visual with
  | start size => exact Crossed.passable h rfl
  | finish size => exact Crossed.passable h rfl
  | terminal size style text => exact Crossed.passable h rfl
  | track size items =>
    cases items with
    | nil => exact Crossed.passable h rfl
    | cons item rest => exact Chained.passable h
  | branch size rows =>
    obtain ⟨top, bottom, hfanned⟩ := h
    exact hfanned.passable
  | loop size rails caption content =>
    obtain ⟨content, hcentred⟩ := h
    exact hcentred.passable
  | frame size label content =>
    obtain ⟨content, hcentred⟩ := h
    exact hcentred.passable

/-- Where a shape stands with its middle on a line, the line is its axis. -/
theorem axis_eq (visual : Visual Rat) (x axis : Rat) :
    (⟨visual, x, axis - visual.size.height / 2⟩ : Placed Rat).axis = axis :=
  sub_add_cancel axis (visual.size.height / 2)

/-- The rails in front of further items begin where the shape in front of them is left. -/
theorem joins_eq {axis x : Rat} {previous : Placed Rat} (visuals : List (Visual Rat))
    (h : previous.exit = (x, axis)) :
    joins m axis x visuals = joinsBetween (previous :: items m axis x visuals) := by
  induction visuals generalizing previous x with
  | nil => rfl
  | cons item rest ih =>
    let next : Placed Rat := ⟨item, x + m.path, axis - item.size.height / 2⟩
    have haxis : next.axis = axis := axis_eq item (x + m.path) axis
    have hrail : Mark.rail x axis (x + m.path) axis = Mark.between previous.exit next.entry := by
      rw [h, entry, haxis]
      rfl
    have hnext : next.exit = (x + m.path + item.size.width, axis) := Prod.ext rfl haxis
    have hmore := ih hnext
    exact congrArg₂ List.cons hrail hmore

/-- The last one of these items is left where a row of them all ends. -/
theorem exit_getLast_items {axis x : Rat} {previous : Placed Rat} (visuals : List (Visual Rat))
    (h : previous.exit = (x, axis)) :
    ∃ last, (previous :: items m axis x visuals).getLast? = some last ∧
      last.exit = (previous.x +
        inRow m.path ((previous.visual :: visuals).map (·.size.width)), axis) := by
  induction visuals generalizing previous x with
  | nil =>
    have haxis : previous.axis = axis := congrArg Prod.snd h
    refine ⟨previous, rfl, ?_⟩
    rw [List.map_singleton, inRow_singleton]
    exact Prod.ext rfl haxis
  | cons item rest ih =>
    let next : Placed Rat := ⟨item, x + m.path, axis - item.size.height / 2⟩
    have hnext : next.exit = (x + m.path + item.size.width, axis) :=
      Prod.ext rfl (axis_eq item (x + m.path) axis)
    obtain ⟨last, hlast, hexit⟩ := ih hnext
    have hx : previous.x + previous.visual.size.width = x := congrArg Prod.fst h
    have hrow : inRow m.path ((previous.visual :: item :: rest).map (·.size.width)) =
        previous.visual.size.width + m.path + inRow m.path ((item :: rest).map (·.size.width)) :=
      inRow_cons_cons ..
    have hend : x + m.path + inRow m.path ((item :: rest).map (·.size.width)) =
        previous.x + inRow m.path ((previous.visual :: item :: rest).map (·.size.width)) := by
      rw [hrow, ← hx]
      ring
    exact ⟨last, List.getLast?_cons_cons.trans hlast, hexit.trans (Prod.ext hend rfl)⟩

/-- Rows stand with their middles on the axes, with a rail from the left edge and one to the right
edge. -/
theorem rows_on_axes {size : Size Rat} {x top : Rat} {visuals : List (Visual Rat)} {row : Placed Rat}
    (h : row ∈ rows m size x top visuals) :
    row.axis ∈ Visual.rowAxes m top visuals ∧
      Mark.between (x, row.axis) row.entry ∈ forks m size x top visuals ∧
      Mark.between row.exit (x + size.width, row.axis) ∈ forks m size x top visuals := by
  induction visuals generalizing top with
  | nil => exact absurd h List.not_mem_nil
  | cons visual rest ih =>
    rcases List.mem_cons.mp h with rfl | hrest
    · have haxis := axis_eq visual (x + (size.width - visual.size.width) / 2)
        (top + (Visual.rowSize m visual).height / 2)
      rw [entry, exit, haxis]
      exact ⟨List.mem_cons_self, List.mem_cons_self, List.mem_cons_of_mem _ List.mem_cons_self⟩
    · obtain ⟨haxis, hbefore, hbehind⟩ := ih hrest
      have hforks {mark : Mark Rat}
          (hmem : mark ∈ forks m size x (top + (Visual.rowSize m visual).height + m.separator) rest) :
          mark ∈ forks m size x top (visual :: rest) :=
        List.mem_cons_of_mem _ (List.mem_cons_of_mem _ (List.mem_append_right _ hmem))
      exact ⟨List.mem_cons_of_mem _ haxis, hforks hbefore, hforks hbehind⟩

/-- Axes of rows are not above the line where the rows begin. -/
theorem le_rowAxes (hm : m.Nonneg) {top axis : Rat} {visuals : List (Visual Rat)}
    (hheights : ∀ visual ∈ visuals, 0 ≤ (Visual.rowSize m visual).height)
    (h : axis ∈ Visual.rowAxes m top visuals) : top ≤ axis := by
  induction visuals generalizing top with
  | nil => exact absurd h List.not_mem_nil
  | cons visual rest ih =>
    obtain ⟨hheight, hrest⟩ := List.forall_mem_cons.mp hheights
    have hseparator := hm.separator
    rcases List.mem_cons.mp h with rfl | hmore
    · linarith
    · have hbelow := ih hrest hmore
      linarith

/-- The last axis is below all others, and not above the middle of all rows. -/
theorem rowAxes_le (hm : m.Nonneg) (top : Rat) {visual : Visual Rat} {rest : List (Visual Rat)}
    (hheights : ∀ row ∈ visual :: rest, 0 ≤ (Visual.rowSize m row).height) :
    ∃ last, (Visual.rowAxes m top (visual :: rest)).getLast? = some last ∧
      (∀ axis ∈ Visual.rowAxes m top (visual :: rest), axis ≤ last) ∧
      top + inRow m.separator ((visual :: rest).map fun row => (Visual.rowSize m row).height) / 2 ≤
        last := by
  -- The first row moves the last axis down by its whole height, and the middle by half of it.
  induction rest generalizing top visual with
  | nil =>
    refine ⟨top + (Visual.rowSize m visual).height / 2, rfl, ?_, ?_⟩
    · intro axis haxis
      exact (List.mem_singleton.mp haxis).le
    · rw [List.map_singleton, inRow_singleton]
  | cons next rest ih =>
    obtain ⟨hheight, hrest⟩ := List.forall_mem_cons.mp hheights
    obtain ⟨last, hlast, hbelow, hmiddle⟩ :=
      ih (top + (Visual.rowSize m visual).height + m.separator) hrest
    have hseparator := hm.separator
    have hrows := inRow_nonneg hseparator (List.forall_mem_map.mpr hrest)
    refine ⟨last, List.getLast?_cons_cons.trans hlast, ?_, ?_⟩
    · intro axis haxis
      rcases List.mem_cons.mp haxis with rfl | hmore
      · linarith
      · exact hbelow axis hmore
    · have hsum : inRow m.separator ((visual :: next :: rest).map fun row =>
          (Visual.rowSize m row).height) = (Visual.rowSize m visual).height + m.separator +
            inRow m.separator ((next :: rest).map fun row => (Visual.rowSize m row).height) :=
        inRow_cons_cons ..
      rw [hsum]
      linarith

/-- All axes lie between the first one and the last one, and so does the middle of all rows. -/
theorem exists_bounds_rowAxes (hm : m.Nonneg) (top : Rat) {visual : Visual Rat}
    {rest : List (Visual Rat)}
    (hheights : ∀ row ∈ visual :: rest, 0 ≤ (Visual.rowSize m row).height) :
    ∃ first last, (Visual.rowAxes m top (visual :: rest)).head? = some first ∧
      (Visual.rowAxes m top (visual :: rest)).getLast? = some last ∧
      (∀ axis ∈ Visual.rowAxes m top (visual :: rest), first ≤ axis ∧ axis ≤ last) ∧
      first ≤ top + inRow m.separator ((visual :: rest).map fun row =>
        (Visual.rowSize m row).height) / 2 ∧
      top + inRow m.separator ((visual :: rest).map fun row => (Visual.rowSize m row).height) / 2 ≤
        last := by
  obtain ⟨last, hlast, hbelow, hmiddle⟩ := rowAxes_le hm top hheights
  obtain ⟨hheight, hrest⟩ := List.forall_mem_cons.mp hheights
  have hseparator := hm.separator
  refine ⟨top + (Visual.rowSize m visual).height / 2, last, rfl, hlast, ?_, ?_, hmiddle⟩
  · intro axis haxis
    refine ⟨?_, hbelow axis haxis⟩
    rcases List.mem_cons.mp haxis with rfl | hmore
    · exact le_rfl
    · have hbehind := le_rowAxes hm hrest hmore
      linarith
  · have hfirst : (Visual.rowSize m visual).height ≤
        inRow m.separator ((visual :: rest).map fun row => (Visual.rowSize m row).height) :=
      le_inRow_cons hseparator (List.forall_mem_map.mpr hrest)
    linarith

/-- The disc of an end leads over the points where the end is entered and left. -/
theorem terminus_way (isEntry : Bool) (width axis x : Rat) :
    let disc : Mark Rat := .terminus isEntry (x + width / 2) axis (width / 2)
    (x, axis) ∈ disc.way ∧ (x + width, axis) ∈ disc.way := by
  have hleft : (x - (x + width / 2)) ^ 2 + (axis - axis) ^ 2 = (width / 2) ^ 2 := by ring
  have hright : (x + width - (x + width / 2)) ^ 2 + (axis - axis) ^ 2 = (width / 2) ^ 2 := by ring
  exact ⟨hleft.le, hright.le⟩

/-- A box leads over the points where its shape is entered and left. -/
theorem crossed_terminal {size : Size Rat} (hwidth : 0 ≤ size.width) (hheight : 0 ≤ size.height)
    (style : BoxStyle) (text : BoxText) (x y : Rat) :
    (⟨.terminal size style text, x, y⟩ : Placed Rat).Crossed m := by
  have htop : y ≤ y + size.height / 2 := by linarith
  have hbottom : y + size.height / 2 ≤ y + size.height := by linarith
  have hright : x ≤ x + size.width := by linarith
  refine ⟨_, List.mem_singleton_self _, .inl ?_, .inl ?_⟩
  · exact ⟨⟨le_rfl, htop⟩, hright, hbottom⟩
  · exact ⟨⟨hright, htop⟩, le_rfl, hbottom⟩

/-- The items of a track follow each other. -/
theorem chained_track (item : Visual Rat) (rest : List (Visual Rat)) (x y : Rat) :
    (⟨Visual.trackOf m (item :: rest), x, y⟩ : Placed Rat).Chained m := by
  let p : Placed Rat := ⟨Visual.trackOf m (item :: rest), x, y⟩
  let first : Placed Rat := ⟨item, x, p.axis - item.size.height / 2⟩
  have haxis : first.axis = p.axis := axis_eq item x p.axis
  have hexit : first.exit = (x + item.size.width, p.axis) := Prod.ext rfl haxis
  obtain ⟨last, hlast, hend⟩ := exit_getLast_items (m := m) rest hexit
  have hright : p.right = x + inRow m.path ((item :: rest).map (·.size.width)) := by
    rw [right, Visual.size_trackOf_cons]
  exact
    { joins := joins_eq rest hexit
      first := ⟨first, rfl, Prod.ext rfl haxis⟩
      last := ⟨last, hlast, hend.trans (Prod.ext hright.symm rfl)⟩ }

/-- The rows of a branch fan out, where there is one. -/
theorem exists_fanned_branch (hm : m.Nonneg) {rows : List (Visual Rat)} (hne : rows ≠ [])
    (hheights : ∀ row ∈ rows, 0 ≤ (Visual.rowSize m row).height) (x y : Rat) :
    ∃ top bottom, (⟨Visual.branchOf m rows, x, y⟩ : Placed Rat).Fanned m top bottom := by
  obtain ⟨visual, rest, rfl⟩ := List.exists_cons_of_ne_nil hne
  let p : Placed Rat := ⟨Visual.branchOf m (visual :: rest), x, y⟩
  obtain ⟨first, last, hfirst, hlast, hall, hbefore, hbehind⟩ :=
    exists_bounds_rowAxes hm (y + m.stub) hheights
  have hspine : Visual.spineMarks p.visual.size x (Visual.rowAxes m (y + m.stub) (visual :: rest)) =
      [.rail x first x last, .rail p.right first p.right last] := by
    rw [Visual.spineMarks, hfirst, hlast]
    rfl
  have hown : ∀ mark ∈ [Mark.rail x first x last, .rail p.right first p.right last],
      mark ∈ p.own m := fun mark hmark => List.mem_append_right _ (hspine ▸ hmark)
  have hmiddle : p.axis = y + m.stub + inRow m.separator ((visual :: rest).map fun row =>
      (Visual.rowSize m row).height) / 2 := by
    rw [axis, Visual.size_branchOf]
    ring
  refine ⟨first, last, ?_⟩
  exact
    { rows := List.cons_ne_nil _ _
      left := hown _ List.mem_cons_self
      right := hown _ (List.mem_cons_of_mem _ List.mem_cons_self)
      axis := ⟨hbefore.trans hmiddle.ge, hmiddle.le.trans hbehind⟩
      rowAxis := fun row hrow => hall row.axis (rows_on_axes hrow).1
      before := fun row hrow => List.mem_append_left _ (rows_on_axes hrow).2.1
      behind := fun row hrow => List.mem_append_left _ (rows_on_axes hrow).2.2 }

/-- A content whose axis is that of the shape is centred between the rails on the axis. -/
theorem centred_of_axis {content : Placed Rat} (hinside : p.inside m = [content])
    (haxis : content.axis = p.axis) (hbefore : Mark.rail p.x p.axis content.x p.axis ∈ p.own m)
    (hbehind : Mark.rail content.right p.axis p.right p.axis ∈ p.own m) : p.Centred m content := by
  have hentry : content.entry = (content.x, p.axis) := Prod.ext rfl haxis
  have hexit : content.exit = (content.right, p.axis) := Prod.ext rfl haxis
  exact
    { inside := hinside
      axis := haxis
      before := by rwa [hentry]
      behind := by rwa [hexit] }

/-- A loop goes around its content, which stands with its middle on the axis. -/
theorem exists_centred_loop (repetition : Repetition) (greedy : Bool) (content : Visual Rat)
    (x y : Rat) :
    ∃ placed, (⟨Visual.loopOf m repetition greedy content, x, y⟩ : Placed Rat).Centred m placed :=
  ⟨_, centred_of_axis rfl (axis_eq content _ _) List.mem_cons_self
    (List.mem_cons_of_mem _ List.mem_cons_self)⟩

/-- A frame goes around its content, below which there is as much space as above. -/
theorem exists_centred_frame (label : String) (content : Visual Rat) (x y : Rat) :
    ∃ placed, (⟨Visual.frameOf m label content, x, y⟩ : Placed Rat).Centred m placed := by
  have hmiddle : y + m.framePad + content.size.height / 2 =
      y + (content.size.height + 2 * m.framePad) / 2 := by ring
  exact ⟨_, centred_of_axis rfl hmiddle List.mem_cons_self
    (List.mem_cons_of_mem _ List.mem_cons_self)⟩

/-- Every shape from a layout without empty branches is passed as its kind is. -/
theorem threaded (hm : m.Nonneg) {p : Placed Rat} (h : p.visual.LaidOut m True) : p.Threaded m := by
  obtain ⟨visual, x, y⟩ := p
  dsimp only at h
  cases h with
  | start => exact ⟨_, List.mem_singleton_self _, terminus_way true m.terminus _ x⟩
  | finish => exact ⟨_, List.mem_singleton_self _, terminus_way false m.terminus _ x⟩
  | @track items inside =>
    cases items with
    | nil =>
      exact ⟨_, List.mem_singleton_self _, left_mem_segment _ _ _, right_mem_segment _ _ _⟩
    | cons item rest => exact chained_track item rest x y
  | branch rows_ne_nil inside =>
    refine exists_fanned_branch hm (rows_ne_nil trivial) ?_ x y
    intro row hrow
    exact ((inside row hrow).size_nonneg hm).2.trans (Visual.size_le_rowSize hm row).2
  | loop repetition greedy inside => exact exists_centred_loop repetition greedy _ x y
  | frame label inside => exact exists_centred_frame label _ x y
  | box t =>
    have hbox : (Visual.boxOf m t).LaidOut m True := .box t
    obtain ⟨hwidth, hheight⟩ := hbox.size_nonneg hm
    exact crossed_terminal hwidth hheight _ _ x y

/-- What a shape draws itself is part of its drawing. -/
theorem own_subset_marks (p : Placed Rat) : p.own m ⊆ p.marks m :=
  fun _ hmem => (p.marks_perm m).mem_iff.mpr (List.mem_append_left _ hmem)

/-- What the own marks of a shape and the shapes inside it join is joined by the drawing of the shape,
where the shapes inside are passed in their drawings. -/
theorem joined_of_linked {a b : Rat × Rat} (h : Linked (p.own m) (p.inside m) a b)
    (hinside : ∀ q ∈ p.inside m, Joined (q.marks m) q.entry q.exit) : Joined (p.marks m) a b := by
  refine h.joined p.own_subset_marks ?_
  intro q hq
  have hdrawn : q.marks m ⊆ p.marks m := Within.marks_subset (.single hq)
  exact (hinside q hq).joined hdrawn (List.forall_mem_nil _)

/-- The drawing of a shape joins the points where it is entered and left. -/
theorem joined_exit (hm : m.Nonneg) (p : Placed Rat) (h : p.visual.LaidOut m True) :
    Joined (p.marks m) p.entry p.exit := by
  -- The shapes inside are passed by the induction hypothesis, and are drawn as part of the shape.
  induction p using inside_induction (m := m) with
  | step p ih =>
    have hpassed := (threaded hm h).passable.passed
    exact joined_of_linked hpassed fun q hq => ih q hq (h.children (visual_mem_children hq))

/-- The drawing of a shape joins the point where it is entered to those where the shapes inside it are
entered. -/
theorem joined_within (hm : m.Nonneg) {p q : Placed Rat} (h : p.visual.LaidOut m True)
    (hwithin : Within m p q) : Joined (p.marks m) p.entry q.entry := by
  induction hwithin with
  | refl => exact .refl _
  | @tail r q hwithin hinside ih =>
    have hr : r.visual.LaidOut m True := Within.laidOut hwithin h
    have hreached := (threaded hm hr).passable.reached q hinside
    have hnext : Joined (r.marks m) r.entry q.entry :=
      joined_of_linked hreached fun s hs => joined_exit hm s (hr.children (visual_mem_children hs))
    exact ih.trans (hnext.joined (Within.marks_subset hwithin) (List.forall_mem_nil _))

end Placed

/-- A shape at its place is connected to where the drawing begins. -/
structure Placed.Connected (m : Metrics Rat) (drawing : List (Mark Rat)) (origin : Rat × Rat)
    (p : Placed Rat) : Prop where
  /-- The shapes inside it are those that the shape holds. -/
  shapes : (p.inside m).map (·.visual) = p.visual.children
  /-- The shape is drawn by its own marks and those of the shapes inside it. -/
  drawn : (p.marks m).Perm (p.own m ++ (p.inside m).flatMap (marks m))
  /-- They are part of the drawing. -/
  part : p.marks m ⊆ drawing
  /-- The shape is passed as its kind is. -/
  threaded : p.Threaded m
  /-- Its own marks and the ends of the shapes inside lead from its entry to its exit. -/
  passed : Linked (p.own m) (p.inside m) p.entry p.exit
  /-- So do the marks of the drawing. -/
  joined : Joined drawing p.entry p.exit
  /-- They lead to its entry from where the drawing begins. -/
  reached : Joined drawing origin p.entry

/-- Every choice in the tree of a pattern has an option, and the diagram of any tree of which this holds
is connected along the rails at every zoom: from the entry each shape can be reached and passed. -/
theorem Diagram.rails_connected (scale : Nat) :
    (∀ pattern node, Node.ofPattern pattern = .ok node → node.Filled) ∧
      ∀ node : Node, node.Filled →
        let diagram : Diagram Rat := ofNode node scale
        ∀ p, Placed.Within diagram.metrics diagram.placed p →
          p.Connected diagram.metrics diagram.marks diagram.placed.entry := by
  refine ⟨fun _ _ => Node.filled_ofPattern, ?_⟩
  intro node hfilled diagram p hwithin
  have hm : diagram.metrics.Nonneg := Metrics.nonneg_ofScale _
  have hroot : diagram.root.LaidOut diagram.metrics True := laidOut_root (fun _ => hfilled) scale
  have hp : p.visual.LaidOut diagram.metrics True := hwithin.laidOut hroot
  have hpart : p.marks diagram.metrics ⊆ diagram.marks := hwithin.marks_subset
  exact
    { shapes := p.map_visual_inside diagram.metrics
      drawn := p.marks_perm diagram.metrics
      part := hpart
      threaded := Placed.threaded hm hp
      passed := (Placed.threaded hm hp).passable.passed
      joined := (Placed.joined_exit hm p hp).joined hpart (List.forall_mem_nil _)
      reached := Placed.joined_within hm hroot hwithin }

/-- A pattern of two alternatives, of which one is repeated. -/
theorem Node.ofPattern_star :
    ofPattern "a|b*" = .ok (.choice [.terminal (.literal "a"),
      .quantified .zeroOrMore true (.terminal (.literal "b"))]) := by
  have htokens : tokenize "a|b*" = .ok [⟨.literal, "a", 0⟩, ⟨.alternation, "|", 1⟩,
      ⟨.literal, "b", 2⟩, ⟨.quantifier ⟨.zeroOrMore, true, false⟩, "*", 3⟩] := by cbv
  rw [ofPattern, htokens]
  rfl

/-- The branch in its diagram is connected to the entry. -/
theorem Diagram.rails_connected_star :
    ∃ node, Node.ofPattern "a|b*" = .ok node ∧
      let diagram : Diagram Rat := ofNode node 100
      ∃ p, Placed.Within diagram.metrics diagram.placed p ∧ p.visual.kind = .branch ∧
        p.Connected diagram.metrics diagram.marks diagram.placed.entry := by
  obtain ⟨hfilled, hconnected⟩ := Diagram.rails_connected 100
  refine ⟨_, Node.ofPattern_star, ?_⟩
  intro diagram
  obtain ⟨first, branch, rest, hinside, hkind⟩ : ∃ first branch rest,
      diagram.placed.inside diagram.metrics = first :: branch :: rest ∧
        branch.visual.kind = .branch := ⟨_, _, _, rfl, rfl⟩
  have hmem : branch ∈ diagram.placed.inside diagram.metrics :=
    hinside ▸ List.mem_cons_of_mem first List.mem_cons_self
  have hwithin : Placed.Within diagram.metrics diagram.placed branch := .single hmem
  exact ⟨branch, hwithin, hkind, hconnected _ (hfilled _ _ Node.ofPattern_star) branch hwithin⟩

end Railroad
