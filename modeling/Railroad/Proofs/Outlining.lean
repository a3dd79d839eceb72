import Railroad.Proofs.Placement
import Railroad.Proofs.ShownCharacters
import Railroad.Visual.Outline

/-!
# Outlines line by line

An outline has an entry for every shape but a track with items, and one for every gap between two rows of a
branch. The entries stand in the order of the diagram, each behind two blanks for every branch, loop and frame
around its place. Each is a line of its own as long as no text of the diagram has a line feed, and the texts
have one exactly if a token of the pattern shows one.
-/

namespace Railroad

variable {α : Type}

/-- A place of a diagram that an outline may have an entry for. -/
inductive OutlinePlace where
  /-- The shape to which a path leads. -/
  | shape (path : List Nat)
  /-- The gap behind a row of the branch to which a path leads. -/
  | gap (path : List Nat) (row : Nat)
  deriving DecidableEq, Repr

namespace OutlinePlace

/-- The path to the shape, or to the row in front of the gap. -/
def path : OutlinePlace → List Nat
  | shape path => path
  | gap path row => path ++ [row]

/-- The steps to a place, counted in such a way that the gap behind a row has a number between that of the
row and that of the next one. -/
def steps : OutlinePlace → List Nat
  | shape path => path.map (2 * · + 1)
  | gap path row => path.map (2 * · + 1) ++ [2 * row + 2]

/-- Whether a place comes before another one in a diagram: a shape before what it holds, and what it holds in
order. -/
def Before (first second : OutlinePlace) : Prop := first.steps < second.steps

/-- A place in a shape, as it is seen from the shape that holds this one at an index. -/
def under (index : Nat) : OutlinePlace → OutlinePlace
  | shape path => shape (index :: path)
  | gap path row => gap (index :: path) row

/-- One more step leads to the place. -/
theorem path_under (index : Nat) (place : OutlinePlace) :
    (place.under index).path = index :: place.path := by
  cases place <;> rfl

/-- One more step is counted. -/
theorem steps_under (index : Nat) (place : OutlinePlace) :
    (place.under index).steps = (2 * index + 1) :: place.steps := by
  cases place <;> rfl

/-- The step and the place behind it can be told from the place. -/
@[simp]
theorem under_inj {index index' : Nat} {place place' : OutlinePlace} :
    place.under index = place'.under index' ↔ index = index' ∧ place = place' := by
  cases place <;> cases place' <;> simp [under, and_assoc]

/-- A place in a part of a shape is not the shape itself. -/
@[simp]
theorem under_ne_shape (index : Nat) (place : OutlinePlace) : place.under index ≠ shape [] := by
  cases place <;> simp [under]

/-- A place in a part of a shape is no gap of the shape. -/
@[simp]
theorem under_ne_gap (index row : Nat) (place : OutlinePlace) : place.under index ≠ gap [] row := by
  cases place <;> simp [under]

/-- Places in one part of a shape are in the same order seen from the shape. -/
theorem Before.under {first second : OutlinePlace} (h : first.Before second) (index : Nat) :
    (first.under index).Before (second.under index) := by
  rw [Before, steps_under, steps_under, List.cons_lt_cons_iff]
  exact .inr ⟨rfl, h⟩

/-- The first step to a place is at least the given one. -/
def From (least : Nat) (place : OutlinePlace) : Prop :=
  ∃ first steps, place.steps = first :: steps ∧ least ≤ first

/-- A place comes before those with a greater first step. -/
theorem before_of_from {first second : OutlinePlace} {step least : Nat} {steps : List Nat}
    (hfirst : first.steps = step :: steps) (h : second.From least) (hlt : step < least) :
    first.Before second := by
  obtain ⟨other, more, hsecond, hle⟩ := h
  rw [Before, hfirst, hsecond, List.cons_lt_cons_iff]
  exact .inl (Nat.lt_of_lt_of_le hlt hle)

end OutlinePlace

namespace Visual

/-- Whether what a shape holds is indented: branches, loops and frames do so. -/
def indents : Visual α → Bool
  | branch _ _ | loop _ _ _ _ | frame _ _ _ => true
  | _ => false

/-- The shapes that are passed on a path, the outermost first. -/
def around : List Nat → Visual α → List (Visual α)
  | [], _ => []
  | index :: path, visual => visual :: visual.children[index]?.elim [] (around path)

/-- The number of branches, loops and frames around a place. -/
def depthAt (visual : Visual α) (place : OutlinePlace) : Nat :=
  ((visual.around place.path).filter indents).length

/-- What the outline says about a shape itself, if it has an entry: all but tracks with items have one. -/
def ownText? : Visual α → Option String
  | start _ => some "○ start"
  | finish _ => some "● end"
  | track _ [] => some "─ (nothing)"
  | track _ (_ :: _) => none
  | branch _ rows => some s!"┬ one of {rows.length} branches"
  | loop _ rails caption _ => some s!"{rails.mark} {caption}"
  | frame _ label _ => some s!"┌ {label}"
  | terminal _ _ text => some text.line

/-- What the outline says about the gap behind a row, if there is one: a branch has a gap between any two
neighbouring rows. -/
def gapText? (row : Nat) : Visual α → Option String
  | branch _ rows => if row + 1 < rows.length then some "── or ──" else none
  | _ => none

/-- What the outline of a diagram says about a place, if it has an entry for it. -/
def textAt? (visual : Visual α) : OutlinePlace → Option String
  | .shape path => (visual.at? path).bind ownText?
  | .gap path row => (visual.at? path).bind (gapText? row)

/-- The entry for a place with its indentation. -/
def lineAt (visual : Visual α) (place : OutlinePlace) : String :=
  String.ofList (List.replicate (2 * visual.depthAt place) ' ') ++ (visual.textAt? place).getD ""

mutual

/-- The places for which the outline of a diagram has an entry, in order. -/
def outlinePlaces : Visual α → List OutlinePlace
  | start _ | finish _ | track _ [] | terminal _ _ _ => [.shape []]
  | track _ (item :: items) => item.outlinePlaces.map (.under 0) ++ itemPlaces 1 items
  | branch _ [] => [.shape []]
  | branch _ (row :: rows) => .shape [] :: (row.outlinePlaces.map (.under 0) ++ rowPlaces 0 rows)
  | loop _ _ _ content | frame _ _ content => .shape [] :: content.outlinePlaces.map (.under 0)

/-- The places in further items of a track, of which the first one has the given index. -/
def itemPlaces (index : Nat) : List (Visual α) → List OutlinePlace
  | [] => []
  | item :: items => item.outlinePlaces.map (.under index) ++ itemPlaces (index + 1) items

/-- The places behind the row of a branch with the given index: a gap and a row, as often as there is another
row. -/
def rowPlaces (index : Nat) : List (Visual α) → List OutlinePlace
  | [] => []
  | row :: rows =>
    .gap [] index :: (row.outlinePlaces.map (.under (index + 1)) ++ rowPlaces (index + 1) rows)

end

section Lines

/-- A line of an outline for a place of a shape that is itself indented. -/
def outlineLineAt (depth : Nat) (visual : Visual α) (place : OutlinePlace) : OutlineLine :=
  ⟨depth + visual.depthAt place, (visual.textAt? place).getD ""⟩

/-- The entry for a place in a part of a shape is the one in the outline of the part. -/
theorem textAt?_under (visual : Visual α) (index : Nat) (place : OutlinePlace) :
    visual.textAt? (place.under index) = visual.children[index]?.bind (·.textAt? place) := by
  cases place with
  | shape path => simp only [textAt?, OutlinePlace.under, at?, Option.bind_assoc]
  | gap path row => simp only [textAt?, OutlinePlace.under, at?, Option.bind_assoc]

/-- The line for a place in a part of a shape is its line in the outline of the part, which is indented if the
shape indents. -/
theorem outlineLineAt_under {parent child : Visual α} {index : Nat}
    (hchild : parent.children[index]? = some child) (depth : Nat) (place : OutlinePlace) :
    parent.outlineLineAt depth (place.under index) =
      child.outlineLineAt (depth + if parent.indents then 1 else 0) place := by
  have htext : parent.textAt? (place.under index) = child.textAt? place := by
    rw [textAt?_under, hchild, Option.bind_some]
  have hdepth : parent.depthAt (place.under index) =
      (if parent.indents then 1 else 0) + child.depthAt place := by
    simp only [depthAt, OutlinePlace.path_under, around, hchild, Option.elim_some, List.filter_cons]
    split
    · rw [List.length_cons, Nat.add_comm]
    · rw [Nat.zero_add]
  rw [outlineLineAt, outlineLineAt, htext, hdepth, Nat.add_assoc]

/-- The lines for the places in a part of a shape are those of the outline of the part. -/
theorem map_outlineLineAt_under {parent child : Visual α} {front back : List (Visual α)}
    (hchildren : parent.children = front ++ child :: back) (depth : Nat) :
    (child.outlinePlaces.map (.under front.length)).map (parent.outlineLineAt depth) =
      child.outlinePlaces.map (child.outlineLineAt (depth + if parent.indents then 1 else 0)) := by
  have hchild : parent.children[front.length]? = some child := by
    rw [hchildren, List.getElem?_append_right (Nat.le_refl _), Nat.sub_self, List.getElem?_cons_zero]
  rw [List.map_map]
  exact List.map_congr_left fun place _ => outlineLineAt_under hchild depth place

/-- The line for a gap between two rows. -/
theorem outlineLineAt_gap (depth : Nat) (size : Size α) {rows : List (Visual α)} {row : Nat}
    (h : row + 1 < rows.length) :
    (branch size rows).outlineLineAt depth (.gap [] row) = ⟨depth + 1, "── or ──"⟩ := by
  have hinside : (branch size rows).around [row] = [branch size rows] := by
    have hchild : (branch size rows).children[row]? = some rows[row] :=
      List.getElem?_eq_getElem (Nat.lt_of_succ_lt h)
    rw [around, hchild, Option.elim_some, around]
  have hgap : (branch size rows).gapText? row = some "── or ──" := if_pos h
  simp only [outlineLineAt, depthAt, OutlinePlace.path, List.nil_append, hinside, textAt?, at?,
    Option.bind_some, hgap, Option.getD_some]
  rfl

mutual

/-- The lines of an outline are those for its places. -/
theorem outlineLines_eq (depth : Nat) : (visual : Visual α) →
    visual.outlineLines depth = visual.outlinePlaces.map (visual.outlineLineAt depth)
  | start _ | finish _ | track _ [] | terminal _ _ _ => rfl
  | track size (item :: items) => by
    have hchildren : (track size (item :: items)).children = [] ++ item :: items := rfl
    have hitem := map_outlineLineAt_under hchildren depth
    rw [outlineLines, outlinePlaces, List.map_append, outlineLines_eq depth item,
      itemLines_eq depth items (track size (item :: items)) [item] rfl rfl]
    exact congrArg (· ++ _) hitem.symm
  | branch size [] => rfl
  | branch size (row :: rows) => by
    have hchildren : (branch size (row :: rows)).children = [] ++ row :: rows := rfl
    have hrow := map_outlineLineAt_under hchildren depth
    rw [outlineLines, outlinePlaces, List.map_cons, List.map_append, outlineLines_eq (depth + 1) row,
      rowLines_eq depth rows size [] row]
    exact congrArg (fun lines => _ :: (lines ++ _)) hrow.symm
  | loop size rails caption content => by
    have hchildren : (loop size rails caption content).children = [] ++ [content] := rfl
    have hcontent := map_outlineLineAt_under hchildren depth
    rw [outlineLines, outlinePlaces, List.map_cons, outlineLines_eq (depth + 1) content]
    exact congrArg (_ :: ·) hcontent.symm
  | frame size label content => by
    have hchildren : (frame size label content).children = [] ++ [content] := rfl
    have hcontent := map_outlineLineAt_under hchildren depth
    rw [outlineLines, outlinePlaces, List.map_cons, outlineLines_eq (depth + 1) content]
    exact congrArg (_ :: ·) hcontent.symm

/-- The lines of further items of a track are those for the places in them. -/
theorem itemLines_eq (depth : Nat) : (items : List (Visual α)) → (parent : Visual α) →
    (front : List (Visual α)) → parent.indents = false → parent.children = front ++ items →
    itemLines depth items = (itemPlaces front.length items).map (parent.outlineLineAt depth)
  | [], _, _, _, _ => rfl
  | item :: items, parent, front, hindents, hchildren => by
    have hitem := map_outlineLineAt_under hchildren depth
    have hmore : parent.children = (front ++ [item]) ++ items := by
      rw [hchildren, List.append_assoc, List.singleton_append]
    have hitems := itemLines_eq depth items parent (front ++ [item]) hindents hmore
    rw [hindents, if_neg Bool.false_ne_true, Nat.add_zero] at hitem
    rw [List.length_append, List.length_singleton] at hitems
    rw [itemLines, itemPlaces, List.map_append, hitem, hitems, outlineLines_eq depth item]

/-- The lines of further rows of a branch are those for the gaps and for the places in the rows. -/
theorem rowLines_eq (depth : Nat) : (rows : List (Visual α)) → (size : Size α) →
    (front : List (Visual α)) → (row : Visual α) →
    rowLines (depth + 1) rows =
      (rowPlaces front.length rows).map ((branch size (front ++ row :: rows)).outlineLineAt depth)
  | [], _, _, _ => rfl
  | next :: rows, size, front, row => by
    have hall : (front ++ [row]) ++ next :: rows = front ++ row :: next :: rows := by
      rw [List.append_assoc, List.singleton_append]
    have hchildren : (branch size (front ++ row :: next :: rows)).children =
        (front ++ [row]) ++ next :: rows := hall.symm
    have hnext := map_outlineLineAt_under hchildren depth
    have hgap : front.length + 1 < (front ++ row :: next :: rows).length := by
      rw [List.length_append, List.length_cons, List.length_cons]
      omega
    have hrows := rowLines_eq depth rows size (front ++ [row]) next
    rw [List.length_append, List.length_singleton] at hnext hrows
    rw [hall] at hrows
    rw [rowLines, rowPlaces, List.map_cons, List.map_append, hnext, hrows,
      outlineLines_eq (depth + 1) next, outlineLineAt_gap depth size hgap]
    rfl

end

end Lines

section Membership

/-- Some shape of a list, at its index, is the first one or one of the others. -/
theorem exists_getElem?_cons {p : Nat → Visual α → Prop} {first : Visual α} {rest : List (Visual α)} :
    (∃ (n : Nat) (visual : Visual α), (first :: rest)[n]? = some visual ∧ p n visual) ↔
      p 0 first ∨ ∃ (n : Nat) (visual : Visual α), rest[n]? = some visual ∧ p (n + 1) visual := by
  rw [← Nat.or_exists_add_one]
  simp only [List.getElem?_cons_zero, List.getElem?_cons_succ, Option.some.injEq, exists_eq_left']

/-- The places in further items. -/
theorem mem_itemPlaces (index : Nat) (items : List (Visual α)) (place : OutlinePlace) :
    place ∈ itemPlaces index items ↔ ∃ (n : Nat) (item : Visual α), items[n]? = some item ∧
      ∃ inner ∈ item.outlinePlaces, inner.under (index + n) = place := by
  induction items generalizing index with
  | nil => simp [itemPlaces]
  | cons item items ih =>
    rw [itemPlaces, List.mem_append, List.mem_map, ih, exists_getElem?_cons]
    simp only [Nat.add_zero, Nat.add_assoc, Nat.add_comm 1]

/-- The places behind a row: the gaps between the rows and the places in them. -/
theorem mem_rowPlaces (index : Nat) (rows : List (Visual α)) (place : OutlinePlace) :
    place ∈ rowPlaces index rows ↔ (∃ n, place = .gap [] (index + n) ∧ n < rows.length) ∨
      ∃ (n : Nat) (row : Visual α), rows[n]? = some row ∧
        ∃ inner ∈ row.outlinePlaces, inner.under (index + (n + 1)) = place := by
  induction rows generalizing index with
  | nil => simp [rowPlaces]
  | cons row rows ih =>
    have hgaps : (∃ n, place = .gap [] (index + n) ∧ n < rows.length + 1) ↔
        place = .gap [] index ∨ ∃ n, place = .gap [] (index + (n + 1)) ∧ n < rows.length := by
      rw [← Nat.or_exists_add_one]
      simp only [Nat.add_zero, Nat.succ_pos, and_true, Nat.add_lt_add_iff_right]
    rw [rowPlaces, List.mem_cons, List.mem_append, List.mem_map, ih, exists_getElem?_cons,
      List.length_cons, hgaps]
    simp only [Nat.zero_add, Nat.add_assoc, Nat.add_comm 1, or_assoc]
    exact or_congr_right or_left_comm

/-- An outline has an entry for a shape itself unless it is a track with items, an entry for each of its gaps,
and the entries of the parts. -/
theorem mem_outlinePlaces_iff_or {visual : Visual α} {place : OutlinePlace} :
    place ∈ visual.outlinePlaces ↔ (place = .shape [] ∧ visual.ownText?.isSome = true) ∨
      (∃ row, place = .gap [] row ∧ (visual.gapText? row).isSome = true) ∨
      ∃ (index : Nat) (child : Visual α), visual.children[index]? = some child ∧
        ∃ inner ∈ child.outlinePlaces, inner.under index = place := by
  cases visual with
  | start | finish | terminal => simp [outlinePlaces, ownText?, gapText?, children]
  | loop | frame =>
    rw [outlinePlaces, List.mem_cons, List.mem_map, children, exists_getElem?_cons]
    simp [ownText?, gapText?]
  | track size items =>
    cases items with
    | nil => simp [outlinePlaces, ownText?, gapText?, children]
    | cons item items =>
      rw [outlinePlaces, List.mem_append, List.mem_map, mem_itemPlaces, children, exists_getElem?_cons]
      simp [ownText?, gapText?, Nat.add_comm 1]
  | branch size rows =>
    cases rows with
    | nil => simp [outlinePlaces, ownText?, gapText?, children]
    | cons row rows =>
      rw [outlinePlaces, List.mem_cons, List.mem_append, List.mem_map, mem_rowPlaces, children,
        exists_getElem?_cons]
      simp only [ownText?, gapText?, Option.isSome_some, and_true, Nat.zero_add, Option.isSome_ite,
        List.length_cons, Nat.add_lt_add_iff_right]
      exact or_congr_right or_left_comm

/-- The entries for places in a part of a shape are those of the outline of the part. -/
theorem under_mem_outlinePlaces {visual : Visual α} {index : Nat} {inner : OutlinePlace} :
    inner.under index ∈ visual.outlinePlaces ↔
      ∃ child, visual.children[index]? = some child ∧ inner ∈ child.outlinePlaces := by
  rw [mem_outlinePlaces_iff_or]
  simp

/-- What is known of a place in every part of a shape, is known of it seen from the shape. -/
theorem under_mem_iff_isSome {inner : OutlinePlace}
    (ih : ∀ visual : Visual α, inner ∈ visual.outlinePlaces ↔ (visual.textAt? inner).isSome = true)
    (visual : Visual α) (index : Nat) :
    inner.under index ∈ visual.outlinePlaces ↔
      (visual.textAt? (inner.under index)).isSome = true := by
  rw [under_mem_outlinePlaces, textAt?_under]
  cases visual.children[index]? with
  | none => simp
  | some child => simp [ih child]

/-- An outline has entries for just those places about which there is something to say. -/
theorem mem_outlinePlaces (visual : Visual α) (place : OutlinePlace) :
    place ∈ visual.outlinePlaces ↔ (visual.textAt? place).isSome = true := by
  cases place with
  | shape path =>
    induction path generalizing visual with
    | nil =>
      rw [mem_outlinePlaces_iff_or]
      simp [textAt?, at?]
    | cons index path ih => exact under_mem_iff_isSome ih visual index
  | gap path row =>
    induction path generalizing visual with
    | nil =>
      rw [mem_outlinePlaces_iff_or]
      simp [textAt?, at?]
    | cons index path ih => exact under_mem_iff_isSome ih visual index

end Membership

section Order

/-- The places in an item of a track begin with a step to it. -/
theorem from_of_mem_under {index : Nat} {places : List OutlinePlace} {place : OutlinePlace}
    (hmem : place ∈ places.map (OutlinePlace.under index)) : place.From (2 * index + 1) := by
  obtain ⟨inner, -, rfl⟩ := List.mem_map.mp hmem
  exact ⟨_, _, inner.steps_under index, Nat.le_refl _⟩

/-- The places in further items begin with a step to one of these. -/
theorem from_of_mem_itemPlaces {items : List (Visual α)} {index : Nat} {place : OutlinePlace}
    (hmem : place ∈ itemPlaces index items) : place.From (2 * index + 1) := by
  obtain ⟨n, item, -, inner, -, rfl⟩ := (mem_itemPlaces index items place).mp hmem
  exact ⟨_, _, inner.steps_under (index + n), by omega⟩

/-- The places behind a row begin with a step to the gap behind it or further. -/
theorem from_of_mem_rowPlaces {rows : List (Visual α)} {index : Nat} {place : OutlinePlace}
    (hmem : place ∈ rowPlaces index rows) : place.From (2 * index + 2) := by
  rcases (mem_rowPlaces index rows place).mp hmem with ⟨n, rfl, -⟩ | ⟨n, row, -, inner, -, rfl⟩
  · exact ⟨2 * (index + n) + 2, [], rfl, by omega⟩
  · exact ⟨_, _, inner.steps_under (index + (n + 1)), by omega⟩

/-- A shape comes before everything in it. -/
theorem shape_before_under (index : Nat) {places : List OutlinePlace} {place : OutlinePlace}
    (hmem : place ∈ places.map (OutlinePlace.under index)) : (OutlinePlace.shape []).Before place := by
  obtain ⟨inner, -, rfl⟩ := List.mem_map.mp hmem
  rw [OutlinePlace.Before, inner.steps_under]
  exact List.nil_lt_cons _ _

/-- Places in order stay so, seen from outside, in front of places that begin with a greater step. -/
theorem pairwise_under_append {places behind : List OutlinePlace} {index least : Nat}
    (hplaces : places.Pairwise OutlinePlace.Before) (hbehind : behind.Pairwise OutlinePlace.Before)
    (hfrom : ∀ place ∈ behind, place.From least) (hlt : 2 * index + 1 < least) :
    (places.map (OutlinePlace.under index) ++ behind).Pairwise OutlinePlace.Before := by
  refine List.pairwise_append.mpr ⟨?_, hbehind, ?_⟩
  · exact List.pairwise_map.mpr (hplaces.imp fun h => h.under index)
  · intro first hfirst second hsecond
    obtain ⟨inner, -, rfl⟩ := List.mem_map.mp hfirst
    exact OutlinePlace.before_of_from (inner.steps_under index) (hfrom second hsecond) hlt

mutual

/-- The entries of an outline are in diagram order. -/
theorem pairwise_outlinePlaces : (visual : Visual α) → visual.outlinePlaces.Pairwise OutlinePlace.Before
  | start _ | finish _ | track _ [] | branch _ [] | terminal _ _ _ => List.pairwise_singleton _ _
  | track _ (item :: items) => by
    refine pairwise_under_append (pairwise_outlinePlaces item) (pairwise_itemPlaces 1 items)
      (fun _ => from_of_mem_itemPlaces) ?_
    omega
  | branch _ (row :: rows) => by
    refine List.pairwise_cons.mpr ⟨fun place hmem => ?_, ?_⟩
    · rcases List.mem_append.mp hmem with hrow | hmore
      · exact shape_before_under 0 hrow
      · obtain ⟨first, steps, hsteps, -⟩ := from_of_mem_rowPlaces hmore
        rw [OutlinePlace.Before, hsteps]
        exact List.nil_lt_cons _ _
    · refine pairwise_under_append (pairwise_outlinePlaces row) (pairwise_rowPlaces 0 rows)
        (fun _ => from_of_mem_rowPlaces) ?_
      omega
  | loop _ _ _ content | frame _ _ content =>
    List.pairwise_cons.mpr ⟨fun _ => shape_before_under 0,
      List.pairwise_map.mpr ((pairwise_outlinePlaces content).imp fun h => h.under 0)⟩

/-- So are the entries of further items. -/
theorem pairwise_itemPlaces (index : Nat) : (items : List (Visual α)) →
    (itemPlaces index items).Pairwise OutlinePlace.Before
  | [] => .nil
  | item :: items => by
    refine pairwise_under_append (pairwise_outlinePlaces item) (pairwise_itemPlaces (index + 1) items)
      (fun _ => from_of_mem_itemPlaces) ?_
    omega

/-- So are the entries of further rows. -/
theorem pairwise_rowPlaces (index : Nat) : (rows : List (Visual α)) →
    (rowPlaces index rows).Pairwise OutlinePlace.Before
  | [] => .nil
  | row :: rows => by
    refine List.pairwise_cons.mpr ⟨fun place hmem => ?_, ?_⟩
    · have hgap : (OutlinePlace.gap [] index).steps = [2 * index + 2] := rfl
      rcases List.mem_append.mp hmem with hrow | hmore
      · exact OutlinePlace.before_of_from hgap (from_of_mem_under hrow) (by omega)
      · exact OutlinePlace.before_of_from hgap (from_of_mem_rowPlaces hmore) (by omega)
    · refine pairwise_under_append (pairwise_outlinePlaces row) (pairwise_rowPlaces (index + 1) rows)
        (fun _ => from_of_mem_rowPlaces) ?_
      omega

end

end Order

end Visual

section Feeds

open Text (outside isPrintable)

/-- Some line of an outline has a line feed in its text. -/
def Feeds (lines : List OutlineLine) : Prop := ∃ line ∈ lines, '\n' ∈ line.text.toList

/-- Lines behind others. -/
theorem feeds_append (first second : List OutlineLine) :
    Feeds (first ++ second) ↔ Feeds first ∨ Feeds second := by
  simp only [Feeds, List.mem_append, or_and_right, exists_or]

/-- A line in front of others. -/
theorem feeds_cons (line : OutlineLine) (lines : List OutlineLine) :
    Feeds (line :: lines) ↔ '\n' ∈ line.text.toList ∨ Feeds lines := by
  simp only [Feeds, List.mem_cons, exists_eq_or_imp]

/-- No lines. -/
theorem feeds_nil : Feeds [] ↔ False := by
  simp [Feeds]

/-- A line feed is not printable. -/
theorem newline_mem_outside {text : List Char} : '\n' ∈ outside isPrintable text ↔ '\n' ∈ text := by
  have hnewline : isPrintable '\n' = false := by decide
  rw [Text.mem_outside, hnewline, eq_self, and_true]

/-- The line of a box has a line feed exactly if one of its texts has one. -/
theorem newline_mem_line (t : Terminal) :
    '\n' ∈ (BoxText.line ⟨t.label, t.detail, t.description⟩).toList ↔ '\n' ∈ t.unusual := by
  rw [Terminal.unusual, List.mem_append, List.mem_append, newline_mem_outside, newline_mem_outside,
    newline_mem_outside]
  cases t.detail with
  | none => simp [BoxText.line, toString]
  | some detail => simp [BoxText.line, toString, or_assoc]

namespace Visual

variable [Scalar α]

/-- The line of a loop has no line feed. -/
theorem newline_not_mem_loopLine (rails : LoopRails) (repetition : Repetition) (greedy : Bool) :
    '\n' ∉ s!"{rails.mark} {loopCaption repetition greedy}".toList := by
  have hmark : '\n' ∉ rails.mark.toList := by
    unfold LoopRails.mark
    split <;> decide
  have hwords : '\n' ∉ repetition.describe.toList := fun hmem => by
    rw [← newline_mem_outside, repetition.outside_describe] at hmem
    exact List.not_mem_nil hmem
  have hlazy : '\n' ∉ " (lazy)".toList := by decide
  have hcaption : '\n' ∉ (loopCaption repetition greedy).toList := by
    unfold loopCaption
    split
    · exact hwords
    · rw [String.toList_append, List.mem_append, not_or]
      exact ⟨hwords, hlazy⟩
  simp [toString, hmark, hcaption]

/-- The line of a branch has no line feed. -/
theorem newline_not_mem_branchLine (n : Nat) : '\n' ∉ s!"┬ one of {n} branches".toList := by
  have hnumber : '\n' ∉ (toString n).toList := fun hmem => by
    rw [← newline_mem_outside, Text.outside_toString] at hmem
    exact List.not_mem_nil hmem
  have hfront : '\n' ∉ "┬ one of ".toList := by decide
  have hback : '\n' ∉ " branches".toList := by decide
  rw [String.toList_append, String.toList_append, List.mem_append, List.mem_append]
  rintro ((hmem | hmem) | hmem)
  · exact hfront hmem
  · exact hnumber hmem
  · exact hback hmem

/-- The line of a frame has a line feed exactly if its label has one. -/
theorem newline_mem_frameLine (label : String) : '\n' ∈ s!"┌ {label}".toList ↔ '\n' ∈ label.toList := by
  simp [toString]

/-- The line of an empty track has no line feed. -/
theorem newline_not_mem_nothing : '\n' ∉ "─ (nothing)".toList := by decide

/-- The line of a gap has no line feed. -/
theorem newline_not_mem_or : '\n' ∉ "── or ──".toList := by decide

mutual

/-- The outline of a tree has a line feed in a text exactly if the tree has one. -/
theorem feeds_outlineLines (m : Metrics α) (depth : Nat) : (node : Node) →
    (Feeds ((ofNode m node).outlineLines depth) ↔ '\n' ∈ node.unusual)
  | .sequence [] => by
    rw [ofNode, ofNodes, trackOf, outlineLines, feeds_cons, feeds_nil, Node.unusual, Node.unusualOfAll,
      or_iff_right newline_not_mem_nothing, List.mem_nil_iff]
  | .sequence (part :: parts) => by
    have hitems := feeds_itemLines m depth (part :: parts)
    rw [ofNodes, itemLines] at hitems
    rw [ofNode, ofNodes, trackOf, outlineLines, hitems, Node.unusual]
  | .choice [] => by
    have hline := newline_not_mem_branchLine (ofNodes m []).length
    rw [ofNodes] at hline
    rw [ofNode, ofNodes, branchOf, outlineLines, feeds_cons, feeds_nil, Node.unusual, Node.unusualOfAll,
      or_iff_right hline, List.mem_nil_iff]
  | .choice (option :: options) => by
    have hline := newline_not_mem_branchLine (ofNodes m (option :: options)).length
    have hoption := feeds_outlineLines m (depth + 1) option
    have hmore := feeds_rowLines m (depth + 1) options
    rw [ofNodes] at hline
    rw [ofNode, ofNodes, branchOf, outlineLines, feeds_cons, or_iff_right hline, feeds_append, hoption,
      hmore, Node.unusual, Node.unusualOfAll, List.mem_append]
  | .quantified repetition greedy content => by
    have hline := newline_not_mem_loopLine ⟨repetition.allowsZero, repetition.allowsMany, !greedy⟩
      repetition greedy
    rw [ofNode, loopOf, outlineLines, feeds_cons, feeds_outlineLines m (depth + 1) content, Node.unusual,
      or_iff_right hline]
  | .group kind index label content => by
    rw [ofNode, frameOf, outlineLines, feeds_cons, feeds_outlineLines m (depth + 1) content, Node.unusual,
      List.mem_append, newline_mem_outside, newline_mem_frameLine]
  | .terminal t => by
    rw [ofNode, boxOf, outlineLines, feeds_cons, feeds_nil, newline_mem_line, Node.unusual, or_false]

/-- So has the outline of further items. -/
theorem feeds_itemLines (m : Metrics α) (depth : Nat) : (nodes : List Node) →
    (Feeds (itemLines depth (ofNodes m nodes)) ↔ '\n' ∈ Node.unusualOfAll nodes)
  | [] => by
    rw [ofNodes, itemLines, feeds_nil, Node.unusualOfAll]
    simp
  | node :: nodes => by
    rw [ofNodes, itemLines, feeds_append, feeds_outlineLines m depth node, feeds_itemLines m depth nodes,
      Node.unusualOfAll, List.mem_append]

/-- So has the outline of further rows. -/
theorem feeds_rowLines (m : Metrics α) (depth : Nat) : (nodes : List Node) →
    (Feeds (rowLines depth (ofNodes m nodes)) ↔ '\n' ∈ Node.unusualOfAll nodes)
  | [] => by
    rw [ofNodes, rowLines, feeds_nil, Node.unusualOfAll]
    simp
  | node :: nodes => by
    rw [ofNodes, rowLines, feeds_cons, feeds_append, feeds_outlineLines m depth node,
      feeds_rowLines m depth nodes, Node.unusualOfAll, List.mem_append,
      or_iff_right newline_not_mem_or]

end

end Visual

end Feeds

section Indentation

/-- The mark of a loop does not begin with a blank. -/
theorem LoopRails.head?_mark (rails : LoopRails) : ∃ c, rails.mark.toList.head? = some c ∧ c ≠ ' ' := by
  unfold mark
  split
  · exact ⟨'↻', rfl, by decide⟩
  · exact ⟨'?', rfl, by decide⟩
  · exact ⟨'↻', rfl, by decide⟩
  · exact ⟨'=', rfl, by decide⟩

/-- The line of a box begins with a bracket. -/
theorem BoxText.head?_line (text : BoxText) : text.line.toList.head? = some '[' := by
  have hopen : "[".toList.head? = some '[' := rfl
  unfold line
  split
  · exact Node.head?_toList_append (Node.head?_toList_append (Node.head?_toList_append
      (Node.head?_toList_append (Node.head?_toList_append hopen))))
  · exact Node.head?_toList_append (Node.head?_toList_append (Node.head?_toList_append hopen))

/-- What an outline says about a shape itself does not begin with a blank. -/
theorem Visual.head?_ownText? {shape : Visual α} {text : String} (h : shape.ownText? = some text) :
    ∃ c, text.toList.head? = some c ∧ c ≠ ' ' := by
  cases shape with
  | start =>
    cases h
    exact ⟨'○', rfl, by decide⟩
  | finish =>
    cases h
    exact ⟨'●', rfl, by decide⟩
  | terminal size tooltip box =>
    cases h
    exact ⟨'[', box.head?_line, by decide⟩
  | frame size label content =>
    cases h
    have hfirst : "┌ ".toList.head? = some '┌' := rfl
    exact ⟨'┌', Node.head?_toList_append hfirst, by decide⟩
  | branch size rows =>
    cases h
    have hfirst : "┬ one of ".toList.head? = some '┬' := rfl
    exact ⟨'┬', Node.head?_toList_append (Node.head?_toList_append hfirst), by decide⟩
  | loop size rails caption content =>
    cases h
    obtain ⟨c, hmark, hc⟩ := rails.head?_mark
    exact ⟨c, Node.head?_toList_append (Node.head?_toList_append hmark), hc⟩
  | track size items =>
    cases items with
    | nil =>
      cases h
      exact ⟨'─', rfl, by decide⟩
    | cons item items => cases h

/-- Nor does what it says about a gap. -/
theorem Visual.head?_gapText? {shape : Visual α} {row : Nat} {text : String}
    (h : shape.gapText? row = some text) : ∃ c, text.toList.head? = some c ∧ c ≠ ' ' := by
  unfold gapText? at h
  split at h
  · split at h <;> cases h
    exact ⟨'─', rfl, by decide⟩
  · cases h

/-- What an outline says about a place does not begin with a blank. -/
theorem Visual.head?_textAt? {visual : Visual α} {place : OutlinePlace} {text : String}
    (h : visual.textAt? place = some text) : ∃ c, text.toList.head? = some c ∧ c ≠ ' ' := by
  cases place with
  | shape path =>
    obtain ⟨shape, -, hshape⟩ := Option.bind_eq_some_iff.mp h
    exact head?_ownText? hshape
  | gap path row =>
    obtain ⟨shape, -, hshape⟩ := Option.bind_eq_some_iff.mp h
    exact head?_gapText? hshape

/-- The line for a place begins with just as many blanks as its depth asks for. -/
theorem Visual.indented_lineAt {visual : Visual α} {place : OutlinePlace}
    (h : (visual.textAt? place).isSome = true) :
    (visual.lineAt place).toList.takeWhile (· == ' ') = List.replicate (2 * visual.depthAt place) ' ' := by
  obtain ⟨text, htext⟩ := Option.isSome_iff_exists.mp h
  have hblanks : ∀ c ∈ List.replicate (2 * visual.depthAt place) ' ', (c == ' ') = true :=
    fun c hmem => beq_iff_eq.mpr (List.eq_of_mem_replicate hmem)
  have hnone : text.toList.takeWhile (· == ' ') = [] := by
    obtain ⟨c, hhead, hc⟩ := head?_textAt? htext
    obtain ⟨rest, hchars⟩ := List.head?_eq_some_iff.mp hhead
    rw [hchars]
    exact List.takeWhile_cons_of_neg fun hblank => hc (beq_iff_eq.mp hblank)
  rw [lineAt, htext, Option.getD_some, String.toList_append, String.toList_ofList,
    List.takeWhile_append_of_pos hblanks, hnone, List.append_nil]

end Indentation

section LineFeeds

/-- The pieces of a text that is split at a character do not have the character. -/
theorem not_mem_of_mem_splitOn {c : Char} {text piece : List Char} (h : piece ∈ text.splitOn c) :
    c ∉ piece := by
  induction text generalizing piece with
  | nil =>
    rw [List.splitOn_nil, List.mem_singleton] at h
    exact h ▸ List.not_mem_nil
  | cons d text ih =>
    rw [List.splitOn_cons_eq_if_modifyHead] at h
    split at h
    · rcases List.mem_cons.mp h with rfl | hmore
      · exact List.not_mem_nil
      · exact ih hmore
    · rename_i hne
      cases hpieces : text.splitOn c with
      | nil => exact absurd hpieces (List.splitOn_ne_nil c text)
      | cons first pieces =>
        rw [hpieces, List.modifyHead_cons] at h
        rcases List.mem_cons.mp h with rfl | hmore
        · have hfirst := ih (hpieces ▸ List.mem_cons_self)
          rw [List.mem_cons, not_or]
          exact ⟨fun heq => hne (beq_iff_eq.mpr heq.symm), hfirst⟩
        · exact ih (hpieces ▸ List.mem_cons_of_mem _ hmore)

/-- Texts that each end with a character are told apart by it exactly if they do not have it elsewhere. -/
theorem splitOn_flatMap_iff {c : Char} {lines : List (List Char)} :
    (lines.flatMap (· ++ [c])).splitOn c = lines ++ [[]] ↔ ∀ line ∈ lines, c ∉ line := by
  constructor
  · intro h line hmem
    exact not_mem_of_mem_splitOn (h ▸ List.mem_append_left _ hmem)
  · intro h
    induction lines with
    | nil => rfl
    | cons line lines ih =>
      obtain ⟨hline, hlines⟩ := List.forall_mem_cons.mp h
      rw [List.flatMap_cons, List.append_assoc, List.singleton_append,
        List.splitOn_append_cons_self_of_not_mem hline, ih hlines, List.cons_append]

/-- The character stands in such texts as often as there are texts exactly if they do not have it
elsewhere. -/
theorem count_flatMap_iff {c : Char} {lines : List (List Char)} :
    (lines.flatMap (· ++ [c])).count c = lines.length ↔ ∀ line ∈ lines, c ∉ line := by
  have hcount : (lines.flatMap (· ++ [c])).count c = (lines.map (List.count c)).sum + lines.length := by
    induction lines with
    | nil => rfl
    | cons line lines ih =>
      rw [List.flatMap_cons, List.count_append, ih, List.count_append, List.count_singleton_self,
        List.map_cons, List.sum_cons, List.length_cons]
      omega
  rw [hcount, Nat.add_eq_right, List.sum_eq_zero_iff_forall_eq_nat, List.forall_mem_map]
  simp only [List.count_eq_zero]

end LineFeeds

namespace Diagram

/-- The entries of an outline: they are for all places about which there is something to say, in diagram
order, each with two blanks for every branch, loop and frame around it. -/
structure HasEntries (diagram : Diagram α) (places : List OutlinePlace) : Prop where
  /-- The places are in order. -/
  ordered : places.Pairwise OutlinePlace.Before
  /-- They are all places about which there is something to say. -/
  mem_iff : ∀ place, place ∈ places ↔ (diagram.root.textAt? place).isSome = true
  /-- The outline has the entries one behind the other, each with an end of line. -/
  outline_eq : diagram.outline = String.join (places.map fun place => diagram.root.lineAt place ++ "\n")
  /-- Just these blanks stand in front of an entry. -/
  indented : ∀ place ∈ places, (diagram.root.lineAt place).toList.takeWhile (· == ' ') =
    List.replicate (2 * diagram.root.depthAt place) ' '

/-- Whether each entry is a line of the outline, and there are no other lines. -/
def OneLineEach (diagram : Diagram α) (places : List OutlinePlace) : Prop :=
  diagram.outline.toList.splitOn '\n' =
    (places.map fun place => (diagram.root.lineAt place).toList) ++ [[]]

/-- The outline of a diagram has its entries. -/
theorem hasEntries (diagram : Diagram α) : diagram.HasEntries diagram.root.outlinePlaces where
  ordered := diagram.root.pairwise_outlinePlaces
  mem_iff := diagram.root.mem_outlinePlaces
  outline_eq := by
    have hline (place : OutlinePlace) : (diagram.root.outlineLineAt 0 place).render =
        diagram.root.lineAt place ++ "\n" := by
      rw [Visual.outlineLineAt, Nat.zero_add]
      rfl
    rw [outline, Visual.outlineLines_eq, List.map_map]
    exact congrArg String.join (List.map_congr_left fun place _ => hline place)
  indented := fun place hmem =>
    Visual.indented_lineAt ((diagram.root.mem_outlinePlaces place).mp hmem)

namespace HasEntries

variable {diagram : Diagram α} {places : List OutlinePlace}

/-- The characters of an outline are those of its entries and the ends of line. -/
theorem toList_outline (h : diagram.HasEntries places) : diagram.outline.toList =
    (places.map fun place => (diagram.root.lineAt place).toList).flatMap (· ++ ['\n']) := by
  rw [h.outline_eq, String.toList_join, List.flatMap_map, List.flatMap_map]
  simp only [String.toList_append]
  rfl

/-- No entry has a line feed exactly if no line has one in its text. -/
theorem newline_not_mem_iff (h : diagram.HasEntries places) :
    (∀ line ∈ places.map fun place => (diagram.root.lineAt place).toList, '\n' ∉ line) ↔
      ¬Feeds (diagram.root.outlineLines 0) := by
  have hfeed (place : OutlinePlace) : '\n' ∈ (diagram.root.lineAt place).toList ↔
      '\n' ∈ (diagram.root.outlineLineAt 0 place).text.toList := by
    have hblank : '\n' ∉ List.replicate (2 * diagram.root.depthAt place) ' ' :=
      fun hmem => absurd (List.eq_of_mem_replicate hmem) (by decide)
    rw [Visual.lineAt, String.toList_append, String.toList_ofList, List.mem_append, or_iff_right hblank]
    rfl
  rw [List.forall_mem_map, Feeds, Visual.outlineLines_eq]
  simp only [hfeed, List.mem_map, exists_exists_and_eq_and, h.mem_iff, diagram.root.mem_outlinePlaces,
    not_exists, not_and]

/-- Each entry is a line exactly if no line has a line feed in its text. -/
theorem oneLineEach_iff (h : diagram.HasEntries places) :
    diagram.OneLineEach places ↔ ¬Feeds (diagram.root.outlineLines 0) := by
  rw [OneLineEach, h.toList_outline, splitOn_flatMap_iff, h.newline_not_mem_iff]

/-- There are as many lines as entries only then. -/
theorem count_eq_length_iff (h : diagram.HasEntries places) :
    diagram.outline.toList.count '\n' = places.length ↔ ¬Feeds (diagram.root.outlineLines 0) := by
  rw [h.toList_outline, ← h.newline_not_mem_iff, ← count_flatMap_iff, List.length_map]

end HasEntries

/-- The outline of a tree has a line feed in a text exactly if the tree has one: the lines for the two ends of
the diagram have none. -/
theorem feeds_outlineLines_ofNode [Scalar α] (node : Node) (scale : Nat) :
    Feeds ((ofNode node scale : Diagram α).root.outlineLines 0) ↔ '\n' ∈ node.unusual := by
  have hstart : '\n' ∉ "○ start".toList := by decide
  have hend : '\n' ∉ "● end".toList := by decide
  have hnode := Visual.feeds_outlineLines (.ofScale (clampScale scale) : Metrics α) 0 node
  simp only [ofNode, Visual.trackOf, Visual.outlineLines, Visual.itemLines, feeds_append, feeds_cons, feeds_nil,
    hnode, hstart, hend, false_or, or_false]

/-- For every pattern with a tree and every zoom, the outline has an entry for each start, end, box, frame,
loop, branch and empty track and for each gap between two neighbouring rows, in diagram order, and none
besides. In front of each stand two blanks for every branch, loop and frame around it. Each of them is one
line of the outline exactly if no token of the pattern shows a line feed. -/
theorem outline_entries [Scalar α] {pattern : String} {node : Node}
    (h : Node.ofPattern pattern = .ok node) (scale : Nat) :
    ∃ tokens places, tokenize pattern = .ok tokens ∧
      (ofNode node scale : Diagram α).HasEntries places ∧
      ((ofNode node scale : Diagram α).OneLineEach places ↔ ∀ token ∈ tokens, '\n' ∉ token.shown) := by
  obtain ⟨tokens, htokens, hshown⟩ := Node.mem_unusual_ofPattern h
  have hentries := (ofNode node scale : Diagram α).hasEntries
  refine ⟨tokens, _, htokens, hentries, ?_⟩
  rw [hentries.oneLineEach_iff, feeds_outlineLines_ofNode, hshown]
  simp only [newline_mem_outside, not_exists, not_and]

/-- The outline of `(a|)*` has a line for each of its shapes and for the gap. -/
theorem outline_entries_emptyRow :
    ∃ node places, Node.ofPattern "(a|)*" = .ok node ∧
      (ofNode node 100 : Diagram Float).HasEntries places ∧
      (ofNode node 100 : Diagram Float).OneLineEach places := by
  have hpattern : tokenize "(a|)*" = .ok [⟨.groupOpen .capturing, "(", 0⟩, ⟨.literal, "a", 1⟩,
      ⟨.alternation, "|", 2⟩, ⟨.groupClose, ")", 3⟩, ⟨.quantifier ⟨.zeroOrMore, true, false⟩, "*", 4⟩] := by
    cbv
  have htree : ∃ node, Node.ofPattern "(a|)*" = .ok node := by
    rw [Node.ofPattern, hpattern]
    exact ⟨_, rfl⟩
  obtain ⟨node, hnode⟩ := htree
  obtain ⟨tokens, places, htokens, hentries, hlines⟩ := outline_entries (α := Float) hnode 100
  cases hpattern.symm.trans htokens
  exact ⟨node, places, hnode, hentries, hlines.mpr (by decide)⟩

/-- An outline need not have as many lines as entries: the escape in `a\x0a` stands for a line feed, which
the line of its box has twice. -/
theorem not_forall_count_eq_length :
    ¬ ∀ (pattern : String) (node : Node) (scale : Nat) (places : List OutlinePlace),
      Node.ofPattern pattern = .ok node → (ofNode node scale : Diagram Float).HasEntries places →
      (ofNode node scale : Diagram Float).outline.toList.count '\n' = places.length := by
  intro h
  have hpattern : tokenize "a\\x0a" = .ok [⟨.literal, "a", 0⟩, ⟨.escape, "\\x0a", 1⟩] := by cbv
  have hnode : Node.ofPattern "a\\x0a" = .ok (.sequence [.terminal (.literal "a"),
      .terminal (.escapedLiteral "\\x0a")]) := by
    rw [Node.ofPattern, hpattern]
    rfl
  let diagram : Diagram Float := ofNode (.sequence [.terminal (.literal "a"),
    .terminal (.escapedLiteral "\\x0a")]) 100
  have hcount := h _ _ 100 _ hnode diagram.hasEntries
  refine (diagram.hasEntries.count_eq_length_iff.mp hcount) ?_
  exact (feeds_outlineLines_ofNode _ 100).mpr (by decide)

end Diagram

end Railroad
