import Railroad.Drawing.Svg
import Railroad.Proofs.TagReading

/-!
# The markup of a page

The document of a diagram is one element that holds a style sheet and the marks. Which tags it has is a
matter of the shapes alone. The texts of the diagram stand in it in drawing order, between the tags of
titles and texts, and none of them can be taken for a tag.
-/

namespace Railroad

variable {α : Type}

/-- Lengths that are left out. -/
instance : Scalar Unit where
  add _ _ := ()
  sub _ _ := ()
  mul _ _ := ()
  div _ _ := ()
  neg _ := ()
  max _ _ := ()
  ofNat _ := ()
  value _ := 0

namespace Visual

mutual

/-- The shapes of a diagram without their sizes and texts. Whether a box has a second line is kept. -/
def bare : Visual α → Visual Unit
  | start _ => .start ⟨(), ()⟩
  | finish _ => .finish ⟨(), ()⟩
  | track _ items => .track ⟨(), ()⟩ (bareAll items)
  | branch _ rows => .branch ⟨(), ()⟩ (bareAll rows)
  | loop _ rails _ content => .loop ⟨(), ()⟩ rails "" content.bare
  | frame _ _ content => .frame ⟨(), ()⟩ "" content.bare
  | terminal _ style text => .terminal ⟨(), ()⟩ style ⟨"", text.detail.map fun _ => "", ""⟩

/-- The shapes of a list of diagrams without their sizes and texts. -/
def bareAll : List (Visual α) → List (Visual Unit)
  | [] => []
  | visual :: visuals => visual.bare :: bareAll visuals

end

mutual

/-- The texts of a diagram in drawing order, with the words at its ends and between its rows. -/
def words : Visual α → List String
  | start _ => ["start"]
  | finish _ => ["end"]
  | track _ items => itemWords items
  | branch _ rows => rowWords rows
  | loop _ _ caption content => content.words ++ [caption]
  | frame _ label content => label :: content.words
  | terminal _ _ text => text.tooltip :: text.label :: text.detail.toList

/-- The texts of the items of a track. -/
def itemWords : List (Visual α) → List String
  | [] => []
  | item :: items => item.words ++ itemWords items

/-- The texts of the rows of a branch, with a word between two rows. -/
def rowWords : List (Visual α) → List String
  | [] => []
  | [row] => row.words
  | row :: rows => row.words ++ "or" :: rowWords rows

end

/-- A word stands between a row and the next one. -/
theorem rowWords_cons_cons (row next : Visual α) (rows : List (Visual α)) :
    rowWords (row :: next :: rows) = row.words ++ "or" :: rowWords (next :: rows) := by
  rw [rowWords]
  exact List.cons_ne_nil _ _

end Visual

namespace Mark

mutual

/-- A mark without its place and its text. -/
def bare : Mark α → Mark Unit
  | rail _ _ _ _ => .rail () () () ()
  | arc lazy _ _ _ _ => .arc lazy () () () ()
  | arrowHead _ _ _ => .arrowHead () () ()
  | terminus isEntry _ _ _ => .terminus isEntry () () ()
  | frame _ _ _ _ _ => .frame () () () () ()
  | box style _ _ _ _ _ => .box style () () () () ()
  | text style _ _ _ => .text style () () ""
  | titled _ marks => .titled "" (bareAll marks)

/-- Marks without their places and their texts. -/
def bareAll : List (Mark α) → List (Mark Unit)
  | [] => []
  | mark :: marks => mark.bare :: bareAll marks

end

/-- Marks in two lists lose their places and texts list by list. -/
theorem bareAll_append (first second : List (Mark α)) :
    bareAll (first ++ second) = bareAll first ++ bareAll second := by
  induction first with
  | nil => rfl
  | cons mark first ih => rw [List.cons_append, bareAll, bareAll, ih, List.cons_append]

end Mark

/-- A tag without the values of its attributes, its class apart. -/
def Tag.bare (tag : Tag) : Tag :=
  let blank (pair : String × String) := (pair.1, if pair.1 = "class" then pair.2 else "")
  match tag with
  | .opening name attributes => .opening name (attributes.map blank)
  | .closing name => .closing name
  | .empty name attributes => .empty name (attributes.map blank)

/-- Without a class, only the names of the attributes are left. -/
theorem Tag.bare_opening (name : String) {attributes : List (String × String)}
    (h : "class" ∉ attributes.map (·.1)) :
    (Tag.opening name attributes).bare =
      .opening name ((attributes.map (·.1)).map fun other => (other, "")) := by
  rw [Tag.bare, List.map_map]
  refine congrArg (Tag.opening name) (List.map_congr_left fun pair hmem => ?_)
  have hne : pair.1 ≠ "class" := fun heq => h (heq ▸ List.mem_map_of_mem hmem)
  simp only [hne, if_false, Function.comp_apply]

namespace Passage

/-- The elements of a page that hold a text and nothing else. -/
def holdsText (name : String) : Bool := name = "style" || name = "title" || name = "text"

/-- Whether the tag begins a title or a text. -/
def beginsText (passage : Passage) : Bool :=
  match passage.tag with
  | .opening name _ => name = "title" || name = "text"
  | _ => false

/-- The texts in the titles and texts of a page. -/
def texts (passages : List Passage) : List String :=
  (passages.filter beginsText).map (·.behind)

/-- The texts of two parts of a page stand one behind the other. -/
theorem texts_append (first second : List Passage) :
    texts (first ++ second) = texts first ++ texts second := by
  rw [texts, List.filter_append, List.map_append, texts, texts]

end Passage

section

variable [Scalar α]

namespace Mark

/-- The tags of some marks, each with the text behind it. -/
def passages (marks : List (Mark α)) : List Passage := Markup.passagesOfAll (markupOfAll marks)

/-- The elements of marks in two lists stand one behind the other. -/
theorem markupOfAll_append (first second : List (Mark α)) :
    markupOfAll (first ++ second) = markupOfAll first ++ markupOfAll second := by
  induction first with
  | nil => rfl
  | cons mark first ih => rw [List.cons_append, markupOfAll, markupOfAll, ih, List.append_assoc]

/-- The tags of marks in two lists stand one behind the other. -/
theorem passages_append (first second : List (Mark α)) :
    passages (first ++ second) = passages first ++ passages second := by
  rw [passages, markupOfAll_append, Markup.passagesOfAll_append, passages, passages]

/-- A tag that may stand among the marks of a page: it can be read back, and it is neither the page nor
its style sheet. -/
structure IsMarkTag (tag : Tag) : Prop where
  /-- It can be read back. -/
  proper : tag.Proper
  /-- It is not the page. -/
  name_ne_svg : tag.name ≠ "svg"
  /-- It is not the style sheet. -/
  name_ne_style : tag.name ≠ "style"

/-- Whether a tag may stand among the marks is a matter of its names. -/
theorem isMarkTag_of_names {tag : Tag} (name : String) (names : List String) (hname : tag.name = name)
    (hnames : tag.attributes.map (·.1) = names)
    (hproper : Passage.isName name.toList = true ∧
      (∀ other ∈ names, Passage.isName other.toList = true) ∧ names.Nodup)
    (hmark : name ≠ "svg" ∧ name ≠ "style") : IsMarkTag tag := by
  refine ⟨Tag.proper_of_names name names hname hnames hproper, ?_, ?_⟩
  · exact hname ▸ hmark.1
  · exact hname ▸ hmark.2

/-- The end of an element may stand where its beginning may. -/
theorem IsMarkTag.closing {name : String} {attributes : List (String × String)}
    (h : IsMarkTag (.opening name attributes)) : IsMarkTag (.closing name) :=
  ⟨⟨h.proper.name_isName, fun _ hmem => absurd hmem List.not_mem_nil, List.nodup_nil⟩,
    h.name_ne_svg, h.name_ne_style⟩

/-- An element without content has one tag. -/
theorem forall_empty {name : String} {attributes : List (String × String)}
    (h : IsMarkTag (.empty name attributes)) :
    ∀ passage ∈ (Markup.empty name attributes).passages, IsMarkTag passage.tag := by
  simpa only [Markup.passages, List.forall_mem_singleton] using h

/-- An element that holds a text has two tags. -/
theorem forall_holding {name : String} {attributes : List (String × String)} {content : String}
    (h : IsMarkTag (.opening name attributes)) :
    ∀ passage ∈ (Markup.holding name attributes content).passages, IsMarkTag passage.tag := by
  simp only [Markup.passages, List.forall_mem_cons]
  exact ⟨h, h.closing, List.forall_mem_nil _⟩

mutual

/-- The tags of a mark may stand among the marks. -/
theorem isMarkTag_markup : (mark : Mark α) →
    ∀ passage ∈ Markup.passagesOfAll mark.markup, IsMarkTag passage.tag
  | .rail _ _ _ _ => by
    rw [markup, Markup.passagesOfAll, Markup.passagesOfAll, List.append_nil]
    exact forall_empty
      (isMarkTag_of_names "line" ["class", "x1", "y1", "x2", "y2"] rfl rfl (by decide) (by decide))
  | .arc _ _ _ _ _ => by
    rw [markup, Markup.passagesOfAll, Markup.passagesOfAll, List.append_nil]
    exact forall_empty (isMarkTag_of_names "path" ["class", "d"] rfl rfl (by decide) (by decide))
  | .arrowHead _ _ _ => by
    rw [markup, Markup.passagesOfAll, Markup.passagesOfAll, List.append_nil]
    exact forall_empty (isMarkTag_of_names "path" ["fill", "d"] rfl rfl (by decide) (by decide))
  | .terminus _ _ _ _ => by
    simp only [markup, Markup.passagesOfAll, List.append_nil, List.forall_mem_append]
    exact ⟨forall_empty (isMarkTag_of_names "circle" ["class", "cx", "cy", "r"] rfl rfl (by decide) (by decide)),
      forall_holding (isMarkTag_of_names "text" ["class", "fill", "x", "y"] rfl rfl (by decide) (by decide))⟩
  | .frame _ _ _ _ _ => by
    rw [markup, Markup.passagesOfAll, Markup.passagesOfAll, List.append_nil]
    exact forall_empty (isMarkTag_of_names "rect" ["class", "x", "y", "width", "height", "rx"] rfl rfl
      (by decide) (by decide))
  | .box _ _ _ _ _ _ => by
    rw [markup, Markup.passagesOfAll, Markup.passagesOfAll, List.append_nil]
    exact forall_empty (isMarkTag_of_names "rect" ["class", "x", "y", "width", "height", "rx"] rfl rfl
      (by decide) (by decide))
  | .text _ _ _ _ => by
    rw [markup, Markup.passagesOfAll, Markup.passagesOfAll, List.append_nil]
    exact forall_holding (isMarkTag_of_names "text" ["class", "x", "y"] rfl rfl (by decide) (by decide))
  | .titled _ marks => by
    have hgroup : IsMarkTag (.opening "g" []) := isMarkTag_of_names "g" [] rfl rfl (by decide) (by decide)
    have htitle : IsMarkTag (.opening "title" []) :=
      isMarkTag_of_names "title" [] rfl rfl (by decide) (by decide)
    simp only [markup, Markup.passagesOfAll, Markup.passages, List.append_nil, List.forall_mem_append,
      List.forall_mem_cons]
    exact ⟨hgroup, ⟨⟨htitle, htitle.closing, List.forall_mem_nil _⟩, isMarkTag_passages marks⟩,
      hgroup.closing, List.forall_mem_nil _⟩

/-- The tags of marks may stand among the marks. -/
theorem isMarkTag_passages : (marks : List (Mark α)) →
    ∀ passage ∈ passages marks, IsMarkTag passage.tag
  | [] => fun _ hmem => absurd hmem List.not_mem_nil
  | mark :: marks => by
    rw [passages, markupOfAll, Markup.passagesOfAll_append, List.forall_mem_append]
    exact ⟨isMarkTag_markup mark, isMarkTag_passages marks⟩

end

mutual

/-- The tags of a mark nest. -/
theorem nested_markup : (mark : Mark α) →
    Passage.Nested Passage.holdsText (Markup.passagesOfAll mark.markup)
  | .rail _ _ _ _ => .empty .nil
  | .arc _ _ _ _ _ => .empty .nil
  | .arrowHead _ _ _ => .empty .nil
  | .terminus _ _ _ _ => .empty (.text rfl .nil)
  | .frame _ _ _ _ _ => .empty .nil
  | .box _ _ _ _ _ _ => .empty .nil
  | .text _ _ _ _ => .text rfl .nil
  | .titled title marks => by
    have hinside : Passage.Nested Passage.holdsText
        (Markup.passagesOfAll (.holding "title" [] title :: markupOfAll marks)) :=
      .text (by decide) (nested_passages marks)
    rw [markup, Markup.passagesOfAll, Markup.passagesOfAll, List.append_nil]
    exact .element (by decide) hinside .nil

/-- The tags of marks nest. -/
theorem nested_passages : (marks : List (Mark α)) →
    Passage.Nested Passage.holdsText (passages marks)
  | [] => .nil
  | mark :: marks => by
    rw [passages, markupOfAll, Markup.passagesOfAll_append]
    exact (nested_markup mark).append (nested_passages marks)

end

mutual

/-- Which tags a mark has does not depend on its place and its text. -/
theorem bare_markup : (mark : Mark α) →
    (Markup.passagesOfAll mark.markup).map (·.tag.bare) =
      (Markup.passagesOfAll mark.bare.markup).map (·.tag.bare)
  | .rail _ _ _ _ => by simp [markup, bare, Markup.passagesOfAll, Markup.passages, Tag.bare]
  | .arc _ _ _ _ _ => by simp [markup, bare, Markup.passagesOfAll, Markup.passages, Tag.bare]
  | .arrowHead _ _ _ => by simp [markup, bare, Markup.passagesOfAll, Markup.passages, Tag.bare]
  | .terminus _ _ _ _ => by simp [markup, bare, Markup.passagesOfAll, Markup.passages, Tag.bare]
  | .frame _ _ _ _ _ => by simp [markup, bare, Markup.passagesOfAll, Markup.passages, Tag.bare]
  | .box _ _ _ _ _ _ => by simp [markup, bare, Markup.passagesOfAll, Markup.passages, Tag.bare]
  | .text _ _ _ _ => by simp [markup, bare, Markup.passagesOfAll, Markup.passages, Tag.bare]
  | .titled _ marks => by
    have hmarks := bare_passages marks
    rw [passages, passages] at hmarks
    simp only [markup, bare, Markup.passagesOfAll, Markup.passages, List.append_nil, List.map_cons,
      List.map_append, hmarks]

/-- Which tags marks have does not depend on their places and their texts. -/
theorem bare_passages : (marks : List (Mark α)) →
    (passages marks).map (·.tag.bare) = (passages (bareAll marks)).map (·.tag.bare)
  | [] => rfl
  | mark :: marks => by
    have hmarks := bare_passages marks
    rw [passages, passages] at hmarks
    rw [passages, passages, markupOfAll, bareAll, markupOfAll, Markup.passagesOfAll_append,
      Markup.passagesOfAll_append, List.map_append, List.map_append, bare_markup mark, hmarks]

end

end Mark

namespace Passage

/-- A rail has no text. -/
theorem texts_rail (x1 y1 x2 y2 : α) (marks : List (Mark α)) :
    texts (Mark.passages (.rail x1 y1 x2 y2 :: marks)) = texts (Mark.passages marks) := rfl

/-- A text has itself. -/
theorem texts_text (style : TextStyle) (x y : α) (content : String) (marks : List (Mark α)) :
    texts (Mark.passages (.text style x y content :: marks)) =
      content :: texts (Mark.passages marks) := rfl

/-- A sentence that is shown on demand stands in front of the texts of its marks. -/
theorem texts_titled (title : String) (marks : List (Mark α)) :
    texts (Mark.passages [.titled title marks]) = title :: texts (Mark.passages marks) := by
  have hgroup : texts ([⟨.opening "g" [], "\n"⟩, ⟨.opening "title" [], title⟩,
      ⟨.closing "title", "\n"⟩] ++ (Mark.passages marks ++ [⟨.closing "g", "\n"⟩])) =
      title :: texts (Mark.passages marks) := by
    rw [texts_append, texts_append]
    exact congrArg (title :: ·) (List.append_nil _)
  rw [← hgroup]
  exact congrArg texts (List.append_nil _)

end Passage

namespace Visual

open Passage (texts texts_append)

/-- The rails at the sides of a branch have no text. -/
theorem texts_spineMarks (size : Size α) (x : α) (axes : List α) :
    texts (Mark.passages (spineMarks size x axes)) = [] := by
  unfold spineMarks
  split <;> rfl

/-- A loop has its caption behind its arcs. -/
theorem texts_loopMarks (m : Metrics α) (size : Size α) (rails : LoopRails) (caption : String)
    (content : Size α) (x y : α) :
    texts (Mark.passages (loopMarks m size rails caption content x y)) = [caption] := by
  simp only [loopMarks, Mark.passages_append, texts_append]
  cases rails.bypass <;> cases rails.loopBack <;> rfl

/-- A frame has its caption. -/
theorem texts_frameMarks (m : Metrics α) (size : Size α) (label : String) (x y : α) :
    texts (Mark.passages (frameMarks m size label x y)) = [label] := rfl

/-- A box has its sentence, its caption and its second line. -/
theorem texts_boxMarks (m : Metrics α) (size : Size α) (style : BoxStyle) (text : BoxText) (x y : α) :
    texts (Mark.passages (boxMarks m size style text x y)) =
      text.tooltip :: text.label :: text.detail.toList := by
  rw [boxMarks, Passage.texts_titled]
  cases text.detail <;> rfl

mutual

/-- The texts of a diagram are drawn in order. -/
theorem texts_marks (m : Metrics α) (x y : α) : (visual : Visual α) →
    texts (Mark.passages (visual.marks m x y)) = visual.words
  | .start _ => rfl
  | .finish _ => rfl
  | .track _ [] => rfl
  | .track _ (item :: items) => by
    rw [marks, words, itemWords, Mark.passages_append, texts_append, texts_marks, texts_itemMarks]
  | .branch _ rows => by
    rw [marks, words, Mark.passages_append, texts_append, texts_rowMarks, texts_spineMarks,
      List.append_nil]
  | .loop _ _ _ content => by
    rw [marks, words, List.cons_append, Passage.texts_rail, Mark.passages_append, texts_append,
      texts_marks, Passage.texts_rail, texts_loopMarks]
  | .frame _ label content => by
    simp only [marks, List.append_assoc, List.cons_append, Mark.passages_append, texts_append,
      texts_frameMarks, Passage.texts_rail]
    rw [texts_marks _ _ _ content, words]
    exact congrArg (label :: ·) (List.append_nil _)
  | .terminal _ _ text => texts_boxMarks _ _ _ text _ _

/-- The texts of further items are drawn in order. -/
theorem texts_itemMarks (m : Metrics α) (axis x : α) : (items : List (Visual α)) →
    texts (Mark.passages (itemMarks m axis x items)) = itemWords items
  | [] => rfl
  | item :: items => by
    rw [itemMarks, itemWords, List.cons_append, Passage.texts_rail, Mark.passages_append, texts_append,
      texts_marks, texts_itemMarks]

/-- The texts of rows are drawn in order, with a word between two rows. -/
theorem texts_rowMarks (m : Metrics α) (size : Size α) (x top : α) : (rows : List (Visual α)) →
    texts (Mark.passages (rowMarks m size x top rows)) = rowWords rows
  | [] => rfl
  | [row] => by
    simp only [rowMarks, List.append_assoc, List.cons_append, Mark.passages_append, texts_append,
      Passage.texts_rail]
    rw [texts_marks _ _ _ row, rowWords]
    exact List.append_nil _
  | row :: next :: rows => by
    rw [rowMarks]
    simp only [List.append_assoc, List.cons_append, Mark.passages_append, texts_append,
      Passage.texts_rail, List.nil_append, Passage.texts_text]
    rw [texts_marks _ _ _ row, texts_rowMarks _ _ _ _ (next :: rows), rowWords_cons_cons]

end

/-- Which rails are at the sides of a branch depends on whether it has rows. -/
theorem bareAll_spineMarks (m : Metrics α) (m' : Metrics Unit) (size : Size α) (x top : α)
    (rows : List (Visual α)) :
    Mark.bareAll (spineMarks size x (rowAxes m top rows)) =
      Mark.bareAll (spineMarks ⟨(), ()⟩ () (rowAxes m' () (bareAll rows))) := by
  cases rows with
  | nil => rfl
  | cons row rows => simp [rowAxes, spineMarks, bareAll, Mark.bareAll, Mark.bare, List.getLast?_cons]

/-- Which marks a box has depends on its style and on whether it has a second line. -/
theorem bareAll_boxMarks (m : Metrics α) (m' : Metrics Unit) (size : Size α) (style : BoxStyle)
    (text : BoxText) (x y : α) :
    Mark.bareAll (boxMarks m size style text x y) =
      Mark.bareAll
        (boxMarks m' ⟨(), ()⟩ style ⟨"", text.detail.map fun _ => "", ""⟩ () ()) := by
  unfold boxMarks
  cases text.detail <;> rfl

/-- Which marks a loop has depends on its arcs. -/
theorem bareAll_loopMarks (m : Metrics α) (m' : Metrics Unit) (size content : Size α)
    (rails : LoopRails) (caption : String) (x y : α) :
    Mark.bareAll (loopMarks m size rails caption content x y) =
      Mark.bareAll (loopMarks m' ⟨(), ()⟩ rails "" ⟨(), ()⟩ () ()) := by
  unfold loopMarks
  cases rails.bypass <;> cases rails.loopBack <;> rfl

mutual

/-- Which marks a diagram has depends on its shapes alone. -/
theorem bareAll_marks (m : Metrics α) (m' : Metrics Unit) (x y : α) : (visual : Visual α) →
    Mark.bareAll (visual.marks m x y) = Mark.bareAll (visual.bare.marks m' () ())
  | .start _ => rfl
  | .finish _ => rfl
  | .track _ [] => rfl
  | .track _ (item :: items) => by
    simp only [marks, bare, bareAll, Mark.bareAll_append]
    rw [bareAll_marks m m' _ _ item, bareAll_itemMarks m m' _ _ items]
  | .branch _ rows => by
    simp only [marks, bare, Mark.bareAll_append]
    rw [bareAll_rowMarks m m' _ _ _ rows, bareAll_spineMarks m m' _ _ _ rows]
  | .loop _ rails caption content => by
    simp only [marks, bare, List.cons_append, Mark.bareAll, Mark.bareAll_append, Mark.bare]
    rw [bareAll_marks m m' _ _ content, bareAll_loopMarks m m' _ _ rails caption]
  | .frame _ label content => by
    simp only [marks, bare, List.append_assoc, List.cons_append, Mark.bareAll, Mark.bareAll_append,
      Mark.bare]
    rw [bareAll_marks m m' _ _ content]
    rfl
  | .terminal _ style text => bareAll_boxMarks m m' _ style text _ _

/-- Which marks further items have depends on their shapes alone. -/
theorem bareAll_itemMarks (m : Metrics α) (m' : Metrics Unit) (axis x : α) :
    (items : List (Visual α)) → Mark.bareAll (itemMarks m axis x items) =
      Mark.bareAll (itemMarks m' () () (bareAll items))
  | [] => rfl
  | item :: items => by
    simp only [itemMarks, bareAll, List.cons_append, Mark.bareAll, Mark.bareAll_append, Mark.bare]
    rw [bareAll_marks m m' _ _ item, bareAll_itemMarks m m' _ _ items]

/-- Which marks rows have depends on their shapes alone. -/
theorem bareAll_rowMarks (m : Metrics α) (m' : Metrics Unit) (size : Size α) (x top : α) :
    (rows : List (Visual α)) → Mark.bareAll (rowMarks m size x top rows) =
      Mark.bareAll (rowMarks m' ⟨(), ()⟩ () () (bareAll rows))
  | [] => rfl
  | [row] => by
    simp only [rowMarks, bareAll, List.append_assoc, List.cons_append, List.nil_append, Mark.bareAll,
      Mark.bareAll_append, Mark.bare]
    rw [bareAll_marks m m' _ _ row]
  | row :: next :: rows => by
    have hmore := bareAll_rowMarks m m' size x (top + (rowSize m row).height + m.separator)
      (next :: rows)
    rw [bareAll] at hmore
    rw [bareAll, bareAll]
    conv => lhs; rw [rowMarks]
    conv => rhs; rw [rowMarks]
    simp only [List.append_assoc, List.cons_append, List.nil_append, Mark.bareAll,
      Mark.bareAll_append, Mark.bare]
    rw [bareAll_marks m m' _ _ row, hmore]

end

end Visual

end

/-- A page: one element that holds a style sheet and the marks. -/
structure Passage.Page (passages : List Passage) : Prop where
  /-- The page is the outermost element. The style sheet is its first one, and neither occurs again. -/
  whole : ∃ attributes marks, passages =
      ⟨.opening "svg" attributes, "\n"⟩ :: ⟨.opening "style" [], styleSheet⟩ ::
        ⟨.closing "style", "\n"⟩ :: (marks ++ [⟨.closing "svg", "\n"⟩]) ∧
    ∀ passage ∈ marks, passage.tag.name ≠ "svg" ∧ passage.tag.name ≠ "style"
  /-- The tags nest. The style sheet, titles and texts hold a text and nothing else. -/
  nested : Nested holdsText passages

namespace Diagram

variable [Scalar α]

/-- The tags of the page of a diagram, each with the text behind it. -/
def passages (diagram : Diagram α) : List Passage := diagram.svgMarkup.passages

/-- The page is the outermost element, with the style sheet and the marks inside. -/
theorem exists_passages (diagram : Diagram α) :
    ∃ attributes : List (String × String),
      attributes.map (·.1) = ["xmlns", "width", "height", "viewBox", "font-family", "font-size"] ∧
      diagram.passages = ⟨.opening "svg" attributes, "\n"⟩ :: ⟨.opening "style" [], styleSheet⟩ ::
        ⟨.closing "style", "\n"⟩ :: (Mark.passages diagram.marks ++ [⟨.closing "svg", "\n"⟩]) :=
  ⟨_, rfl, rfl⟩

/-- The tags of a page can be read back. -/
theorem proper_passages (diagram : Diagram α) : ∀ passage ∈ diagram.passages, passage.tag.Proper := by
  obtain ⟨attributes, hnames, hpassages⟩ := diagram.exists_passages
  have hpage : (Tag.opening "svg" attributes).Proper :=
    Tag.proper_of_names "svg" _ rfl hnames (by decide)
  have hpageEnd : (Tag.closing "svg").Proper := Tag.proper_of_names "svg" [] rfl rfl (by decide)
  have hstyle : (Tag.opening "style" []).Proper := Tag.proper_of_names "style" [] rfl rfl (by decide)
  have hstyleEnd : (Tag.closing "style").Proper := Tag.proper_of_names "style" [] rfl rfl (by decide)
  rw [hpassages]
  simp only [List.forall_mem_cons, List.forall_mem_append]
  exact ⟨hpage, hstyle, hstyleEnd, fun passage hmem => (Mark.isMarkTag_passages _ passage hmem).proper,
    hpageEnd, List.forall_mem_nil _⟩

/-- The page of a diagram can be read back. -/
theorem read?_svg (diagram : Diagram α) : Passage.read? diagram.svg = some diagram.passages :=
  Markup.read?_render diagram.proper_passages

/-- The page of a diagram is one. -/
theorem page_passages (diagram : Diagram α) : Passage.Page diagram.passages := by
  obtain ⟨attributes, -, hpassages⟩ := diagram.exists_passages
  rw [hpassages]
  have hmarks := Mark.nested_passages diagram.marks
  refine ⟨⟨attributes, Mark.passages diagram.marks, rfl, ?_⟩, ?_⟩
  · intro passage hmem
    have htag := Mark.isMarkTag_passages _ passage hmem
    exact ⟨htag.name_ne_svg, htag.name_ne_style⟩
  · exact .element (by decide) (.text (by decide) hmarks) .nil

/-- The titles and texts of a page are the texts of the diagram. -/
theorem texts_passages (diagram : Diagram α) :
    Passage.texts diagram.passages = diagram.root.words := by
  obtain ⟨attributes, -, hpassages⟩ := diagram.exists_passages
  have hmarks : Passage.texts (Mark.passages diagram.marks) = diagram.root.words :=
    Visual.texts_marks _ _ _ diagram.root
  rw [hpassages, ← hmarks]
  exact (Passage.texts_append _ _).trans (List.append_nil _)

/-- Which tags a page has depends on the shapes of the diagram alone. -/
theorem bare_passages (diagram : Diagram α) :
    diagram.passages.map (·.tag.bare) =
      (Diagram.mk 0 diagram.root.bare).passages.map (·.tag.bare) := by
  have hmarks : (Mark.passages diagram.marks).map (·.tag.bare) =
      (Mark.passages (Diagram.mk 0 diagram.root.bare).marks).map (·.tag.bare) := by
    rw [Mark.bare_passages, Mark.bare_passages (Diagram.mk 0 diagram.root.bare).marks, marks, marks,
      Visual.bareAll_marks _ (Diagram.mk 0 diagram.root.bare).metrics]
  obtain ⟨attributes, hnames, hpassages⟩ := diagram.exists_passages
  obtain ⟨attributes', hnames', hpassages'⟩ := (Diagram.mk 0 diagram.root.bare).exists_passages
  have hpage : (Tag.opening "svg" attributes).bare = (Tag.opening "svg" attributes').bare := by
    rw [Tag.bare_opening "svg" (hnames ▸ by decide), Tag.bare_opening "svg" (hnames' ▸ by decide),
      hnames, hnames']
  simp only [hpassages, hpassages', List.map_cons, List.map_append, hpage, hmarks]

/-- The document of a diagram is balanced markup, whatever texts the diagram has. Read back by its
angle brackets, quotes and entities, it is one page; which tags it has, with their classes and the names
of their attributes, depends on the shapes of the diagram alone; and its titles and texts are the texts of
the diagram in drawing order. -/
theorem svg_markup : ∃ tags : Visual Unit → List Tag,
    ∀ {α : Type} [Scalar α] (diagram : Diagram α), ∃ passages,
      Passage.read? diagram.svg = some passages ∧ Passage.Page passages ∧
        passages.map (·.tag.bare) = tags diagram.root.bare ∧
        Passage.texts passages = diagram.root.words :=
  ⟨fun shapes => (Diagram.mk 0 shapes).passages.map (·.tag.bare), fun diagram =>
    ⟨diagram.passages, diagram.read?_svg, diagram.page_passages, diagram.bare_passages,
      diagram.texts_passages⟩⟩

end Diagram

end Railroad
