import Railroad.Proofs.ForbiddenCharacters
import Railroad.Proofs.PageMarkup

/-!
# The characters of a page

A document of markup is well formed when its tags nest and its characters are allowed. The tags of a page
always nest. Of its characters, those that are not allowed are the ones that the tokens of the pattern
show: escaping is no help against a control character, whether it stands in the pattern or an escape
decodes to it.
-/

namespace Railroad

open Markup (faults faults_append faults_cons faults_behind faults_toString
  faults_eq_nil_iff allows_of_isAlpha allows_of_isDigit)

namespace Markup

/-- Escaping neither brings characters that are not allowed nor removes them. -/
theorem faults_escape (text : String) : faults (escape text).toList = faults text.toList := by
  have hchar (c : Char) : faults (escapeChar c) = faults [c] := by
    unfold escapeChar
    split <;> rfl
  rw [escape, String.toList_ofList]
  induction text.toList with
  | nil => rfl
  | cons c rest ih =>
    rw [List.flatMap_cons, faults_append, ih, hchar, ← faults_append, List.singleton_append]

/-- Allowed characters only, in one text behind another. -/
theorem faults_append_eq_nil {first second : List Char} (hfirst : faults first = [])
    (hsecond : faults second = []) : faults (first ++ second) = [] := by
  rw [faults_append, hfirst, hsecond, List.append_nil]

end Markup

open Markup (faults_append_eq_nil faults_escape)

/-- A name has allowed characters only. -/
theorem Passage.faults_of_isName {name : List Char} (h : isName name = true) : faults name = [] := by
  refine faults_eq_nil_iff.mpr fun c hmem => ?_
  have hchar := List.all_eq_true.mp (all_of_isName h) c hmem
  simp only [isNameChar, Char.isAlphanum, Bool.or_eq_true, beq_iff_eq] at hchar
  rcases hchar with (halpha | hdigit) | rfl
  · exact allows_of_isAlpha halpha
  · exact allows_of_isDigit hdigit
  · decide

/-- The text of a tag that can be read back has the characters of the values of its attributes. -/
theorem Tag.faults_text {tag : Tag} (h : tag.Proper)
    (hvalues : ∀ pair ∈ tag.attributes, faults pair.2.toList = []) : faults tag.text = [] := by
  have hhead {name : String} {attributes : List (String × String)}
      (hname : Passage.isName name.toList = true)
      (hnames : ∀ pair ∈ attributes, Passage.isName pair.1.toList = true)
      (hplain : ∀ pair ∈ attributes, faults pair.2.toList = []) :
      faults (Markup.renderHead name attributes).toList = [] := by
    rw [Passage.toList_renderHead]
    refine faults_append_eq_nil (Passage.faults_of_isName hname) (faults_eq_nil_iff.mpr ?_)
    intro c hmem
    obtain ⟨pair, hpair, hc⟩ := List.mem_flatMap.mp hmem
    have hattribute : faults (Markup.renderAttribute pair).toList = [] := by
      have hvalue : faults (Markup.escape pair.2).toList = [] :=
        (faults_escape pair.2).trans (hplain pair hpair)
      have hfront : faults (' ' :: (pair.1.toList ++ ['='])) = [] := by
        rw [faults_cons (by decide)]
        exact faults_append_eq_nil (Passage.faults_of_isName (hnames pair hpair)) rfl
      rw [Passage.toList_renderAttribute]
      refine faults_append_eq_nil hfront ?_
      rw [faults_cons (by decide)]
      exact faults_append_eq_nil hvalue rfl
    exact faults_eq_nil_iff.mp hattribute c hc
  cases tag with
  | opening name attributes => exact hhead h.name_isName h.attributes_isName hvalues
  | closing name =>
    have hname : faults name.toList = [] := Passage.faults_of_isName h.name_isName
    rw [Tag.text, faults_cons (by decide), hname]
  | empty name attributes =>
    exact faults_append_eq_nil (hhead h.name_isName h.attributes_isName hvalues) rfl

namespace Passage

/-- A passage whose characters are allowed, a title or a text apart. -/
structure IsPlain (passage : Passage) : Prop where
  /-- The values of the attributes have allowed characters only. -/
  values : ∀ pair ∈ passage.tag.attributes, faults pair.2.toList = []
  /-- What stands behind a tag that begins neither a title nor a text has allowed characters only. -/
  behind : passage.beginsText = false → faults passage.behind.toList = []

/-- The characters in question are those of the titles and texts. -/
theorem mem_faults_passages {passages : List Passage}
    (hproper : ∀ passage ∈ passages, passage.tag.Proper)
    (hplain : ∀ passage ∈ passages, passage.IsPlain) (c : Char) :
    c ∈ faults (passages.flatMap fun passage => '<' :: passage.text) ↔
      ∃ text ∈ texts passages, c ∈ faults text.toList := by
  induction passages with
  | nil => simp [texts, faults]
  | cons passage passages ih =>
    obtain ⟨htag, hmoreTags⟩ := List.forall_mem_cons.mp hproper
    obtain ⟨hpassage, hmore⟩ := List.forall_mem_cons.mp hplain
    have hfirst : faults ('<' :: passage.text) = faults passage.behind.toList := by
      rw [faults_cons (by decide), text, faults_append,
        Tag.faults_text htag hpassage.values, List.nil_append, faults_cons (by decide),
        faults_escape]
    rw [List.flatMap_cons, faults_append, List.mem_append, hfirst, ih hmoreTags hmore]
    cases hbegins : passage.beginsText with
    | true => simp [texts, hbegins]
    | false => simp [texts, hbegins, hpassage.behind hbegins]

end Passage

/-- A number with one digit behind the point has allowed characters only. -/
theorem Text.faults_oneDecimal (x : Rat) : faults (oneDecimal x).toList = [] := by
  have hpositional (units : Nat) : faults (positional units 1).toList = [] := by
    have hdigits : faults (List.replicate (1 + 1 - (toString units).toList.length) '0' ++
        (toString units).toList) = [] := by
      refine faults_append_eq_nil (faults_eq_nil_iff.mpr fun c hmem => ?_) (faults_toString units)
      rw [List.eq_of_mem_replicate hmem]
      decide
    have hpart := faults_eq_nil_iff.mp hdigits
    rw [positional, if_neg (by decide), String.toList_ofList]
    refine faults_append_eq_nil (faults_eq_nil_iff.mpr fun c hmem => ?_) ?_
    · exact hpart c (List.mem_of_mem_take hmem)
    · rw [faults_cons (by decide)]
      exact faults_eq_nil_iff.mpr fun c hmem => hpart c (List.mem_of_mem_drop hmem)
  have hsign : faults (if x < 0 then "-" else "").toList = [] := by
    split <;> decide
  exact (faults_behind hsign _).trans (hpositional _)

section

variable {α : Type} [Scalar α]

/-- A length has allowed characters only. -/
theorem faults_lengthText (length : α) : faults (lengthText length).toList = [] :=
  Text.faults_oneDecimal _

namespace Mark

/-- The path of a detour has allowed characters only. -/
theorem faults_arcPath (fromX toX level axis : α) :
    faults (arcPath fromX toX level axis).toList = [] := by
  simp only [arcPath, toString, String.toList_append, faults_append, faults_lengthText,
    List.append_nil]
  decide

/-- The path of an arrow head has allowed characters only. -/
theorem faults_arrowPath (tip y size : α) : faults (arrowPath tip y size).toList = [] := by
  simp only [arrowPath, toString, String.toList_append, faults_append, faults_lengthText,
    List.append_nil]
  decide

/-- The end of a line has allowed characters only. -/
theorem faults_lineEnd : faults "\n".toList = [] := by decide

/-- A tag at the end of a line is plain when its values are. -/
theorem isPlain_lineEnd {tag : Tag} (hvalues : ∀ pair ∈ tag.attributes, faults pair.2.toList = []) :
    Passage.IsPlain ⟨tag, "\n"⟩ :=
  ⟨hvalues, fun _ => faults_lineEnd⟩

/-- An element without content is plain when its values are. -/
theorem isPlain_empty {name : String} {attributes : List (String × String)}
    (hvalues : ∀ pair ∈ attributes, faults pair.2.toList = []) :
    ∀ passage ∈ (Markup.empty name attributes).passages, passage.IsPlain := by
  simp only [Markup.passages, List.forall_mem_singleton]
  exact isPlain_lineEnd hvalues

/-- A title or a text is plain when its values are. -/
theorem isPlain_holding {name : String} {attributes : List (String × String)} {content : String}
    (hname : name = "title" ∨ name = "text")
    (hvalues : ∀ pair ∈ attributes, faults pair.2.toList = []) :
    ∀ passage ∈ (Markup.holding name attributes content).passages, passage.IsPlain := by
  have hbegins : Passage.beginsText ⟨.opening name attributes, content⟩ = true := by
    rcases hname with rfl | rfl <;> rfl
  simp only [Markup.passages, List.forall_mem_cons]
  have hclosing : Passage.IsPlain ⟨.closing name, "\n"⟩ := isPlain_lineEnd (List.forall_mem_nil _)
  refine ⟨⟨hvalues, fun hno => ?_⟩, hclosing, List.forall_mem_nil _⟩
  rw [hbegins] at hno
  cases hno

mutual

/-- The elements of a mark are plain. -/
theorem isPlain_markup : (mark : Mark α) →
    ∀ passage ∈ Markup.passagesOfAll mark.markup, passage.IsPlain
  | .rail _ _ _ _ => by
    rw [markup, Markup.passagesOfAll, Markup.passagesOfAll, List.append_nil]
    refine isPlain_empty ?_
    simp only [List.forall_mem_cons, faults_lengthText, true_and]
    exact ⟨by decide, List.forall_mem_nil _⟩
  | .arc lazy _ _ _ _ => by
    rw [markup, Markup.passagesOfAll, Markup.passagesOfAll, List.append_nil]
    refine isPlain_empty ?_
    simp only [List.forall_mem_cons, faults_arcPath, true_and]
    exact ⟨by cases lazy <;> decide, List.forall_mem_nil _⟩
  | .arrowHead _ _ _ => by
    rw [markup, Markup.passagesOfAll, Markup.passagesOfAll, List.append_nil]
    refine isPlain_empty ?_
    simp only [List.forall_mem_cons, faults_arrowPath, true_and]
    exact ⟨by decide, List.forall_mem_nil _⟩
  | .terminus isEntry _ _ _ => by
    simp only [markup, Markup.passagesOfAll, List.append_nil, List.forall_mem_append]
    refine ⟨isPlain_empty ?_, isPlain_holding (.inr rfl) ?_⟩
    · simp only [List.forall_mem_cons, faults_lengthText, true_and]
      exact ⟨by cases isEntry <;> decide, List.forall_mem_nil _⟩
    · simp only [List.forall_mem_cons, faults_lengthText, true_and]
      exact ⟨by decide, by decide, List.forall_mem_nil _⟩
  | .frame _ _ _ _ _ => by
    rw [markup, Markup.passagesOfAll, Markup.passagesOfAll, List.append_nil]
    refine isPlain_empty ?_
    simp only [List.forall_mem_cons, faults_lengthText, true_and]
    exact ⟨by decide, List.forall_mem_nil _⟩
  | .box style _ _ _ _ _ => by
    rw [markup, Markup.passagesOfAll, Markup.passagesOfAll, List.append_nil]
    refine isPlain_empty ?_
    simp only [List.forall_mem_cons, faults_lengthText, true_and]
    exact ⟨by cases style <;> decide, List.forall_mem_nil _⟩
  | .text style _ _ _ => by
    rw [markup, Markup.passagesOfAll, Markup.passagesOfAll, List.append_nil]
    refine isPlain_holding (.inr rfl) ?_
    simp only [List.forall_mem_cons, faults_lengthText, true_and]
    exact ⟨by cases style <;> decide, List.forall_mem_nil _⟩
  | .titled title marks => by
    have htitle : ∀ passage ∈ (Markup.holding "title" [] title).passages, passage.IsPlain :=
      isPlain_holding (.inl rfl) (List.forall_mem_nil _)
    have hends : ∀ tag ∈ [Tag.opening "g" [], .closing "g"], Passage.IsPlain ⟨tag, "\n"⟩ := by
      simp only [List.forall_mem_cons]
      exact ⟨isPlain_lineEnd (List.forall_mem_nil _), isPlain_lineEnd (List.forall_mem_nil _),
        List.forall_mem_nil _⟩
    simp only [markup, Markup.passagesOfAll, Markup.passages, List.append_nil, List.forall_mem_append,
      List.forall_mem_cons] at htitle hends ⊢
    exact ⟨hends.1, ⟨htitle, isPlain_passages marks⟩, hends.2.1, List.forall_mem_nil _⟩

/-- The elements of marks are plain. -/
theorem isPlain_passages : (marks : List (Mark α)) → ∀ passage ∈ passages marks, passage.IsPlain
  | [] => fun _ hmem => absurd hmem List.not_mem_nil
  | mark :: marks => by
    rw [passages, markupOfAll, Markup.passagesOfAll_append, List.forall_mem_append]
    exact ⟨isPlain_markup mark, isPlain_passages marks⟩

end

end Mark

namespace Visual

/-- The characters in question in a list of texts. -/
theorem exists_mem_faults_append (first second : List String) (c : Char) :
    (∃ word ∈ first ++ second, c ∈ faults word.toList) ↔
      (∃ word ∈ first, c ∈ faults word.toList) ∨ ∃ word ∈ second, c ∈ faults word.toList := by
  simp only [List.mem_append, or_and_right, exists_or]

/-- The caption of a loop has allowed characters only. -/
theorem faults_loopCaption (repetition : Repetition) (greedy : Bool) :
    faults (loopCaption repetition greedy).toList = [] := by
  have hwords : faults repetition.describe.toList = [] := faults_eq_nil_iff.mpr fun c hmem =>
    Markup.allows_of_isPrintable (Text.outside_eq_nil_iff.mp repetition.outside_describe c hmem)
  have hlazy : faults " (lazy)".toList = [] := by decide
  unfold loopCaption
  split
  · exact hwords
  · rw [String.toList_append, faults_append, hwords, hlazy, List.append_nil]

mutual

/-- The texts of the shapes of a tree show what the tree shows. -/
theorem mem_faults_words (m : Metrics α) (c : Char) : (node : Node) →
    ((∃ word ∈ (ofNode m node).words, c ∈ faults word.toList) ↔ c ∈ node.faults)
  | .sequence parts => by
    have hwords : (trackOf m (ofNodes m parts)).words = itemWords (ofNodes m parts) := by
      cases ofNodes m parts <;> rfl
    rw [ofNode, hwords, Node.faults]
    exact mem_faults_itemWords m c parts
  | .choice options => mem_faults_rowWords m c options
  | .quantified repetition greedy content => by
    have hcaption := faults_loopCaption repetition greedy
    have hcontent := mem_faults_words m c content
    rw [ofNode, loopOf, words, exists_mem_faults_append, hcontent, Node.faults]
    simp [hcaption]
  | .group kind index label content => by
    have hcontent := mem_faults_words m c content
    rw [ofNode, frameOf, words, Node.faults, List.mem_append, ← hcontent]
    simp
  | .terminal t => by
    rw [ofNode, boxOf, words, Node.faults, Terminal.faults]
    cases t.detail with
    | none => simp [faults, or_comm]
    | some detail => simp [or_comm, or_left_comm]

/-- The texts of items show what the trees show. -/
theorem mem_faults_itemWords (m : Metrics α) (c : Char) : (nodes : List Node) →
    ((∃ word ∈ itemWords (ofNodes m nodes), c ∈ faults word.toList) ↔ c ∈ Node.faultsOfAll nodes)
  | [] => by simp [ofNodes, itemWords, Node.faultsOfAll]
  | node :: nodes => by
    rw [ofNodes, itemWords, exists_mem_faults_append, mem_faults_words m c node,
      mem_faults_itemWords m c nodes, Node.faultsOfAll, List.mem_append]

/-- The texts of rows show what the trees show. -/
theorem mem_faults_rowWords (m : Metrics α) (c : Char) : (nodes : List Node) →
    ((∃ word ∈ rowWords (ofNodes m nodes), c ∈ faults word.toList) ↔ c ∈ Node.faultsOfAll nodes)
  | [] => by simp [ofNodes, rowWords, Node.faultsOfAll]
  | [node] => by
    have hnode := mem_faults_words m c node
    rw [ofNodes, ofNodes, rowWords, hnode, Node.faultsOfAll, Node.faultsOfAll, List.append_nil]
  | node :: next :: nodes => by
    have hor : faults "or".toList = [] := by decide
    have hnode := mem_faults_words m c node
    have hmore := mem_faults_rowWords m c (next :: nodes)
    rw [ofNodes] at hmore
    rw [ofNodes, ofNodes, rowWords_cons_cons, exists_mem_faults_append, hnode, Node.faultsOfAll,
      List.mem_append, ← hmore]
    simp only [List.mem_cons, exists_eq_or_imp, hor, List.not_mem_nil, false_or]

end

end Visual

namespace Diagram

/-- The page of a diagram is plain. -/
theorem isPlain_diagramPassages (diagram : Diagram α) :
    ∀ passage ∈ diagram.passages, passage.IsPlain := by
  have hstyle : faults styleSheet.toList = [] := by
    simp only [styleSheet, String.toList_join, faults_eq_nil_iff, List.forall_mem_flatMap]
    simp only [← faults_eq_nil_iff, List.forall_mem_cons]
    and_intros
    all_goals first
      | exact Markup.faults_ofList rfl
      | exact List.forall_mem_nil _
  have hview (width height : α) :
      faults s!"0 0 {lengthText width} {lengthText height}".toList = [] := by
    simp only [toString, String.toList_append, faults_append, faults_lengthText, List.append_nil]
    decide
  have hclosing (name : String) : Passage.IsPlain ⟨.closing name, "\n"⟩ :=
    Mark.isPlain_lineEnd (List.forall_mem_nil _)
  have hmarks := Mark.isPlain_passages diagram.marks
  rw [Mark.passages] at hmarks
  simp only [passages, svgMarkup, Markup.passages, Markup.passagesOfAll, List.cons_append,
    List.nil_append, List.forall_mem_cons, List.forall_mem_append]
  refine ⟨Mark.isPlain_lineEnd ?_, ⟨List.forall_mem_nil _, fun _ => hstyle⟩, hclosing "style", hmarks,
    hclosing "svg", List.forall_mem_nil _⟩
  simp only [Tag.attributes, List.forall_mem_cons, faults_lengthText, hview, true_and]
  exact ⟨by decide, by decide, List.forall_mem_nil _⟩

/-- The characters of a document that are not allowed are those of the texts of the diagram. -/
theorem mem_faults_svg (diagram : Diagram α) (c : Char) :
    c ∈ faults diagram.svg.toList ↔ ∃ word ∈ diagram.root.words, c ∈ faults word.toList := by
  have hwritten : diagram.svg.toList = diagram.passages.flatMap fun passage => '<' :: passage.text :=
    Markup.toList_render diagram.svgMarkup
  rw [hwritten, Passage.mem_faults_passages diagram.proper_passages diagram.isPlain_diagramPassages,
    diagram.texts_passages]

/-- The characters of the document of a tree that are not allowed are those of the tree. -/
theorem mem_faults_svg_ofNode (node : Node) (scale : Nat) (c : Char) :
    c ∈ faults (ofNode node scale : Diagram α).svg.toList ↔ c ∈ node.faults := by
  have hends : faults "start".toList = [] ∧ faults "end".toList = [] := by decide
  have hwords : (ofNode node scale : Diagram α).root.words =
      "start" :: ((Visual.ofNode (.ofScale (clampScale scale) : Metrics α) node).words ++ ["end"]) := by
    rfl
  rw [mem_faults_svg, hwords, ← List.singleton_append, Visual.exists_mem_faults_append,
    Visual.exists_mem_faults_append, Visual.mem_faults_words]
  simp only [List.mem_singleton, exists_eq_left, hends, List.not_mem_nil, false_or, or_false]

/-- The document of a pattern has balanced tags at every zoom. A character that no document may have
stands in it exactly if a token of the pattern shows the character, so the document is well formed if and
only if no token shows one. -/
theorem svg_characters {pattern : String} {node : Node} (h : Node.ofPattern pattern = .ok node)
    (scale : Nat) :
    ∃ tokens, tokenize pattern = .ok tokens ∧
      (∃ passages, Passage.read? (ofNode node scale : Diagram α).svg = some passages ∧
        Passage.Page passages) ∧
      (∀ c, Markup.allows c = false →
        (c ∈ (ofNode node scale : Diagram α).svg.toList ↔ ∃ token ∈ tokens, c ∈ token.shown)) ∧
      ((∀ c ∈ (ofNode node scale : Diagram α).svg.toList, Markup.allows c = true) ↔
        ∀ token ∈ tokens, ∀ c ∈ token.shown, Markup.allows c = true) := by
  obtain ⟨tokens, htokens, hshown⟩ := Node.mem_faults_ofPattern h
  let diagram : Diagram α := ofNode node scale
  have hfaults (c : Char) :
      c ∈ faults diagram.svg.toList ↔ ∃ token ∈ tokens, c ∈ faults token.shown :=
    (mem_faults_svg_ofNode node scale c).trans (hshown c)
  refine ⟨tokens, htokens, ⟨diagram.passages, diagram.read?_svg, diagram.page_passages⟩, ?_, ?_⟩
  · intro c hc
    have hmem := hfaults c
    simpa only [Markup.mem_faults, hc, and_true] using hmem
  · simp only [← faults_eq_nil_iff, List.eq_nil_iff_forall_not_mem]
    constructor
    · intro hnone token hmem c hc
      exact hnone c ((hfaults c).mpr ⟨token, hmem, hc⟩)
    · intro hnone c hc
      obtain ⟨token, hmem, hc'⟩ := (hfaults c).mp hc
      exact hnone token hmem c hc'

end Diagram

end

/-- An escape for a control character in a sequence of two. -/
theorem tokenize_controlEscape :
    tokenize "a\\x01" = .ok [⟨.literal, "a", 0⟩, ⟨.escape, "\\x01", 1⟩] := by cbv

/-- The tree has the control character. -/
theorem ofPattern_controlEscape :
    Node.ofPattern "a\\x01" = .ok (.sequence [.terminal (.literal "a"),
      .terminal (.escapedLiteral "\\x01")]) := by
  rw [Node.ofPattern, tokenize_controlEscape]
  rfl

/-- The second token stands for the control character. -/
theorem shown_controlEscape : (Token.mk .escape "\\x01" 1).shown = ['\x01'] := by decide

namespace Diagram

/-- The document has the control character, because a token shows it. -/
theorem svg_characters_controlEscape :
    ∃ node, Node.ofPattern "a\\x01" = .ok node ∧
      '\x01' ∈ (ofNode node 100 : Diagram Float).svg.toList := by
  refine ⟨_, ofPattern_controlEscape, ?_⟩
  obtain ⟨tokens, htokens, -, hmem, -⟩ :=
    svg_characters (α := Float) ofPattern_controlEscape 100
  cases tokenize_controlEscape.symm.trans htokens
  refine (hmem '\x01' (by decide)).mpr ⟨⟨.escape, "\\x01", 1⟩, by decide, ?_⟩
  rw [shown_controlEscape]
  decide

/-- Not every document of a pattern has allowed characters only. -/
theorem not_forall_allows_svg :
    ¬ ∀ (pattern : String) (node : Node) (scale : Nat), Node.ofPattern pattern = .ok node →
      ∀ c ∈ (ofNode node scale : Diagram Float).svg.toList, Markup.allows c = true := by
  intro h
  have hallowed := h _ _ 100 ofPattern_controlEscape
  have hnone := faults_eq_nil_iff.mpr hallowed
  have hmem := (mem_faults_svg_ofNode (α := Float) (.sequence [.terminal (.literal "a"),
    .terminal (.escapedLiteral "\\x01")]) 100 '\x01').mpr (by decide)
  rw [hnone] at hmem
  exact List.not_mem_nil hmem

end Diagram

end Railroad
