import Railroad.Drawing.Markup
import Railroad.Proofs.NameText

/-!
# Reading markup back

Markup is read by three cuts: at the angle bracket that begins each tag, at the one that ends it, and at
the quotes around the values of its attributes. What is read are the tags, each with the text behind it,
in which entities stand for four characters. Anything that is no such text is refused, so whatever is
written into a document and read back has not been taken for something else on the way.
-/

namespace Railroad

/-- A tag with its attributes in order. -/
inductive Tag where
  /-- The beginning of an element. -/
  | opening (name : String) (attributes : List (String × String))
  /-- The end of an element. -/
  | closing (name : String)
  /-- An element without content. -/
  | empty (name : String) (attributes : List (String × String))
  deriving DecidableEq, Repr

namespace Tag

/-- The name of the element. -/
def name : Tag → String
  | opening name _ | closing name | empty name _ => name

/-- The attributes of the element. A tag that ends one has none. -/
def attributes : Tag → List (String × String)
  | opening _ attributes | empty _ attributes => attributes
  | closing _ => []

end Tag

/-- A tag and the text behind it, up to the next tag. -/
structure Passage where
  /-- The tag. -/
  tag : Tag
  /-- The text. -/
  behind : String
  deriving DecidableEq, Repr

namespace Passage

/-- The characters that a text in markup stands for. An ampersand begins one of four entities and
stands nowhere else, and angle brackets stand nowhere. -/
def unescape : List Char → Option (List Char)
  | [] => some []
  | '&' :: 'a' :: 'm' :: 'p' :: ';' :: rest => (unescape rest).map ('&' :: ·)
  | '&' :: 'l' :: 't' :: ';' :: rest => (unescape rest).map ('<' :: ·)
  | '&' :: 'g' :: 't' :: ';' :: rest => (unescape rest).map ('>' :: ·)
  | '&' :: 'q' :: 'u' :: 'o' :: 't' :: ';' :: rest => (unescape rest).map ('"' :: ·)
  | c :: rest => if c = '&' ∨ c = '<' ∨ c = '>' then none else (unescape rest).map (c :: ·)

/-- The characters of names. -/
def isNameChar (c : Char) : Bool := c.isAlphanum || c == '-'

/-- Whether the text is a name: a letter, and characters of names behind it. -/
def isName : List Char → Bool
  | [] => false
  | c :: rest => c.isAlpha && rest.all isNameChar

/-- The name of an attribute, from the text between a value and the next one. -/
def readAttributeName? : List Char → Option String
  | ' ' :: rest =>
    match Text.before? ['='] rest with
    | some name => if isName name then some (String.ofList name) else none
    | none => none
  | _ => none

/-- The attributes of a tag, from its text behind the name, cut at the quotes. It comes with whether a
slash ends the tag. -/
def readAttributes? : List (List Char) → Option (List (String × String) × Bool)
  | [] => none
  | [ending] =>
    if ending = [] then some ([], false) else if ending = ['/'] then some ([], true) else none
  | between :: value :: more =>
    match readAttributeName? between, unescape value, readAttributes? more with
    | some name, some value, some (attributes, alone) =>
      some ((name, String.ofList value) :: attributes, alone)
    | _, _, _ => none

/-- The tag with the given text between its angle brackets. No two attributes may have one name. -/
def readTag? (text : List Char) : Option Tag :=
  match text with
  | '/' :: name => if isName name then some (.closing (String.ofList name)) else none
  | _ =>
    let name := text.takeWhile isNameChar
    match readAttributes? ((text.dropWhile isNameChar).splitOn '"') with
    | some (attributes, alone) =>
      if isName name ∧ (attributes.map (·.1)).Nodup then
        some (if alone then .empty (String.ofList name) attributes
          else .opening (String.ofList name) attributes)
      else none
    | none => none

/-- The tag and the text behind it, from the text behind an angle bracket that begins a tag. -/
def readPassage? (text : List Char) : Option Passage :=
  match text.dropWhile (· != '>') with
  | [] => none
  | _ :: behind =>
    match readTag? (text.takeWhile (· != '>')), unescape behind with
    | some tag, some behind => some ⟨tag, String.ofList behind⟩
    | _, _ => none

/-- The tags and the texts behind them, one by one. -/
def readAll? : List (List Char) → Option (List Passage)
  | [] => some []
  | text :: texts =>
    match readPassage? text, readAll? texts with
    | some passage, some passages => some (passage :: passages)
    | _, _ => none

/-- The tags of a document and the texts behind them. No text stands in front of the first tag. -/
def read? (document : String) : Option (List Passage) :=
  match document.toList.splitOn '<' with
  | [] :: texts => readAll? texts
  | _ => none

/-- An escaped character stands for the character. -/
theorem unescape_escapeChar (c : Char) (rest : List Char) :
    unescape (Markup.escapeChar c ++ rest) = (unescape rest).map (c :: ·) := by
  by_cases hamp : c = '&'
  · subst hamp
    rfl
  by_cases hlt : c = '<'
  · subst hlt
    rfl
  by_cases hgt : c = '>'
  · subst hgt
    rfl
  by_cases hquote : c = '"'
  · subst hquote
    rfl
  have hescape : Markup.escapeChar c = [c] := by
    unfold Markup.escapeChar
    split <;> first | contradiction | rfl
  rw [hescape, List.singleton_append, unescape]
  · exact if_neg (by simp only [hamp, hlt, hgt, or_self, not_false_eq_true])
  all_goals exact fun _ h => absurd h hamp

/-- An escaped text stands for the text. -/
theorem unescape_escape (text : String) :
    unescape (Markup.escape text).toList = some text.toList := by
  rw [Markup.escape, String.toList_ofList]
  induction text.toList with
  | nil => rfl
  | cons c rest ih => rw [List.flatMap_cons, unescape_escapeChar, ih, Option.map_some]

/-- An escaped text has no angle bracket and no quote. -/
theorem not_mem_escape {c : Char} (hc : c ∈ ['<', '>', '"']) (text : String) :
    c ∉ (Markup.escape text).toList := by
  rw [Markup.escape, String.toList_ofList, List.mem_flatMap]
  rintro ⟨d, -, hd⟩
  simp only [List.mem_cons, List.not_mem_nil, or_false] at hc
  revert hd
  unfold Markup.escapeChar
  split
  case h_5 hamp hlt hgt hquote =>
    rw [List.mem_singleton]
    rintro rfl
    rcases hc with rfl | rfl | rfl
    · exact hlt rfl
    · exact hgt rfl
    · exact hquote rfl
  -- An entity has neither of the three characters.
  all_goals rcases hc with rfl | rfl | rfl <;> decide

/-- A name consists of characters of names. -/
theorem all_of_isName {text : List Char} (h : isName text = true) : text.all isNameChar = true := by
  cases text with
  | nil => cases h
  | cons c rest =>
    obtain ⟨hc, hrest⟩ := Bool.and_eq_true_iff.mp h
    have hfirst : isNameChar c = true := by
      rw [isNameChar, Char.isAlphanum, hc]
      rfl
    rw [List.all_cons, hfirst, hrest]
    rfl

/-- A character that is in no name. -/
theorem not_mem_of_isName {text : List Char} (h : isName text = true) {c : Char}
    (hc : isNameChar c = false) : c ∉ text := by
  intro hmem
  have hall := List.all_eq_true.mp (all_of_isName h) c hmem
  rw [hc] at hall
  cases hall

/-- An attribute as it is written, in characters. -/
theorem toList_renderAttribute (pair : String × String) :
    (Markup.renderAttribute pair).toList =
      ' ' :: (pair.1.toList ++ ['=']) ++ '"' :: ((Markup.escape pair.2).toList ++ ['"']) := by
  simp [Markup.renderAttribute]

/-- The attributes behind the name of an element, in characters. -/
theorem toList_renderHead (name : String) (attributes : List (String × String)) :
    (Markup.renderHead name attributes).toList =
      name.toList ++ attributes.flatMap fun pair => (Markup.renderAttribute pair).toList := by
  rw [Markup.renderHead, String.toList_append, String.toList_join, List.flatMap_map]

end Passage

/-- A tag that can be read back: its names are names, and its attributes differ in theirs. -/
structure Tag.Proper (tag : Tag) : Prop where
  /-- The name of the element is one. -/
  name_isName : Passage.isName tag.name.toList = true
  /-- The names of the attributes are names. -/
  attributes_isName : ∀ pair ∈ tag.attributes, Passage.isName pair.1.toList = true
  /-- No two attributes have one name. -/
  distinct : (tag.attributes.map (·.1)).Nodup

/-- Whether a tag can be read back is a matter of its names. -/
theorem Tag.proper_of_names {tag : Tag} (name : String) (names : List String) (hname : tag.name = name)
    (hnames : tag.attributes.map (·.1) = names)
    (h : Passage.isName name.toList = true ∧
      (∀ other ∈ names, Passage.isName other.toList = true) ∧ names.Nodup) : tag.Proper := by
  subst hname hnames
  obtain ⟨hisName, hall, hdistinct⟩ := h
  exact ⟨hisName, fun pair hmem => hall pair.1 (List.mem_map_of_mem hmem), hdistinct⟩

/-- A tag as it is written between its angle brackets. -/
def Tag.text : Tag → List Char
  | .opening name attributes => (Markup.renderHead name attributes).toList
  | .closing name => '/' :: name.toList
  | .empty name attributes => (Markup.renderHead name attributes).toList ++ ['/']

namespace Passage

/-- A passage as it is written behind an angle bracket. -/
def text (passage : Passage) : List Char :=
  passage.tag.text ++ '>' :: (Markup.escape passage.behind).toList

/-- The attributes of a tag are read back. -/
theorem readAttributes?_written {attributes : List (String × String)}
    (hnames : ∀ pair ∈ attributes, isName pair.1.toList = true) {ending : List Char} {alone : Bool}
    (hending : readAttributes? [ending] = some ([], alone)) (hquote : '"' ∉ ending) :
    readAttributes? (((attributes.flatMap fun pair => (Markup.renderAttribute pair).toList) ++
      ending).splitOn '"') = some (attributes, alone) := by
  induction attributes with
  | nil => rw [List.flatMap_nil, List.nil_append, List.splitOn_eq_singleton hquote, hending]
  | cons pair attributes ih =>
    obtain ⟨name, value⟩ := pair
    have hname : isName name.toList = true := hnames (name, value) List.mem_cons_self
    have hbetween : '"' ∉ ' ' :: (name.toList ++ ['=']) := by
      have hfree : '"' ∉ name.toList := not_mem_of_isName hname rfl
      simp [hfree]
    have hvalue : '"' ∉ (Markup.escape value).toList := not_mem_escape (by decide) value
    have hread : readAttributeName? (' ' :: (name.toList ++ ['='])) = some name := by
      rw [readAttributeName?, Token.before?_concat]
      simp only [hname, if_true, String.ofList_toList]
    have hmore := ih fun pair hmem => hnames pair (List.mem_cons_of_mem _ hmem)
    have hcut : ((((name, value) :: attributes).flatMap fun pair =>
        (Markup.renderAttribute pair).toList) ++ ending).splitOn '"' =
        (' ' :: (name.toList ++ ['='])) :: (Markup.escape value).toList ::
          ((attributes.flatMap fun pair => (Markup.renderAttribute pair).toList) ++
            ending).splitOn '"' := by
      rw [← List.splitOn_append_cons_self_of_not_mem hvalue,
        ← List.splitOn_append_cons_self_of_not_mem hbetween, List.flatMap_cons,
        toList_renderAttribute]
      simp only [List.append_assoc, List.cons_append, List.nil_append]
    rw [hcut, readAttributes?, hread, unescape_escape, hmore]
    simp only [String.ofList_toList]

/-- What follows the name of an element begins with a character that is in no name. -/
theorem takeWhile_behindName (attributes : List (String × String)) {ending : List Char}
    (hending : ending.takeWhile isNameChar = []) :
    ((attributes.flatMap fun pair => (Markup.renderAttribute pair).toList) ++ ending).takeWhile
      isNameChar = [] := by
  cases attributes with
  | nil => exact hending
  | cons pair attributes =>
    rw [List.flatMap_cons, toList_renderAttribute]
    rfl

/-- A tag that begins an element, or is one, is read back from its text. -/
theorem readTag?_renderHead {name : String} {attributes : List (String × String)}
    (hname : isName name.toList = true)
    (hnames : ∀ pair ∈ attributes, isName pair.1.toList = true)
    (hdistinct : (attributes.map (·.1)).Nodup) {ending : List Char} {alone : Bool}
    (hending : readAttributes? [ending] = some ([], alone)) (hquote : '"' ∉ ending)
    (hbehind : ending.takeWhile isNameChar = []) :
    readTag? ((Markup.renderHead name attributes).toList ++ ending) =
      some (if alone then .empty name attributes else .opening name attributes) := by
  let behind := (attributes.flatMap fun pair => (Markup.renderAttribute pair).toList) ++ ending
  have hall : ∀ c ∈ name.toList, isNameChar c = true := List.all_eq_true.mp (all_of_isName hname)
  have hfree : behind.takeWhile isNameChar = [] := takeWhile_behindName attributes hbehind
  have htext : (Markup.renderHead name attributes).toList ++ ending = name.toList ++ behind := by
    rw [toList_renderHead, List.append_assoc]
  have htake : (name.toList ++ behind).takeWhile isNameChar = name.toList := by
    rw [List.takeWhile_append_of_pos hall, hfree, List.append_nil]
  have hdrop : (name.toList ++ behind).dropWhile isNameChar = behind := by
    have hsplit := List.takeWhile_append_dropWhile (p := isNameChar) (l := behind)
    rw [hfree, List.nil_append] at hsplit
    rw [List.dropWhile_append_of_pos hall, hsplit]
  have hread : readAttributes? (behind.splitOn '"') = some (attributes, alone) :=
    readAttributes?_written hnames hending hquote
  have hslash : ∀ rest, name.toList ++ behind ≠ '/' :: rest := by
    intro rest h
    cases htext : name.toList with
    | nil => simp only [htext, isName, Bool.false_eq_true] at hname
    | cons c more =>
      rw [htext, List.cons_append] at h
      rw [htext, (List.cons.inj h).1] at hname
      cases hname
  rw [htext, readTag?]
  · simp only [htake, hdrop, hread, hname, hdistinct, and_self, if_true, String.ofList_toList]
  · exact hslash

/-- A tag is read back from its text. -/
theorem readTag?_text {tag : Tag} (h : tag.Proper) : readTag? tag.text = some tag := by
  cases tag with
  | opening name attributes =>
    have hending : readAttributes? [[]] = some ([], false) := rfl
    have hread := readTag?_renderHead h.name_isName h.attributes_isName h.distinct hending
      List.not_mem_nil rfl
    rwa [List.append_nil] at hread
  | closing name =>
    have hname : isName name.toList = true := h.name_isName
    simp only [Tag.text, readTag?, hname, if_true, String.ofList_toList]
  | empty name attributes =>
    have hending : readAttributes? [['/']] = some ([], true) := rfl
    exact readTag?_renderHead h.name_isName h.attributes_isName h.distinct hending (by decide) rfl

/-- The text of a tag has no angle bracket. -/
theorem not_mem_text {tag : Tag} (h : tag.Proper) {c : Char} (hc : c ∈ ['<', '>']) : c ∉ tag.text := by
  have hangle : c = '<' ∨ c = '>' := by
    simpa only [List.mem_cons, List.not_mem_nil, or_false] using hc
  have hnoName : isNameChar c = false := by
    rcases hangle with rfl | rfl <;> rfl
  have hwritten : c ∉ [' ', '=', '"', '/'] := by
    rcases hangle with rfl | rfl <;> decide
  have hhead : ∀ {name : String} {attributes : List (String × String)},
      isName name.toList = true → (∀ pair ∈ attributes, isName pair.1.toList = true) →
      c ∉ (Markup.renderHead name attributes).toList := by
    intro name attributes hname hnames
    rw [toList_renderHead, List.mem_append, List.mem_flatMap]
    rintro (hmem | ⟨pair, hpair, hmem⟩)
    · exact not_mem_of_isName hname hnoName hmem
    · have hfree := not_mem_of_isName (hnames pair hpair) hnoName
      have hvalue := not_mem_escape (List.mem_append_left ['"'] hc) pair.2
      rw [toList_renderAttribute] at hmem
      simp_all
  cases tag with
  | opening name attributes => exact hhead h.name_isName h.attributes_isName
  | closing name =>
    have hfree : c ∉ name.toList := not_mem_of_isName h.name_isName hnoName
    simp_all [Tag.text]
  | empty name attributes =>
    have hfree := hhead h.name_isName h.attributes_isName
    simp_all [Tag.text, Tag.name, Tag.attributes]

/-- A passage is read back from its text. -/
theorem readPassage?_text {passage : Passage} (h : passage.tag.Proper) :
    readPassage? passage.text = some passage := by
  have hfree : ∀ c ∈ passage.tag.text, (c != '>') = true := by
    intro c hmem
    rw [bne_iff_ne]
    rintro rfl
    exact not_mem_text h (by decide) hmem
  have hdrop : passage.text.dropWhile (· != '>') = '>' :: (Markup.escape passage.behind).toList := by
    rw [text, List.dropWhile_append_of_pos hfree]
    rfl
  have htake : passage.text.takeWhile (· != '>') = passage.tag.text := by
    rw [text, List.takeWhile_append_of_pos hfree]
    exact List.append_nil _
  simp only [readPassage?, hdrop, htake, readTag?_text h, unescape_escape, String.ofList_toList]

/-- The text of a passage has no angle bracket that begins a tag. -/
theorem not_mem_passageText {passage : Passage} (h : passage.tag.Proper) : '<' ∉ passage.text := by
  have htag : '<' ∉ passage.tag.text := not_mem_text h (by decide)
  have hbehind : '<' ∉ (Markup.escape passage.behind).toList := not_mem_escape (by decide) _
  rw [text, List.mem_append, List.mem_cons]
  rintro (hmem | hmem | hmem)
  · exact htag hmem
  · cases hmem
  · exact hbehind hmem

/-- Passages are read back from their texts. -/
theorem readAll?_text {passages : List Passage} (h : ∀ passage ∈ passages, passage.tag.Proper) :
    readAll? (passages.map text) = some passages := by
  induction passages with
  | nil => rfl
  | cons passage passages ih =>
    rw [List.map_cons, readAll?, readPassage?_text (h passage List.mem_cons_self),
      ih fun other hmem => h other (List.mem_cons_of_mem _ hmem)]

/-- A text of passages is cut at the angle brackets in front of them. -/
theorem splitOn_passages {passages : List Passage} (h : ∀ passage ∈ passages, passage.tag.Proper)
    {front : List Char} (hfront : '<' ∉ front) :
    (front ++ passages.flatMap fun passage => '<' :: passage.text).splitOn '<' =
      front :: passages.map text := by
  induction passages generalizing front with
  | nil => rw [List.flatMap_nil, List.append_nil, List.splitOn_eq_singleton hfront, List.map_nil]
  | cons passage passages ih =>
    have hmore := ih (fun other hmem => h other (List.mem_cons_of_mem _ hmem))
      (not_mem_passageText (h passage List.mem_cons_self))
    rw [List.flatMap_cons, List.cons_append, List.splitOn_append_cons_self_of_not_mem hfront, hmore,
      List.map_cons]

/-- A document is read back from its text. -/
theorem read?_eq_some {document : String} {passages : List Passage}
    (hdocument : document.toList = passages.flatMap fun passage => '<' :: passage.text)
    (h : ∀ passage ∈ passages, passage.tag.Proper) : read? document = some passages := by
  have hcut : (passages.flatMap fun passage => '<' :: passage.text).splitOn '<' =
      [] :: passages.map text := splitOn_passages h List.not_mem_nil
  rw [read?, hdocument, hcut]
  exact readAll?_text h

/-- Tags that nest: each element that begins ends at the same depth under its own name. An element with
one of the given names holds a text and nothing else. -/
inductive Nested (holdsText : String → Bool) : List Passage → Prop
  /-- Nothing. -/
  | nil : Nested holdsText []
  /-- An element without content, and what follows it. -/
  | empty {name : String} {attributes : List (String × String)} {behind : String}
      {more : List Passage} (rest : Nested holdsText more) :
      Nested holdsText (⟨.empty name attributes, behind⟩ :: more)
  /-- An element that holds a text, and what follows it. -/
  | text {name : String} {attributes : List (String × String)} {content behind : String}
      {more : List Passage} (name_holds : holdsText name = true) (rest : Nested holdsText more) :
      Nested holdsText (⟨.opening name attributes, content⟩ :: ⟨.closing name, behind⟩ :: more)
  /-- An element with elements inside, and what follows it. -/
  | element {name : String} {attributes : List (String × String)} {first behind : String}
      {inside more : List Passage} (name_nests : holdsText name = false)
      (content : Nested holdsText inside) (rest : Nested holdsText more) :
      Nested holdsText
        (⟨.opening name attributes, first⟩ :: (inside ++ ⟨.closing name, behind⟩ :: more))

/-- Elements behind each other nest. -/
theorem Nested.append {holdsText : String → Bool} {first second : List Passage}
    (hfirst : Nested holdsText first) (hsecond : Nested holdsText second) :
    Nested holdsText (first ++ second) := by
  induction hfirst with
  | nil => exact hsecond
  | empty _ ih => exact .empty ih
  | text hname _ ih => exact .text hname ih
  | element hname content _ _ ih =>
    rw [List.cons_append, List.append_assoc, List.cons_append]
    exact .element hname content ih

end Passage

namespace Markup

mutual

/-- The tags of an element, each with the text behind it. -/
def passages : Markup → List Passage
  | empty name attributes => [⟨.empty name attributes, "\n"⟩]
  | holding name attributes content =>
    [⟨.opening name attributes, content⟩, ⟨.closing name, "\n"⟩]
  | enclosing name attributes content =>
    ⟨.opening name attributes, "\n"⟩ :: (passagesOfAll content ++ [⟨.closing name, "\n"⟩])

/-- The tags of elements one behind the other. -/
def passagesOfAll : List Markup → List Passage
  | [] => []
  | element :: elements => element.passages ++ passagesOfAll elements

end

mutual

/-- An element is written tag by tag. -/
theorem toList_render : (element : Markup) →
    element.render.toList = element.passages.flatMap fun passage => '<' :: passage.text
  | .empty name attributes => by
    simp [render, passages, Passage.text, Tag.text, escape, escapeChar]
  | .holding name attributes content => by
    simp [render, passages, Passage.text, Tag.text, escape, escapeChar]
  | .enclosing name attributes content => by
    simp [render, passages, Passage.text, Tag.text, escape, escapeChar, toList_renderAll content]

/-- Elements are written one behind the other. -/
theorem toList_renderAll : (elements : List Markup) →
    (renderAll elements).toList =
      (passagesOfAll elements).flatMap fun passage => '<' :: passage.text
  | [] => rfl
  | element :: elements => by
    rw [renderAll, passagesOfAll, String.toList_append, List.flatMap_append, toList_render element,
      toList_renderAll elements]

end

/-- Elements in two lists have their tags one behind the other. -/
theorem passagesOfAll_append (first second : List Markup) :
    passagesOfAll (first ++ second) = passagesOfAll first ++ passagesOfAll second := by
  induction first with
  | nil => rfl
  | cons element first ih => rw [List.cons_append, passagesOfAll, passagesOfAll, ih, List.append_assoc]

/-- An element is read back from its text, whatever its texts are. -/
theorem read?_render {element : Markup} (h : ∀ passage ∈ element.passages, passage.tag.Proper) :
    Passage.read? element.render = some element.passages :=
  Passage.read?_eq_some (toList_render element) h

end Markup

end Railroad
