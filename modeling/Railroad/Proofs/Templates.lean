import Mathlib
import Railroad.Proofs.Replacing

/-!
# The parts of templates

A template is cut into parts from left to right in exactly one way, and every part stands for a text.
Expanding a template puts these texts in a row. Only two kinds of references in braces are read in another
way than they are written: a number that does not fit into 64 bits is taken for a name, and a number with
a plus sign in front for a number.
-/

namespace Railroad

/-- A part of a template, as it is written. -/
inductive TemplatePart where
  /-- A character that stands for itself. -/
  | char (c : Char)
  /-- Two dollar signs. -/
  | dollars
  /-- A dollar sign and an ampersand. -/
  | whole
  /-- A dollar sign and a text in braces. -/
  | braced (body : List Char)
  /-- A dollar sign and digits. -/
  | bare (digits : List Char)
  deriving DecidableEq, Repr

namespace TemplatePart

/-- A text of decimal digits and nothing else. -/
def IsNumeral (text : List Char) : Prop := text ≠ [] ∧ ∀ c ∈ text, c.isDigit = true

/-- Whether a text is a numeral can be computed. -/
instance (text : List Char) : Decidable (IsNumeral text) := inferInstanceAs (Decidable (_ ∧ _))

/-- How the part is written. -/
def written : TemplatePart → List Char
  | char c => [c]
  | dollars => ['$', '$']
  | whole => ['$', '&']
  | braced body => '$' :: '\x7b' :: body ++ ['\x7d']
  | bare digits => '$' :: digits

/-- What stands for a group with a number: its text, or the reference as it is written if there is no such
group. -/
def numbered (groups : GroupTexts) (digits written : List Char) : List Char :=
  if Text.decimalValue digits < groups.texts.length then groups.text (Text.decimalValue digits)
  else written

/-- What stands for a group with a name: its text, or nothing if there is no such group. -/
def named (groups : GroupTexts) (name : List Char) : List Char :=
  ((groups.names.lookup (String.ofList name)).map groups.text).getD []

/-- What the part stands for. -/
def text (groups : GroupTexts) : TemplatePart → List Char
  | char c => [c]
  | dollars => ['$']
  | whole => groups.text 0
  | braced body =>
    if IsNumeral body then numbered groups body (braced body).written else named groups body
  | bare digits => numbered groups digits (bare digits).written

/-- A number that does not fit into 64 bits. -/
def IsOverlong (body : List Char) : Prop := IsNumeral body ∧ UInt64.size ≤ Text.decimalValue body

/-- A number that fits into 64 bits, with a plus sign in front. -/
def IsSigned (body : List Char) : Prop :=
  body.head? = some '+' ∧ IsNumeral body.tail ∧ Text.decimalValue body.tail < UInt64.size

/-- Whether a number does not fit can be computed. -/
instance (body : List Char) : Decidable (IsOverlong body) := inferInstanceAs (Decidable (_ ∧ _))

/-- Whether a number has a plus sign in front can be computed. -/
instance (body : List Char) : Decidable (IsSigned body) := inferInstanceAs (Decidable (_ ∧ _))

/-- The part is not read as it is written. -/
def Misread : TemplatePart → Prop
  | braced body => IsOverlong body ∨ IsSigned body
  | char _ | dollars | whole | bare _ => False

/-- What is put in the place of the part. -/
def shown (groups : GroupTexts) : TemplatePart → List Char
  | braced body =>
    if IsOverlong body then named groups body
    else if IsSigned body then numbered groups body.tail (braced body).written
    else (braced body).text groups
  | part => part.text groups

end TemplatePart

open TemplatePart

/-- A dollar sign in front of a text refers to something: the part that it begins, and the text behind. -/
inductive Refers : List Char → TemplatePart → List Char → Prop
  /-- A second dollar sign. -/
  | dollars {behind : List Char} : Refers ('$' :: behind) .dollars behind
  /-- An ampersand. -/
  | whole {behind : List Char} : Refers ('&' :: behind) .whole behind
  /-- Everything up to the first closing brace. -/
  | braced {body behind : List Char} (first : '\x7d' ∉ body) :
      Refers ('\x7b' :: (body ++ '\x7d' :: behind)) (.braced body) behind
  /-- All digits that follow. -/
  | bare {digits behind : List Char} (numeral : IsNumeral digits)
      (longest : ∀ c ∈ behind.head?, c.isDigit = false) :
      Refers (digits ++ behind) (.bare digits) behind

/-- The parts of a template from left to right. -/
inductive Splits : List Char → List TemplatePart → Prop
  /-- Nothing is left. -/
  | done : Splits [] []
  /-- A character that is no dollar sign. -/
  | char {c : Char} {rest : List Char} {parts : List TemplatePart} (ordinary : c ≠ '$')
      (more : Splits rest parts) : Splits (c :: rest) (.char c :: parts)
  /-- A dollar sign that refers to something. -/
  | refers {rest behind : List Char} {part : TemplatePart} {parts : List TemplatePart}
      (refers : Refers rest part behind) (more : Splits behind parts) :
      Splits ('$' :: rest) (part :: parts)
  /-- A dollar sign that refers to nothing. -/
  | lone {rest : List Char} {parts : List TemplatePart}
      (silent : ∀ part behind, ¬ Refers rest part behind) (more : Splits rest parts) :
      Splits ('$' :: rest) (.char '$' :: parts)

/-- A numeral begins with a digit. -/
theorem TemplatePart.IsNumeral.exists_cons {digits : List Char} (h : IsNumeral digits) :
    ∃ d rest, digits = d :: rest ∧ d.isDigit = true := by
  obtain ⟨d, rest, rfl⟩ := List.exists_cons_of_ne_nil h.1
  exact ⟨d, rest, rfl, h.2 d List.mem_cons_self⟩

/-- A numeral has no character that is no digit. -/
theorem TemplatePart.IsNumeral.not_mem {digits : List Char} (h : IsNumeral digits) {c : Char}
    (hc : c.isDigit = false) : c ∉ digits :=
  fun hmem => Bool.false_ne_true (hc.symm.trans (h.2 c hmem))

/-- A run of characters of one kind that is as long as can be is the same however it is found. -/
theorem run_unique {p : Char → Bool} {front front' behind behind' : List Char}
    (hfront : ∀ c ∈ front, p c = true) (hfront' : ∀ c ∈ front', p c = true)
    (hbehind : ∀ c ∈ behind.head?, p c = false) (hbehind' : ∀ c ∈ behind'.head?, p c = false)
    (h : front ++ behind = front' ++ behind') : front = front' ∧ behind = behind' := by
  have hrun {front behind : List Char} (hfront : ∀ c ∈ front, p c = true)
      (hbehind : ∀ c ∈ behind.head?, p c = false) : (front ++ behind).takeWhile p = front := by
    have hnone : behind.takeWhile p = [] := by
      cases behind with
      | nil => rfl
      | cons c rest => rw [List.takeWhile_cons, hbehind c rfl, if_neg Bool.false_ne_true]
    rw [List.takeWhile_append_of_pos hfront, hnone, List.append_nil]
  have heq : front = front' := by
    rw [← hrun hfront hbehind, h, hrun hfront' hbehind']
  subst heq
  exact ⟨rfl, List.append_cancel_left h⟩

/-- A dollar sign refers to one thing at most. -/
theorem Refers.unique {rest behind behind' : List Char} {part part' : TemplatePart}
    (h : Refers rest part behind) (h' : Refers rest part' behind') : part = part' ∧ behind = behind' := by
  generalize hrest : rest = rest' at h'
  -- No digit begins another reference, so two references that are not of one kind begin differently.
  have hdigit {digits behind : List Char} {c : Char} {rest : List Char} (hc : c.isDigit = false)
      (numeral : IsNumeral digits) (heq : digits ++ behind = c :: rest) : False := by
    obtain ⟨d, rest', rfl, hd⟩ := numeral.exists_cons
    cases heq
    exact Bool.false_ne_true (hc.symm.trans hd)
  cases h with
  | dollars =>
    cases h' with
    | dollars =>
      cases hrest
      exact ⟨rfl, rfl⟩
    | whole => cases hrest
    | braced first => cases hrest
    | bare numeral longest => exact (hdigit rfl numeral hrest.symm).elim
  | whole =>
    cases h' with
    | dollars => cases hrest
    | whole =>
      cases hrest
      exact ⟨rfl, rfl⟩
    | braced first => cases hrest
    | bare numeral longest => exact (hdigit rfl numeral hrest.symm).elim
  | @braced body behind first =>
    cases h' with
    | dollars => cases hrest
    | whole => cases hrest
    | @braced body' behind' first' =>
      have hbody {body : List Char} (first : '\x7d' ∉ body) : ∀ c ∈ body, (c != '\x7d') = true :=
        fun c hc => bne_iff_ne.mpr (ne_of_mem_of_not_mem hc first)
      have hmark (behind : List Char) : ∀ c ∈ ('\x7d' :: behind).head?, (c != '\x7d') = false := by
        rintro c ⟨⟩
        rfl
      obtain ⟨rfl, hbehind⟩ := run_unique (hbody first) (hbody first') (hmark behind) (hmark behind')
        (List.cons.inj hrest).2
      exact ⟨rfl, (List.cons.inj hbehind).2⟩
    | bare numeral longest => exact (hdigit rfl numeral hrest.symm).elim
  | @bare digits behind numeral longest =>
    cases h' with
    | dollars => exact (hdigit rfl numeral hrest).elim
    | whole => exact (hdigit rfl numeral hrest).elim
    | braced first => exact (hdigit rfl numeral hrest).elim
    | @bare digits' behind' numeral' longest' =>
      obtain ⟨rfl, rfl⟩ := run_unique numeral.2 numeral'.2 longest longest' hrest
      exact ⟨rfl, rfl⟩

/-- A template is cut into parts in one way at most. -/
theorem Splits.unique {template : List Char} {parts parts' : List TemplatePart}
    (h : Splits template parts) (h' : Splits template parts') : parts = parts' := by
  induction h generalizing parts' with
  | done =>
    cases h'
    rfl
  | char ordinary _ ih =>
    cases h' with
    | char _ more => rw [ih more]
    | refers _ _ => exact absurd rfl ordinary
    | lone _ _ => exact absurd rfl ordinary
  | refers hrefers _ ih =>
    cases h' with
    | char ordinary _ => exact absurd rfl ordinary
    | refers hrefers' more =>
      obtain ⟨rfl, rfl⟩ := hrefers.unique hrefers'
      rw [ih more]
    | lone silent _ => exact absurd hrefers (silent _ _)
  | lone silent _ ih =>
    cases h' with
    | char ordinary _ => exact absurd rfl ordinary
    | refers hrefers' _ => exact absurd hrefers' (silent _ _)
    | lone _ more => rw [ih more]

/-- The digits that a dollar sign refers to are a numeral. -/
theorem Refers.isNumeral {rest digits behind : List Char} (h : Refers rest (.bare digits) behind) :
    IsNumeral digits := by
  cases h with
  | bare numeral _ => exact numeral

/-- What a dollar sign refers to is written behind it. -/
theorem Refers.written_eq {rest behind : List Char} {part : TemplatePart} (h : Refers rest part behind) :
    part.written ++ behind = '$' :: rest := by
  cases h with
  | dollars => rfl
  | whole => rfl
  | braced _ => simp only [written, List.cons_append, List.append_assoc, List.nil_append]
  | bare _ _ => rfl

/-- The parts of a template, as they are written, are the template. -/
theorem Splits.written_eq {template : List Char} {parts : List TemplatePart} (h : Splits template parts) :
    parts.flatMap (·.written) = template := by
  induction h with
  | done => rfl
  | char _ _ ih => rw [List.flatMap_cons, ih, written, List.singleton_append]
  | refers hrefers _ ih => rw [List.flatMap_cons, ih, hrefers.written_eq]
  | lone _ _ ih => rw [List.flatMap_cons, ih, written, List.singleton_append]

/-- The number of a group is read off a numeral that fits into 64 bits. -/
theorem groupNumber?_eq (text : List Char) :
    Piece.groupNumber? text =
      if IsNumeral text ∧ Text.decimalValue text < UInt64.size then some (Text.decimalValue text)
      else none := by
  have hnumeral : (text.isEmpty || !text.all Char.isDigit) = true ↔ ¬ IsNumeral text := by
    rw [IsNumeral, Bool.or_eq_true, Bool.not_eq_true', ← Bool.not_eq_true, List.all_eq_true,
      List.isEmpty_iff]
    tauto
  by_cases h : IsNumeral text
  · rw [Piece.groupNumber?, Text.decimal?, if_neg (mt hnumeral.mp (not_not_intro h))]
    simp only [h, true_and]
  · rw [Piece.groupNumber?, Text.decimal?, if_pos (hnumeral.mpr h), if_neg (mt And.left h)]

/-- The characters of a numeral are digits, so it has no plus sign to drop. -/
theorem TemplatePart.IsNumeral.withoutPlus_eq {text : List Char} (h : IsNumeral text) :
    Text.withoutPlus text = text := by
  obtain ⟨d, rest, rfl, hd⟩ := h.exists_cons
  refine Text.withoutPlus.eq_2 _ ?_
  rintro text' ⟨⟩
  exact Bool.false_ne_true hd

/-- A group by number stands for the same as a reference to it. -/
theorem fill_group_eq_numbered (groups : GroupTexts) (digits written : List Char) :
    (Piece.group (Text.decimalValue digits) written).fill groups = numbered groups digits written := rfl

/-- A group by name stands for the same as a reference to it. -/
theorem fill_named_eq_named (groups : GroupTexts) (name : List Char) :
    (Piece.named (String.ofList name)).fill groups = named groups name := by
  rw [Piece.fill, named]
  cases groups.names.lookup (String.ofList name) <;> rfl

/-- A text in braces stands for what is shown for it. -/
theorem fill_braced (groups : GroupTexts) (body : List Char) :
    (Piece.braced body).fill groups = (TemplatePart.braced body).shown groups := by
  by_cases hnumeral : IsNumeral body
  · have hsigned : ¬ IsSigned body := by
      obtain ⟨d, rest, rfl, hd⟩ := hnumeral.exists_cons
      rintro ⟨⟨⟩, -⟩
      exact Bool.false_ne_true hd
    by_cases hfits : Text.decimalValue body < UInt64.size
    · have hoverlong : ¬ IsOverlong body := fun h => Nat.not_lt.mpr h.2 hfits
      rw [Piece.braced, hnumeral.withoutPlus_eq, groupNumber?_eq, if_pos ⟨hnumeral, hfits⟩, shown,
        if_neg hoverlong, if_neg hsigned, text, if_pos hnumeral]
      rfl
    · rw [Piece.braced, hnumeral.withoutPlus_eq, groupNumber?_eq, if_neg (mt And.right hfits), shown,
        if_pos ⟨hnumeral, Nat.not_lt.mp hfits⟩]
      exact fill_named_eq_named groups body
  · have hoverlong : ¬ IsOverlong body := mt And.left hnumeral
    rw [Piece.braced, groupNumber?_eq, shown, if_neg hoverlong]
    by_cases hsigned : IsSigned body
    · obtain ⟨rest, rfl⟩ := List.head?_eq_some_iff.mp hsigned.1
      have hrest : IsNumeral rest ∧ Text.decimalValue rest < UInt64.size := hsigned.2
      rw [if_pos hsigned, Text.withoutPlus, if_pos hrest]
      rfl
    · have hplus : ¬ (IsNumeral (Text.withoutPlus body) ∧
          Text.decimalValue (Text.withoutPlus body) < UInt64.size) := by
        intro h
        by_cases hhead : body.head? = some '+'
        · obtain ⟨rest, rfl⟩ := List.head?_eq_some_iff.mp hhead
          exact hsigned ⟨rfl, h⟩
        · rw [Text.withoutPlus.eq_2 body fun rest hrest => hhead (hrest ▸ rfl)] at h
          exact hnumeral h.1
      rw [if_neg hplus, if_neg hsigned, text, if_neg hnumeral]
      exact fill_named_eq_named groups body

/-- All digits at the beginning of a text are referred to. -/
theorem refers_takeWhile {rest : List Char} (h : rest.takeWhile Char.isDigit ≠ []) :
    Refers rest (.bare (rest.takeWhile Char.isDigit))
      (rest.drop (rest.takeWhile Char.isDigit).length) := by
  have hsplit : rest.takeWhile Char.isDigit ++ rest.dropWhile Char.isDigit = rest :=
    List.takeWhile_append_dropWhile
  have hbehind : (rest.takeWhile Char.isDigit ++ rest.dropWhile Char.isDigit).drop
      (rest.takeWhile Char.isDigit).length = rest.dropWhile Char.isDigit := List.drop_left
  have hlongest : ∀ c ∈ (rest.dropWhile Char.isDigit).head?, c.isDigit = false := by
    intro c hc
    have hnot := List.head?_dropWhile_not Char.isDigit rest
    rwa [hc] at hnot
  have hrefers := Refers.bare ⟨h, fun c hc => List.mem_takeWhile_imp hc⟩ hlongest
  rw [hsplit] at hrefers hbehind
  rwa [hbehind]

/-- What is found behind a dollar sign is what it refers to, unless it is a number without braces that
does not fit into 64 bits: then nothing is found. -/
theorem reference?_cases (rest : List Char) :
    (∃ part piece n, Piece.reference? rest = some (piece, n) ∧ Refers rest part (rest.drop n) ∧
        ∀ groups : GroupTexts, groups.texts ≠ [] → piece.fill groups = part.shown groups) ∨
      Piece.reference? rest = none ∧
        ((∃ digits, Refers rest (.bare digits) (rest.drop digits.length) ∧
            UInt64.size ≤ Text.decimalValue digits) ∨
          ∀ part behind, ¬ Refers rest part behind) := by
  fun_cases Piece.reference? rest with
  | case1 behind => exact .inl ⟨.dollars, _, _, rfl, .dollars, fun _ _ => rfl⟩
  | case2 behind =>
    exact .inl ⟨.whole, _, _, rfl, .whole,
      fun groups hne => if_pos (List.length_pos_iff.mpr hne)⟩
  | case3 inner n hn =>
    obtain ⟨hlt, hmark, hfirst⟩ := List.findIdx?_eq_some_iff_getElem.mp hn
    have hinner : inner.take n ++ '\x7d' :: inner.drop (n + 1) = inner := by
      rw [← beq_iff_eq.mp hmark, List.getElem_cons_drop, List.take_append_drop]
    refine .inl ⟨.braced (inner.take n), _, _, rfl, ?_, fun groups _ => fill_braced groups _⟩
    have hnone : '\x7d' ∉ inner.take n := by
      intro hmem
      obtain ⟨j, hj, heq⟩ := List.mem_take_iff_getElem.mp hmem
      exact hfirst j (by omega) (beq_iff_eq.mpr heq)
    have hrefers : Refers _ _ (inner.drop (n + 1)) := .braced hnone
    rwa [hinner] at hrefers
  | case4 inner hn =>
    refine .inr ⟨rfl, .inr fun part behind hrefers => ?_⟩
    generalize hrest : '\x7b' :: inner = rest' at hrefers
    cases hrefers with
    | dollars => cases hrest
    | whole => cases hrest
    | braced _ =>
      have hnot := List.findIdx?_eq_none_iff.mp hn '\x7d'
      rw [(List.cons.inj hrest).2] at hnot
      exact Bool.false_ne_true (hnot (List.mem_append_right _ List.mem_cons_self)).symm
    | bare numeral _ =>
      obtain ⟨d, more, rfl, hd⟩ := numeral.exists_cons
      cases hrest
      exact Bool.false_ne_true hd
  | case5 rest hdollar hand hbrace =>
    by_cases hnone : rest.takeWhile Char.isDigit = []
    · refine .inr ⟨?_, .inr fun part behind hrefers => ?_⟩
      · rw [Piece.bare?, hnone]
        rfl
      · cases hrefers with
        | dollars => exact hdollar _ rfl
        | whole => exact hand _ rfl
        | braced _ => exact hbrace _ rfl
        | bare numeral _ =>
          obtain ⟨d, more, rfl, hd⟩ := numeral.exists_cons
          rw [List.cons_append, List.takeWhile_cons_of_pos hd] at hnone
          cases hnone
    · have hrefers := refers_takeWhile hnone
      have hnumeral : IsNumeral (rest.takeWhile Char.isDigit) :=
        ⟨hnone, fun c hc => List.mem_takeWhile_imp hc⟩
      by_cases hfits : Text.decimalValue (rest.takeWhile Char.isDigit) < UInt64.size
      · refine .inl ⟨_, _, _, ?_, hrefers, fun groups _ => fill_group_eq_numbered groups _ _⟩
        rw [Piece.bare?, groupNumber?_eq, if_pos ⟨hnumeral, hfits⟩]
        rfl
      · refine .inr ⟨?_, .inl ⟨_, hrefers, Nat.not_lt.mp hfits⟩⟩
        rw [Piece.bare?, groupNumber?_eq, if_neg (mt And.right hfits)]
        rfl

/-- A character of a template that is no dollar sign is kept. -/
theorem expand_cons {c : Char} (rest : List Char) (h : c ≠ '$') (groups : GroupTexts) :
    expand (c :: rest) groups = c :: expand rest groups := by
  rw [expand, ofTemplate_cons _ h, List.flatMap_cons, ← expand]
  rfl

/-- Text without a dollar sign in front of a template is kept. -/
theorem expand_append {front : List Char} (h : '$' ∉ front) (template : List Char) (groups : GroupTexts) :
    expand (front ++ template) groups = front ++ expand template groups := by
  induction front with
  | nil => rfl
  | cons c front ih =>
    obtain ⟨hc, hfront⟩ := not_or.mp (mt List.mem_cons.mpr h)
    rw [List.cons_append, expand_cons _ (Ne.symm hc), ih hfront, List.cons_append]

/-- A dollar sign with what is found behind it stands for that. -/
theorem expand_found {rest : List Char} {piece : Piece} {n : Nat}
    (h : Piece.reference? rest = some (piece, n)) (groups : GroupTexts) :
    expand ('$' :: rest) groups = piece.fill groups ++ expand (rest.drop n) groups := by
  rw [expand, Piece.ofTemplate, if_pos rfl, h]
  rfl

/-- A dollar sign behind which nothing is found stands for itself. -/
theorem expand_dollar {rest : List Char} (h : Piece.reference? rest = none) (groups : GroupTexts) :
    expand ('$' :: rest) groups = '$' :: expand rest groups := by
  rw [expand, Piece.ofTemplate, if_pos rfl, h]
  rfl

/-- Every template has parts, and expanding it puts what is shown for them in a row. -/
theorem exists_splits_expand (template : List Char) {groups : GroupTexts} (hne : groups.texts ≠ [])
    (hcount : groups.texts.length ≤ UInt64.size) :
    ∃ parts, Splits template parts ∧ expand template groups = parts.flatMap (·.shown groups) := by
  -- A reference may take any number of characters, so the induction is on the length of the template.
  induction hlength : template.length using Nat.strong_induction_on generalizing template with
  | _ length ih =>
    have hshorter {behind : List Char} (h : behind.length < template.length) :
        ∃ parts, Splits behind parts ∧ expand behind groups = parts.flatMap (·.shown groups) :=
      ih behind.length (hlength ▸ h) behind rfl
    cases template with
    | nil => exact ⟨[], .done, by rw [expand, Piece.ofTemplate]; rfl⟩
    | cons c rest =>
      have hdrop (n : Nat) : (rest.drop n).length < (c :: rest).length := by
        rw [List.length_drop, List.length_cons]
        omega
      by_cases hc : c = '$'
      · subst hc
        obtain ⟨part, piece, n, hfound, hrefers, hfill⟩ | ⟨hnone, hrest⟩ := reference?_cases rest
        · obtain ⟨parts, hsplits, hexpand⟩ := hshorter (hdrop n)
          refine ⟨part :: parts, .refers hrefers hsplits, ?_⟩
          rw [expand_found hfound, List.flatMap_cons, hfill groups hne, hexpand]
        · have hkept := expand_dollar hnone groups
          obtain ⟨digits, hrefers, hlarge⟩ | hsilent := hrest
          · obtain ⟨parts, hsplits, hexpand⟩ := hshorter (hdrop digits.length)
            refine ⟨.bare digits :: parts, .refers hrefers hsplits, ?_⟩
            have hwritten : digits ++ rest.drop digits.length = rest :=
              (List.cons.inj hrefers.written_eq).2
            have hexpanded : expand rest groups = digits ++ expand (rest.drop digits.length) groups := by
              conv_lhs => rw [← hwritten, expand_append (hrefers.isNumeral.not_mem rfl)]
            have hshown : (TemplatePart.bare digits).shown groups = '$' :: digits :=
              if_neg (Nat.not_lt.mpr (hcount.trans hlarge))
            rw [hkept, hexpanded, hexpand, List.flatMap_cons, hshown, List.cons_append]
          · obtain ⟨parts, hsplits, hexpand⟩ := hshorter (hdrop 0)
            refine ⟨.char '$' :: parts, .lone hsilent hsplits, ?_⟩
            rw [hkept, List.flatMap_cons, ← hexpand]
            rfl
      · obtain ⟨parts, hsplits, hexpand⟩ := hshorter (hdrop 0)
        refine ⟨.char c :: parts, .char hc hsplits, ?_⟩
        rw [expand_cons _ hc, List.flatMap_cons, ← hexpand]
        rfl

/-- Expanding a template with these parts puts what is shown for them in a row. -/
theorem Splits.expand_eq {template : List Char} {parts : List TemplatePart} (h : Splits template parts)
    {groups : GroupTexts} (hne : groups.texts ≠ []) (hcount : groups.texts.length ≤ UInt64.size) :
    expand template groups = parts.flatMap (·.shown groups) := by
  obtain ⟨others, hsplits, hexpand⟩ := exists_splits_expand template hne hcount
  rw [hexpand, h.unique hsplits]

/-- A part that is read as it is written is shown as what it stands for. -/
theorem shown_eq_text (groups : GroupTexts) {part : TemplatePart} (h : ¬ part.Misread) :
    part.shown groups = part.text groups := by
  cases part with
  | char _ => rfl
  | dollars => rfl
  | whole => rfl
  | bare _ => rfl
  | braced body =>
    obtain ⟨hoverlong, hsigned⟩ := not_or.mp h
    rw [shown, if_neg hoverlong, if_neg hsigned]

/-- The groups of a match have texts, the whole match at least. -/
theorem texts_ofCaptures_ne_nil (names : List (String × Nat)) (subject : Subject)
    (captures : Captures) : (GroupTexts.ofCaptures names subject captures).texts ≠ [] :=
  List.cons_ne_nil _ _

/-- Every template is cut into parts in exactly one way, and the parts are the template as they are
written. What the template stands for in a match is what is shown for its parts, in a row. That is what
the parts stand for, unless a reference in braces is a number that does not fit into 64 bits or a number
with a plus sign in front. -/
theorem expand_ofCaptures (template : List Char) (names : List (String × Nat)) (subject : Subject)
    (captures : Captures) (hcount : captures.groups.length < UInt64.size) :
    ∃ parts, Splits template parts ∧ (∀ others, Splits template others → others = parts) ∧
      parts.flatMap (·.written) = template ∧
      expand template (.ofCaptures names subject captures) =
        parts.flatMap (·.shown (.ofCaptures names subject captures)) ∧
      ((∀ part ∈ parts, ¬ part.Misread) →
        expand template (.ofCaptures names subject captures) =
          parts.flatMap (·.text (.ofCaptures names subject captures))) := by
  have htexts : (GroupTexts.ofCaptures names subject captures).texts.length ≤ UInt64.size := by
    rw [GroupTexts.ofCaptures, List.length_cons, List.length_map]
    exact hcount
  obtain ⟨parts, hsplits, hexpand⟩ :=
    exists_splits_expand template (texts_ofCaptures_ne_nil names subject captures) htexts
  refine ⟨parts, hsplits, fun others hothers => hothers.unique hsplits, hsplits.written_eq, hexpand,
    fun hread => ?_⟩
  rw [hexpand]
  exact List.flatMap_congr fun part hpart => shown_eq_text _ (hread part hpart)

/-- Text, digits behind a dollar sign, and a number in braces with a plus sign in front. -/
theorem expand_ofCaptures_plus :
    ∃ parts, Splits "a$12$\x7b+1\x7d".toList parts ∧
      (∀ others, Splits "a$12$\x7b+1\x7d".toList others → others = parts) ∧
      parts.flatMap (·.written) = "a$12$\x7b+1\x7d".toList ∧
      expand "a$12$\x7b+1\x7d".toList (.ofCaptures [] #['x', 'y'] ⟨⟨0, 2⟩, [some ⟨1, 2⟩]⟩) =
        parts.flatMap (·.shown (.ofCaptures [] #['x', 'y'] ⟨⟨0, 2⟩, [some ⟨1, 2⟩]⟩)) ∧
      ((∀ part ∈ parts, ¬ part.Misread) →
        expand "a$12$\x7b+1\x7d".toList (.ofCaptures [] #['x', 'y'] ⟨⟨0, 2⟩, [some ⟨1, 2⟩]⟩) =
          parts.flatMap (·.text (.ofCaptures [] #['x', 'y'] ⟨⟨0, 2⟩, [some ⟨1, 2⟩]⟩))) :=
  expand_ofCaptures _ [] #['x', 'y'] ⟨⟨0, 2⟩, [some ⟨1, 2⟩]⟩ (by decide)

/-- A reference in braces by a number that does not fit into 64 bits is not kept, although no match has so
many groups: it stands for a group with the number for a name. -/
theorem expand_braced_overlong {body : List Char} (h : IsOverlong body) {groups : GroupTexts}
    (hne : groups.texts ≠ []) (hcount : groups.texts.length ≤ UInt64.size) :
    Splits (TemplatePart.braced body).written [.braced body] ∧
      expand (TemplatePart.braced body).written groups = named groups body ∧
        (TemplatePart.braced body).text groups = (TemplatePart.braced body).written := by
  have hmark : '\x7d' ∉ body := h.1.not_mem rfl
  have hsplits : Splits (TemplatePart.braced body).written [.braced body] :=
    .refers (.braced hmark) .done
  refine ⟨hsplits, ?_, ?_⟩
  · rw [hsplits.expand_eq hne hcount, List.flatMap_singleton, shown, if_pos h]
  · rw [text, if_pos h.1, numbered, if_neg (Nat.not_lt.mpr (hcount.trans h.2))]

/-- Not every template stands for what its parts stand for: a number of twenty digits in braces stands for
nothing. -/
theorem not_forall_expand_eq_text :
    ¬ ∀ template names subject captures parts, captures.groups.length < UInt64.size →
      Splits template parts → expand template (.ofCaptures names subject captures) =
        parts.flatMap (·.text (.ofCaptures names subject captures)) := by
  intro hall
  have hvalue : Text.decimalValue (List.replicate 20 '9') = 99999999999999999999 := rfl
  have hnumeral : IsNumeral (List.replicate 20 '9') :=
    ⟨List.cons_ne_nil _ _, List.forall_mem_replicate.mpr (.inr rfl)⟩
  have hoverlong : IsOverlong (List.replicate 20 '9') :=
    ⟨hnumeral, hvalue ▸ Nat.le_of_ble_eq_true rfl⟩
  have htexts := texts_ofCaptures_ne_nil [] #['a'] ⟨⟨0, 1⟩, [some ⟨0, 1⟩]⟩
  obtain ⟨hsplits, hexpand, htext⟩ := expand_braced_overlong hoverlong htexts (by decide)
  have heq := hall _ [] #['a'] ⟨⟨0, 1⟩, [some ⟨0, 1⟩]⟩ _ (by decide) hsplits
  rw [hexpand, List.flatMap_singleton, htext] at heq
  exact List.cons_ne_nil _ _ heq.symm

end Railroad
