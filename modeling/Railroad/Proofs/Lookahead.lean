import Railroad.Proofs.Continuation

/-!
# A parenthesis behind the text

The rules for tokens look ahead of the token that they find: for closing braces and brackets, for the end
of a name, for quantifiers. A closing parenthesis at the end of the text is nothing that they look for, with
three exceptions: it can end what begins with a parenthesis and a question mark, it can be taken into a
comment, and it is a class or an escape that a text without end goes on with.
-/

namespace Railroad.Token

/-- A text with a closing parenthesis behind it. -/
def closed (text : List Char) : List Char := text ++ [')']

@[simp]
theorem closed_nil : closed [] = [')'] := rfl

@[simp]
theorem closed_cons (c : Char) (text : List Char) : closed (c :: text) = c :: closed text := rfl

/-- What stands in front of the end stands in front of the parenthesis. -/
theorem take_closed {text : List Char} {n : Nat} (h : n ≤ text.length) :
    (closed text).take n = text.take n := List.take_append_of_le_length h

/-- What is left of the text is left in front of the parenthesis. -/
theorem drop_closed {text : List Char} {n : Nat} (h : n ≤ text.length) :
    (closed text).drop n = closed (text.drop n) := List.drop_append_of_le_length h

/-- Nothing but a condition, a name in parentheses or flag letters goes on with the parenthesis. -/
theorem breaks_closed : Breaks [')'] := fun _ h => .inr (.inr (Option.some.inj h).symm)

/-- The parenthesis brings along nothing that other rules search for. -/
theorem swaps_closed : Swaps [] [')'] where
  breaks_back := breaks_nil
  breaks_other := breaks_closed
  marks := by simp
  items := fun text hnone => by
    rw [List.append_nil] at hnone
    exact posixEnd?_append_eq_none hnone (by simp) (by simp)

/-- A run ends where it did. -/
theorem takeWhile_closed {p : Char → Bool} (hp : p ')' = false) (text : List Char) :
    (closed text).takeWhile p = text.takeWhile p :=
  takeWhile_append_of_head? (fun _ hc => Option.some.inj hc ▸ hp) text

/-- A text with the parenthesis behind it begins with another character just if the text does. -/
theorem head?_closed_eq_iff {text : List Char} {c : Char} (hc : c ≠ ')') :
    (closed text).head? = some c ↔ text.head? = some c :=
  head?_append_iff (by simpa using hc.symm) text

/-- No quantifier begins with the parenthesis, goes on with it or waits for it. -/
theorem quantifier?_closed (text : List Char) : quantifier? (closed text) = quantifier? text :=
  breaks_closed.quantifier?_append text

/-- An escape ends where it did. -/
theorem escapeOf_closed (c : Char) (after : List Char) :
    escapeOf c (closed after) = escapeOf c after := by
  have hfits : (escapeOf c (after ++ [])).length ≤ after.length + 2 := by
    rw [List.append_nil]
    exact (escapeOf_fits c after).2
  have hsame := swaps_closed.escapeOf_eq hfits
  rwa [List.append_nil] at hsame

/-- A name that has an end keeps it. -/
theorem nameLength?_closed_of_some {closing : Char} {text : List Char} {n : Nat}
    (h : nameLength? closing text = some n) : nameLength? closing (closed text) = some n := by
  have hname := takeWhile_closed (p := isNameChar) (by decide) text
  have hlength := takeWhile_length_le isNameChar text
  unfold nameLength? at h ⊢
  dsimp only at h ⊢
  rw [hname, drop_closed hlength]
  split at h
  · rename_i hend
    cases h
    rw [Bool.and_eq_true, beq_iff_eq] at hend
    obtain ⟨more, hmore⟩ := List.head?_eq_some_iff.mp hend.2
    rw [hmore]
    simp [hend.1]
  · cases h

/-- A class that has an end keeps it. -/
theorem bracketLength?_closed {rest : List Char} {n : Nat} (h : bracketLength? rest = some n) :
    bracketLength? (closed rest) = some n := by
  have hfits := bracketLength?_le h
  rw [← List.append_nil rest] at h
  exact swaps_closed.bracketLength?_eq_some h hfits

/-- A text whose end is inside a comment. -/
def EndsInComment (text : List Char) : Prop :=
  ∃ before note, text = before ++ '#' :: note ∧ '\n' ∉ note

/-- Trivia that do not end inside a comment go without a last line. -/
theorem TriviaText.of_not_endsInComment {final : Prop} {text : List Char} (h : TriviaText final text)
    (hend : final → ¬ EndsInComment text) : TriviaText False text := by
  induction h with
  | nil => exact .nil
  | @blank c text hblank _ ih =>
    refine .blank hblank (ih ?_)
    rintro hfinal ⟨before, note, rfl, hnote⟩
    exact hend hfinal ⟨c :: before, note, rfl, hnote⟩
  | @comment note text hnote _ ih =>
    refine .comment hnote (ih ?_)
    rintro hfinal ⟨before, last, rfl, hlast⟩
    exact hend hfinal ⟨'#' :: (note ++ '\n' :: before), last, by simp, hlast⟩
  | @last note hnote hfinal => exact absurd ⟨[], note, rfl, hnote⟩ (hend hfinal)

/-- Trivia without a last line are skipped, and nothing else where something else follows. -/
theorem TriviaText.triviaLength_eq {text rest : List Char} (h : TriviaText False text)
    (hrest : NoTrivia rest) : triviaLength false (text ++ rest) = text.length := by
  induction h with
  | nil => exact triviaLength_of_noTrivia hrest
  | @blank c text hblank _ ih =>
    by_cases hsign : c = '#'
    · subst hsign
      exact absurd hblank (by decide)
    · simp [triviaLength, hsign, hblank, ih]
  | @comment note text hnote _ ih =>
    have hskip := triviaLength_comment hnote (text ++ rest)
    have hsplit : '#' :: (note ++ '\n' :: text) ++ rest = '#' :: (note ++ '\n' :: (text ++ rest)) := by
      simp
    rw [hsplit, triviaLength]
    simp only [Bool.false_eq_true, if_false, beq_self_eq_true, if_true, hskip, ih]
    simp only [List.length_cons, List.length_append]
    omega
  | last _ hfinal => exact hfinal.elim

/-- The parenthesis is nothing that plain text goes on with. -/
theorem isPlain_parenthesis (extended : Bool) : isPlain extended ')' = false := by
  cases extended <;> decide

/-- What is skipped at the beginning stops at the parenthesis as it stops at the end, unless a comment
takes the parenthesis in. Then nothing is left in either case. -/
theorem drop_triviaLength_closed (inComment : Bool) (text : List Char) :
    (closed text).drop (triviaLength inComment (closed text)) =
        closed (text.drop (triviaLength inComment text)) ∨
      text.drop (triviaLength inComment text) = [] ∧
        (closed text).drop (triviaLength inComment (closed text)) = [] := by
  induction text generalizing inComment with
  | nil =>
    cases inComment with
    | false => exact .inl rfl
    | true => exact .inr ⟨rfl, rfl⟩
  | cons c text ih =>
    obtain ⟨next, hskip⟩ | hstop := triviaLength_cons_cases inComment c
    · simp only [closed_cons, hskip, List.drop_succ_cons]
      exact ih next
    · exact .inl (by simp only [closed_cons, hstop, List.drop_zero])

/-- Plain text ends where it did. -/
theorem plainLength_closed (extended : Bool) (text : List Char) :
    plainLength extended (closed text) = plainLength extended text := by
  have hrun := takeWhile_closed (isPlain_parenthesis extended) text
  have hlength := takeWhile_length_le (isPlain extended) text
  have htail (tail : List Char) :
      quantifier? ((closed tail).drop (triviaLength false (closed tail))) =
        quantifier? (tail.drop (triviaLength false tail)) := by
    obtain hclosed | ⟨htext, hclosed⟩ := drop_triviaLength_closed false tail
    · rw [hclosed, quantifier?_closed]
    · rw [hclosed, htext]
  simp only [plainLength, hrun, drop_closed hlength]
  cases extended with
  | false => simp only [Bool.false_eq_true, if_false, quantifier?_closed]
  | true => simp only [if_true, htail]

/-- Every token but one with a parenthesis ends where it did. -/
theorem scanPlain_closed {extended : Bool} {c : Char} {rest : List Char} {lexeme : Lexeme}
    (h : scanPlain extended c rest = .ok lexeme) (hc : c ≠ '(') :
    scanPlain extended c (closed rest) = .ok lexeme := by
  by_cases hslash : c = '\\'
  · subst hslash
    cases rest with
    | nil => cases h
    | cons d after =>
      rw [closed_cons, ← h]
      exact congrArg Except.ok (escapeOf_closed d after)
  by_cases hbracket : c = '['
  · subst hbracket
    simp only [scanPlain] at h ⊢
    split at h
    · rename_i inner hinner
      rw [bracketLength?_closed hinner]
      exact h
    · cases h
  · rw [← h]
    exact scanPlain_eq_of_plainLength hslash hc hbracket (plainLength_closed extended (c :: rest))

/-- A token that begins with a parenthesis is more than the parenthesis only where a question mark
follows. -/
theorem parenthesis_of_ne {rest : List Char} (h : rest.head? ≠ some '?') :
    parenthesis rest = ⟨.groupOpen .capturing, 1⟩ := by
  cases rest with
  | nil => rfl
  | cons c rest =>
    have hc : c ≠ '?' := fun hc => h (by rw [hc]; rfl)
    simp [parenthesis, fixedOpener?, parenthesizedReference?, conditionalOpener?, namedOpener?, flagged?, hc]

/-- Flag letters are followed by no parenthesis or colon where they are the beginning of something else. -/
theorem flagged?_closed {rest : List Char} {lexeme : Lexeme} (h : flagged? rest = some lexeme) :
    flagged? (closed rest) = some lexeme := by
  cases rest with
  | nil => cases h
  | cons c text =>
    by_cases hquestion : c = '?'
    · subst hquestion
      have hrun := takeWhile_closed (p := fun c => c.isAlpha || c == '-') (by decide) text
      have hlength := takeWhile_length_le (fun c => c.isAlpha || c == '-') text
      simp only [closed_cons, flagged?, hrun, drop_closed hlength] at h ⊢
      split at h
      · cases h
      · rename_i hletters
        rw [if_neg hletters]
        cases hmark : (text.drop (text.takeWhile fun c => c.isAlpha || c == '-').length) with
        | nil => simp [hmark] at h
        | cons mark more => simpa [hmark] using h
    · simp [flagged?, hquestion] at h

/-- A reference by name has none of the other spellings. -/
theorem parenthesis_reference (text : List Char) :
    parenthesis ('?' :: 'P' :: '=' :: text) =
      ((nameLength? ')' text).map (⟨.namedBackreference, · + 5⟩)).getD ⟨.groupOpen .capturing, 1⟩ := by
  cases hname : nameLength? ')' text <;>
    simp [parenthesis, fixedOpener?, parenthesizedReference?, conditionalOpener?, namedOpener?, flagged?,
      hname]

/-- The opener of a conditional has none of the other spellings. -/
theorem parenthesis_condition (text : List Char) :
    parenthesis ('?' :: '(' :: text) =
      ((closingParen? 0 text).map (⟨.groupOpen .conditional, · + 4⟩)).getD
        ⟨.groupOpen .capturing, 1⟩ := by
  cases hname : closingParen? 0 text <;>
    simp [parenthesis, fixedOpener?, parenthesizedReference?, conditionalOpener?, namedOpener?, flagged?,
      hname]

/-- Behind any other question mark a parenthesis begins an opener without a condition, or flag letters. -/
theorem parenthesis_other {text : List Char} (hreference : ∀ rest, text ≠ 'P' :: '=' :: rest)
    (hcondition : ∀ rest, text ≠ '(' :: rest) :
    parenthesis ('?' :: text) = (fixedOpener? ('?' :: text) <|> namedOpener? ('?' :: text) <|>
      flagged? ('?' :: text)).getD ⟨.groupOpen .capturing, 1⟩ := by
  have hfirst : parenthesizedReference? ('?' :: text) = none := by
    unfold parenthesizedReference?
    split
    · rename_i rest heq
      exact absurd (List.cons.inj heq).2 (hreference rest)
    · rfl
  have hsecond : conditionalOpener? ('?' :: text) = none := by
    unfold conditionalOpener?
    split
    · rename_i rest heq
      exact absurd (List.cons.inj heq).2 (hcondition rest)
    · rfl
  simp [parenthesis, hfirst, hsecond]

/-- A tail that nothing goes on with does not make a reference or a condition of it, and can only be taken along
by flag letters. -/
theorem Breaks.parenthesis_other {tail : List Char} (h : Breaks tail) {text : List Char}
    (hreference : ∀ rest, text ≠ 'P' :: '=' :: rest) (hcondition : ∀ rest, text ≠ '(' :: rest) :
    parenthesis ('?' :: (text ++ tail)) = (fixedOpener? ('?' :: text) <|> namedOpener? ('?' :: text) <|>
      flagged? ('?' :: text ++ tail)).getD ⟨.groupOpen .capturing, 1⟩ := by
  rw [Token.parenthesis_other, ← List.cons_append, h.fixedOpener?_append, h.namedOpener?_append]
  · intro more hsplit
    obtain ⟨behind, rfl, hbehind⟩ := exists_cons_of_append (h.head?_ne (by decide)) hsplit
    obtain ⟨name, rfl, -⟩ := exists_cons_of_append (h.head?_ne (by decide)) hbehind
    exact hreference name rfl
  · intro more hsplit
    obtain ⟨condition, rfl, -⟩ := exists_cons_of_append (h.head?_ne (by decide)) hsplit
    exact hcondition condition rfl

/-- A parenthesis begins what it did, if it does not stand alone in front of a question mark. -/
theorem parenthesis_closed {rest : List Char}
    (h : rest.head? = some '?' → parenthesis rest ≠ ⟨.groupOpen .capturing, 1⟩) :
    parenthesis (closed rest) = parenthesis rest := by
  by_cases hquestion : rest.head? = some '?'
  · have hmore := h hquestion
    obtain ⟨text, rfl⟩ := List.head?_eq_some_iff.mp hquestion
    rw [closed_cons]
    by_cases hreference : ∃ name, text = 'P' :: '=' :: name
    · obtain ⟨name, rfl⟩ := hreference
      rw [closed_cons, closed_cons, parenthesis_reference]
      rw [parenthesis_reference] at hmore ⊢
      cases hname : nameLength? ')' name with
      | none => simp [hname] at hmore
      | some n => rw [nameLength?_closed_of_some hname]
    by_cases hcondition : ∃ condition, text = '(' :: condition
    · obtain ⟨condition, rfl⟩ := hcondition
      rw [closed_cons, parenthesis_condition]
      rw [parenthesis_condition] at hmore ⊢
      cases hclose : closingParen? 0 condition with
      | none => simp [hclose] at hmore
      | some n => rw [closed, closingParen?_append hclose]
    · rw [not_exists] at hreference hcondition
      rw [parenthesis_other hreference hcondition] at hmore ⊢
      rw [closed, breaks_closed.parenthesis_other hreference hcondition]
      cases hflags : flagged? ('?' :: text) with
      | none =>
        rw [hflags] at hmore
        cases hfixed : fixedOpener? ('?' :: text) with
        | some lexeme => simp
        | none =>
          cases hnamed : namedOpener? ('?' :: text) with
          | some lexeme => simp
          | none => simp [hfixed, hnamed] at hmore
      | some lexeme => rw [← closed, flagged?_closed hflags]
  · have hclosed : (closed rest).head? ≠ some '?' := by
      rwa [Ne, head?_closed_eq_iff (by decide)]
    rw [parenthesis_of_ne hclosed, parenthesis_of_ne hquestion]

/-- Trivia that do not end inside a comment end where they did. -/
theorem scan_trivia_closed {extended : Bool} {c : Char} {rest : List Char} {lexeme : Lexeme}
    (h : scan extended c rest = .ok lexeme) (hkind : lexeme.kind = .trivia)
    (hcomment : (c :: rest).drop lexeme.length = [] → ¬ EndsInComment ((c :: rest).take lexeme.length)) :
    scan extended c (closed rest) = .ok lexeme := by
  obtain ⟨rfl, trivia, behind, hsplit, hlength, htrivia, hbehind⟩ := scan_trivia h hkind
  rw [hsplit, hlength, List.take_left, List.drop_left] at hcomment
  have hend : NoTrivia (closed behind) := by
    rintro first more heq
    cases behind with
    | nil =>
      cases heq
      decide
    | cons d behind =>
      obtain ⟨rfl, -⟩ := List.cons.inj heq
      exact hbehind _ _ rfl
  have hskip : triviaLength false (c :: closed rest) = lexeme.length := by
    rw [← closed_cons, hsplit, hlength, closed, List.append_assoc]
    exact (htrivia.of_not_endsInComment hcomment).triviaLength_eq hend
  have hpos := (scan_fits h).1
  obtain ⟨kind, length⟩ := lexeme
  cases hkind
  unfold scan
  rw [if_pos rfl, hskip]
  cases length with
  | zero => exact absurd hpos (Nat.lt_irrefl 0)
  | succ length => rfl

/-- A step finds the same token in front of the parenthesis, if it finds no lone parenthesis in front of a
question mark and the text does not end inside a comment. -/
theorem scan_closed {extended : Bool} {c : Char} {rest : List Char} {lexeme : Lexeme}
    (h : scan extended c rest = .ok lexeme)
    (hgroup : rest.head? = some '?' → lexeme ≠ ⟨.groupOpen .capturing, 1⟩)
    (hcomment : lexeme.kind = .trivia → (c :: rest).drop lexeme.length = [] →
      ¬ EndsInComment ((c :: rest).take lexeme.length)) :
    scan extended c (closed rest) = .ok lexeme := by
  by_cases hkind : lexeme.kind = .trivia
  · exact scan_trivia_closed h hkind (hcomment hkind)
  have hzero : (if extended then triviaLength false (c :: rest) else 0) = 0 := by
    unfold scan at h
    split at h
    · cases h
      exact absurd rfl hkind
    · assumption
  have hzero' : (if extended then triviaLength false (c :: closed rest) else 0) = 0 := by
    cases extended with
    | false => rfl
    | true => exact (triviaLength_eq_zero_iff c rest _).mp hzero
  have hquantifier := quantifier?_closed (c :: rest)
  rw [closed_cons] at hquantifier
  unfold scan at h ⊢
  rw [hzero] at h
  rw [hzero', hquantifier]
  cases hq : quantifier? (c :: rest) with
  | some found => simpa only [hq] using h
  | none =>
    simp only [hq] at h ⊢
    by_cases hparenthesis : c = '('
    · subst hparenthesis
      cases h
      exact congrArg Except.ok (parenthesis_closed hgroup)
    · exact scanPlain_closed h hparenthesis

end Railroad.Token
