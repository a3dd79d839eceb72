import Railroad.Proofs.Stepping

/-!
# Blanks and comments

Where the extended flag is on, blanks and comments stand between the tokens that mean something. A comment
goes on to the end of its line, or to the end of the pattern if its line is the last one.
-/

namespace Railroad.Token

/-- The text is made of blanks and of comments with the end of their line. Only where `final` holds may the
last comment go without one. -/
inductive TriviaText (final : Prop) : List Char → Prop
  /-- There may be no text. -/
  | nil : TriviaText final []
  /-- A blank. -/
  | blank {c : Char} {text : List Char} (hblank : Unicode.isBlank c = true)
      (htext : TriviaText final text) : TriviaText final (c :: text)
  /-- A comment with the end of its line. -/
  | comment {note text : List Char} (hnote : '\n' ∉ note) (htext : TriviaText final text) :
      TriviaText final ('#' :: (note ++ '\n' :: text))
  /-- A comment on the last line. -/
  | last {note : List Char} (hnote : '\n' ∉ note) (hfinal : final) : TriviaText final ('#' :: note)

/-- The text begins with neither a blank nor a comment. -/
def NoTrivia (text : List Char) : Prop :=
  ∀ c rest, text = c :: rest → c ≠ '#' ∧ Unicode.isBlank c = false

/-- Whether a text begins with trivia can be told from any part at its beginning. -/
theorem NoTrivia.take {text : List Char} (h : NoTrivia text) (n : Nat) : NoTrivia (text.take n) := by
  intro c rest htake
  obtain ⟨first, more, rfl⟩ : ∃ first more, text = first :: more := by
    cases text with
    | nil => simp at htake
    | cons first more => exact ⟨first, more, rfl⟩
  have hfirst : c = first := by
    cases n with
    | zero => simp at htake
    | succ n => exact (List.cons.inj htake).1.symm
  rw [hfirst]
  exact h first more rfl

/-- Nothing is skipped where no trivia begin. -/
theorem triviaLength_of_noTrivia {text : List Char} (h : NoTrivia text) : triviaLength false text = 0 := by
  cases text with
  | nil => rfl
  | cons c rest =>
    obtain ⟨hsign, hblank⟩ := h c rest rfl
    simp [triviaLength, hsign, hblank]

/-- A comment on the last line goes on to the end of the text. -/
theorem triviaLength_last {note : List Char} (h : '\n' ∉ note) :
    triviaLength true note = note.length := by
  induction note with
  | nil => rfl
  | cons c note ih =>
    simp only [List.mem_cons, not_or] at h
    have hline : (c != '\n') = true := bne_iff_ne.mpr (Ne.symm h.1)
    simp [triviaLength, hline, ih h.2]

/-- Any other comment goes on to the end of its line, and what may be skipped behind that follows. -/
theorem triviaLength_comment {note : List Char} (h : '\n' ∉ note) (rest : List Char) :
    triviaLength true (note ++ '\n' :: rest) = note.length + 1 + triviaLength false rest := by
  induction note with
  | nil => simp [triviaLength, Nat.add_comm]
  | cons c note ih =>
    simp only [List.mem_cons, not_or] at h
    have hline : (c != '\n') = true := bne_iff_ne.mpr (Ne.symm h.1)
    have hbehind := ih h.2
    simp only [List.cons_append, triviaLength, hline, if_true, List.length_cons, hbehind]
    omega

/-- What is skipped at the beginning of a text is blanks and comments, and what is left does not begin with
more of them. -/
theorem exists_trivia (text : List Char) :
    ∃ trivia rest, text = trivia ++ rest ∧ trivia.length = triviaLength false text ∧
      TriviaText (rest = []) trivia ∧ NoTrivia rest := by
  induction hn : text.length using Nat.strongRecOn generalizing text with
  | ind n ih =>
    cases text with
    | nil => exact ⟨[], [], rfl, rfl, .nil, fun _ _ h => nomatch h⟩
    | cons c text =>
      have hshorter {part : List Char} (h : part.length ≤ text.length) : part.length < n := by
        simp only [List.length_cons] at hn
        omega
      by_cases hsign : c = '#'
      · subst hsign
        have hlength : triviaLength false ('#' :: text) = triviaLength true text + 1 := by
          simp [triviaLength]
        rw [hlength]
        by_cases hline : '\n' ∈ text
        · -- the comment ends with its line, and the text goes on behind it
          obtain ⟨note, behind, rfl, hnote⟩ := List.eq_append_cons_of_mem hline
          obtain ⟨trivia, rest, rfl, hskip, htrivia, hrest⟩ :=
            ih behind.length (hshorter (by simp; omega)) behind rfl
          refine ⟨'#' :: (note ++ '\n' :: trivia), rest, by simp, ?_, .comment hnote htrivia, hrest⟩
          rw [triviaLength_comment hnote, ← hskip]
          simp only [List.length_cons, List.length_append]
          omega
        · refine ⟨'#' :: text, [], by simp, ?_, .last hline rfl, fun _ _ h => nomatch h⟩
          rw [triviaLength_last hline, List.length_cons]
      · by_cases hblank : Unicode.isBlank c = true
        · have hlength : triviaLength false (c :: text) = triviaLength false text + 1 := by
            simp [triviaLength, hsign, hblank]
          obtain ⟨trivia, rest, rfl, hskip, htrivia, hrest⟩ :=
            ih text.length (hshorter (Nat.le_refl _)) text rfl
          refine ⟨c :: trivia, rest, rfl, ?_, .blank hblank htrivia, hrest⟩
          rw [hlength, ← hskip, List.length_cons]
        · have hlength : triviaLength false (c :: text) = 0 := by
            simp [triviaLength, hsign, hblank]
          refine ⟨[], c :: text, rfl, hlength.symm, .nil, ?_⟩
          rintro first rest ⟨⟩
          exact ⟨hsign, Bool.eq_false_iff.mpr hblank⟩

/-- Trivia are found only where the extended flag is on, and are all that may be skipped there. -/
theorem scan_trivia {extended : Bool} {c : Char} {rest : List Char} {lexeme : Lexeme}
    (h : scan extended c rest = .ok lexeme) (hkind : lexeme.kind = .trivia) :
    extended = true ∧ ∃ trivia behind, c :: rest = trivia ++ behind ∧ lexeme.length = trivia.length ∧
      TriviaText (behind = []) trivia ∧ NoTrivia behind := by
  unfold scan at h
  cases extended with
  | false =>
    exfalso
    simp only [Bool.false_eq_true, if_false] at h
    split at h
    · cases h
      cases hkind
    · exact (scanPlain_kind h).1 hkind
  | true =>
    obtain ⟨trivia, behind, hsplit, hlength, htrivia, hbehind⟩ := exists_trivia (c :: rest)
    refine ⟨rfl, trivia, behind, hsplit, ?_, htrivia, hbehind⟩
    simp only [if_true] at h
    split at h
    · rename_i length heq
      cases h
      rw [hlength, heq]
    · exfalso
      split at h
      · cases h
        cases hkind
      · exact (scanPlain_kind h).1 hkind

/-- A step takes all trivia at the beginning along, if there are any. -/
theorem triviaLength_le_of_scan {c : Char} {rest : List Char} {lexeme : Lexeme}
    (h : scan true c rest = .ok lexeme) : triviaLength false (c :: rest) ≤ lexeme.length := by
  unfold scan at h
  rw [if_pos rfl] at h
  split at h
  · rename_i length hlength
    cases h
    exact Nat.le_of_eq hlength
  · rename_i hzero
    rw [hzero]
    exact Nat.zero_le _

/-- A token that begins with neither a blank nor a comment is not made of them. -/
theorem ne_trivia_of_noTrivia {extended : Bool} {c : Char} {rest : List Char} {lexeme : Lexeme}
    (h : scan extended c rest = .ok lexeme) (htext : NoTrivia (c :: rest)) :
    lexeme.kind ≠ .trivia := by
  intro hkind
  obtain ⟨-, trivia, behind, hsplit, hlength, htrivia, -⟩ := scan_trivia h hkind
  have hpos := (scan_fits h).1
  obtain ⟨hsign, hblank⟩ := htext c rest rfl
  cases htrivia with
  | nil => simp [hlength] at hpos
  | blank hfirst =>
    obtain ⟨rfl, -⟩ := List.cons.inj hsplit
    simp [hblank] at hfirst
  | comment => exact hsign (List.cons.inj hsplit).1
  | last => exact hsign (List.cons.inj hsplit).1

/-- A plain character of the extended notation is neither a blank nor the beginning of a comment. -/
theorem of_isPlain {c : Char} (h : isPlain true c = true) : c ≠ '#' ∧ Unicode.isBlank c = false := by
  simp only [isPlain, Bool.true_and, Bool.and_eq_true, Bool.not_eq_true', Bool.or_eq_false_iff,
    beq_eq_false_iff_ne] at h
  exact h.2

/-- Plain text is an opening brace that begins no quantifier, or a run of plain characters. -/
theorem scan_literal {extended : Bool} {c : Char} {rest : List Char} {lexeme : Lexeme}
    (h : scan extended c rest = .ok lexeme) (hkind : lexeme.kind = .literal) :
    (c = '\x7b' ∧ lexeme.length = 1) ∨ lexeme.length = plainLength extended (c :: rest) := by
  have hplain := scanPlain_of_scan h (by simp [hkind]) (by simp [hkind])
  rcases scanPlain_rules hplain with ⟨-, d, after, -, rfl⟩ | ⟨-, rfl⟩ | ⟨-, n, -, rfl⟩ | ⟨hbrace, rfl⟩ |
    rfl | ⟨kind, hmem, rfl⟩
  · exact absurd hkind (escapeOf_kind_ne rfl Kind.noConfusion d after)
  · exact absurd hkind (parenthesis_kind_ne rfl Kind.noConfusion rest)
  · cases hkind
  · exact .inl ⟨hbrace, rfl⟩
  · exact .inr rfl
  · obtain rfl : kind = .literal := hkind
    exact absurd hmem (by decide)

/-- A run keeps no more characters than it has. -/
theorem keptLength_le (followed : Bool) (n : Nat) : keptLength followed n ≤ n := by
  unfold keptLength
  split <;> omega

/-- Plain text keeps no more characters than there are in a row. -/
theorem plainLength_le (extended : Bool) (text : List Char) :
    plainLength extended text ≤ (text.takeWhile (isPlain extended)).length := keptLength_le _ _

/-- The characters that it keeps are plain. -/
theorem isPlain_of_mem_take {extended : Bool} {text : List Char} {c : Char}
    (h : c ∈ text.take (plainLength extended text)) : isPlain extended c = true := by
  have hmem := List.take_subset_take_left text (plainLength_le extended text) h
  rw [← List.prefix_iff_eq_take.mp (List.takeWhile_prefix (isPlain extended))] at hmem
  exact List.all_eq_true.mp List.all_takeWhile c hmem

/-- Plain text of the extended notation has neither blanks nor number signs. -/
theorem scan_literal_extended {c : Char} {rest : List Char} {lexeme : Lexeme}
    (h : scan true c rest = .ok lexeme) (hkind : lexeme.kind = .literal) :
    ∀ d ∈ (c :: rest).take lexeme.length, d ≠ '#' ∧ Unicode.isBlank d = false := by
  intro d hmem
  rcases scan_literal h hkind with ⟨rfl, hone⟩ | hrun
  · rw [hone] at hmem
    cases List.mem_singleton.mp hmem
    decide
  · rw [hrun] at hmem
    exact of_isPlain (isPlain_of_mem_take hmem)

end Railroad.Token
