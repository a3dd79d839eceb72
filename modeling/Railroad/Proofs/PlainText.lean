import Railroad.Proofs.Blanks

/-!
# Plain text in front of quantifiers

A quantifier repeats what stands directly in front of it. A run of plain text therefore keeps all its
characters but the last where a quantifier follows, and for that it looks over the blanks and comments behind
it. What it sees there is what the steps behind it find, so the tokens of plain text say by themselves where
a run was split.
-/

namespace Railroad.Token

/-- The tokens go on with the quantifier, directly or behind trivia. -/
def QuantifierFollows (q : Quantifier) (tokens : List Token) : Prop :=
  ∃ gap mark back, tokens = gap ++ mark :: back ∧ (∀ token ∈ gap, token.kind = .trivia) ∧
    mark.kind = .quantifier q

/-- No quantifier follows where there are no tokens. -/
theorem not_quantifierFollows_nil (q : Quantifier) : ¬ QuantifierFollows q [] := by
  rintro ⟨gap, mark, back, hsplit, -⟩
  exact List.append_ne_nil_of_right_ne_nil gap (List.cons_ne_nil mark back) hsplit.symm

/-- Trivia are passed on the way to a quantifier. -/
theorem quantifierFollows_cons_of_trivia {q : Quantifier} {token : Token} (tokens : List Token)
    (h : token.kind = .trivia) : QuantifierFollows q (token :: tokens) ↔ QuantifierFollows q tokens := by
  constructor
  · rintro ⟨gap, mark, back, hsplit, hgap, hmark⟩
    cases gap with
    | nil =>
      obtain ⟨rfl, -⟩ := List.cons.inj hsplit
      exact absurd (h.symm.trans hmark) Kind.noConfusion
    | cons first gap =>
      obtain ⟨-, hrest⟩ := List.cons.inj hsplit
      exact ⟨gap, mark, back, hrest, fun other hmem => hgap other (List.mem_cons_of_mem _ hmem), hmark⟩
  · rintro ⟨gap, mark, back, rfl, hgap, hmark⟩
    exact ⟨token :: gap, mark, back, rfl, List.forall_mem_cons.mpr ⟨h, hgap⟩, hmark⟩

/-- Any other token is the quantifier, or none follows. -/
theorem quantifierFollows_cons_of_ne_trivia {q : Quantifier} {token : Token} (tokens : List Token)
    (h : token.kind ≠ .trivia) : QuantifierFollows q (token :: tokens) ↔ token.kind = .quantifier q := by
  constructor
  · rintro ⟨gap, mark, back, hsplit, hgap, hmark⟩
    cases gap with
    | nil =>
      obtain ⟨rfl, -⟩ := List.cons.inj hsplit
      exact hmark
    | cons first gap =>
      obtain ⟨rfl, -⟩ := List.cons.inj hsplit
      exact absurd (hgap token List.mem_cons_self) h
  · intro hmark
    exact ⟨[], token, tokens, rfl, List.forall_mem_nil _, hmark⟩

/-- What is left of a text behind the trivia at its beginning, where there can be any. -/
def behindTrivia (extended : Bool) (text : List Char) : List Char :=
  if extended then text.drop (triviaLength false text) else text

/-- All trivia are skipped at once. -/
theorem behindTrivia_behindTrivia (extended : Bool) (text : List Char) :
    behindTrivia extended (behindTrivia extended text) = behindTrivia extended text := by
  cases extended with
  | false => rfl
  | true =>
    obtain ⟨trivia, rest, rfl, hlength, -, hrest⟩ := exists_trivia text
    have hbehind : behindTrivia true (trivia ++ rest) = rest := by
      rw [behindTrivia, if_pos rfl, ← hlength, List.drop_left]
    rw [hbehind, behindTrivia, if_pos rfl, triviaLength_of_noTrivia hrest, List.drop_zero]

/-- A step takes all trivia at the beginning, or finds none; then it takes the quantifier at the beginning, or
finds none. -/
theorem scan_cases {extended : Bool} {c : Char} {rest : List Char} {lexeme : Lexeme}
    (h : scan extended c rest = .ok lexeme) :
    (lexeme.kind = .trivia ∧ behindTrivia extended (c :: rest) = (c :: rest).drop lexeme.length) ∨
      behindTrivia extended (c :: rest) = c :: rest ∧
        ((∃ q, lexeme.kind = .quantifier q ∧ quantifier? (c :: rest) = some (q, lexeme.length)) ∨
          quantifier? (c :: rest) = none ∧ scanPlain extended c rest = .ok lexeme) := by
  unfold scan at h
  split at h
  · rename_i length hlength
    cases h
    refine .inl ⟨rfl, ?_⟩
    cases extended with
    | false => cases hlength
    | true =>
      rw [if_pos rfl] at hlength
      rw [behindTrivia, if_pos rfl, hlength]
  · rename_i hzero
    have hnone : behindTrivia extended (c :: rest) = c :: rest := by
      cases extended with
      | false => rfl
      | true =>
        rw [if_pos rfl] at hzero
        rw [behindTrivia, if_pos rfl, hzero, List.drop_zero]
    refine .inr ⟨hnone, ?_⟩
    split at h
    · rename_i q length hquantifier
      cases h
      exact .inl ⟨q, rfl, hquantifier⟩
    · rename_i hquantifier
      exact .inr ⟨hquantifier, h⟩

/-- Trivia leave the scope as it is, and so does plain text. -/
theorem after_of_trivia_or_literal (scope : Scope) {token : Token}
    (h : token.kind = .trivia ∨ token.kind = .literal) : scope.after token = scope := by
  rcases h with hkind | hkind <;> simp only [Scope.after, hkind]

/-- The steps find a quantifier behind trivia exactly if there is one in the text behind its trivia. -/
theorem Cuts.quantifierFollows_iff {scope : Scope} {offset : Nat} {text : List Char} {tokens : List Token}
    (h : Cuts scope offset text tokens) (q : Quantifier) :
    QuantifierFollows q tokens ↔ ∃ n, quantifier? (behindTrivia scope.extended text) = some (q, n) := by
  induction h with
  | done =>
    have hnone (extended : Bool) : quantifier? (behindTrivia extended []) = none := by
      cases extended <;> rfl
    simp [not_quantifierFollows_nil, hnone]
  | @step scope offset c rest lexeme tokens hscan _ ih =>
    rcases scan_cases hscan with ⟨hkind, hbehind⟩ | ⟨hbehind, ⟨found, hkind, hfound⟩ | ⟨hnone, hplain⟩⟩
    · rw [after_of_trivia_or_literal scope (.inl hkind), ← hbehind, behindTrivia_behindTrivia] at ih
      rw [quantifierFollows_cons_of_trivia tokens hkind, ih]
    · have hne : (ofLexeme lexeme offset (c :: rest)).kind ≠ .trivia := by
        rw [ofLexeme, hkind]
        exact Kind.noConfusion
      rw [quantifierFollows_cons_of_ne_trivia tokens hne, hbehind, hfound, ofLexeme, hkind]
      simp
    · obtain ⟨htrivia, hquantifier⟩ := scanPlain_kind hplain
      rw [quantifierFollows_cons_of_ne_trivia tokens htrivia, hbehind, hnone]
      simp [ofLexeme, hquantifier]

/-- A plain character begins neither trivia nor a quantifier, nor anything else but plain text. -/
theorem scan_of_isPlain {extended : Bool} {c : Char} (h : isPlain extended c = true) (rest : List Char) :
    scan extended c rest = .ok ⟨.literal, plainLength extended (c :: rest)⟩ := by
  have hspecial : isSpecial c = false := by
    rw [isPlain, Bool.and_eq_true, Bool.not_eq_true'] at h
    exact h.1
  simp only [isSpecial, List.contains_cons, List.contains_nil, Bool.or_eq_false_iff,
    beq_eq_false_iff_ne] at hspecial
  obtain ⟨hslash, hopen, hclose, hclass, hdot, hplus, hstar, hmark, hbrace, hcaret, hdollar, hbar, -⟩ :=
    hspecial
  have hzero : (if extended then triviaLength false (c :: rest) else 0) = 0 := by
    cases extended with
    | false => rfl
    | true =>
      obtain ⟨hsign, hblank⟩ := of_isPlain h
      simp [triviaLength, hsign, hblank]
  have hnone : quantifier? (c :: rest) = none := by
    simp [quantifier?, repetition?, hplus, hstar, hmark, hbrace]
  unfold scan
  rw [hzero, hnone]
  simp [scanPlain]

/-- What a run keeps is decided by the text behind it and the trivia there. -/
theorem plainLength_eq (extended : Bool) (text : List Char) :
    plainLength extended text = keptLength
      (quantifier? (behindTrivia extended (text.dropWhile (isPlain extended)))).isSome
      (text.takeWhile (isPlain extended)).length := by
  have hdrop := @List.drop_left _ (text.takeWhile (isPlain extended)) (text.dropWhile (isPlain extended))
  rw [List.takeWhile_append_dropWhile] at hdrop
  rw [plainLength, hdrop]
  rfl

/-- A run that is one character keeps it. -/
theorem plainLength_of_single {extended : Bool} {c : Char} (h : isPlain extended c = true) {tail : List Char}
    (htail : tail.takeWhile (isPlain extended) = []) : plainLength extended (c :: tail) = 1 := by
  rw [plainLength_eq, List.takeWhile_cons_of_pos h, htail, keptLength]
  exact if_neg (by simp)

/-- Behind a run of plain characters no other begins. -/
theorem takeWhile_dropWhile_isPlain (extended : Bool) (text : List Char) :
    (text.dropWhile (isPlain extended)).takeWhile (isPlain extended) = [] := by
  cases hbehind : text.dropWhile (isPlain extended) with
  | nil => rfl
  | cons c tail =>
    have hc := List.head?_dropWhile_not (isPlain extended) text
    rw [hbehind] at hc
    exact List.takeWhile_cons_of_neg (by simpa using hc)

/-- Where a run of plain characters ends, plain text is an opening brace by itself. -/
theorem raw_of_literal_behind_run {scope : Scope} {offset : Nat} {text : List Char} {next : Token}
    {tokens : List Token} (h : Cuts scope offset text (next :: tokens))
    (htext : text.takeWhile (isPlain scope.extended) = []) (hkind : next.kind = .literal) :
    next.raw = "\x7b" := by
  cases h with
  | @step _ _ c rest lexeme _ hscan _ =>
    rcases scan_literal hscan hkind with ⟨rfl, hone⟩ | hrun
    · rw [ofLexeme, hone]
      rfl
    · have hpos := (scan_fits hscan).1
      rw [hrun, plainLength_eq, htext] at hpos
      simp [keptLength] at hpos

/-- The last character of a run that a quantifier follows is a token of its own in front of it. -/
theorem Cuts.last_of_run {scope : Scope} {offset : Nat} {last : Char} {tail : List Char} {tokens : List Token}
    (h : Cuts scope offset (last :: tail) tokens) (hlast : isPlain scope.extended last = true)
    (htail : tail.takeWhile (isPlain scope.extended) = []) {q : Quantifier} {n : Nat}
    (hquantifier : quantifier? (behindTrivia scope.extended tail) = some (q, n)) :
    ∃ next back, tokens = next :: back ∧ next.kind = .literal ∧ next.raw.length = 1 ∧
      QuantifierFollows q back := by
  cases h with
  | @step _ _ _ _ lexeme back hscan hback =>
    rw [scan_of_isPlain hlast, plainLength_of_single hlast htail] at hscan
    cases hscan
    rw [after_of_trivia_or_literal scope (.inr rfl)] at hback
    exact ⟨_, back, rfl, rfl, String.length_ofList,
      (hback.quantifierFollows_iff q).mpr ⟨n, hquantifier⟩⟩

/-- A token of plain text is an opening brace, or all of a run, or all of a run but its last character. It is
one character long or has no quantifier behind it if it is all of the run, and if it is not, the last character
is the next token and has a quantifier behind it. -/
theorem Cuts.literal_cases {scope : Scope} {offset : Nat} {text : List Char} {token : Token}
    {tokens : List Token} (h : Cuts scope offset text (token :: tokens)) (hkind : token.kind = .literal) :
    token.raw = "\x7b" ∨
      ((token.raw.length = 1 ∨ ∀ q, ¬ QuantifierFollows q tokens) ∧
        ∀ next back, tokens = next :: back → next.kind = .literal → next.raw = "\x7b") ∨
      ∃ next back q, tokens = next :: back ∧ next.kind = .literal ∧ next.raw.length = 1 ∧
        QuantifierFollows q back := by
  cases h with
  | @step _ _ c rest lexeme _ hscan hbehind =>
    rw [after_of_trivia_or_literal scope (.inr hkind)] at hbehind
    rcases scan_literal hscan hkind with ⟨rfl, hone⟩ | hkept
    · left
      rw [ofLexeme, hone]
      rfl
    right
    have hpos := (scan_fits hscan).1
    have hsplit := List.takeWhile_append_dropWhile (p := isPlain scope.extended) (l := c :: rest)
    have hplain := List.all_eq_true.mp (List.all_takeWhile (p := isPlain scope.extended) (l := c :: rest))
    have htail := takeWhile_dropWhile_isPlain scope.extended (c :: rest)
    rw [plainLength_eq] at hkept
    generalize (c :: rest).takeWhile (isPlain scope.extended) = run at hsplit hplain hkept
    generalize (c :: rest).dropWhile (isPlain scope.extended) = tail at hsplit htail hkept
    rw [← hsplit] at hbehind ⊢
    cases hfound : quantifier? (behindTrivia scope.extended tail) with
    | none =>
      -- no quantifier follows, and the run is kept as a whole
      have hlength : lexeme.length = run.length := by rw [hkept, hfound]; rfl
      rw [hlength, List.drop_left] at hbehind
      refine .inl ⟨.inr fun q hfollows => ?_, fun next back hnext => ?_⟩
      · obtain ⟨n, hn⟩ := (hbehind.quantifierFollows_iff q).mp hfollows
        rw [hfound] at hn
        cases hn
      · rw [hnext] at hbehind
        exact raw_of_literal_behind_run hbehind htail
    | some found =>
      obtain ⟨q, n⟩ := found
      have hlength : lexeme.length = if 1 < run.length then run.length - 1 else run.length := by
        rw [hkept, hfound, keptLength]
        simp
      by_cases hmore : 1 < run.length
      · -- the last of several characters is left for the quantifier
        have hne : run ≠ [] := List.ne_nil_of_length_pos (Nat.lt_of_succ_lt hmore)
        have hlast := hplain _ (List.getLast_mem hne)
        rw [if_pos hmore, ← List.length_dropLast] at hlength
        rw [hlength, ← List.dropLast_concat_getLast hne, List.append_assoc, List.dropLast_concat,
          List.drop_left] at hbehind
        obtain ⟨next, back, heq, hnext, hone, hfollows⟩ := hbehind.last_of_run hlast htail hfound
        exact .inr ⟨next, back, q, heq, hnext, hone, hfollows⟩
      · -- a single character is a token of its own already
        rw [if_neg hmore] at hlength
        rw [hlength, List.drop_left] at hbehind
        refine .inl ⟨.inl ?_, fun next back hnext => ?_⟩
        · rw [ofLexeme, hlength, List.take_left, String.length_ofList]
          omega
        · rw [hnext] at hbehind
          exact raw_of_literal_behind_run hbehind htail

/-- Where the tokens of plain text of a pattern end. -/
structure SplitsRuns (tokens : List Token) : Prop where
  /-- In front of a quantifier, directly or with trivia between the two, plain text is one character. -/
  single : ∀ front token back q, tokens = front ++ token :: back → token.kind = .literal →
    QuantifierFollows q back → token.raw.length = 1
  /-- Of two tokens of plain text side by side the second is such a character, or one of them is an opening
  brace. -/
  adjacent : ∀ front first second back, tokens = front ++ first :: second :: back →
    first.kind = .literal → second.kind = .literal →
    (second.raw.length = 1 ∧ ∃ q, QuantifierFollows q back) ∨ first.raw = "\x7b" ∨ second.raw = "\x7b"

/-- Every part of a run of steps is a run of steps. -/
theorem Cuts.behind {scope : Scope} {offset : Nat} {text : List Char} {front back : List Token}
    (h : Cuts scope offset text (front ++ back)) :
    ∃ scope offset text, Cuts scope offset text back := by
  induction front generalizing scope offset text with
  | nil => exact ⟨scope, offset, text, h⟩
  | cons first front ih =>
    cases h with
    | step _ hbehind => exact ih hbehind

/-- A run of steps leaves the last character of plain text to a quantifier behind it. -/
theorem Cuts.splitsRuns {scope : Scope} {offset : Nat} {text : List Char} {tokens : List Token}
    (h : Cuts scope offset text tokens) : SplitsRuns tokens := by
  constructor
  · rintro front token back q rfl hkind hfollows
    obtain ⟨_, _, _, hcuts⟩ := h.behind
    rcases hcuts.literal_cases hkind with hbrace | ⟨hone | hnone, -⟩ | ⟨next, rest, _, rfl, hnext, -⟩
    · rw [hbrace]
      rfl
    · exact hone
    · exact absurd hfollows (hnone q)
    · rw [quantifierFollows_cons_of_ne_trivia rest (by simp [hnext]), hnext] at hfollows
      cases hfollows
  · rintro front first second back rfl hfirst hsecond
    obtain ⟨_, _, _, hcuts⟩ := h.behind
    rcases hcuts.literal_cases hfirst with hbrace | ⟨-, hlone⟩ | ⟨next, rest, q, heq, -, hone, hfollows⟩
    · exact .inr (.inl hbrace)
    · exact .inr (.inr (hlone second back rfl hsecond))
    · obtain ⟨rfl, rfl⟩ := List.cons.inj heq
      exact .inl ⟨hone, q, hfollows⟩

end Railroad.Token
