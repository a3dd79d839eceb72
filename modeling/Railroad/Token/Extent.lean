import Railroad.Token.Scan

/-!
# The extent of a lexeme

Each branch of a step counts its characters by a rule of its own. Here every such count is bounded: a
lexeme takes at least one character, and no more than the text has left. The first bound is what ends
the cutting of a pattern, the second says that no token reaches beyond the end.
-/

namespace Railroad.Token

/-- The lexeme takes at least one of `n` characters and no more than all of them. -/
def Lexeme.Fits (lexeme : Lexeme) (n : Nat) : Prop := 0 < lexeme.length ∧ lexeme.length ≤ n

/-- A found index lies inside the list. -/
theorem findIdx?_lt {α : Type} {p : α → Bool} {xs : List α} {i : Nat}
    (h : xs.findIdx? p = some i) : i < xs.length :=
  (List.findIdx?_eq_some_iff_getElem.mp h).choose

/-- A run at the beginning of a text is no longer than the text. -/
theorem takeWhile_length_le {α : Type} (p : α → Bool) (xs : List α) :
    (xs.takeWhile p).length ≤ xs.length :=
  (List.takeWhile_prefix p).length_le

/-- A repetition is one character or reaches to a closing brace that the text has. -/
theorem repetition?_fits {text : List Char} {r : Repetition} {n : Nat}
    (h : repetition? text = some (r, n)) : 0 < n ∧ n ≤ text.length := by
  unfold repetition? at h
  split at h
  · cases h
    simp only [List.length_cons]
    omega
  · cases h
    simp only [List.length_cons]
    omega
  · cases h
    simp only [List.length_cons]
    omega
  · rename_i rest
    cases hclose : rest.findIdx? (· == '\x7d') with
    | none => simp only [hclose, reduceCtorEq] at h
    | some close =>
      have hlt := findIdx?_lt hclose
      simp only [hclose, Option.map_eq_some_iff, Prod.mk.injEq] at h
      obtain ⟨_, _, _, rfl⟩ := h
      simp only [List.length_cons]
      omega
  · cases h

/-- A mark behind the repetition belongs to the text as well. -/
theorem quantifier?_fits {text : List Char} {q : Quantifier} {n : Nat}
    (h : quantifier? text = some (q, n)) : 0 < n ∧ n ≤ text.length := by
  unfold quantifier? at h
  split at h
  · cases h
  · rename_i length hr
    have hfits := repetition?_fits hr
    have hmark : ∀ c rest, text.drop length = c :: rest → length + 1 ≤ text.length := by
      intro c rest hdrop
      have hlen := congrArg List.length hdrop
      simp only [List.length_drop, List.length_cons] at hlen
      omega
    split at h
    · rename_i hdrop
      cases h
      exact ⟨by omega, hmark _ _ hdrop⟩
    · rename_i hdrop
      cases h
      exact ⟨by omega, hmark _ _ hdrop⟩
    · cases h
      exact hfits

/-- Blanks and comments end with the text at the latest. -/
theorem triviaLength_le (inComment : Bool) (text : List Char) :
    triviaLength inComment text ≤ text.length := by
  induction text generalizing inComment with
  | nil => simp only [triviaLength, List.length_nil, Nat.le_refl]
  | cons c rest ih =>
    simp only [triviaLength, List.length_cons]
    split
    · exact Nat.succ_le_succ (ih _)
    · split
      · exact Nat.succ_le_succ (ih _)
      · split
        · exact Nat.succ_le_succ (ih _)
        · exact Nat.zero_le _

/-- The hexadecimal part of an escape is taken from the text behind its letter. -/
theorem hexLength_le (digits : Nat) (after : List Char) : hexLength digits after ≤ after.length := by
  unfold hexLength
  split
  · split
    · rename_i hclose
      exact findIdx?_lt hclose
    · exact Nat.zero_le _
  · have hrun := takeWhile_length_le Unicode.isHexDigit after
    split <;> omega

/-- A reference by name reaches to a delimiter that the text has. -/
theorem namedReference_fits (after : List Char) :
    (namedReference after).Fits (after.length + 2) := by
  unfold namedReference Lexeme.Fits
  dsimp only
  split
  · split
    · rename_i hclose
      have hlt := findIdx?_lt hclose
      simp only [List.length_cons]
      omega
    · exact ⟨by decide, Nat.le_add_left _ _⟩
  · split
    · rename_i hclose
      have hlt := findIdx?_lt hclose
      simp only [List.length_cons]
      omega
    · exact ⟨by decide, Nat.le_add_left _ _⟩
  · exact ⟨by decide, Nat.le_add_left _ _⟩

/-- A property reaches to a closing brace that the text has, or takes one letter. -/
theorem property_fits (negated : Bool) (after : List Char) :
    (property negated after).Fits (after.length + 2) := by
  unfold property Lexeme.Fits
  split
  · split
    · rename_i hclose
      have hlt := findIdx?_lt hclose
      dsimp only
      omega
    · exact ⟨by decide, Nat.le_add_left _ _⟩
  · simp only [List.length_cons]
    split <;> dsimp only <;> omega
  · exact ⟨by decide, Nat.le_add_left _ _⟩

/-- Every escape takes its backslash and the character behind it, and what it takes beyond them is
taken from the text. -/
theorem escapeOf_fits (c : Char) (after : List Char) :
    (escapeOf c after).Fits (after.length + 2) := by
  have htwo : ∀ kind, Lexeme.Fits ⟨kind, 2⟩ (after.length + 2) :=
    fun _ => ⟨Nat.succ_pos _, Nat.le_add_left _ _⟩
  have hdigits := takeWhile_length_le Char.isDigit after
  have hhex : ∀ digits, Lexeme.Fits ⟨.escape, hexLength digits after + 2⟩ (after.length + 2) :=
    fun digits => ⟨Nat.succ_pos _, Nat.add_le_add_right (hexLength_le digits after) 2⟩
  unfold escapeOf
  split
  · exact htwo _
  split
  · exact htwo _
  split
  · exact htwo _
  split
  · exact htwo _
  split
  · dsimp only
    split
    · exact ⟨Nat.succ_pos _, Nat.add_le_add_right hdigits 2⟩
    · exact htwo _
  split
  · exact namedReference_fits after
  split
  · exact property_fits _ after
  split
  · exact hhex 2
  split
  · exact hhex 4
  split
  · exact hhex 8
  · exact htwo _

/-- A count that goes on behind `k` characters leaves as much room as the count behind them. -/
theorem map_add_le (room : Nat) {found : Option Nat} {k n bound : Nat}
    (hfound : ∀ m, found = some m → m + room ≤ bound) (h : found.map (· + k) = some n) :
    n + room ≤ bound + k := by
  obtain ⟨m, hm, rfl⟩ := Option.map_eq_some_iff.mp h
  have hroom := hfound m hm
  omega

/-- A character found behind `n` characters stands in the text. -/
theorem lt_length_of_head?_drop {text : List Char} {n : Nat} {c : Char}
    (h : (text.drop n).head? = some c) : n < text.length := by
  refine Nat.lt_of_not_le fun hle => ?_
  rw [List.drop_eq_nil_of_le hle] at h
  exact Option.some_ne_none _ h.symm

/-- A name is followed by its closing character. -/
theorem nameLength?_lt {close : Char} {text : List Char} {n : Nat}
    (h : nameLength? close text = some n) : n < text.length := by
  unfold nameLength? at h
  dsimp only at h
  split at h
  · rename_i hname
    cases h
    rw [Bool.and_eq_true, beq_iff_eq] at hname
    exact lt_length_of_head?_drop hname.2
  · cases h

/-- A closing parenthesis that is found stands in the text. -/
theorem closingParen?_lt {depth : Nat} {text : List Char} {n : Nat}
    (h : closingParen? depth text = some n) : n < text.length := by
  fun_induction closingParen? depth text generalizing n with
  | case1 => cases h
  | case2 => cases h
  | case3 _ _ _ ih =>
    have hle := map_add_le 1 (fun _ hm => ih hm) h
    exact hle
  | case4 _ _ _ _ _ _ ih => exact map_add_le 1 (fun _ => ih) h
  | case5 =>
    cases h
    exact Nat.succ_pos _
  | case6 _ _ _ _ _ _ _ _ ih => exact map_add_le 1 (fun _ => ih) h
  | case7 _ _ _ _ _ _ _ ih => exact map_add_le 1 (fun _ => ih) h

/-- The closing bracket of a class stands in the text. -/
theorem classLength?_le {skip depth : Nat} {text : List Char} {n : Nat}
    (h : classLength? skip depth text = some n) : n ≤ text.length := by
  fun_induction classLength? skip depth text generalizing n with
  | case1 => cases h
  | case2 _ _ _ _ _ ih => exact map_add_le 0 (fun _ => ih) h
  | case3 _ _ _ _ _ _ ih => exact map_add_le 0 (fun _ => ih) h
  | case4 _ _ _ _ _ _ _ _ _ ih => exact map_add_le 0 (fun _ => ih) h
  | case5 _ _ _ _ _ _ _ _ ih => exact map_add_le 0 (fun _ => ih) h
  | case6 _ _ _ _ _ _ _ _ ih => exact map_add_le 0 (fun _ => ih) h
  | case7 =>
    cases h
    exact Nat.succ_pos _
  | case8 _ _ _ _ _ _ _ _ _ ih => exact map_add_le 0 (fun _ => ih) h
  | case9 _ _ _ _ _ _ _ _ ih => exact map_add_le 0 (fun _ => ih) h

/-- A mark that is counted stands in the text. -/
theorem markLength_le (mark : Char) (text : List Char) : markLength mark text ≤ text.length := by
  unfold markLength
  split
  · rename_i hhead
    exact lt_length_of_head?_drop (n := 0) hhead
  · exact Nat.zero_le _

/-- A caret and a bracket in front of the members are counted, and both stand in the text. -/
theorem bracketLength?_le {rest : List Char} {n : Nat} (h : bracketLength? rest = some n) :
    n ≤ rest.length := by
  have hcaret := markLength_le '^' rest
  have hfirst := markLength_le ']' (rest.drop (markLength '^' rest))
  have hle := map_add_le 0 (fun _ => classLength?_le) h
  simp only [List.length_drop] at hfirst hle
  omega

/-- A count of characters makes a lexeme with the `k` characters around it. -/
theorem map_lexeme_fits {kind : Kind} {found : Option Nat} {k bound : Nat} {lexeme : Lexeme}
    (hk : 0 < k) (hfound : ∀ n, found = some n → n + k ≤ bound)
    (h : found.map (⟨kind, · + k⟩) = some lexeme) : lexeme.Fits bound := by
  obtain ⟨n, hn, rfl⟩ := Option.map_eq_some_iff.mp h
  exact ⟨Nat.add_pos_right n hk, hfound n hn⟩

/-- The fixed openers are counted with their parenthesis. -/
theorem fixedOpener?_fits {rest : List Char} {lexeme : Lexeme} (h : fixedOpener? rest = some lexeme) :
    lexeme.Fits (rest.length + 1) := by
  unfold fixedOpener? at h
  split at h <;> cases h <;> exact ⟨Nat.succ_pos _, by simp only [List.length_cons]; omega⟩

/-- A reference by name ends with its closing parenthesis. -/
theorem parenthesizedReference?_fits {rest : List Char} {lexeme : Lexeme}
    (h : parenthesizedReference? rest = some lexeme) : lexeme.Fits (rest.length + 1) := by
  unfold parenthesizedReference? at h
  split at h
  · refine map_lexeme_fits (by decide) (fun n hn => ?_) h
    exact Nat.add_le_add_right (nameLength?_lt hn) 4
  · cases h

/-- The opener of a conditional ends with the parenthesis that closes its condition. -/
theorem conditionalOpener?_fits {rest : List Char} {lexeme : Lexeme}
    (h : conditionalOpener? rest = some lexeme) : lexeme.Fits (rest.length + 1) := by
  unfold conditionalOpener? at h
  split at h
  · refine map_lexeme_fits (by decide) (fun n hn => ?_) h
    exact Nat.add_le_add_right (closingParen?_lt hn) 3
  · cases h

/-- The opener of a named group ends with the bracket that closes its name. -/
theorem namedOpener?_fits {rest : List Char} {lexeme : Lexeme}
    (h : namedOpener? rest = some lexeme) : lexeme.Fits (rest.length + 1) := by
  unfold namedOpener? at h
  split at h
  · refine map_lexeme_fits (by decide) (fun n hn => ?_) h
    exact Nat.add_le_add_right (nameLength?_lt hn) 3
  · refine map_lexeme_fits (by decide) (fun n hn => ?_) h
    exact Nat.add_le_add_right (nameLength?_lt hn) 4
  · cases h

/-- Flag letters are followed by a parenthesis or a colon. -/
theorem flagged?_fits {rest : List Char} {lexeme : Lexeme} (h : flagged? rest = some lexeme) :
    lexeme.Fits (rest.length + 1) := by
  unfold flagged? at h
  split at h
  · dsimp only at h
    split at h
    · cases h
    · split at h <;> cases h
      · rename_i hmark
        exact ⟨Nat.succ_pos _, Nat.add_le_add_right (lt_length_of_head?_drop hmark) 2⟩
      · rename_i hmark
        exact ⟨Nat.succ_pos _, Nat.add_le_add_right (lt_length_of_head?_drop hmark) 2⟩
  · cases h

/-- Whatever a parenthesis begins stays inside the text. -/
theorem parenthesis_fits (rest : List Char) : (parenthesis rest).Fits (rest.length + 1) := by
  unfold parenthesis
  generalize hfound : (fixedOpener? rest <|> parenthesizedReference? rest <|>
    conditionalOpener? rest <|> namedOpener? rest <|> flagged? rest) = found
  cases found with
  | none => exact ⟨Nat.succ_pos _, Nat.le_add_left _ _⟩
  | some lexeme =>
    simp only [Option.orElse_eq_orElse, Option.orElse_eq_or, Option.or_eq_some_iff] at hfound
    rcases hfound with h | ⟨_, h | ⟨_, h | ⟨_, h | ⟨_, h⟩⟩⟩⟩
    · exact fixedOpener?_fits h
    · exact parenthesizedReference?_fits h
    · exact conditionalOpener?_fits h
    · exact namedOpener?_fits h
    · exact flagged?_fits h

/-- A run that is not empty keeps at least one character and never more than it has. -/
theorem keptLength_bounds {n : Nat} (followed : Bool) (hn : 0 < n) :
    0 < keptLength followed n ∧ keptLength followed n ≤ n := by
  unfold keptLength
  split
  · rename_i hlast
    rw [Bool.and_eq_true, decide_eq_true_eq] at hlast
    omega
  · exact ⟨hn, Nat.le_refl n⟩

/-- Plain text takes its first character even when a quantifier follows, and ends with its run. -/
theorem plainLength_fits {extended : Bool} {c : Char} (rest : List Char)
    (hplain : isPlain extended c = true) :
    0 < plainLength extended (c :: rest) ∧ plainLength extended (c :: rest) ≤ rest.length + 1 := by
  have hpos : 0 < ((c :: rest).takeWhile (isPlain extended)).length := by
    rw [List.takeWhile_cons_of_pos hplain]
    exact Nat.succ_pos _
  have hrun := takeWhile_length_le (isPlain extended) (c :: rest)
  have hkept := fun followed => keptLength_bounds followed hpos
  exact ⟨(hkept _).1, Nat.le_trans (hkept _).2 hrun⟩

/-- Where no quantifier begins, the first character is none of the three that always begin one. -/
theorem ne_of_quantifier?_eq_none {c : Char} {rest : List Char}
    (h : quantifier? (c :: rest) = none) : c ≠ '*' ∧ c ≠ '+' ∧ c ≠ '?' := by
  have hnone : repetition? (c :: rest) = none := by
    unfold quantifier? at h
    split at h
    · assumption
    · split at h <;> cases h
  refine ⟨?_, ?_, ?_⟩ <;> rintro rfl <;> cases hnone

/-- Where no trivia begins, the first character is neither a number sign nor a blank. -/
theorem ne_of_triviaLength_eq_zero {c : Char} {rest : List Char}
    (h : triviaLength false (c :: rest) = 0) : c ≠ '#' ∧ Unicode.isBlank c = false := by
  simp only [triviaLength, Bool.false_eq_true, if_false] at h
  split at h
  · cases h
  · rename_i hsign
    split at h
    · cases h
    · rename_i hblank
      exact ⟨fun hc => hsign (beq_iff_eq.mpr hc), Bool.eq_false_iff.mpr hblank⟩

/-- A step that finds neither trivia nor a quantifier takes at least one character. Plain text is the
branch that could come out empty, but all characters that end it have been dealt with before. -/
theorem scanPlain_fits {extended : Bool} {c : Char} {rest : List Char} {lexeme : Lexeme}
    (htrivia : extended = true → triviaLength false (c :: rest) = 0)
    (hquantifier : quantifier? (c :: rest) = none)
    (h : scanPlain extended c rest = .ok lexeme) : lexeme.Fits (rest.length + 1) := by
  have hone : ∀ kind, Lexeme.Fits ⟨kind, 1⟩ (rest.length + 1) :=
    fun _ => ⟨Nat.succ_pos _, Nat.le_add_left _ _⟩
  unfold scanPlain at h
  split at h
  · split at h
    · cases h
    · cases h
      exact escapeOf_fits _ _
  · cases h
    exact hone _
  · cases h
    exact hone _
  · cases h
    exact hone _
  · cases h
    exact hone _
  · cases h
    exact hone _
  · cases h
    exact parenthesis_fits rest
  · split at h
    · rename_i hinner
      cases h
      exact ⟨Nat.succ_pos _, Nat.succ_le_succ (bracketLength?_le hinner)⟩
    · cases h
  · cases h
    exact hone _
  · rename_i hbackslash hdot hcaret hdollar hbar hclose hopen hclass hbrace
    cases h
    refine plainLength_fits rest ?_
    obtain ⟨hstar, hplus, hmark⟩ := ne_of_quantifier?_eq_none hquantifier
    have hspecial : isSpecial c = false := by
      simp only [isSpecial, List.contains_cons, List.contains_nil, Bool.or_eq_false_iff,
        beq_eq_false_iff_ne]
      exact ⟨hbackslash, hopen, hclose, hclass, hdot, hplus, hstar, hmark, hbrace, hcaret, hdollar,
        hbar, trivial⟩
    have hblank : (extended && (c == '#' || Unicode.isBlank c)) = false := by
      cases extended with
      | false => rfl
      | true =>
        obtain ⟨hsign, hblank⟩ := ne_of_triviaLength_eq_zero (htrivia rfl)
        rw [hblank, beq_eq_false_iff_ne.mpr hsign]
        rfl
    rw [isPlain, hspecial, hblank]
    rfl

/-- Every step takes at least one character and no more than are left. -/
theorem scan_fits {extended : Bool} {c : Char} {rest : List Char} {lexeme : Lexeme}
    (h : scan extended c rest = .ok lexeme) : lexeme.Fits (rest.length + 1) := by
  unfold scan at h
  split at h
  · rename_i length htrivia
    cases h
    have hle := triviaLength_le false (c :: rest)
    rw [List.length_cons] at hle
    refine ⟨Nat.succ_pos _, ?_⟩
    dsimp only
    split at htrivia <;> omega
  · rename_i htrivia
    split at h
    · rename_i hquantifier
      cases h
      exact quantifier?_fits hquantifier
    · rename_i hquantifier
      refine scanPlain_fits (fun hextended => ?_) hquantifier h
      rwa [if_pos hextended] at htrivia

/-- What is left behind a lexeme is shorter than the text. -/
theorem length_drop_lt {extended : Bool} {c : Char} {rest : List Char} {lexeme : Lexeme}
    (hscan : scan extended c rest = .ok lexeme) :
    ((c :: rest).drop lexeme.length).length < (c :: rest).length := by
  have hpos := (scan_fits hscan).1
  simp only [List.length_drop, List.length_cons]
  omega

end Railroad.Token
