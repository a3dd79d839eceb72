import Railroad.Proofs.Cutting

/-!
# Which rule cut a token

A step tries its rules in a fixed order, and the kind of the lexeme that it finds tells which rule it was.
What a token of some kind looks like is then a matter of that rule alone.
-/

namespace Railroad.Token

/-- Every token of a run was found by a step at some place of the text. -/
theorem Cuts.exists_scan {scope : Scope} {offset : Nat} {text : List Char} {tokens : List Token}
    (h : Cuts scope offset text tokens) {token : Token} (hmem : token ∈ tokens) :
    ∃ extended place c rest lexeme, scan extended c rest = .ok lexeme ∧
      token = ofLexeme lexeme place (c :: rest) := by
  induction h with
  | done => exact absurd hmem List.not_mem_nil
  | step hscan _ ih =>
    rcases List.mem_cons.mp hmem with rfl | hbehind
    · exact ⟨_, _, _, _, _, hscan, rfl⟩
    · exact ih hbehind

/-- The scope in which a token of a run was found is that behind the tokens in front of it. -/
theorem Cuts.exists_scan_at {scope : Scope} {offset : Nat} {text : List Char} {front back : List Token}
    {token : Token} (h : Cuts scope offset text (front ++ token :: back)) :
    ∃ place c rest lexeme, scan (front.foldl Scope.after scope).extended c rest = .ok lexeme ∧
      token = ofLexeme lexeme place (c :: rest) ∧
      Cuts ((front.foldl Scope.after scope).after token) (place + token.raw.utf8ByteSize)
        ((c :: rest).drop lexeme.length) back := by
  induction front generalizing scope offset text with
  | nil =>
    cases h with
    | step hscan hbehind => exact ⟨_, _, _, _, hscan, rfl, hbehind⟩
  | cons first front ih =>
    cases h with
    | step hscan hbehind => exact ih hbehind

/-- A lexeme that is neither trivia nor a quantifier was found by the rules behind these two. -/
theorem scanPlain_of_scan {extended : Bool} {c : Char} {rest : List Char} {lexeme : Lexeme}
    (h : scan extended c rest = .ok lexeme) (htrivia : lexeme.kind ≠ .trivia)
    (hquantifier : ∀ q, lexeme.kind ≠ .quantifier q) : scanPlain extended c rest = .ok lexeme := by
  unfold scan at h
  split at h
  · cases h
    exact absurd rfl htrivia
  · split at h
    · cases h
      exact absurd rfl (hquantifier _)
    · exact h

/-- Behind these two the first character decides about the rule. -/
theorem scanPlain_rules {extended : Bool} {c : Char} {rest : List Char} {lexeme : Lexeme}
    (h : scanPlain extended c rest = .ok lexeme) :
    (c = '\\' ∧ ∃ d after, rest = d :: after ∧ lexeme = escapeOf d after) ∨
      (c = '(' ∧ lexeme = parenthesis rest) ∨
      (c = '[' ∧ ∃ n, bracketLength? rest = some n ∧ lexeme = ⟨.bracket, n + 1⟩) ∨
      (c = '\x7b' ∧ lexeme = ⟨.literal, 1⟩) ∨
      lexeme = ⟨.literal, plainLength extended (c :: rest)⟩ ∨
      ∃ kind ∈ [Kind.charClass, .anchor, .alternation, .groupClose], lexeme = ⟨kind, 1⟩ := by
  have hone {kind : Kind} (hmem : kind ∈ [Kind.charClass, .anchor, .alternation, .groupClose]) :
      ∃ other ∈ [Kind.charClass, .anchor, .alternation, .groupClose],
        (⟨kind, 1⟩ : Lexeme) = ⟨other, 1⟩ := ⟨kind, hmem, rfl⟩
  unfold scanPlain at h
  split at h
  · split at h
    · cases h
    · cases h
      exact .inl ⟨rfl, _, _, rfl, rfl⟩
  · cases h
    exact .inr (.inr (.inr (.inr (.inr (hone (by decide))))))
  · cases h
    exact .inr (.inr (.inr (.inr (.inr (hone (by decide))))))
  · cases h
    exact .inr (.inr (.inr (.inr (.inr (hone (by decide))))))
  · cases h
    exact .inr (.inr (.inr (.inr (.inr (hone (by decide))))))
  · cases h
    exact .inr (.inr (.inr (.inr (.inr (hone (by decide))))))
  · cases h
    exact .inr (.inl ⟨rfl, rfl⟩)
  · split at h
    · rename_i n hlength
      cases h
      exact .inr (.inr (.inl ⟨rfl, n, hlength, rfl⟩))
    · cases h
  · cases h
    exact .inr (.inr (.inr (.inl ⟨rfl, rfl⟩)))
  · cases h
    exact .inr (.inr (.inr (.inr (.inl rfl))))

/-- The kinds of lexemes that neither a backslash nor a parenthesis begins. -/
def isBareKind : Kind → Bool
  | .charClass | .anchor | .alternation | .groupClose | .bracket | .literal => true
  | _ => false

/-- A backslash begins an escape and a parenthesis what it opens. Anything else begins one of a few
kinds. -/
theorem scanPlain_cases {extended : Bool} {c : Char} {rest : List Char} {lexeme : Lexeme}
    (h : scanPlain extended c rest = .ok lexeme) :
    (c = '\\' ∧ ∃ d after, rest = d :: after ∧ lexeme = escapeOf d after) ∨
      (c = '(' ∧ lexeme = parenthesis rest) ∨ isBareKind lexeme.kind = true := by
  rcases scanPlain_rules h with hescape | hparenthesis | ⟨-, n, -, rfl⟩ | ⟨-, rfl⟩ | rfl | ⟨kind, hmem, rfl⟩
  · exact .inl hescape
  · exact .inr (.inl hparenthesis)
  · exact .inr (.inr rfl)
  · exact .inr (.inr rfl)
  · exact .inr (.inr rfl)
  · have hbare : ∀ kind ∈ [Kind.charClass, .anchor, .alternation, .groupClose],
        isBareKind kind = true := by decide
    exact .inr (.inr (hbare kind hmem))

/-- What a parenthesis begins is found by one of five rules, or is a plain group. -/
theorem parenthesis_cases (rest : List Char) :
    fixedOpener? rest = some (parenthesis rest) ∨
      parenthesizedReference? rest = some (parenthesis rest) ∨
      conditionalOpener? rest = some (parenthesis rest) ∨
      namedOpener? rest = some (parenthesis rest) ∨ flagged? rest = some (parenthesis rest) ∨
      parenthesis rest = ⟨.groupOpen .capturing, 1⟩ := by
  unfold parenthesis
  cases fixedOpener? rest with
  | some lexeme => exact .inl rfl
  | none =>
    refine .inr ?_
    cases parenthesizedReference? rest with
    | some lexeme => exact .inl rfl
    | none =>
      refine .inr ?_
      cases conditionalOpener? rest with
      | some lexeme => exact .inl rfl
      | none =>
        refine .inr ?_
        cases namedOpener? rest with
        | some lexeme => exact .inl rfl
        | none =>
          refine .inr ?_
          cases flagged? rest with
          | some lexeme => exact .inl rfl
          | none => exact .inr rfl

/-- The kind of a lexeme that is made from a count. -/
theorem kind_of_map {kind : Kind} {found : Option Nat} {k : Nat} {lexeme : Lexeme}
    (h : found.map (⟨kind, · + k⟩) = some lexeme) : lexeme.kind = kind := by
  obtain ⟨n, -, rfl⟩ := Option.map_eq_some_iff.mp h
  rfl

/-- A reference in parentheses is a reference by name. -/
theorem parenthesizedReference?_kind {rest : List Char} {lexeme : Lexeme}
    (h : parenthesizedReference? rest = some lexeme) : lexeme.kind = .namedBackreference := by
  unfold parenthesizedReference? at h
  split at h
  · exact kind_of_map h
  · cases h

/-- The opener of a conditional opens one. -/
theorem conditionalOpener?_kind {rest : List Char} {lexeme : Lexeme}
    (h : conditionalOpener? rest = some lexeme) : lexeme.kind = .groupOpen .conditional := by
  unfold conditionalOpener? at h
  split at h
  · exact kind_of_map h
  · cases h

/-- The opener of a named group opens one. -/
theorem namedOpener?_kind {rest : List Char} {lexeme : Lexeme}
    (h : namedOpener? rest = some lexeme) : lexeme.kind = .groupOpen .named := by
  unfold namedOpener? at h
  split at h
  · exact kind_of_map h
  · exact kind_of_map h
  · cases h

/-- Flag letters are a switch or open a group with flags. -/
theorem flagged?_kind {rest : List Char} {lexeme : Lexeme} (h : flagged? rest = some lexeme) :
    lexeme.kind = .inlineFlags ∨ lexeme.kind = .groupOpen .flagged := by
  unfold flagged? at h
  split at h
  · dsimp only at h
    split at h
    · cases h
    · split at h <;> cases h
      · exact .inl rfl
      · exact .inr rfl
  · cases h

/-- An opener with a fixed spelling opens a group without number, flags or condition. -/
theorem fixedOpener?_kind {rest : List Char} {lexeme : Lexeme}
    (h : fixedOpener? rest = some lexeme) :
    ∃ opener, lexeme.kind = .groupOpen opener ∧
      opener ∈ [.nonCapturing, .lookAhead, .negativeLookAhead, .lookBehind, .negativeLookBehind,
        .atomic] := by
  unfold fixedOpener? at h
  split at h <;> cases h <;> exact ⟨_, rfl, by decide⟩

/-- The kinds of escapes that refer to no name. -/
def isEscapeKind : Kind → Bool
  | .charClass | .anchor | .controlChar | .complex | .backreference _ | .unicodeProperty _
  | .escape => true
  | _ => false

/-- A property without a name is a backslash and its letter. -/
theorem property_cases (negated : Bool) (after : List Char) :
    property negated after = ⟨.escape, 2⟩ ∨
      ∃ n, property negated after = ⟨.unicodeProperty negated, n + 3⟩ := by
  unfold property
  split
  · split
    · exact .inr ⟨_, rfl⟩
    · exact .inl rfl
  · split
    · exact .inr ⟨0, rfl⟩
    · exact .inl rfl
  · exact .inl rfl

/-- A reference by name that has no end is a backslash and its letter. -/
theorem namedReference_cases (after : List Char) :
    namedReference after = ⟨.escape, 2⟩ ∨ ∃ n, namedReference after = ⟨.namedBackreference, n + 4⟩ := by
  unfold namedReference
  dsimp only
  split
  · split
    · exact .inr ⟨_, rfl⟩
    · exact .inl rfl
  · split
    · exact .inr ⟨_, rfl⟩
    · exact .inl rfl
  · exact .inl rfl

/-- The number of digits behind the letter of an escape by number, where there are no braces. -/
def hexWidth? : Char → Option Nat
  | 'x' => some 2
  | 'u' => some 4
  | 'U' => some 8
  | _ => none

/-- The character behind the backslash decides about the rule for an escape. -/
theorem escapeOf_rules (c : Char) (after : List Char) :
    (∃ kind ∈ [Kind.charClass, .anchor, .controlChar, .complex], escapeOf c after = ⟨kind, 2⟩) ∨
      (c.isDigit = true ∧ ∃ group,
        escapeOf c after = ⟨.backreference group, (after.takeWhile Char.isDigit).length + 2⟩) ∨
      (c = 'k' ∧ escapeOf c after = namedReference after) ∨
      ((c = 'p' ∨ c = 'P') ∧ escapeOf c after = property (c == 'P') after) ∨
      (∃ width, hexWidth? c = some width ∧ escapeOf c after = ⟨.escape, hexLength width after + 2⟩) ∨
      escapeOf c after = ⟨.escape, 2⟩ := by
  have hcode {letter : Char} {width : Nat} (hletter : (c == letter) = true)
      (hwidth : hexWidth? letter = some width) : ∃ other, hexWidth? c = some other ∧
        (⟨.escape, hexLength width after + 2⟩ : Lexeme) = ⟨.escape, hexLength other after + 2⟩ :=
    ⟨width, beq_iff_eq.mp hletter ▸ hwidth, rfl⟩
  generalize hlexeme : escapeOf c after = lexeme
  unfold escapeOf at hlexeme
  split at hlexeme
  · exact .inl ⟨_, by decide, hlexeme.symm⟩
  split at hlexeme
  · exact .inl ⟨_, by decide, hlexeme.symm⟩
  split at hlexeme
  · exact .inl ⟨_, by decide, hlexeme.symm⟩
  split at hlexeme
  · exact .inl ⟨_, by decide, hlexeme.symm⟩
  split at hlexeme
  · rename_i hdigit
    rw [Bool.and_eq_true] at hdigit
    dsimp only at hlexeme
    split at hlexeme
    · exact .inr (.inl ⟨hdigit.1, _, hlexeme.symm⟩)
    · exact .inr (.inr (.inr (.inr (.inr hlexeme.symm))))
  split at hlexeme
  · rename_i hletter
    exact .inr (.inr (.inl ⟨beq_iff_eq.mp hletter, hlexeme.symm⟩))
  split at hlexeme
  · rename_i hletter
    rw [Bool.or_eq_true, beq_iff_eq, beq_iff_eq] at hletter
    exact .inr (.inr (.inr (.inl ⟨hletter, hlexeme.symm⟩)))
  split at hlexeme
  · rename_i hletter
    exact .inr (.inr (.inr (.inr (.inl (hlexeme ▸ hcode hletter rfl)))))
  split at hlexeme
  · rename_i hletter
    exact .inr (.inr (.inr (.inr (.inl (hlexeme ▸ hcode hletter rfl)))))
  split at hlexeme
  · rename_i hletter
    exact .inr (.inr (.inr (.inr (.inl (hlexeme ▸ hcode hletter rfl)))))
  · exact .inr (.inr (.inr (.inr (.inr hlexeme.symm))))

/-- Only an escape with the letter for it can refer to a name. -/
theorem escapeOf_cases (c : Char) (after : List Char) :
    isEscapeKind (escapeOf c after).kind = true ∨
      (c = 'k' ∧ escapeOf c after = namedReference after) := by
  have hshort : ∀ kind ∈ [Kind.charClass, .anchor, .controlChar, .complex], isEscapeKind kind = true := by
    decide
  rcases escapeOf_rules c after with ⟨kind, hmem, heq⟩ | ⟨-, group, heq⟩ | hname | ⟨-, heq⟩ |
    ⟨width, -, heq⟩ | heq
  · exact .inl (heq ▸ hshort kind hmem)
  · exact .inl (heq ▸ rfl)
  · exact .inr hname
  · rcases property_cases (c == 'P') after with hproperty | ⟨n, hproperty⟩
    · exact .inl (by rw [heq, hproperty]; rfl)
    · exact .inl (by rw [heq, hproperty]; rfl)
  · exact .inl (heq ▸ rfl)
  · exact .inl (heq ▸ rfl)

/-- An escape is not of any other kind. -/
theorem escapeOf_kind_ne {kind : Kind} (hescape : isEscapeKind kind = false)
    (hname : kind ≠ .namedBackreference) (c : Char) (after : List Char) :
    (escapeOf c after).kind ≠ kind := by
  intro hkind
  rcases escapeOf_cases c after with hother | ⟨-, heq⟩
  · rw [hkind, hescape] at hother
    cases hother
  · rw [heq] at hkind
    rcases namedReference_cases after with hreference | ⟨n, hreference⟩
    · rw [← hkind, hreference] at hescape
      cases hescape
    · rw [hreference] at hkind
      exact hname hkind.symm

/-- A reference by name is an escape with the letter for it, or stands in parentheses. -/
theorem scan_namedBackreference {extended : Bool} {c : Char} {rest : List Char} {lexeme : Lexeme}
    (h : scan extended c rest = .ok lexeme) (hkind : lexeme.kind = .namedBackreference) :
    (c = '\\' ∧ ∃ after, rest = 'k' :: after ∧ lexeme = namedReference after) ∨
      (c = '(' ∧ parenthesizedReference? rest = some lexeme) := by
  have hplain := scanPlain_of_scan h (by rw [hkind]; exact Kind.noConfusion)
    (fun q => by rw [hkind]; exact Kind.noConfusion)
  rcases scanPlain_cases hplain with ⟨rfl, d, after, rfl, rfl⟩ | ⟨rfl, rfl⟩ | hbare
  · rcases escapeOf_cases d after with hescape | ⟨rfl, heq⟩
    · rw [hkind] at hescape
      cases hescape
    · exact .inl ⟨rfl, after, rfl, heq⟩
  · refine .inr ⟨rfl, ?_⟩
    rcases parenthesis_cases rest with hrule | hrule | hrule | hrule | hrule | hrule
    · obtain ⟨opener, hopens, -⟩ := fixedOpener?_kind hrule
      exact absurd (hkind.symm.trans hopens) Kind.noConfusion
    · exact hrule
    · exact absurd (hkind.symm.trans (conditionalOpener?_kind hrule)) Kind.noConfusion
    · exact absurd (hkind.symm.trans (namedOpener?_kind hrule)) Kind.noConfusion
    · rcases flagged?_kind hrule with hflags | hflags <;>
        exact absurd (hkind.symm.trans hflags) Kind.noConfusion
    · exact absurd (hkind.symm.trans (congrArg Lexeme.kind hrule)) Kind.noConfusion
  · rw [hkind] at hbare
    cases hbare

/-- The kinds of lexemes that only a parenthesis begins. -/
def isParenthesisKind : Kind → Bool
  | .groupOpen _ | .inlineFlags => true
  | _ => false

/-- A group and a switch of flags begin with a parenthesis. -/
theorem scan_parenthesis {extended : Bool} {c : Char} {rest : List Char} {lexeme : Lexeme}
    (h : scan extended c rest = .ok lexeme) (hkind : isParenthesisKind lexeme.kind = true) :
    c = '(' ∧ lexeme = parenthesis rest := by
  have hne {kind : Kind} (hno : isParenthesisKind kind = false) : lexeme.kind ≠ kind := by
    rintro rfl
    rw [hno] at hkind
    cases hkind
  have hplain := scanPlain_of_scan h (hne rfl) (fun _ => hne rfl)
  rcases scanPlain_cases hplain with ⟨rfl, d, after, rfl, rfl⟩ | hparenthesis | hbare
  · have hescape : isEscapeKind (escapeOf d after).kind = false := by
      revert hkind
      cases (escapeOf d after).kind <;> simp [isParenthesisKind, isEscapeKind]
    exact absurd rfl (escapeOf_kind_ne hescape (hne rfl) d after)
  · exact hparenthesis
  · revert hkind hbare
    cases lexeme.kind <;> simp [isParenthesisKind, isBareKind]

/-- A parenthesis begins a group, a switch of flags or a reference by name. -/
theorem parenthesis_kind (rest : List Char) :
    isParenthesisKind (parenthesis rest).kind = true ∨
      (parenthesis rest).kind = .namedBackreference := by
  rcases parenthesis_cases rest with hrule | hrule | hrule | hrule | hrule | hrule
  · obtain ⟨opener, hopens, -⟩ := fixedOpener?_kind hrule
    exact .inl (by rw [hopens]; rfl)
  · exact .inr (parenthesizedReference?_kind hrule)
  · exact .inl (by rw [conditionalOpener?_kind hrule]; rfl)
  · exact .inl (by rw [namedOpener?_kind hrule]; rfl)
  · rcases flagged?_kind hrule with hflags | hflags <;> exact .inl (by rw [hflags]; rfl)
  · exact .inl (by rw [hrule]; rfl)

/-- What a parenthesis begins is not of any other kind. -/
theorem parenthesis_kind_ne {kind : Kind} (hparenthesis : isParenthesisKind kind = false)
    (hname : kind ≠ .namedBackreference) (rest : List Char) : (parenthesis rest).kind ≠ kind := by
  intro hkind
  rcases parenthesis_kind rest with hother | hother
  · rw [hkind, hparenthesis] at hother
    cases hother
  · exact hname (hkind.symm.trans hother)

/-- Where neither trivia nor a quantifier begins, the token is neither. -/
theorem scanPlain_kind {extended : Bool} {c : Char} {rest : List Char} {lexeme : Lexeme}
    (h : scanPlain extended c rest = .ok lexeme) :
    lexeme.kind ≠ .trivia ∧ ∀ q, lexeme.kind ≠ .quantifier q := by
  rcases scanPlain_cases h with ⟨rfl, d, after, rfl, rfl⟩ | ⟨rfl, rfl⟩ | hbare
  · exact ⟨escapeOf_kind_ne rfl Kind.noConfusion d after,
      fun q => escapeOf_kind_ne rfl Kind.noConfusion d after⟩
  · exact ⟨parenthesis_kind_ne rfl Kind.noConfusion rest,
      fun q => parenthesis_kind_ne rfl Kind.noConfusion rest⟩
  · revert hbare
    cases lexeme.kind <;> simp [isBareKind]

/-- The rule for a parenthesis that is none of the fixed openers, nor a plain one or a reference by name. -/
theorem parenthesis_rule (rest : List Char)
    (hopener : ∀ opener, (parenthesis rest).kind = .groupOpen opener →
      opener ∈ [Opener.conditional, .named, .flagged])
    (hreference : (parenthesis rest).kind ≠ .namedBackreference) :
    (conditionalOpener? rest = some (parenthesis rest) ∧
        (parenthesis rest).kind = .groupOpen .conditional) ∨
      (namedOpener? rest = some (parenthesis rest) ∧ (parenthesis rest).kind = .groupOpen .named) ∨
      (flagged? rest = some (parenthesis rest) ∧
        ((parenthesis rest).kind = .inlineFlags ∨ (parenthesis rest).kind = .groupOpen .flagged)) := by
  rcases parenthesis_cases rest with hrule | hrule | hrule | hrule | hrule | hrule
  · obtain ⟨opener, hopens, hmem⟩ := fixedOpener?_kind hrule
    have hother : ∀ opener ∈ [Opener.nonCapturing, .lookAhead, .negativeLookAhead, .lookBehind,
        .negativeLookBehind, .atomic], opener ∉ [Opener.conditional, .named, .flagged] := by decide
    exact absurd (hopener opener hopens) (hother opener hmem)
  · exact absurd (parenthesizedReference?_kind hrule) hreference
  · exact .inl ⟨hrule, conditionalOpener?_kind hrule⟩
  · exact .inr (.inl ⟨hrule, namedOpener?_kind hrule⟩)
  · exact .inr (.inr ⟨hrule, flagged?_kind hrule⟩)
  · exact absurd (hopener _ (congrArg Lexeme.kind hrule)) (by decide)

/-- The opener of a named group is a parenthesis with the rule for it. -/
theorem scan_named {extended : Bool} {c : Char} {rest : List Char} {lexeme : Lexeme}
    (h : scan extended c rest = .ok lexeme) (hkind : lexeme.kind = .groupOpen .named) :
    c = '(' ∧ namedOpener? rest = some lexeme := by
  obtain ⟨rfl, rfl⟩ := scan_parenthesis h (by rw [hkind]; rfl)
  have hrule := parenthesis_rule rest (by simp [hkind]) (by simp [hkind])
  simpa [hkind] using hrule

/-- The opener of a conditional is a parenthesis with the rule for it. -/
theorem scan_conditional {extended : Bool} {c : Char} {rest : List Char} {lexeme : Lexeme}
    (h : scan extended c rest = .ok lexeme) (hkind : lexeme.kind = .groupOpen .conditional) :
    c = '(' ∧ conditionalOpener? rest = some lexeme := by
  obtain ⟨rfl, rfl⟩ := scan_parenthesis h (by rw [hkind]; rfl)
  have hrule := parenthesis_rule rest (by simp [hkind]) (by simp [hkind])
  simpa [hkind] using hrule

/-- A switch of flags, alone or as an opener, is a parenthesis with the rule for it. -/
theorem scan_flagged {extended : Bool} {c : Char} {rest : List Char} {lexeme : Lexeme}
    (h : scan extended c rest = .ok lexeme)
    (hkind : lexeme.kind = .groupOpen .flagged ∨ lexeme.kind = .inlineFlags) :
    c = '(' ∧ flagged? rest = some lexeme := by
  have hparenthesis : isParenthesisKind lexeme.kind = true := by
    rcases hkind with hkind | hkind <;> rw [hkind] <;> rfl
  obtain ⟨rfl, rfl⟩ := scan_parenthesis h hparenthesis
  rcases hkind with hkind | hkind
  · have hrule := parenthesis_rule rest (by simp [hkind]) (by simp [hkind])
    simpa [hkind] using hrule
  · have hrule := parenthesis_rule rest (by simp [hkind]) (by simp [hkind])
    simpa [hkind] using hrule

/-- A quantifier is found by the rule for it. -/
theorem scan_quantifier {extended : Bool} {c : Char} {rest : List Char} {lexeme : Lexeme} {q : Quantifier}
    (h : scan extended c rest = .ok lexeme) (hkind : lexeme.kind = .quantifier q) :
    quantifier? (c :: rest) = some (q, lexeme.length) := by
  unfold scan at h
  split at h
  · cases h
    cases hkind
  · split at h
    · rename_i hquantifier
      cases h
      rw [hquantifier, Kind.quantifier.inj hkind]
    · exact absurd hkind ((scanPlain_kind h).2 q)

end Railroad.Token
