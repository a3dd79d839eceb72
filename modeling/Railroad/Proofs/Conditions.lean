import Railroad.Proofs.Balance
import Railroad.Proofs.Lookahead
import Railroad.Proofs.PlainText
import Railroad.Proofs.ShownCharacters

/-!
# Where a condition ends

The opener of a conditional holds its whole condition, and the parenthesis that ends it is searched for by
counting. The count knows of escapes but of no other token, so it is right about a condition in which every
token that holds parentheses as text holds as many of both sorts, and it is wrong about a class with a single
one.
-/

namespace Railroad.Token

/-- How many parentheses are open behind a text that begins with `depth` open ones, where a backslash takes the
character after it along. There is no answer if one too many is closed, or if a backslash is left at the end. -/
def depthBehind? (depth : Nat) : List Char → Option Nat
  | [] => some depth
  | ['\\'] => none
  | '\\' :: _ :: rest => depthBehind? depth rest
  | c :: rest =>
    if c == '(' then depthBehind? (depth + 1) rest
    else if c == ')' then if depth == 0 then none else depthBehind? (depth - 1) rest
    else depthBehind? depth rest

/-- Only a backslash takes the character behind it along. -/
theorem depthBehind?_cons {c : Char} (hc : c ≠ '\\') (depth : Nat) (rest : List Char) :
    depthBehind? depth (c :: rest) =
      if c == '(' then depthBehind? (depth + 1) rest
      else if c == ')' then if depth == 0 then none else depthBehind? (depth - 1) rest
      else depthBehind? depth rest := by
  rw [depthBehind?]
  · exact fun hslash => absurd hslash hc
  · exact fun _ _ hslash => absurd hslash hc

/-- The counts of two texts add up. -/
theorem depthBehind?_append {depth middle : Nat} {front : List Char} (h : depthBehind? depth front = some middle)
    (back : List Char) : depthBehind? depth (front ++ back) = depthBehind? middle back := by
  fun_induction depthBehind? depth front with
  | case1 depth =>
    cases h
    rfl
  | case2 => cases h
  | case3 depth _ rest ih => exact ih h
  | case4 depth c rest hlast hpair hopen ih =>
    rw [beq_iff_eq] at hopen
    subst hopen
    exact ih h
  | case5 depth c rest hlast hpair hopen hclose hdepth => cases h
  | case6 depth c rest hlast hpair hopen hclose hdepth ih =>
    rw [beq_iff_eq] at hclose
    subst hclose
    rw [List.cons_append, depthBehind?_cons (by decide), if_neg hopen, if_pos (by decide), if_neg hdepth]
    exact ih h
  | case7 depth c rest hlast hpair hopen hclose ih =>
    have hc : c ≠ '\\' := fun hslash => by
      cases rest with
      | nil => exact hlast hslash rfl
      | cons d more => exact hpair d more hslash rfl
    rw [List.cons_append, depthBehind?_cons hc, if_neg hopen, if_neg hclose]
    exact ih h

/-- The search for the end of a condition ends behind a text exactly if the text closes all that it opens. -/
theorem closingParen?_append_iff (depth : Nat) (condition behind : List Char) :
    closingParen? depth (condition ++ ')' :: behind) = some condition.length ↔
      depthBehind? depth condition = some 0 := by
  have hfurther (found : Option Nat) (n k : Nat) : found.map (· + k) = some (n + k) ↔ found = some n := by
    cases found <;> simp
  fun_induction depthBehind? depth condition with
  | case1 depth =>
    rw [List.nil_append, closingParen?_cons (by decide)]
    cases depth with
    | zero => simp
    | succ depth =>
      have hnever (found : Option Nat) : found.map (· + 1) ≠ some 0 := by cases found <;> simp
      simp [hnever]
  | case2 depth =>
    have hnever (found : Option Nat) : found.map (· + 2) ≠ some 1 := by cases found <;> simp
    simp [closingParen?, hnever]
  | case3 depth c rest ih => exact (hfurther _ rest.length 2).trans ih
  | case4 depth c rest hlast hpair hopen ih =>
    rw [beq_iff_eq] at hopen
    subst hopen
    exact (hfurther _ rest.length 1).trans ih
  | case5 depth c rest hlast hpair hopen hclose hdepth =>
    rw [beq_iff_eq] at hclose hdepth
    subst hclose hdepth
    simp [closingParen?_cons]
  | case6 depth c rest hlast hpair hopen hclose hdepth ih =>
    rw [beq_iff_eq] at hclose
    subst hclose
    rw [List.cons_append, closingParen?_cons (by decide), if_neg hopen, if_pos (by decide), if_neg hdepth]
    exact (hfurther _ rest.length 1).trans ih
  | case7 depth c rest hlast hpair hopen hclose ih =>
    have hc : c ≠ '\\' := fun hslash => by
      cases rest with
      | nil => exact hlast hslash rfl
      | cons d more => exact hpair d more hslash rfl
    rw [List.cons_append, closingParen?_cons hc, if_neg hopen, if_neg hclose]
    exact (hfurther _ rest.length 1).trans ih

/-- The text opens and closes nothing as the search counts. -/
def Silent (text : List Char) : Prop := ∀ depth, depthBehind? depth text = some depth

/-- A character that the search passes over. -/
def isPassed (c : Char) : Bool := !(['\\', '(', ')'].contains c)

/-- The search passes over such a character wherever it stands. -/
theorem depthBehind?_of_isPassed {c : Char} (hc : isPassed c = true) (depth : Nat) (rest : List Char) :
    depthBehind? depth (c :: rest) = depthBehind? depth rest := by
  simp only [isPassed, List.contains_cons, List.contains_nil, Bool.not_eq_true', Bool.or_eq_false_iff,
    beq_eq_false_iff_ne] at hc
  obtain ⟨hslash, hopen, hclose, -⟩ := hc
  rw [depthBehind?_cons hslash, if_neg (by simpa using hopen), if_neg (by simpa using hclose)]

/-- A text of such characters is passed over as a whole. -/
theorem depthBehind?_of_forall_isPassed {front : List Char} (h : ∀ c ∈ front, isPassed c = true) (depth : Nat)
    (rest : List Char) : depthBehind? depth (front ++ rest) = depthBehind? depth rest := by
  induction front with
  | nil => rfl
  | cons c front ih =>
    rw [List.forall_mem_cons] at h
    rw [List.cons_append, depthBehind?_of_isPassed h.1, ih h.2]

/-- It opens and closes nothing. -/
theorem Silent.of_forall_isPassed {text : List Char} (h : ∀ c ∈ text, isPassed c = true) : Silent text := by
  intro depth
  have hpassed := depthBehind?_of_forall_isPassed h depth []
  rwa [List.append_nil] at hpassed

/-- A class of characters without the three is passed over. -/
theorem isPassed_of_property {p : Char → Bool} (hnone : ['\\', '(', ')'].any p = false) {c : Char}
    (hc : p c = true) : isPassed c = true := by
  rw [isPassed, Bool.not_eq_true', ← Bool.not_eq_true, List.contains_iff_mem]
  intro hmem
  exact Bool.eq_false_iff.mp hnone (List.any_eq_true.mpr ⟨c, hmem, hc⟩)

/-- Plain text is passed over. -/
theorem isPassed_of_isPlain {extended : Bool} {c : Char} (h : isPlain extended c = true) :
    isPassed c = true := by
  refine isPassed_of_property (p := isPlain extended) ?_ h
  cases extended <;> decide

/-- The tokens whose text may hold parentheses that neither open nor close a group: classes, properties,
references by name, trivia and the longer escapes. -/
def mayHide (token : Token) : Bool :=
  match token.kind with
  | .bracket | .unicodeProperty _ | .namedBackreference | .trivia => true
  | .escape => 2 < token.raw.length
  | _ => false

/-- The kinds of the escapes that can be longer than a backslash and a character. -/
def isLongKind : Kind → Bool
  | .backreference _ | .unicodeProperty _ | .namedBackreference | .escape => true
  | _ => false

/-- An escape is a backslash and a character, or longer and of one of these kinds. -/
theorem escapeOf_length (d : Char) (after : List Char) :
    (escapeOf d after).length = 2 ∨
      isLongKind (escapeOf d after).kind = true ∧ 2 < (escapeOf d after).length := by
  have hcount {kind : Kind} (hkind : isLongKind kind = true) {n : Nat}
      (heq : escapeOf d after = ⟨kind, n + 2⟩) : (escapeOf d after).length = 2 ∨
        isLongKind (escapeOf d after).kind = true ∧ 2 < (escapeOf d after).length := by
    rw [heq]
    cases n with
    | zero => exact .inl rfl
    | succ n => exact .inr ⟨hkind, by simp⟩
  rcases escapeOf_rules d after with ⟨kind, -, heq⟩ | ⟨-, group, heq⟩ | ⟨-, heq⟩ | ⟨-, heq⟩ |
    ⟨width, -, heq⟩ | heq
  · exact .inl (by rw [heq])
  · exact hcount rfl heq
  · rcases namedReference_cases after with hname | ⟨n, hname⟩
    · exact .inl (by rw [heq, hname])
    · exact hcount rfl (heq.trans hname)
  · rcases property_cases (d == 'P') after with hproperty | ⟨n, hproperty⟩
    · exact .inl (by rw [heq, hproperty])
    · exact hcount rfl (heq.trans hproperty)
  · exact hcount rfl heq
  · exact .inl (by rw [heq])

/-- An escape that hides nothing is a backslash with one character, or with the digits of a reference. -/
theorem silent_escapeOf {d : Char} {after : List Char} {offset : Nat}
    (h : (ofLexeme (escapeOf d after) offset ('\\' :: d :: after)).mayHide = false) :
    Silent (ofLexeme (escapeOf d after) offset ('\\' :: d :: after)).raw.toList := by
  rcases escapeOf_length d after with hlength | ⟨hkind, hlength⟩
  · intro depth
    rw [ofLexeme, hlength, String.toList_ofList]
    rfl
  · have hfits := (escapeOf_fits d after).2
    have hraw : (ofLexeme (escapeOf d after) offset ('\\' :: d :: after)).raw.length =
        (escapeOf d after).length := by
      rw [ofLexeme, String.length_ofList, List.length_take]
      exact Nat.min_eq_left hfits
    cases hcase : (escapeOf d after).kind with
    | backreference number =>
      obtain ⟨hdigit, hdigits⟩ := escapeOf_backreference hcase
      have htake : ('\\' :: d :: after).take (escapeOf d after).length =
          '\\' :: d :: after.takeWhile Char.isDigit := by
        rw [hdigits, List.take_succ_cons, List.take_succ_cons,
          ← List.prefix_iff_eq_take.mp (List.takeWhile_prefix Char.isDigit)]
      intro depth
      rw [ofLexeme, String.toList_ofList, htake]
      exact Silent.of_forall_isPassed (fun e hmem =>
        isPassed_of_property (by decide) (List.all_eq_true.mp List.all_takeWhile e hmem)) depth
    | unicodeProperty _ | namedBackreference =>
      simp only [mayHide, ofLexeme, hcase, Bool.true_eq_false] at h
    | escape =>
      rw [mayHide, hraw] at h
      simp only [ofLexeme, hcase, decide_eq_false_iff_not] at h
      exact absurd hlength h
    | _ =>
      rw [hcase] at hkind
      cases hkind

/-- A token counts by its text as much as by its kind. -/
structure Counts (token : Token) : Prop where
  /-- An opener opens one parenthesis more than it closes. -/
  opens : token.opensGroup = true → ∀ depth, depthBehind? depth token.raw.toList = some (depth + 1)
  /-- A close is one parenthesis. -/
  closes : token.closesGroup = true → token.raw.toList = [')']
  /-- Any other token opens and closes nothing. -/
  other : token.opensGroup = false → token.closesGroup = false → Silent token.raw.toList

/-- An opener counts as one. -/
theorem Counts.of_opensGroup {token : Token} (hopens : token.opensGroup = true)
    (h : ∀ depth, depthBehind? depth token.raw.toList = some (depth + 1)) : token.Counts where
  opens := fun _ => h
  closes := fun hcloses => absurd (closesGroup_of_opensGroup hopens) (Bool.not_eq_false _ ▸ hcloses)
  other := fun hnone => absurd hopens (Bool.eq_false_iff.mp hnone)

/-- A token that is neither an opener nor a close counts as none. -/
theorem Counts.of_silent {token : Token} (hopens : token.opensGroup = false)
    (hcloses : token.closesGroup = false) (h : Silent token.raw.toList) : token.Counts where
  opens := fun hopener => absurd hopener (Bool.eq_false_iff.mp hopens)
  closes := fun hclose => absurd hclose (Bool.eq_false_iff.mp hcloses)
  other := fun _ _ => h

/-- An opening parenthesis with passed characters behind it opens one. -/
theorem depthBehind?_opener {text : List Char} (h : ∀ c ∈ text, isPassed c = true) (depth : Nat) :
    depthBehind? depth ('(' :: text) = some (depth + 1) := Silent.of_forall_isPassed h (depth + 1)

/-- What is open further out stays open. -/
theorem depthBehind?_raised {depth behind : Nat} {text : List Char} (h : depthBehind? depth text = some behind)
    (n : Nat) : depthBehind? (depth + n) text = some (behind + n) := by
  fun_induction depthBehind? depth text with
  | case1 depth =>
    cases h
    rfl
  | case2 => cases h
  | case3 depth _ rest ih => exact ih h
  | case4 depth c rest hlast hpair hopen ih =>
    rw [beq_iff_eq] at hopen
    subst hopen
    rw [depthBehind?_cons (by decide), if_pos (by decide), Nat.add_right_comm]
    exact ih h
  | case5 depth c rest hlast hpair hopen hclose hdepth => cases h
  | case6 depth c rest hlast hpair hopen hclose hdepth ih =>
    rw [beq_iff_eq] at hclose
    subst hclose
    have hpos : 0 < depth := Nat.pos_of_ne_zero (by simpa using hdepth)
    rw [depthBehind?_cons (by decide), if_neg hopen, if_pos (by decide), if_neg (by simp; omega),
      Nat.sub_add_comm hpos]
    exact ih h
  | case7 depth c rest hlast hpair hopen hclose ih =>
    have hc : c ≠ '\\' := fun hslash => by
      cases rest with
      | nil => exact hlast hslash rfl
      | cons d more => exact hpair d more hslash rfl
    rw [depthBehind?_cons hc, if_neg hopen, if_neg hclose]
    exact ih h

/-- The opener of a conditional opens one group, and its condition closes what it opens. -/
theorem depthBehind?_conditionalOpener? {rest : List Char} {lexeme : Lexeme}
    (h : conditionalOpener? rest = some lexeme) (depth : Nat) :
    depthBehind? depth (('(' :: rest).take lexeme.length) = some (depth + 1) := by
  unfold conditionalOpener? at h
  split at h
  · rename_i text
    obtain ⟨n, hn, rfl⟩ := Option.map_eq_some_iff.mp h
    obtain ⟨more, hmore⟩ := List.head?_eq_some_iff.mp (head?_drop_of_closingParen? hn)
    have hlength := List.length_take_of_le (Nat.le_of_lt (closingParen?_lt hn))
    have htext : text = text.take n ++ ')' :: more := by rw [← hmore, List.take_append_drop]
    generalize text.take n = condition at hlength htext
    subst htext hlength
    have hinside := depthBehind?_raised ((closingParen?_append_iff 0 condition more).mp hn) (depth + 2)
    rw [Nat.zero_add] at hinside
    have htake : ('(' :: '?' :: '(' :: (condition ++ ')' :: more)).take (condition.length + 4) =
        '(' :: '?' :: '(' :: (condition ++ [')']) := take_delimited ['(', '?', '('] condition ')' more
    rw [htake]
    exact depthBehind?_append hinside [')']
  · cases h

/-- The opener of a named group opens one. -/
theorem depthBehind?_namedOpener? {rest : List Char} {lexeme : Lexeme}
    (h : namedOpener? rest = some lexeme) (depth : Nat) :
    depthBehind? depth (('(' :: rest).take lexeme.length) = some (depth + 1) := by
  have hname (opening : List Char) (hopening : ∀ c ∈ opening, isPassed c = true) {name : List Char}
      (hname : ∀ c ∈ name, isNameChar c = true) :
      depthBehind? depth ('(' :: (opening ++ name ++ ['>'])) = some (depth + 1) := by
    refine depthBehind?_opener (fun c hmem => ?_) depth
    simp only [List.mem_append, List.mem_singleton] at hmem
    rcases hmem with (hmem | hmem) | rfl
    · exact hopening c hmem
    · exact isPassed_of_property (by decide) (hname c hmem)
    · decide
  unfold namedOpener? at h
  split at h
  · obtain ⟨n, hn, rfl⟩ := Option.map_eq_some_iff.mp h
    obtain ⟨name, more, rfl, rfl, hall⟩ := exists_name_of_nameLength? hn
    have htake : ('(' :: '?' :: '<' :: (name ++ '>' :: more)).take (name.length + 4) =
        '(' :: (['?', '<'] ++ name ++ ['>']) := take_delimited ['(', '?', '<'] name '>' more
    rw [htake]
    exact hname ['?', '<'] (by simp [isPassed]) hall
  · obtain ⟨n, hn, rfl⟩ := Option.map_eq_some_iff.mp h
    obtain ⟨name, more, rfl, rfl, hall⟩ := exists_name_of_nameLength? hn
    have htake : ('(' :: '?' :: 'P' :: '<' :: (name ++ '>' :: more)).take (name.length + 5) =
        '(' :: (['?', 'P', '<'] ++ name ++ ['>']) := take_delimited ['(', '?', 'P', '<'] name '>' more
    rw [htake]
    exact hname ['?', 'P', '<'] (by simp [isPassed]) hall
  · cases h

/-- An opener with a fixed spelling opens one group. -/
theorem depthBehind?_fixedOpener? {rest : List Char} {lexeme : Lexeme}
    (h : fixedOpener? rest = some lexeme) (depth : Nat) :
    depthBehind? depth (('(' :: rest).take lexeme.length) = some (depth + 1) := by
  unfold fixedOpener? at h
  split at h <;> cases h <;> exact depthBehind?_opener (by simp [isPassed]) depth

/-- Flag letters are passed over up to the character that ends them. -/
theorem depthBehind?_flags {letters : List Char} (h : ∀ c ∈ letters, (c.isAlpha || c == '-') = true)
    (depth : Nat) (last : List Char) :
    depthBehind? depth ('(' :: '?' :: (letters ++ last)) = depthBehind? (depth + 1) last :=
  depthBehind?_of_forall_isPassed (fun c hmem =>
    isPassed_of_property (p := fun c => c.isAlpha || c == '-') (by decide) (h c hmem)) (depth + 1) last

/-- What a parenthesis begins counts as one if it is an opener, and as none if it is a switch of flags. -/
theorem counts_parenthesis {rest : List Char} {offset : Nat}
    (h : (ofLexeme (parenthesis rest) offset ('(' :: rest)).mayHide = false) :
    (ofLexeme (parenthesis rest) offset ('(' :: rest)).Counts := by
  have hopener {opener : Opener} (hkind : (parenthesis rest).kind = .groupOpen opener)
      (hdepth : ∀ depth, depthBehind? depth (('(' :: rest).take (parenthesis rest).length) =
        some (depth + 1)) : (ofLexeme (parenthesis rest) offset ('(' :: rest)).Counts := by
    refine .of_opensGroup (by rw [opensGroup, ofLexeme, hkind]) ?_
    rwa [ofLexeme, String.toList_ofList]
  rcases parenthesis_cases rest with hrule | hrule | hrule | hrule | hrule | hrule
  · obtain ⟨opener, hkind, -⟩ := fixedOpener?_kind hrule
    exact hopener hkind (depthBehind?_fixedOpener? hrule)
  · rw [mayHide, ofLexeme, parenthesizedReference?_kind hrule] at h
    cases h
  · exact hopener (conditionalOpener?_kind hrule) (depthBehind?_conditionalOpener? hrule)
  · exact hopener (namedOpener?_kind hrule) (depthBehind?_namedOpener? hrule)
  · obtain ⟨letters, mark, htake, hletters, hmark⟩ := flagged?_mark hrule
    have hdepth (depth : Nat) := depthBehind?_flags hletters depth [mark]
    rcases hmark with ⟨rfl, hkind⟩ | ⟨rfl, hkind⟩
    · refine .of_silent (by rw [opensGroup, ofLexeme, hkind]) (by simp [closesGroup, ofLexeme, hkind]) ?_
      intro depth
      rw [ofLexeme, String.toList_ofList, htake, hdepth]
      rfl
    · refine hopener hkind fun depth => ?_
      rw [htake, hdepth]
      rfl
  · refine hopener (congrArg Lexeme.kind hrule) fun depth => ?_
    rw [hrule]
    rfl

/-- Only an opener opens a group. -/
theorem opensGroup_of_ne {token : Token} (h : ∀ opener, token.kind ≠ .groupOpen opener) :
    token.opensGroup = false := by
  unfold opensGroup
  split
  · rename_i opener hkind
    exact absurd hkind (h opener)
  · rfl

/-- A token that may hide parentheses neither opens nor closes a group. -/
theorem opensGroup_of_mayHide {token : Token} (h : token.mayHide = true) :
    token.opensGroup = false ∧ token.closesGroup = false := by
  unfold mayHide at h
  split at h
  case h_6 => cases h
  all_goals
    rename_i hkind
    simp [opensGroup, closesGroup, hkind]

/-- Every token counts by its text as much as by its kind if what it hides is balanced. -/
theorem Counts.of_scan {extended : Bool} {c : Char} {rest : List Char} {lexeme : Lexeme}
    (h : scan extended c rest = .ok lexeme) (offset : Nat)
    (hsilent : (ofLexeme lexeme offset (c :: rest)).mayHide = true →
      Silent (ofLexeme lexeme offset (c :: rest)).raw.toList) :
    (ofLexeme lexeme offset (c :: rest)).Counts := by
  have hother {lexeme : Lexeme} (hopens : (ofLexeme lexeme offset (c :: rest)).opensGroup = false)
      (hcloses : (ofLexeme lexeme offset (c :: rest)).closesGroup = false)
      (hpassed : ∀ d ∈ (c :: rest).take lexeme.length, isPassed d = true) :
      (ofLexeme lexeme offset (c :: rest)).Counts := by
    refine .of_silent hopens hcloses ?_
    rw [ofLexeme, String.toList_ofList]
    exact .of_forall_isPassed hpassed
  cases hhide : (ofLexeme lexeme offset (c :: rest)).mayHide with
  | true =>
    obtain ⟨hopens, hcloses⟩ := opensGroup_of_mayHide hhide
    exact .of_silent hopens hcloses (hsilent hhide)
  | false =>
    rcases scan_cases h with ⟨hkind, -⟩ | ⟨-, ⟨q, hkind, hquantifier⟩ | ⟨-, hplain⟩⟩
    · simp [mayHide, ofLexeme, hkind] at hhide
    · exact hother (by simp [opensGroup, ofLexeme, hkind]) (by simp [closesGroup, ofLexeme, hkind])
        fun d hmem => isPassed_of_property (by decide) (isQuantifierChar_of_quantifier? hquantifier d hmem)
    · clear h hsilent
      unfold scanPlain at hplain
      split at hplain
      · split at hplain
        · cases hplain
        · rename_i d after
          cases hplain
          refine .of_silent (opensGroup_of_ne fun opener => ?_) (decide_eq_false ?_) (silent_escapeOf hhide)
          · exact escapeOf_kind_ne rfl Kind.noConfusion d after
          · exact escapeOf_kind_ne rfl Kind.noConfusion d after
      · cases hplain
        exact hother rfl rfl (by simp [isPassed])
      · cases hplain
        exact hother rfl rfl (by simp [isPassed])
      · cases hplain
        exact hother rfl rfl (by simp [isPassed])
      · cases hplain
        exact hother rfl rfl (by simp [isPassed])
      · cases hplain
        exact ⟨fun hopens => Bool.noConfusion hopens, fun _ => String.toList_ofList,
          fun _ hcloses => Bool.noConfusion hcloses⟩
      · cases hplain
        exact counts_parenthesis hhide
      · split at hplain
        · cases hplain
          cases hhide
        · cases hplain
      · cases hplain
        exact hother rfl rfl (by simp [isPassed])
      · cases hplain
        exact hother rfl rfl fun d hmem => isPassed_of_isPlain (isPlain_of_mem_take hmem)

/-- A token leaves as many parentheses open as groups. -/
theorem Counts.depthBehind?_eq {token : Token} (h : token.Counts) {depth : Nat}
    (hopen : closings [token] ≤ depth + openings [token]) :
    depthBehind? depth token.raw.toList = some (depth + openings [token] - closings [token]) := by
  cases hopens : token.opensGroup with
  | true =>
    have hnone := closesGroup_of_opensGroup hopens
    rw [h.opens hopens, openings_cons_of_opensGroup [] hopens, closings_cons_of_not_closesGroup [] hnone]
    rfl
  | false =>
    rw [openings_cons_of_not_opensGroup [] hopens] at hopen ⊢
    cases hcloses : token.closesGroup with
    | true =>
      rw [closings_cons_of_closesGroup [] hcloses] at hopen ⊢
      have hpos : 0 < depth := hopen
      rw [h.closes hcloses, depthBehind?_cons (by decide), if_neg (by decide), if_pos (by decide),
        if_neg (by simp; omega)]
      rfl
    | false =>
      rw [closings_cons_of_not_closesGroup [] hcloses]
      exact h.other hopens hcloses depth

/-- Tokens that count by their texts leave as many parentheses open as groups. -/
theorem depthBehind?_flatMap {tokens : List Token} (hcounts : ∀ token ∈ tokens, token.Counts) {depth : Nat}
    (hopen : ∀ front back, tokens = front ++ back → closings front ≤ depth + openings front) :
    depthBehind? depth (tokens.flatMap (·.raw.toList)) = some (depth + openings tokens - closings tokens) := by
  induction tokens generalizing depth with
  | nil => rfl
  | cons token tokens ih =>
    rw [List.forall_mem_cons] at hcounts
    have hopens (front : List Token) : openings (token :: front) = openings [token] + openings front :=
      openings_append [token] front
    have hcloses (front : List Token) : closings (token :: front) = closings [token] + closings front :=
      closings_append [token] front
    have hfirst := hopen [token] tokens rfl
    have hbehind : ∀ front back, tokens = front ++ back →
        closings front ≤ depth + openings [token] - closings [token] + openings front := by
      intro front back hsplit
      have hfront := hopen (token :: front) back (congrArg _ hsplit)
      rw [hopens, hcloses] at hfront
      omega
    have hall := hopen (token :: tokens) [] (List.append_nil _).symm
    rw [hopens, hcloses] at hall ⊢
    rw [List.flatMap_cons, depthBehind?_append (hcounts.1.depthBehind?_eq hfirst), ih hcounts.2 hbehind]
    congr 1
    omega

/-- The first token is the opener of a conditional with this condition. -/
def OpensWith (condition : String) (tokens : List Token) : Prop :=
  ∃ opener behind, tokens = opener :: behind ∧ opener.kind = .groupOpen .conditional ∧
    opener.condition? = some condition

/-- The condition is the text in front of the parenthesis that is found. -/
theorem opensWith_iff {condition : String} {text : List Char} {tokens : List Token}
    (h : tokenize (String.ofList ('(' :: '?' :: '(' :: text)) = .ok tokens) :
    OpensWith condition tokens ↔
      ∃ n, closingParen? 0 text = some n ∧ condition = String.ofList (text.take n) := by
  have hcuts := tokensFrom_eq_ok_iff.mp h
  rw [String.toList_ofList] at hcuts
  have hscan : scan Scope.initial.extended '(' ('?' :: '(' :: text) = .ok (parenthesis ('?' :: '(' :: text)) :=
    rfl
  cases hcuts with
  | @step _ _ _ _ lexeme behind hfound _ =>
    obtain rfl : parenthesis ('?' :: '(' :: text) = lexeme := Except.ok.inj (hscan.symm.trans hfound)
    cases hn : closingParen? 0 text with
    | none =>
      have hplain : parenthesis ('?' :: '(' :: text) = ⟨.groupOpen .capturing, 1⟩ := by
        rw [parenthesis_condition, hn]
        rfl
      constructor
      · rintro ⟨opener, _, hopener, hkind, -⟩
        obtain ⟨rfl, -⟩ := List.cons.inj hopener
        rw [hplain] at hkind
        cases hkind
      · rintro ⟨n, hfalse, -⟩
        cases hfalse
    | some n =>
      have hopens : parenthesis ('?' :: '(' :: text) = ⟨.groupOpen .conditional, n + 4⟩ := by
        rw [parenthesis_condition, hn]
        rfl
      have hcondition : (ofLexeme (parenthesis ('?' :: '(' :: text)) 0 ('(' :: '?' :: '(' :: text)).condition? =
          some (String.ofList (text.take n)) := by
        rw [hopens]
        exact (condition?_of_closingParen? hn 0).1
      constructor
      · rintro ⟨opener, _, hopener, -, hheld⟩
        obtain ⟨rfl, -⟩ := List.cons.inj hopener
        exact ⟨n, rfl, Option.some.inj (hheld.symm.trans hcondition)⟩
      · rintro ⟨_, hsame, rfl⟩
        obtain rfl := Option.some.inj hsame
        exact ⟨_, behind, rfl, by rw [ofLexeme, hopens], hcondition⟩

/-- The texts of the tokens are the text that they were cut from. -/
theorem Cuts.flatMap_raw {scope : Scope} {offset : Nat} {text : List Char} {tokens : List Token}
    (h : Cuts scope offset text tokens) : tokens.flatMap (·.raw.toList) = text := by
  induction h with
  | done => rfl
  | step _ _ ih => rw [List.flatMap_cons, ih, ofLexeme, String.toList_ofList, List.take_append_drop]

/-- The condition of a conditional is the text between its opener and the parenthesis behind it exactly if this
text closes all that it opens, escaped parentheses apart. So it is where the tokens of the text close the groups
that they open, and the parentheses that other tokens hold are balanced as well; but where one too many is closed,
be it in a class, the condition ends there. -/
theorem opensWith_condition {condition rest : String} {inner tokens : List Token}
    (hinner : tokenize condition = .ok inner) (h : tokenize ("(?(" ++ condition ++ ")" ++ rest) = .ok tokens) :
    (OpensWith condition tokens ↔ depthBehind? 0 condition.toList = some 0) ∧
      (Balanced inner → (∀ token ∈ inner, token.mayHide = true → Silent token.raw.toList) →
        OpensWith condition tokens) ∧
      ∀ n, closingParen? 0 condition.toList = some n →
        OpensWith (String.ofList (condition.toList.take n)) tokens := by
  have hpattern : "(?(" ++ condition ++ ")" ++ rest =
      String.ofList ('(' :: '?' :: '(' :: (condition.toList ++ ')' :: rest.toList)) := by
    rw [← String.toList_inj]
    simp
  rw [hpattern] at h
  have hiff : OpensWith condition tokens ↔ depthBehind? 0 condition.toList = some 0 := by
    rw [opensWith_iff h, ← closingParen?_append_iff 0 condition.toList rest.toList]
    constructor
    · rintro ⟨n, hn, hcondition⟩
      have hlength := congrArg String.length hcondition
      rw [String.length_ofList, List.length_take_of_le (Nat.le_of_lt (closingParen?_lt hn)),
        ← String.length_toList] at hlength
      rwa [hlength]
    · intro hn
      exact ⟨_, hn, by rw [List.take_left, String.ofList_toList]⟩
  refine ⟨hiff, fun hbalanced hsilent => ?_, fun n hn => ?_⟩
  · have hcounts : ∀ token ∈ inner, token.Counts := by
      intro token hmem
      obtain ⟨extended, place, c, behind, lexeme, hscan, rfl⟩ :=
        (tokensFrom_eq_ok_iff.mp hinner).exists_scan hmem
      exact .of_scan hscan place (hsilent _ hmem)
    have hdepth : depthBehind? 0 (inner.flatMap (·.raw.toList)) = _ :=
      depthBehind?_flatMap hcounts fun front back hsplit => by
        rw [Nat.zero_add]
        exact hbalanced.staysOpen front back hsplit
    rw [(tokensFrom_eq_ok_iff.mp hinner).flatMap_raw, hbalanced.openings_eq, Nat.zero_add, Nat.sub_self] at hdepth
    exact hiff.mpr hdepth
  · refine (opensWith_iff h).mpr ⟨n, closingParen?_append hn _, ?_⟩
    rw [List.take_append_of_le_length (Nat.le_of_lt (closingParen?_lt hn))]

/-- An escaped parenthesis, a group with a name and a class with one parenthesis of each sort. -/
theorem tokenize_mixedCondition : tokenize "x\\)(?<n>y[(-)])" = .ok [⟨.literal, "x", 0⟩, ⟨.escape, "\\)", 1⟩,
    ⟨.groupOpen .named, "(?<n>", 3⟩, ⟨.literal, "y", 8⟩, ⟨.bracket, "[(-)]", 9⟩, ⟨.groupClose, ")", 14⟩] := by
  cbv

/-- They are a condition as a whole. -/
theorem opensWith_mixedCondition :
    ∃ tokens, tokenize ("(?(" ++ "x\\)(?<n>y[(-)])" ++ ")" ++ "a|b)") = .ok tokens ∧
      OpensWith "x\\)(?<n>y[(-)])" tokens := by
  have htokens : ∃ tokens, tokenize ("(?(" ++ "x\\)(?<n>y[(-)])" ++ ")" ++ "a|b)") = .ok tokens :=
    ⟨[⟨.groupOpen .conditional, "(?(x\\)(?<n>y[(-)]))", 0⟩, ⟨.literal, "a", 19⟩, ⟨.alternation, "|", 20⟩,
      ⟨.literal, "b", 21⟩, ⟨.groupClose, ")", 22⟩], by cbv⟩
  obtain ⟨tokens, htokens⟩ := htokens
  refine ⟨tokens, htokens, (opensWith_condition tokenize_mixedCondition htokens).2.1 ?_ ?_⟩
  · have hinside := (@balanced_singleton ⟨.literal, "y", 8⟩ rfl rfl).append
      (@balanced_singleton ⟨.bracket, "[(-)]", 9⟩ rfl rfl)
    have hgroup := @Balanced.group _ ⟨.groupOpen .named, "(?<n>", 3⟩ ⟨.groupClose, ")", 14⟩ hinside rfl rfl
    exact (@balanced_singleton ⟨.literal, "x", 0⟩ rfl rfl).append
      ((@balanced_singleton ⟨.escape, "\\)", 1⟩ rfl rfl).append hgroup)
  · have hclass : Silent "[(-)]".toList := fun depth => rfl
    simp only [List.forall_mem_cons]
    and_intros
    all_goals first
      | exact List.forall_mem_nil _
      | exact fun _ => hclass
      | exact fun hhides => absurd hhides (by decide)

/-- A class with a parenthesis that closes is a text whose tokens open and close nothing, and no condition. -/
theorem not_forall_opensWith_condition :
    ¬ ∀ (condition rest : String) (inner tokens : List Token), tokenize condition = .ok inner →
      Balanced inner → tokenize ("(?(" ++ condition ++ ")" ++ rest) = .ok tokens →
        OpensWith condition tokens := by
  intro h
  have hinner : tokenize "[)]" = .ok [⟨.bracket, "[)]", 0⟩] := by cbv
  have htokens : tokenize ("(?(" ++ "[)]" ++ ")" ++ "a|b)") = .ok [⟨.groupOpen .conditional, "(?([)", 0⟩,
      ⟨.literal, "]", 5⟩, ⟨.groupClose, ")", 6⟩, ⟨.literal, "a", 7⟩, ⟨.alternation, "|", 8⟩,
      ⟨.literal, "b", 9⟩, ⟨.groupClose, ")", 10⟩] := by cbv
  obtain ⟨opener, behind, hopener, -, hcondition⟩ := h _ _ _ _ hinner (balanced_singleton rfl rfl) htokens
  obtain ⟨rfl, -⟩ := List.cons.inj hopener
  have hheld : condition? ⟨.groupOpen .conditional, "(?([)", 0⟩ = some "[" := by cbv
  rw [hheld] at hcondition
  exact absurd (Option.some.inj hcondition) (by decide)

end Railroad.Token
