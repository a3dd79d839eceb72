import Railroad.Proofs.Blanks
import Railroad.Proofs.NameText

/-!
# What may stand behind a text

The rules for tokens look ahead of the token that they find: for closing braces and brackets, for the end of
a name or a condition, for quantifiers. A tail of the text that begins with a bracket, a backslash or a closing
parenthesis is nothing that runs, names and quantifiers go on with. Of two such tails each can be put in the
other's place where a token ends in front of them, as long as none brings along an end that is searched for in
vain.
-/

namespace Railroad.Token

/-- The characters that a quantifier is made of. -/
def isQuantifierChar (c : Char) : Bool := c.isDigit || ['*', '+', '?', '\x7b', ',', '\x7d'].contains c

/-- A count is made of digits. -/
theorem isQuantifierChar_of_count? {digits : List Char} {n : Nat} (h : count? digits = some n) :
    ∀ c ∈ digits, isQuantifierChar c = true := by
  unfold count? Text.decimal? at h
  split at h
  · rename_i hdecimal
    split at hdecimal
    · cases hdecimal
    · rename_i hall
      simp only [Bool.or_eq_true, not_or, Bool.not_eq_true', Bool.not_eq_false] at hall
      intro c hmem
      rw [isQuantifierChar, List.all_eq_true.mp hall.2 c hmem, Bool.true_or]
  · cases h

/-- The bounds of a repetition are made of digits and a comma. -/
theorem isQuantifierChar_of_bounds? {body : List Char} {r : Repetition} (h : bounds? body = some r) :
    ∀ c ∈ body, isQuantifierChar c = true := by
  have hsplit := List.takeWhile_append_dropWhile (p := (· != ',')) (l := body)
  have hcomma : ∀ c more, body.dropWhile (· != ',') = c :: more → isQuantifierChar c = true := by
    intro c more hdrop
    have hhead := List.head?_dropWhile_not (· != ',') body
    rw [hdrop] at hhead
    have heq : c = ',' := by simpa using hhead
    rw [heq]
    decide
  unfold bounds? at h
  dsimp only at h
  rw [← hsplit, List.forall_mem_append]
  split at h
  · rename_i hdrop
    obtain ⟨n, hlow, -⟩ := Option.map_eq_some_iff.mp h
    rw [hdrop]
    exact ⟨isQuantifierChar_of_count? hlow, List.forall_mem_nil _⟩
  · rename_i c hdrop
    obtain ⟨n, hlow, -⟩ := Option.map_eq_some_iff.mp h
    rw [hdrop]
    exact ⟨isQuantifierChar_of_count? hlow, List.forall_mem_singleton.mpr (hcomma _ _ hdrop)⟩
  · rename_i c high _ hdrop
    split at h
    · rename_i n m hlow hhigh
      rw [hdrop]
      exact ⟨isQuantifierChar_of_count? hlow,
        List.forall_mem_cons.mpr ⟨hcomma _ _ hdrop, isQuantifierChar_of_count? hhigh⟩⟩
    · cases h

/-- A repetition is one of three characters or stands in braces. -/
theorem isQuantifierChar_of_repetition? {text : List Char} {r : Repetition} {n : Nat}
    (h : repetition? text = some (r, n)) : ∀ c ∈ text.take n, isQuantifierChar c = true := by
  unfold repetition? at h
  split at h
  · cases h
    exact List.forall_mem_singleton.mpr (by decide)
  · cases h
    exact List.forall_mem_singleton.mpr (by decide)
  · cases h
    exact List.forall_mem_singleton.mpr (by decide)
  · rename_i rest
    split at h
    · rename_i close hclose
      obtain ⟨body, more, rfl, rfl, -⟩ := exists_append_of_findIdx? hclose
      rw [List.take_left'] at h
      · obtain ⟨bounds, hbounds, heq⟩ := Option.map_eq_some_iff.mp h
        obtain ⟨-, rfl⟩ := Prod.mk.inj heq
        have htake : ('\x7b' :: (body ++ '\x7d' :: more)).take (body.length + 2) =
            '\x7b' :: (body ++ ['\x7d']) := take_delimited ['\x7b'] body '\x7d' more
        rw [htake, List.forall_mem_cons, List.forall_mem_append, List.forall_mem_singleton]
        exact ⟨by decide, isQuantifierChar_of_bounds? hbounds, by decide⟩
      · rfl
    · cases h
  · cases h

/-- A quantifier is a repetition and at most one mark. -/
theorem isQuantifierChar_of_quantifier? {text : List Char} {q : Quantifier} {n : Nat}
    (h : quantifier? text = some (q, n)) : ∀ c ∈ text.take n, isQuantifierChar c = true := by
  unfold quantifier? at h
  split at h
  · cases h
  · rename_i repetition length hrepetition
    have hplain := isQuantifierChar_of_repetition? hrepetition
    have hmark {mark : Char} {more : List Char} (hchar : isQuantifierChar mark = true)
        (hdrop : text.drop length = mark :: more) :
        ∀ c ∈ text.take (length + 1), isQuantifierChar c = true := by
      rw [List.take_add, hdrop, List.take_succ_cons, List.take_zero, List.forall_mem_append]
      exact ⟨hplain, List.forall_mem_singleton.mpr hchar⟩
    split at h
    · rename_i hdrop
      cases h
      exact hmark (by decide) hdrop
    · rename_i hdrop
      cases h
      exact hmark (by decide) hdrop
    · cases h
      exact hplain

/-- No run, name or quantifier goes on with the text. -/
def Breaks (tail : List Char) : Prop := ∀ c, tail.head? = some c → c = '[' ∨ c = '\\' ∨ c = ')'

/-- Nothing follows. -/
theorem breaks_nil : Breaks [] := fun _ h => nomatch h

/-- A run ends in front of a text that does not go on with it. -/
theorem takeWhile_append_of_head? {p : Char → Bool} {tail : List Char}
    (h : ∀ c, tail.head? = some c → p c = false) (text : List Char) :
    (text ++ tail).takeWhile p = text.takeWhile p := by
  induction text with
  | nil =>
    cases tail with
    | nil => rfl
    | cons c tail => exact List.takeWhile_cons_of_neg (by simp [h c rfl])
  | cons c text ih => rw [List.cons_append, List.takeWhile_cons, List.takeWhile_cons, ih]

/-- A text begins with a character that its tail does not begin with just if it does so without the tail. -/
theorem head?_append_iff {tail : List Char} {c : Char} (hc : tail.head? ≠ some c) (text : List Char) :
    (text ++ tail).head? = some c ↔ text.head? = some c := by
  cases text with
  | nil => exact ⟨fun hhead => absurd hhead hc, fun hhead => nomatch hhead⟩
  | cons first text => rfl

/-- What a text begins with, it begins with without the tail. -/
theorem exists_cons_of_append {text tail rest : List Char} {c : Char} (hc : tail.head? ≠ some c)
    (heq : text ++ tail = c :: rest) : ∃ more, text = c :: more ∧ more ++ tail = rest := by
  obtain ⟨more, rfl⟩ := List.head?_eq_some_iff.mp ((head?_append_iff hc text).mp (by rw [heq]; rfl))
  exact ⟨more, rfl, (List.cons.inj heq).2⟩

namespace Breaks

variable {tail : List Char}

/-- A property of no such character does not hold at the beginning. -/
theorem of_head? (h : Breaks tail) {p : Char → Bool} (hp : ['[', '\\', ')'].any p = false) (c : Char)
    (hc : tail.head? = some c) : p c = false := by
  rw [List.any_eq_false] at hp
  refine Bool.eq_false_iff.mpr (hp c ?_)
  simpa using h c hc

/-- A run ends in front of it. -/
theorem takeWhile_append (h : Breaks tail) {p : Char → Bool} (hp : ['[', '\\', ')'].any p = false)
    (text : List Char) : (text ++ tail).takeWhile p = text.takeWhile p :=
  takeWhile_append_of_head? (h.of_head? hp) text

/-- It begins with none of the other characters. -/
theorem head?_ne (h : Breaks tail) {c : Char} (hc : ['[', '\\', ')'].contains c = false) :
    tail.head? ≠ some c := by
  intro hhead
  have hmem : c ∈ ['[', '\\', ')'] := by simpa using h c hhead
  rw [List.contains_iff_mem.mpr hmem] at hc
  cases hc

/-- It does not begin with trivia. -/
theorem noTrivia (h : Breaks tail) : NoTrivia tail := by
  rintro c rest rfl
  rcases h c rfl with rfl | rfl | rfl <;> decide

end Breaks

/-- Only a brace is a matter of what stands behind it. -/
theorem repetition?_cons_of_ne {c : Char} (h : c ≠ '\x7b') (rest other : List Char) :
    repetition? (c :: rest) = repetition? (c :: other) := by
  by_cases hstar : c = '*'
  · subst hstar
    rfl
  by_cases hplus : c = '+'
  · subst hplus
    rfl
  by_cases hquestion : c = '?'
  · subst hquestion
    rfl
  · simp [repetition?, h, hstar, hplus, hquestion]

namespace Breaks

variable {tail : List Char}

/-- No bounds reach into it. -/
theorem bounds?_eq_none (h : Breaks tail) {c : Char} (hc : tail.head? = some c) {body : List Char}
    (hmem : c ∈ body) : bounds? body = none := by
  rw [Option.eq_none_iff_forall_ne_some]
  intro r hr
  have hchar := isQuantifierChar_of_bounds? hr c hmem
  rw [h.of_head? (p := isQuantifierChar) (by decide) c hc] at hchar
  cases hchar

/-- A repetition ends in front of it. -/
theorem repetition?_append (h : Breaks tail) (text : List Char) :
    repetition? (text ++ tail) = repetition? text := by
  cases text with
  | nil =>
    cases tail with
    | nil => rfl
    | cons c tail => rcases h c rfl with rfl | rfl | rfl <;> rfl
  | cons c text =>
    by_cases hbrace : c = '\x7b'
    · subst hbrace
      rw [List.cons_append, repetition?, repetition?, List.findIdx?_append]
      cases hclose : text.findIdx? (· == '\x7d') with
      | some close =>
        rw [Option.some_or]
        dsimp only
        rw [List.take_append_of_le_length (Nat.le_of_lt (findIdx?_lt hclose))]
      | none =>
        rw [Option.none_or]
        cases hfound : tail.findIdx? (· == '\x7d') with
        | none => rfl
        | some close =>
          -- the braces would hold the beginning of the tail
          have hbounds : bounds? ((text ++ tail).take (close + text.length)) = none := by
            cases tail with
            | nil => cases hfound
            | cons c tail =>
              have hc : c ≠ '\x7d' := by rcases h c rfl with rfl | rfl | rfl <;> decide
              cases close with
              | zero => simp [List.findIdx?_cons, hc] at hfound
              | succ close =>
                refine h.bounds?_eq_none rfl ?_
                rw [Nat.add_comm, List.take_length_add_append, List.take_succ_cons]
                exact List.mem_append_right _ List.mem_cons_self
          rw [Option.map_some]
          dsimp only
          rw [hbounds]
          rfl
    · exact repetition?_cons_of_ne hbrace _ _

/-- A quantifier ends in front of it. -/
theorem quantifier?_append (h : Breaks tail) (text : List Char) :
    quantifier? (text ++ tail) = quantifier? text := by
  unfold quantifier?
  rw [h.repetition?_append]
  cases hr : repetition? text with
  | none => rfl
  | some found =>
    obtain ⟨repetition, length⟩ := found
    dsimp only
    rw [List.drop_append_of_le_length (repetition?_fits hr).2]
    cases text.drop length with
    | nil =>
      cases tail with
      | nil => rfl
      | cons c tail => rcases h c rfl with rfl | rfl | rfl <;> rfl
    | cons c rest =>
      by_cases hquestion : c = '?'
      · subst hquestion
        rfl
      by_cases hplus : c = '+'
      · subst hplus
        rfl
      · simp [hquestion, hplus]

/-- A name ends in front of it. -/
theorem nameLength?_append (h : Breaks tail) {closing : Char} (hclosing : tail.head? ≠ some closing)
    (text : List Char) :
    nameLength? closing (text ++ tail) = nameLength? closing text := by
  have hname := h.takeWhile_append (p := isNameChar) (by decide) text
  have hlength := takeWhile_length_le isNameChar text
  have hhead := head?_append_iff hclosing (text.drop (text.takeWhile isNameChar).length)
  rw [← List.drop_append_of_le_length hlength] at hhead
  simp only [nameLength?, hname, beq_iff_eq, Bool.and_eq_true, hhead]

/-- Where no angle bracket stands behind the question mark, the first two characters tell an opener with a
fixed spelling. -/
theorem fixedOpener?_cons_cons {d : Char} (hd : d ≠ '<') (rest other : List Char) :
    fixedOpener? ('?' :: d :: rest) = fixedOpener? ('?' :: d :: other) := by
  unfold fixedOpener?
  split <;> simp_all

/-- An opener with a fixed spelling ends in front of it. -/
theorem fixedOpener?_append (h : Breaks tail) (text : List Char) :
    fixedOpener? (text ++ tail) = fixedOpener? text := by
  have hmarks (front : List Char) (hfront : front = [] ∨ front = ['?'] ∨ front = ['?', '<']) :
      fixedOpener? (front ++ tail) = fixedOpener? front := by
    cases tail with
    | nil => rw [List.append_nil]
    | cons c tail => rcases hfront with rfl | rfl | rfl <;> rcases h c rfl with rfl | rfl | rfl <;> rfl
  match text with
  | [] => exact hmarks [] (.inl rfl)
  | c :: rest =>
    by_cases hquestion : c = '?'
    · subst hquestion
      match rest with
      | [] => exact hmarks ['?'] (.inr (.inl rfl))
      | d :: rest =>
        by_cases hangle : d = '<'
        · subst hangle
          match rest with
          | [] => exact hmarks ['?', '<'] (.inr (.inr rfl))
          | e :: rest =>
            by_cases hequals : e = '='
            · subst hequals
              rfl
            by_cases hmark : e = '!'
            · subst hmark
              rfl
            · simp [fixedOpener?, hequals, hmark]
        · exact fixedOpener?_cons_cons hangle _ _
    · simp [fixedOpener?, hquestion]

/-- The opener of a named group ends in front of it. -/
theorem namedOpener?_append (h : Breaks tail) (text : List Char) :
    namedOpener? (text ++ tail) = namedOpener? text := by
  have hname (name : List Char) : nameLength? '>' (name ++ tail) = nameLength? '>' name :=
    h.nameLength?_append (h.head?_ne (by decide)) name
  have hmarks (front : List Char) (hfront : front = [] ∨ front = ['?'] ∨ front = ['?', 'P']) :
      namedOpener? (front ++ tail) = namedOpener? front := by
    cases tail with
    | nil => rw [List.append_nil]
    | cons c tail => rcases hfront with rfl | rfl | rfl <;> rcases h c rfl with rfl | rfl | rfl <;> rfl
  match text with
  | [] => exact hmarks [] (.inl rfl)
  | c :: rest =>
    by_cases hquestion : c = '?'
    · subst hquestion
      match rest with
      | [] => exact hmarks ['?'] (.inr (.inl rfl))
      | d :: rest =>
        by_cases hangle : d = '<'
        · subst hangle
          simp only [List.cons_append, namedOpener?, hname]
        by_cases hletter : d = 'P'
        · subst hletter
          match rest with
          | [] => exact hmarks ['?', 'P'] (.inr (.inr rfl))
          | e :: rest =>
            by_cases he : e = '<'
            · subst he
              simp only [List.cons_append, namedOpener?, hname]
            · simp [namedOpener?, he]
        · simp [namedOpener?, hangle, hletter]
    · simp [namedOpener?, hquestion]

/-- Flag letters end in front of it if it does not begin with the parenthesis that can end them. -/
theorem flagged?_append (h : Breaks tail) (hparen : tail.head? ≠ some ')') (text : List Char) :
    flagged? (text ++ tail) = flagged? text := by
  by_cases hquestion : text.head? = some '?'
  · obtain ⟨rest, rfl⟩ := List.head?_eq_some_iff.mp hquestion
    have hrun := h.takeWhile_append (p := fun c => c.isAlpha || c == '-') (by decide) rest
    have hlength := takeWhile_length_le (fun c => c.isAlpha || c == '-') rest
    simp only [List.cons_append, flagged?, hrun, List.drop_append_of_le_length hlength]
    cases hmark : rest.drop (rest.takeWhile fun c => c.isAlpha || c == '-').length with
    | nil =>
      cases tail with
      | nil => rfl
      | cons c tail => rcases h c rfl with rfl | rfl | rfl <;> simp at hparen ⊢
    | cons mark more => rfl
  · have hnone {text : List Char} (hhead : text.head? ≠ some '?') : flagged? text = none := by
      cases text with
      | nil => rfl
      | cons c rest =>
        have hc : c ≠ '?' := fun hc => hhead (by rw [hc]; rfl)
        simp [flagged?, hc]
    rw [hnone hquestion, hnone (mt (head?_append_iff (h.head?_ne (by decide)) text).mp hquestion)]

end Breaks

/-- Whether a character is skipped, and whether a comment goes on behind it, is not a matter of what
follows. -/
theorem triviaLength_cons_cases (inComment : Bool) (c : Char) :
    (∃ next, ∀ text, triviaLength inComment (c :: text) = triviaLength next text + 1) ∨
      ∀ text, triviaLength inComment (c :: text) = 0 := by
  cases inComment with
  | true => exact .inl ⟨c != '\n', fun _ => rfl⟩
  | false =>
    by_cases hsign : (c == '#') = true
    · exact .inl ⟨true, fun _ => by simp only [triviaLength, hsign, Bool.false_eq_true, if_false, if_true]⟩
    · by_cases hblank : Unicode.isBlank c = true
      · exact .inl ⟨false, fun _ => by
          simp only [triviaLength, hsign, hblank, Bool.false_eq_true, if_false, if_true]⟩
      · exact .inr fun _ => by simp only [triviaLength, hsign, hblank, Bool.false_eq_true, if_false]

/-- Whether trivia begin a text is a matter of its first character. -/
theorem triviaLength_eq_zero_iff (c : Char) (rest other : List Char) :
    triviaLength false (c :: rest) = 0 ↔ triviaLength false (c :: other) = 0 := by
  obtain ⟨next, hskip⟩ | hstop := triviaLength_cons_cases false c
  · simp only [hskip, Nat.add_one_ne_zero]
  · simp only [hstop]

/-- Trivia that end in front of one tail end in front of another if neither begins with more of them. -/
theorem triviaLength_append_eq {back other : List Char} (hne : back ≠ []) (hback : NoTrivia back)
    (hother : NoTrivia other) {inComment : Bool} {text : List Char}
    (hfits : triviaLength inComment (text ++ back) ≤ text.length) :
    triviaLength inComment (text ++ other) = triviaLength inComment (text ++ back) := by
  induction text generalizing inComment with
  | nil =>
    cases inComment with
    | false =>
      rw [List.nil_append, List.nil_append, triviaLength_of_noTrivia hother, triviaLength_of_noTrivia hback]
    | true =>
      cases back with
      | nil => exact absurd rfl hne
      | cons c back => exact absurd hfits (Nat.not_le_of_lt (Nat.succ_pos _))
  | cons c text ih =>
    obtain ⟨next, hskip⟩ | hstop := triviaLength_cons_cases inComment c
    · rw [List.cons_append, hskip] at hfits
      rw [List.cons_append, List.cons_append, hskip, hskip, ih (Nat.le_of_succ_le_succ hfits)]
    · rw [List.cons_append, List.cons_append, hstop, hstop]

/-- Only a backslash takes the character behind it along. -/
theorem closingParen?_cons {c : Char} (hc : c ≠ '\\') (depth : Nat) (rest : List Char) :
    closingParen? depth (c :: rest) =
      if c == '(' then (closingParen? (depth + 1) rest).map (· + 1)
      else if c == ')' then
        if depth == 0 then some 0 else (closingParen? (depth - 1) rest).map (· + 1)
      else (closingParen? depth rest).map (· + 1) := by
  rw [closingParen?]
  · exact fun hslash => absurd hslash hc
  · exact fun _ _ hslash => absurd hslash hc

/-- A condition has its end in a text just if it has it there with anything behind the text. -/
theorem closingParen?_eq_some_iff (behind : List Char) {depth n : Nat} {text : List Char} :
    closingParen? depth text = some n ↔ closingParen? depth (text ++ behind) = some n ∧ n < text.length := by
  have hfurther {inner whole : Option Nat} {length : Nat} (k : Nat)
      (h : ∀ n, inner = some n ↔ whole = some n ∧ n < length) (n : Nat) :
      inner.map (· + k) = some n ↔ whole.map (· + k) = some n ∧ n < length + k := by
    constructor
    · intro hinner
      obtain ⟨m, hm, rfl⟩ := Option.map_eq_some_iff.mp hinner
      obtain ⟨hwhole, hlt⟩ := (h m).mp hm
      exact ⟨by rw [hwhole]; rfl, Nat.add_lt_add_right hlt k⟩
    · rintro ⟨hwhole, hlt⟩
      obtain ⟨m, hm, rfl⟩ := Option.map_eq_some_iff.mp hwhole
      rw [(h m).mpr ⟨hm, Nat.lt_of_add_lt_add_right hlt⟩]
      rfl
  fun_induction closingParen? depth text generalizing n with
  | case1 => simp
  | case2 depth =>
    constructor
    · intro h
      cases h
    · rintro ⟨h, hlt⟩
      cases behind with
      | nil => cases h
      | cons c behind =>
        obtain ⟨m, -, rfl⟩ := Option.map_eq_some_iff.mp h
        exact absurd hlt (by simp)
  | case3 depth c rest ih => exact hfurther 2 (fun _ => ih) n
  | case4 depth c rest hlast hpair hopen ih =>
    rw [beq_iff_eq] at hopen
    subst hopen
    exact hfurther 1 (fun _ => ih) n
  | case5 depth c rest hlast hpair hopen hclose hdepth =>
    rw [beq_iff_eq] at hclose hdepth
    subst hclose hdepth
    rw [List.cons_append, closingParen?_cons (by decide)]
    constructor
    · intro h
      cases h
      exact ⟨rfl, Nat.succ_pos _⟩
    · exact And.left
  | case6 depth c rest hlast hpair hopen hclose hdepth ih =>
    rw [beq_iff_eq] at hclose
    subst hclose
    rw [List.cons_append, closingParen?_cons (by decide), if_neg hopen, if_pos (by decide), if_neg hdepth]
    exact hfurther 1 (fun _ => ih) n
  | case7 depth c rest hlast hpair hopen hclose ih =>
    have hc : c ≠ '\\' := fun hslash => by
      cases rest with
      | nil => exact hlast hslash rfl
      | cons d more => exact hpair d more hslash rfl
    rw [List.cons_append, closingParen?_cons hc, if_neg hopen, if_neg hclose]
    exact hfurther 1 (fun _ => ih) n

/-- A condition that has an end keeps it whatever follows. -/
theorem closingParen?_append {depth n : Nat} {text : List Char} (h : closingParen? depth text = some n)
    (behind : List Char) : closingParen? depth (text ++ behind) = some n :=
  ((closingParen?_eq_some_iff behind).mp h).1

/-- The parenthesis that is found stands behind what is counted. -/
theorem head?_drop_of_closingParen? {depth : Nat} {text : List Char} {n : Nat}
    (h : closingParen? depth text = some n) : (text.drop n).head? = some ')' := by
  fun_induction closingParen? depth text generalizing n with
  | case1 | case2 => cases h
  | case5 depth c rest hlast hpair hopen hclose hdepth =>
    cases h
    rw [List.drop_zero, List.head?_cons, beq_iff_eq.mp hclose]
  | case3 depth c rest ih | case4 depth c rest _ _ _ ih | case6 depth c rest _ _ _ _ _ ih
  | case7 depth c rest _ _ _ _ ih =>
    obtain ⟨m, hm, rfl⟩ := Option.map_eq_some_iff.mp h
    exact ih hm

/-- A tail without a closing parenthesis brings along no end of a condition. -/
theorem closingParen?_append_eq_none {depth : Nat} {text tail : List Char} (h : closingParen? depth text = none)
    (htail : ')' ∉ tail) : closingParen? depth (text ++ tail) = none := by
  rw [Option.eq_none_iff_forall_ne_some]
  intro n hn
  by_cases hlt : n < text.length
  · have hinside := (closingParen?_eq_some_iff tail).mpr ⟨hn, hlt⟩
    rw [h] at hinside
    cases hinside
  · have hhead := head?_drop_of_closingParen? hn
    rw [List.drop_append, List.drop_eq_nil_of_le (Nat.le_of_not_lt hlt), List.nil_append] at hhead
    exact htail (List.mem_of_mem_drop (List.mem_of_mem_head? hhead))

/-- Only a colon in front of a bracket ends a POSIX item. -/
theorem posixEnd?_cons {c : Char} {text : List Char} (h : c = ':' → ∀ rest, text ≠ ']' :: rest) :
    posixEnd? (c :: text) = (posixEnd? text).map (· + 1) := by
  rw [posixEnd?]
  exact fun rest hc htext => h hc rest htext

section ClassSteps

variable {skip depth : Nat} {c : Char} {rest item : List Char}

/-- What is to be skipped is a member, whatever it is. -/
theorem classLength?_skip (hskip : 0 < skip) :
    classLength? skip depth (c :: rest) = (classLength? (skip - 1) depth rest).map (· + 1) := by
  rw [classLength?.eq_def]
  exact if_pos hskip

/-- A backslash skips the character behind it. -/
theorem classLength?_backslash :
    classLength? 0 depth ('\\' :: rest) = (classLength? 1 depth rest).map (· + 1) := by
  rw [classLength?.eq_def]
  rfl

/-- A POSIX item is skipped with both its ends. -/
theorem classLength?_item {n : Nat} (hitem : posixEnd? item = some n) :
    classLength? 0 depth ('[' :: ':' :: item) =
      (classLength? (n + 3) depth (':' :: item)).map (· + 1) := by
  rw [classLength?.eq_def]
  simp [hitem]

/-- A bracket and a colon without the end of an item are members. -/
theorem classLength?_no_item (hitem : posixEnd? item = none) :
    classLength? 0 depth ('[' :: ':' :: item) = (classLength? 0 depth (':' :: item)).map (· + 1) := by
  rw [classLength?.eq_def]
  simp [hitem]

/-- Any other opening bracket begins a nested class. -/
theorem classLength?_nested (hrest : ∀ item, rest ≠ ':' :: item) :
    classLength? 0 depth ('[' :: rest) = (classLength? 0 (depth + 1) rest).map (· + 1) := by
  rw [classLength?.eq_def]
  cases rest with
  | nil => rfl
  | cons d rest =>
    simp

/-- A closing bracket ends the class or a nested one. -/
theorem classLength?_bracket :
    classLength? 0 depth (']' :: rest) =
      if depth == 0 then some 1 else (classLength? 0 (depth - 1) rest).map (· + 1) := by
  rw [classLength?.eq_def]
  rfl

/-- Any other character is a member. -/
theorem classLength?_member (hslash : c ≠ '\\') (hopen : c ≠ '[') (hclose : c ≠ ']') :
    classLength? 0 depth (c :: rest) = (classLength? 0 depth rest).map (· + 1) := by
  rw [classLength?.eq_def]
  simp [hslash, hopen, hclose]

end ClassSteps

/-- Characters that are to be skipped are members, whatever they are. -/
theorem classLength?_skip_all (part rest : List Char) (depth : Nat) :
    classLength? part.length depth (part ++ rest) =
      (classLength? 0 depth rest).map (· + part.length) := by
  induction part with
  | nil => simp
  | cons c part ih =>
    rw [List.cons_append, classLength?_skip (by simp), List.length_cons, Nat.add_sub_cancel, ih,
      Option.map_map]
    rfl

/-- The first end of a POSIX item is found whatever follows. -/
theorem posixEnd?_append {text : List Char} {n : Nat} (h : posixEnd? text = some n) (behind : List Char) :
    posixEnd? (text ++ behind) = some n := by
  induction text generalizing n with
  | nil => cases h
  | cons c text ih =>
    by_cases hend : c = ':' ∧ ∃ rest, text = ']' :: rest
    · obtain ⟨rfl, rest, rfl⟩ := hend
      exact h
    · rw [posixEnd?_cons fun hc rest htext => hend ⟨hc, rest, htext⟩] at h
      obtain ⟨m, hm, rfl⟩ := Option.map_eq_some_iff.mp h
      have hbehind := ih hm
      rw [List.cons_append, posixEnd?_cons, hbehind]
      · rfl
      · intro hc rest htext
        cases text with
        | nil => cases hm
        | cons d text =>
          obtain ⟨rfl, -⟩ := List.cons.inj htext
          exact hend ⟨hc, text, rfl⟩

/-- An end of a POSIX item that is found lies in the text. -/
theorem posixEnd?_lt {text : List Char} {n : Nat} (h : posixEnd? text = some n) : n + 2 ≤ text.length := by
  induction text generalizing n with
  | nil => cases h
  | cons c text ih =>
    by_cases hend : c = ':' ∧ ∃ rest, text = ']' :: rest
    · obtain ⟨rfl, rest, rfl⟩ := hend
      cases h
      simp
    · rw [posixEnd?_cons fun hc rest htext => hend ⟨hc, rest, htext⟩] at h
      obtain ⟨m, hm, rfl⟩ := Option.map_eq_some_iff.mp h
      have hle := ih hm
      rw [List.length_cons]
      omega

/-- A tail without a colon, and with no bracket for a colon in front of it, brings along no end. -/
theorem posixEnd?_append_eq_none {text tail : List Char} (h : posixEnd? text = none)
    (hhead : tail.head? ≠ some ']') (hcolon : ':' ∉ tail) : posixEnd? (text ++ tail) = none := by
  induction text with
  | nil =>
    clear h hhead
    induction tail with
    | nil => rfl
    | cons c tail ih =>
      rw [List.mem_cons, not_or] at hcolon
      have hbehind := ih hcolon.2
      rw [List.nil_append] at hbehind ⊢
      rw [posixEnd?_cons fun hc => absurd hc.symm hcolon.1, hbehind]
      rfl
  | cons c text ih =>
    have hgoes : c = ':' → ∀ rest, text ≠ ']' :: rest := by
      rintro rfl rest rfl
      cases h
    rw [posixEnd?_cons hgoes, Option.map_eq_none_iff] at h
    rw [List.cons_append, posixEnd?_cons, ih h]
    · rfl
    · intro hc rest htext
      cases text with
      | nil => exact hhead (by rw [← List.nil_append tail, htext]; rfl)
      | cons d text =>
        obtain ⟨rfl, -⟩ := List.cons.inj htext
        exact hgoes hc text rfl

/-- The end of a POSIX item that lies in the text is found there. -/
theorem posixEnd?_of_append {text behind : List Char} {n : Nat} (h : posixEnd? (text ++ behind) = some n)
    (hfits : n + 2 ≤ text.length) : posixEnd? text = some n := by
  induction text generalizing n with
  | nil => exact absurd hfits (Nat.not_le_of_lt (Nat.succ_pos _))
  | cons c text ih =>
    cases text with
    | nil => exact absurd (Nat.le_of_succ_le_succ hfits) (Nat.not_le_of_lt (Nat.succ_pos n))
    | cons d text =>
      by_cases hend : c = ':' ∧ d = ']'
      · obtain ⟨rfl, rfl⟩ := hend
        exact h
      · have hgoes {rest : List Char} : c = ':' → ∀ more, d :: rest ≠ ']' :: more :=
          fun hc more heq => hend ⟨hc, (List.cons.inj heq).1⟩
        rw [List.cons_append, List.cons_append, posixEnd?_cons hgoes] at h
        obtain ⟨m, hm, rfl⟩ := Option.map_eq_some_iff.mp h
        rw [posixEnd?_cons hgoes, ih hm (Nat.le_of_succ_le_succ hfits)]
        rfl

/-- More characters belong to a class than are to be skipped. -/
theorem lt_of_classLength? {skip depth n : Nat} {text : List Char} (h : classLength? skip depth text = some n) :
    skip < n := by
  fun_induction classLength? skip depth text generalizing n with
  | case1 => cases h
  | case2 skip depth c rest hskip ih =>
    obtain ⟨m, hm, rfl⟩ := Option.map_eq_some_iff.mp h
    have hlt := ih hm
    omega
  | case7 skip depth c rest hskip =>
    cases h
    omega
  | case3 skip depth c rest hskip _ ih | case4 skip depth c hskip _ _ _ _ _ ih
  | case5 skip depth c hskip _ _ _ _ ih | case6 skip depth c rest hskip _ _ _ ih
  | case8 skip depth c rest hskip _ _ _ _ ih | case9 skip depth c rest hskip _ _ _ ih =>
    obtain ⟨m, hm, rfl⟩ := Option.map_eq_some_iff.mp h
    omega

/-- A backslash, an opening parenthesis and an opening bracket apart, what follows a character is looked at only
for the length of plain text. -/
theorem scanPlain_eq_of_plainLength {extended : Bool} {c : Char} {rest other : List Char} (hslash : c ≠ '\\')
    (hparen : c ≠ '(') (hbracket : c ≠ '[')
    (hplain : plainLength extended (c :: other) = plainLength extended (c :: rest)) :
    scanPlain extended c other = scanPlain extended c rest := by
  simp only [scanPlain, hplain]
  split
  · exact absurd rfl hslash
  · rfl
  · rfl
  · rfl
  · rfl
  · rfl
  · exact absurd rfl hparen
  · exact absurd rfl hbracket
  · rfl
  · rfl

/-- The number of the marks behind the opening bracket of a class, a caret and a closing bracket. -/
def marksLength (text : List Char) : Nat :=
  markLength '^' text + markLength ']' (text.drop (markLength '^' text))

/-- The marks stand in the text. -/
theorem marksLength_le (text : List Char) : marksLength text ≤ text.length := by
  have hcaret := markLength_le '^' text
  have hfirst := markLength_le ']' (text.drop (markLength '^' text))
  rw [List.length_drop] at hfirst
  unfold marksLength
  omega

/-- The search for the end of a class begins behind the marks. -/
theorem bracketLength?_eq (text : List Char) :
    bracketLength? text = (classLength? 0 0 (text.drop (marksLength text))).map (· + marksLength text) := rfl

/-- A tail that begins with neither of the marks brings along no mark. -/
theorem bracketLength?_append {text tail : List Char} (hcaret : tail.head? ≠ some '^')
    (hbracket : tail.head? ≠ some ']') :
    bracketLength? (text ++ tail) =
      (classLength? 0 0 (text.drop (marksLength text) ++ tail)).map (· + marksLength text) := by
  have hmark {mark : Char} (hmark : tail.head? ≠ some mark) (text : List Char) :
      markLength mark (text ++ tail) = markLength mark text := by
    simp only [markLength, head?_append_iff hmark]
  have hmarks : marksLength (text ++ tail) = marksLength text := by
    rw [marksLength, hmark hcaret, List.drop_append_of_le_length (markLength_le '^' text), hmark hbracket]
    rfl
  rw [bracketLength?_eq, hmarks, List.drop_append_of_le_length (marksLength_le text)]

/-- One tail of a text can be put in the place of another: where a mark or the end of a POSIX item is searched
for in vain up to the end of the one, it is so up to the end of the other. -/
structure Swaps (back other : List Char) : Prop where
  /-- Nothing goes on with the one. -/
  breaks_back : Breaks back
  /-- Nothing goes on with the other. -/
  breaks_other : Breaks other
  /-- The other brings along no mark that ends a name or braces. -/
  marks : ∀ mark ∈ ['\x7d', '>', '\''], mark ∈ other → mark ∈ back
  /-- It brings along no end of a POSIX item. -/
  items : ∀ text, posixEnd? (text ++ back) = none → posixEnd? (text ++ other) = none

namespace Swaps

variable {back other : List Char}

/-- A mark that is found in front of the one is found in front of the other, and one that is missing is
missing. -/
theorem findIdx?_eq (h : Swaps back other) {mark : Char} (hmark : mark ∈ ['\x7d', '>', '\''])
    {text : List Char} (hfits : ∀ n, (text ++ back).findIdx? (· == mark) = some n → n < text.length) :
    (text ++ other).findIdx? (· == mark) = (text ++ back).findIdx? (· == mark) := by
  have hnone (tail : List Char) (htail : mark ∉ tail) : tail.findIdx? (· == mark) = none := by
    rw [List.findIdx?_eq_none_iff]
    intro c hc
    rw [beq_eq_false_iff_ne]
    rintro rfl
    exact htail hc
  rw [List.findIdx?_append] at hfits
  rw [List.findIdx?_append, List.findIdx?_append]
  cases hfound : text.findIdx? (· == mark) with
  | some n => rfl
  | none =>
    rw [hfound, Option.none_or] at hfits
    have hback : mark ∉ back := by
      intro hmem
      obtain ⟨n, hn⟩ : ∃ n, back.findIdx? (· == mark) = some n := by
        rw [← Option.isSome_iff_exists, List.findIdx?_isSome, List.any_eq_true]
        exact ⟨mark, hmem, beq_self_eq_true mark⟩
      have hlt : n + text.length < text.length := hfits _ (by rw [hn]; rfl)
      omega
    rw [hnone back hback, hnone other (mt (h.marks mark hmark) hback)]

/-- The hexadecimal part of an escape ends where it did. -/
theorem hexLength_eq (h : Swaps back other) {digits : Nat} {text : List Char}
    (hfits : hexLength digits (text ++ back) ≤ text.length) :
    hexLength digits (text ++ other) = hexLength digits (text ++ back) := by
  by_cases hbrace : text.head? = some '\x7b'
  · obtain ⟨rest, rfl⟩ := List.head?_eq_some_iff.mp hbrace
    have hbraces (more : List Char) : hexLength digits ('\x7b' :: more) =
        ((('\x7b' :: more).findIdx? (· == '\x7d')).map (· + 1)).getD 0 := by
      rw [hexLength]
      cases ('\x7b' :: more).findIdx? (· == '\x7d') <;> rfl
    rw [List.cons_append, hbraces, ← List.cons_append] at hfits
    rw [List.cons_append, List.cons_append, hbraces, hbraces, ← List.cons_append, ← List.cons_append,
      h.findIdx?_eq (by simp)]
    intro n hn
    rw [hn] at hfits
    exact hfits
  · have hother {after : List Char} (hafter : after.head? ≠ some '\x7b') : hexLength digits after =
        if digits ≤ (after.takeWhile Unicode.isHexDigit).length then digits else 0 := by
      cases after with
      | nil => rfl
      | cons c rest =>
        have hc : c ≠ '\x7b' := fun hc => hafter (by rw [hc]; rfl)
        simp [hexLength, hc]
    have hhead {tail : List Char} (htail : Breaks tail) : (text ++ tail).head? ≠ some '\x7b' :=
      mt (head?_append_iff (htail.head?_ne (by decide)) text).mp hbrace
    have hrun {tail : List Char} (htail : Breaks tail) :=
      htail.takeWhile_append (p := Unicode.isHexDigit) (by decide) text
    rw [hother (hhead h.breaks_other), hother (hhead h.breaks_back), hrun h.breaks_other, hrun h.breaks_back]

/-- A reference by name ends where it did. -/
theorem namedReference_eq (h : Swaps back other) {text : List Char}
    (hfits : (namedReference (text ++ back)).length ≤ text.length + 2) :
    namedReference (text ++ other) = namedReference (text ++ back) := by
  by_cases hangle : text.head? = some '<'
  · obtain ⟨rest, rfl⟩ := List.head?_eq_some_iff.mp hangle
    simp only [List.cons_append, List.length_cons, namedReference] at hfits ⊢
    rw [h.findIdx?_eq (by simp)]
    intro n hn
    rw [hn] at hfits
    dsimp only at hfits
    omega
  by_cases hquote : text.head? = some '\''
  · obtain ⟨rest, rfl⟩ := List.head?_eq_some_iff.mp hquote
    simp only [List.cons_append, List.length_cons, namedReference] at hfits ⊢
    rw [h.findIdx?_eq (by simp)]
    intro n hn
    rw [hn] at hfits
    dsimp only at hfits
    omega
  · have hother {tail : List Char} (htail : Breaks tail) : namedReference (text ++ tail) = ⟨.escape, 2⟩ := by
      have hangle' := mt (head?_append_iff (htail.head?_ne (by decide)) text).mp hangle
      have hquote' := mt (head?_append_iff (htail.head?_ne (by decide)) text).mp hquote
      cases heq : text ++ tail with
      | nil => rfl
      | cons c rest =>
        rw [heq] at hangle' hquote'
        simp only [List.head?_cons, Option.some_inj] at hangle' hquote'
        simp [namedReference, hangle', hquote']
    rw [hother h.breaks_other, hother h.breaks_back]

/-- A property ends where it did. -/
theorem property_eq (h : Swaps back other) {negated : Bool} {text : List Char}
    (hfits : (property negated (text ++ back)).length ≤ text.length + 2) :
    property negated (text ++ other) = property negated (text ++ back) := by
  cases text with
  | nil =>
    have hother {tail : List Char} (htail : Breaks tail) : property negated tail = ⟨.escape, 2⟩ := by
      cases tail with
      | nil => rfl
      | cons c tail => rcases htail c rfl with rfl | rfl | rfl <;> rfl
    rw [List.nil_append, List.nil_append, hother h.breaks_other, hother h.breaks_back]
  | cons c rest =>
    by_cases hbrace : c = '\x7b'
    · subst hbrace
      have hbraces (more : List Char) : property negated ('\x7b' :: more) =
          ((('\x7b' :: more).findIdx? (· == '\x7d')).map (⟨.unicodeProperty negated, · + 3⟩)).getD
            ⟨.escape, 2⟩ := by
        rw [property]
        cases ('\x7b' :: more).findIdx? (· == '\x7d') <;> rfl
      rw [List.cons_append, hbraces, ← List.cons_append] at hfits
      rw [List.cons_append, List.cons_append, hbraces, hbraces, ← List.cons_append, ← List.cons_append,
        h.findIdx?_eq (by simp)]
      intro n hn
      rw [hn] at hfits
      have hlt : n + 3 ≤ ('\x7b' :: rest).length + 2 := hfits
      omega
    · simp [property]

/-- An escape ends where it did. -/
theorem escapeOf_eq (h : Swaps back other) {c : Char} {text : List Char}
    (hfits : (escapeOf c (text ++ back)).length ≤ text.length + 2) :
    escapeOf c (text ++ other) = escapeOf c (text ++ back) := by
  have hdigits {tail : List Char} (htail : Breaks tail) :=
    htail.takeWhile_append (p := Char.isDigit) (by decide) text
  have hcode (digits : Nat) (hlength : hexLength digits (text ++ back) + 2 ≤ text.length + 2) :
      (⟨.escape, hexLength digits (text ++ other) + 2⟩ : Lexeme) =
        ⟨.escape, hexLength digits (text ++ back) + 2⟩ := by
    rw [h.hexLength_eq (Nat.le_of_add_le_add_right hlength)]
  by_cases hk : c = 'k'
  · subst hk
    exact h.namedReference_eq hfits
  by_cases hp : c = 'p' ∨ c = 'P'
  · rcases hp with rfl | rfl
    · exact h.property_eq hfits
    · exact h.property_eq hfits
  by_cases hx : c = 'x' ∨ c = 'u' ∨ c = 'U'
  · rcases hx with rfl | rfl | rfl
    · exact hcode 2 hfits
    · exact hcode 4 hfits
    · exact hcode 8 hfits
  · rw [not_or] at hp hx
    simp only [escapeOf, hdigits h.breaks_other, hdigits h.breaks_back, beq_iff_eq, hk, hp, not_or.mp hx.2,
      hx.1, Bool.or_eq_true, or_self, if_false]

/-- A class ends where it did. -/
theorem classLength?_eq_some (h : Swaps back other) {skip depth n : Nat} {text : List Char}
    (hlength : classLength? skip depth (text ++ back) = some n) (hfits : n ≤ text.length) :
    classLength? skip depth (text ++ other) = some n := by
  induction text generalizing skip depth n with
  | nil =>
    have hlt := lt_of_classLength? hlength
    exact absurd (Nat.lt_of_lt_of_le hlt hfits) (Nat.not_lt_zero skip)
  | cons c text ih =>
    have hstep {skip depth : Nat} {found : Option Nat}
        (hfound : found = (classLength? skip depth (text ++ back)).map (· + 1)) (hn : found = some n) :
        (classLength? skip depth (text ++ other)).map (· + 1) = some n := by
      obtain ⟨m, hm, rfl⟩ := Option.map_eq_some_iff.mp (hfound.symm.trans hn)
      rw [ih hm (Nat.le_of_succ_le_succ hfits), Option.map_some]
    rw [List.cons_append] at hlength ⊢
    by_cases hskip : 0 < skip
    · rw [classLength?_skip hskip]
      exact hstep (classLength?_skip hskip) hlength
    cases Nat.eq_zero_of_not_pos hskip
    by_cases hslash : c = '\\'
    · subst hslash
      rw [classLength?_backslash]
      exact hstep classLength?_backslash hlength
    by_cases hopen : c = '['
    · subst hopen
      by_cases hcolon : text.head? = some ':'
      · obtain ⟨item, rfl⟩ := List.head?_eq_some_iff.mp hcolon
        simp only [List.cons_append] at hlength hstep ⊢
        cases hitem : posixEnd? (item ++ back) with
        | none =>
          rw [classLength?_no_item (h.items item hitem)]
          exact hstep (classLength?_no_item hitem) hlength
        | some k =>
          have hinside := @classLength?_item depth _ _ hitem
          rw [hinside] at hlength
          obtain ⟨m, hm, rfl⟩ := Option.map_eq_some_iff.mp hlength
          have hlt := lt_of_classLength? hm
          have hfound : posixEnd? item = some k := by
            refine posixEnd?_of_append hitem ?_
            simp only [List.length_cons] at hfits
            omega
          rw [classLength?_item (posixEnd?_append hfound other)]
          exact hstep hinside (hinside.trans hlength)
      · have hrest {tail : List Char} (htail : Breaks tail) (item : List Char) : text ++ tail ≠ ':' :: item := by
          intro heq
          obtain ⟨more, rfl, -⟩ := exists_cons_of_append (htail.head?_ne (by decide)) heq
          exact hcolon rfl
        rw [classLength?_nested (hrest h.breaks_other)]
        exact hstep (classLength?_nested (hrest h.breaks_back)) hlength
    by_cases hclose : c = ']'
    · subst hclose
      rw [classLength?_bracket] at hlength ⊢
      split
      · rename_i hdepth
        rwa [if_pos hdepth] at hlength
      · rename_i hdepth
        rw [if_neg hdepth] at hlength
        exact hstep rfl hlength
    · rw [classLength?_member hslash hopen hclose]
      exact hstep (classLength?_member hslash hopen hclose) hlength

/-- A bracketed class ends where it did. -/
theorem bracketLength?_eq_some (h : Swaps back other) {n : Nat} {text : List Char}
    (hlength : bracketLength? (text ++ back) = some n) (hfits : n ≤ text.length) :
    bracketLength? (text ++ other) = some n := by
  have hmarks {tail : List Char} (htail : Breaks tail) :=
    @bracketLength?_append text tail (htail.head?_ne (by decide)) (htail.head?_ne (by decide))
  rw [hmarks h.breaks_back] at hlength
  obtain ⟨m, hm, rfl⟩ := Option.map_eq_some_iff.mp hlength
  rw [hmarks h.breaks_other, h.classLength?_eq_some hm, Option.map_some]
  rw [List.length_drop]
  omega

end Swaps

end Railroad.Token
