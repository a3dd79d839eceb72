import Railroad.Proofs.Lookahead
import Railroad.Proofs.PlainText
import Railroad.Proofs.Tiling

/-!
# Patterns that are cut short

A pattern that cannot be cut ends inside of what the error points at, a class or an escape. The text in front
of it is cut as it would be by itself, and the pattern can be completed. To see that, what stands at the place
of the error is taken away or gone on with: the rules in front of it look ahead as far as they like, but no
token reaches that place, and neither of the two tails brings along anything that a rule has searched for in
vain. A closing bracket alone would do that, as it can end a POSIX item that was none.
-/

namespace Railroad.Token

/-- One tail of a pattern can be put in the place of another: nothing that a step searches for in vain up to the
end of the one is found in the other. -/
structure Exchanges (back other : List Char) : Prop extends Swaps back other where
  /-- There is something in the place of which the other is put. -/
  ne_nil : back ≠ []
  /-- The other brings along no end of a condition. -/
  conditions : ∀ text, closingParen? 0 (text ++ back) = none → closingParen? 0 (text ++ other) = none
  /-- The one does not begin with an end of flag letters or of a name. -/
  back_head : back.head? ≠ some ')'
  /-- Nor does the other. -/
  other_head : other.head? ≠ some ')'

/-- No plain text goes on with any of the three characters. -/
theorem Breaks.takeWhile_isPlain {tail : List Char} (h : Breaks tail) (extended : Bool) (text : List Char) :
    (text ++ tail).takeWhile (isPlain extended) = text.takeWhile (isPlain extended) :=
  h.takeWhile_append (by cases extended <;> decide) text

/-- What stands behind plain text stands there in front of the tail. -/
theorem Breaks.dropWhile_isPlain {tail : List Char} (h : Breaks tail) (extended : Bool) (text : List Char) :
    (text ++ tail).dropWhile (isPlain extended) = text.dropWhile (isPlain extended) ++ tail := by
  have hwhole := List.takeWhile_append_dropWhile (p := isPlain extended) (l := text ++ tail)
  have hpart := List.takeWhile_append_dropWhile (p := isPlain extended) (l := text)
  rw [h.takeWhile_isPlain] at hwhole
  refine @List.append_cancel_left _ (text.takeWhile (isPlain extended)) _ _ ?_
  rw [hwhole, ← List.append_assoc, hpart]

namespace Exchanges

variable {back other : List Char}

/-- A parenthesis begins what it did. -/
theorem parenthesis_eq (h : Exchanges back other) {text : List Char}
    (hfits : (parenthesis (text ++ back)).length ≤ text.length + 1) :
    parenthesis (text ++ other) = parenthesis (text ++ back) := by
  by_cases hquestion : text.head? = some '?'
  · obtain ⟨text, rfl⟩ := List.head?_eq_some_iff.mp hquestion
    rw [List.cons_append] at hfits
    rw [List.cons_append, List.cons_append]
    by_cases hreference : ∃ name, text = 'P' :: '=' :: name
    · obtain ⟨name, rfl⟩ := hreference
      simp only [List.cons_append, parenthesis_reference, h.breaks_back.nameLength?_append h.back_head,
        h.breaks_other.nameLength?_append h.other_head]
    by_cases hcondition : ∃ condition, text = '(' :: condition
    · obtain ⟨condition, rfl⟩ := hcondition
      rw [List.cons_append, parenthesis_condition] at hfits
      rw [List.cons_append, List.cons_append, parenthesis_condition, parenthesis_condition]
      cases hclose : closingParen? 0 (condition ++ back) with
      | none => rw [h.conditions condition hclose]
      | some n =>
        have hlt : n < condition.length := by
          rw [hclose] at hfits
          simp only [Option.map_some, Option.getD_some, List.length_cons] at hfits
          omega
        have hinside := (closingParen?_eq_some_iff back).mpr ⟨hclose, hlt⟩
        rw [closingParen?_append hinside]
    · rw [not_exists] at hreference hcondition
      rw [h.breaks_other.parenthesis_other hreference hcondition,
        h.breaks_back.parenthesis_other hreference hcondition, h.breaks_other.flagged?_append h.other_head,
        h.breaks_back.flagged?_append h.back_head]
  · have hplain {tail : List Char} (htail : Breaks tail) : (text ++ tail).head? ≠ some '?' :=
      mt (head?_append_iff (htail.head?_ne (by decide)) text).mp hquestion
    rw [parenthesis_of_ne (hplain h.breaks_other), parenthesis_of_ne (hplain h.breaks_back)]

/-- Trivia end where they did. -/
theorem triviaLength_eq (h : Exchanges back other) {inComment : Bool} {text : List Char}
    (hfits : triviaLength inComment (text ++ back) ≤ text.length) :
    triviaLength inComment (text ++ other) = triviaLength inComment (text ++ back) :=
  triviaLength_append_eq h.ne_nil h.breaks_back.noTrivia h.breaks_other.noTrivia hfits

/-- Plain text ends where it did, if the trivia behind it do not reach the tail. -/
theorem plainLength_eq (h : Exchanges back other) {extended : Bool} {text : List Char}
    (hgap : extended = true → triviaLength false (text.dropWhile (isPlain extended) ++ back) ≤
      (text.dropWhile (isPlain extended)).length) :
    plainLength extended (text ++ other) = plainLength extended (text ++ back) := by
  generalize hrest : text.dropWhile (isPlain extended) = gap at hgap
  have hsame : quantifier? (behindTrivia extended (gap ++ other)) =
      quantifier? (behindTrivia extended (gap ++ back)) := by
    cases extended with
    | false =>
      exact (h.breaks_other.quantifier?_append gap).trans (h.breaks_back.quantifier?_append gap).symm
    | true =>
      have hfits := hgap rfl
      simp only [behindTrivia, if_true, h.triviaLength_eq hfits]
      rw [List.drop_append_of_le_length hfits, List.drop_append_of_le_length hfits,
        h.breaks_other.quantifier?_append, h.breaks_back.quantifier?_append]
  rw [Token.plainLength_eq, Token.plainLength_eq, h.breaks_other.takeWhile_isPlain,
    h.breaks_back.takeWhile_isPlain, h.breaks_other.dropWhile_isPlain, h.breaks_back.dropWhile_isPlain, hrest,
    hsame]

/-- What is neither trivia nor a quantifier is found in front of the other tail as well. -/
theorem scanPlain_eq (h : Exchanges back other) {extended : Bool} {c : Char} {text : List Char}
    {lexeme : Lexeme} (hscan : scanPlain extended c (text ++ back) = .ok lexeme)
    (hfits : lexeme.length ≤ text.length + 1)
    (hgap : extended = true → triviaLength false ((c :: text).dropWhile (isPlain extended) ++ back) ≤
      ((c :: text).dropWhile (isPlain extended)).length) :
    scanPlain extended c (text ++ other) = .ok lexeme := by
  by_cases hslash : c = '\\'
  · subst hslash
    cases text with
    | nil =>
      -- the escape would take the first character of the tail
      cases back with
      | nil => exact absurd rfl h.ne_nil
      | cons d after =>
        cases hscan
        rcases h.breaks_back d rfl with rfl | rfl | rfl <;> exact absurd hfits (Nat.lt_irrefl 1)
    | cons d after =>
      cases hscan
      exact congrArg Except.ok (h.escapeOf_eq hfits)
  by_cases hparen : c = '('
  · subst hparen
    cases hscan
    exact congrArg Except.ok (h.parenthesis_eq hfits)
  by_cases hbracket : c = '['
  · subst hbracket
    cases hlength : bracketLength? (text ++ back) with
    | none => simp [scanPlain, hlength] at hscan
    | some n =>
      simp only [scanPlain, hlength, Except.ok.injEq] at hscan
      subst hscan
      simp only [scanPlain, h.bracketLength?_eq_some hlength (Nat.le_of_succ_le_succ hfits)]
  · rw [← hscan]
    exact scanPlain_eq_of_plainLength hslash hparen hbracket (@plainLength_eq _ _ h extended (c :: text) hgap)

/-- A step finds the same token in front of the other tail, if the token does not reach the tail and the trivia
behind plain text do not either. -/
theorem scan_eq (h : Exchanges back other) {extended : Bool} {c : Char} {text : List Char} {lexeme : Lexeme}
    (hscan : scan extended c (text ++ back) = .ok lexeme) (hfits : lexeme.length ≤ text.length + 1)
    (hgap : extended = true → triviaLength false ((c :: text).dropWhile (isPlain extended) ++ back) ≤
      ((c :: text).dropWhile (isPlain extended)).length) :
    scan extended c (text ++ other) = .ok lexeme := by
  have htrivia : (if extended then triviaLength false (c :: (text ++ other)) else 0) =
      if extended then triviaLength false (c :: (text ++ back)) else 0 := by
    cases extended with
    | false => rfl
    | true =>
      rw [if_pos rfl, if_pos rfl]
      exact @triviaLength_eq _ _ h false (c :: text) ((triviaLength_le_of_scan hscan).trans hfits)
  have hquantifier : quantifier? (c :: (text ++ other)) = quantifier? (c :: (text ++ back)) :=
    (h.breaks_other.quantifier?_append (c :: text)).trans (h.breaks_back.quantifier?_append (c :: text)).symm
  unfold scan at hscan ⊢
  rw [htrivia, hquantifier]
  split at hscan
  · exact hscan
  split at hscan
  · exact hscan
  · exact h.scanPlain_eq hscan hfits hgap

end Exchanges

/-- The steps lead through the text, which stands at a byte of the pattern, to its tail `back`. There they stand
at the byte `place` in the scope `last`. -/
inductive CutsUpTo (last : Scope) (place : Nat) (back : List Char) :
    Scope → Nat → List Char → List Token → Prop
  /-- The tail is reached. -/
  | done : CutsUpTo last place back last place back []
  /-- A step finds a lexeme, and the tail is reached behind it. -/
  | step {scope : Scope} {offset : Nat} {c : Char} {rest : List Char} {lexeme : Lexeme}
      {tokens : List Token} (hscan : scan scope.extended c rest = .ok lexeme)
      (behind : CutsUpTo last place back (scope.after (ofLexeme lexeme offset (c :: rest)))
        (offset + (ofLexeme lexeme offset (c :: rest)).raw.utf8ByteSize)
        ((c :: rest).drop lexeme.length) tokens) :
      CutsUpTo last place back scope offset (c :: rest) (ofLexeme lexeme offset (c :: rest) :: tokens)

/-- What stands behind a run stands there if a part of the run is taken away. -/
theorem dropWhile_drop_of_le {p : Char → Bool} {text : List Char} {n : Nat}
    (h : n ≤ (text.takeWhile p).length) : (text.drop n).dropWhile p = text.dropWhile p := by
  have hrun := List.all_eq_true.mp (List.all_takeWhile (p := p) (l := text))
  calc (text.drop n).dropWhile p
      = ((text.takeWhile p).drop n ++ text.dropWhile p).dropWhile p := by
        rw [← List.drop_append_of_le_length h, List.takeWhile_append_dropWhile]
    _ = (text.dropWhile p).dropWhile p :=
        List.dropWhile_append_of_pos fun c hmem => hrun c (List.mem_of_mem_drop hmem)
    _ = text.dropWhile p := List.dropWhile_idempotent p text

namespace CutsUpTo

variable {last scope : Scope} {place offset : Nat} {back text : List Char} {tokens : List Token}

/-- If the tail can be cut, so can the text. -/
theorem cuts (h : CutsUpTo last place back scope offset text tokens) {behind : List Token}
    (hbehind : Cuts last place back behind) : Cuts scope offset text (tokens ++ behind) := by
  induction h with
  | done => exact hbehind
  | step hscan _ ih => exact .step hscan ih

/-- The bytes in front of the tail lead up to its place. -/
theorem exists_front (h : CutsUpTo last place back scope offset text tokens) :
    ∃ front, text = front ++ back ∧ place = offset + (String.ofList front).utf8ByteSize := by
  induction h with
  | done => exact ⟨[], rfl, rfl⟩
  | @step scope offset c rest lexeme tokens _ _ ih =>
    obtain ⟨front, hsplit, hplace⟩ := ih
    refine ⟨(c :: rest).take lexeme.length ++ front, ?_, ?_⟩
    · rw [List.append_assoc, ← hsplit, List.take_append_drop]
    · rw [hplace, String.ofList_append, String.utf8ByteSize_append, ← Nat.add_assoc]
      rfl

/-- The tail is no longer than the text. -/
theorem length_le (h : CutsUpTo last place back scope offset text tokens) : back.length ≤ text.length := by
  obtain ⟨front, rfl, -⟩ := h.exists_front
  rw [List.length_append]
  exact Nat.le_add_left _ _

/-- The tokens begin in front of the tail. -/
theorem offset_lt (h : CutsUpTo last place back scope offset text tokens) :
    ∀ token ∈ tokens, token.offset < place := by
  induction h with
  | done => exact List.forall_mem_nil _
  | @step scope offset c rest lexeme tokens hscan hbehind ih =>
    refine List.forall_mem_cons.mpr ⟨?_, ih⟩
    obtain ⟨front, -, hplace⟩ := hbehind.exists_front
    have hraw : (ofLexeme lexeme offset (c :: rest)).raw ≠ "" :=
      ofLexeme_raw_ne_empty offset (scan_fits hscan)
    have hpos := Nat.pos_of_ne_zero (mt String.utf8ByteSize_eq_zero_iff.mp hraw)
    have hfirst : (ofLexeme lexeme offset (c :: rest)).offset = offset := rfl
    omega

/-- Trivia behind plain text end in front of a tail that begins no trivia: a step takes them, or a part of the
text in front of them is taken and the next step looks at them again. -/
theorem triviaLength_le (h : CutsUpTo last place back scope offset text tokens) (hback : Breaks back)
    (hextended : scope.extended = true) :
    triviaLength false (text.dropWhile (isPlain true)) + back.length ≤
      (text.dropWhile (isPlain true)).length := by
  induction h with
  | done =>
    have hnone := hback.dropWhile_isPlain true []
    rw [List.nil_append, List.dropWhile_nil, List.nil_append] at hnone
    rw [hnone, triviaLength_of_noTrivia hback.noTrivia, Nat.zero_add]
  | @step scope offset c rest lexeme tokens hscan hbehind ih =>
    rw [hextended] at hscan
    by_cases hplain : isPlain true c = true
    · rw [scan_of_isPlain hplain, Except.ok.injEq] at hscan
      subst hscan
      rw [after_of_trivia_or_literal scope (.inr rfl)] at ih
      rw [← dropWhile_drop_of_le (plainLength_le true (c :: rest))]
      exact ih hextended
    · rw [List.dropWhile_cons_of_neg hplain]
      have htrivia := triviaLength_le_of_scan hscan
      have hfits := (scan_fits hscan).2
      have hle := hbehind.length_le
      rw [List.length_drop] at hle
      rw [List.length_cons] at hle ⊢
      omega

/-- The steps in front of a tail lead up to any other that can be put in its place. -/
theorem exchange {front other : List Char} (h : CutsUpTo last place back scope offset (front ++ back) tokens)
    (hother : Exchanges back other) : CutsUpTo last place other scope offset (front ++ other) tokens := by
  generalize htext : front ++ back = text at h
  induction h generalizing front with
  | done =>
    obtain rfl : front = [] := List.append_left_eq_self.mp htext
    exact .done
  | @step scope offset c rest lexeme tokens hscan hbehind ih =>
    obtain ⟨behind, hsplit, -⟩ := hbehind.exists_front
    obtain ⟨more, hmore⟩ : ∃ more, (c :: rest).take lexeme.length = c :: more := by
      obtain ⟨n, hn⟩ := Nat.exists_eq_succ_of_ne_zero (Nat.pos_iff_ne_zero.mp (scan_fits hscan).1)
      exact ⟨rest.take n, by rw [hn, List.take_succ_cons]⟩
    have hlength : lexeme.length = (c :: more).length := by
      rw [← hmore, List.length_take, List.length_cons, Nat.min_eq_left (scan_fits hscan).2]
    have hrest : c :: rest = c :: (more ++ behind ++ back) := by
      rw [List.append_assoc, ← List.cons_append, ← hmore, ← hsplit, List.take_append_drop]
    obtain ⟨-, rfl⟩ := List.cons.inj hrest
    obtain rfl : front = c :: (more ++ behind) := List.append_cancel_right htext
    have hfound : scan scope.extended c (more ++ behind ++ other) = .ok lexeme := by
      refine hother.scan_eq hscan ?_ fun hextended => ?_
      · rw [hlength, List.length_cons, List.length_append]
        omega
      · have hends := (step hscan hbehind).triviaLength_le hother.breaks_back hextended
        rw [← List.cons_append, hother.breaks_back.dropWhile_isPlain, List.length_append] at hends
        rw [hextended]
        omega
    have htoken : ofLexeme lexeme offset (c :: (more ++ behind ++ other)) =
        ofLexeme lexeme offset (c :: (more ++ behind ++ back)) := by
      rw [ofLexeme, ofLexeme, hmore, hlength, List.append_assoc, ← List.cons_append, List.take_left]
    have hdrop : (c :: (more ++ behind ++ other)).drop lexeme.length = behind ++ other := by
      rw [hlength, List.append_assoc, ← List.cons_append, List.drop_left]
    rw [List.cons_append, ← htoken]
    refine .step hfound ?_
    rw [htoken, hdrop]
    exact ih hsplit.symm

/-- If the text cannot be cut, the steps lead to a place where the next one fails. -/
theorem of_error {error : TokenizeError} (h : tokensFrom scope offset text = .error error) :
    ∃ last place c rest tokens flaw, CutsUpTo last place (c :: rest) scope offset text tokens ∧
      scan last.extended c rest = .error flaw ∧ error = flaw.at place := by
  induction hn : text.length using Nat.strongRecOn generalizing scope offset text with
  | ind n ih =>
    cases text with
    | nil =>
      rw [tokensFrom_nil] at h
      cases h
    | cons c rest =>
      cases hscan : scan scope.extended c rest with
      | error flaw =>
        rw [tokensFrom_of_scan_error offset hscan] at h
        cases h
        exact ⟨scope, offset, c, rest, [], flaw, .done, hscan, rfl⟩
      | ok lexeme =>
        have hlt := length_drop_lt hscan
        rw [tokensFrom_of_scan_ok offset hscan] at h
        cases hbehind : tokensFrom (scope.after (ofLexeme lexeme offset (c :: rest)))
            (offset + (ofLexeme lexeme offset (c :: rest)).raw.utf8ByteSize)
            ((c :: rest).drop lexeme.length) with
        | ok behind =>
          rw [hbehind] at h
          cases h
        | error behind =>
          rw [hbehind] at h
          cases h
          obtain ⟨last, place, d, more, tokens, flaw, hfront, hflaw, hat⟩ := ih _ (hn ▸ hlt) hbehind rfl
          exact ⟨last, place, d, more, _, flaw, .step hscan hfront, hflaw, hat⟩

end CutsUpTo

/-- What closes a class, whatever is open at the end of it: a member, which takes the place of an escaped
character or keeps the first bracket from being a member, and a number of closing brackets. -/
def ending (brackets : Nat) : List Char := 'a' :: List.replicate brackets ']'

/-- It begins no end of a POSIX item, and has none. -/
theorem noColon_ending (brackets : Nat) : (ending brackets).head? ≠ some ']' ∧ ':' ∉ ending brackets := by
  simp [ending, List.mem_replicate]

/-- As many closing brackets as classes are open end a class. -/
theorem classLength?_replicate (depth : Nat) :
    classLength? 0 depth (List.replicate (depth + 1) ']') = some (depth + 1) := by
  induction depth with
  | zero => rfl
  | succ depth ih =>
    rw [List.replicate_succ, classLength?_bracket, if_neg (by simp), Nat.add_sub_cancel, ih, Option.map_some]

/-- A class without end has one behind an ending. -/
theorem exists_classLength?_ending {skip depth : Nat} {text : List Char}
    (h : classLength? skip depth text = none) (hskip : skip ≤ text.length + 1) :
    ∃ brackets, classLength? skip depth (text ++ ending brackets) = some (text ++ ending brackets).length := by
  induction text generalizing skip depth with
  | nil =>
    refine ⟨depth + 1, ?_⟩
    have hends : (classLength? 0 depth (List.replicate (depth + 1) ']')).map (· + 1) =
        some (ending (depth + 1)).length := by
      rw [classLength?_replicate, Option.map_some, ending, List.length_cons, List.length_replicate]
    rw [List.nil_append]
    rcases Nat.le_one_iff_eq_zero_or_eq_one.mp hskip with rfl | rfl
    · exact (classLength?_member (by decide) (by decide) (by decide)).trans hends
    · exact (classLength?_skip Nat.one_pos).trans hends
  | cons c text ih =>
    -- what a rule says of the text alone and of the text in front of an ending
    have hstep {skip' depth' : Nat} (hskip' : skip' ≤ text.length + 1)
        (hrule : ∀ tail : List Char, tail.head? ≠ some ']' ∧ ':' ∉ tail →
          classLength? skip depth (c :: (text ++ tail)) =
            (classLength? skip' depth' (text ++ tail)).map (· + 1)) :
        ∃ brackets, classLength? skip depth (c :: text ++ ending brackets) =
          some (c :: text ++ ending brackets).length := by
      have hhere := hrule [] (by simp)
      rw [List.append_nil, h] at hhere
      obtain ⟨brackets, hends⟩ := ih (Option.map_eq_none_iff.mp hhere.symm) hskip'
      refine ⟨brackets, ?_⟩
      rw [List.cons_append, hrule _ (noColon_ending brackets), hends]
      rfl
    by_cases hpos : 0 < skip
    · exact hstep (Nat.sub_le_of_le_add hskip) fun _ _ => classLength?_skip hpos
    obtain rfl : skip = 0 := Nat.eq_zero_of_not_pos hpos
    by_cases hslash : c = '\\'
    · subst hslash
      exact hstep (Nat.le_add_left 1 _) fun _ _ => classLength?_backslash
    by_cases hopen : c = '['
    · subst hopen
      by_cases hcolon : ∃ item, text = ':' :: item
      · obtain ⟨item, rfl⟩ := hcolon
        cases hitem : posixEnd? item with
        | some n =>
          have hlt := posixEnd?_lt hitem
          refine @hstep (n + 3) _ ?_ fun tail _ => classLength?_item (posixEnd?_append hitem tail)
          rw [List.length_cons]
          omega
        | none =>
          exact hstep (Nat.zero_le _) fun tail htail =>
            classLength?_no_item (posixEnd?_append_eq_none hitem htail.1 htail.2)
      · refine hstep (Nat.zero_le _) fun tail htail => classLength?_nested fun item heq => ?_
        have hhead : tail.head? ≠ some ':' := fun hhead => htail.2 (List.mem_of_mem_head? hhead)
        obtain ⟨more, rfl, -⟩ := exists_cons_of_append hhead heq
        exact hcolon ⟨more, rfl⟩
    by_cases hclose : c = ']'
    · subst hclose
      by_cases hdepth : (depth == 0) = true
      · rw [classLength?_bracket, if_pos hdepth] at h
        cases h
      · exact hstep (Nat.zero_le _) fun _ _ => by rw [classLength?_bracket, if_neg hdepth]
    · exact hstep (Nat.zero_le _) fun _ _ => classLength?_member hslash hopen hclose

/-- A bracketed class without end has one behind an ending. -/
theorem exists_bracketLength?_ending {text : List Char} (h : bracketLength? text = none) :
    ∃ brackets, bracketLength? (text ++ ending brackets) = some (text ++ ending brackets).length := by
  have hmarks {mark : Char} (hne : mark ≠ 'a') (brackets : Nat) : (ending brackets).head? ≠ some mark := by
    simpa [ending] using hne.symm
  rw [bracketLength?_eq] at h
  obtain ⟨brackets, hends⟩ := exists_classLength?_ending (Option.map_eq_none_iff.mp h) (Nat.zero_le _)
  refine ⟨brackets, ?_⟩
  have hle := marksLength_le text
  rw [bracketLength?_append (hmarks (by decide) brackets) (hmarks (by decide) brackets), hends, Option.map_some,
    List.length_append, List.length_append, List.length_drop]
  congr 1
  omega

/-- Where a step fails, the text is a backslash or begins with a class without end. -/
theorem scan_error {extended : Bool} {c : Char} {rest : List Char} {flaw : Flaw}
    (h : scan extended c rest = .error flaw) :
    (flaw = .openEscape ∧ c = '\\' ∧ rest = []) ∨
      (flaw = .openClass ∧ c = '[' ∧ bracketLength? rest = none) := by
  unfold scan at h
  split at h
  · cases h
  split at h
  · cases h
  unfold scanPlain at h
  split at h
  · split at h
    · cases h
      exact .inl ⟨rfl, rfl, rfl⟩
    · cases h
  · cases h
  · cases h
  · cases h
  · cases h
  · cases h
  · cases h
  · split at h
    · cases h
    · rename_i hnone
      cases h
      exact .inr ⟨rfl, rfl, hnone⟩
  · cases h
  · cases h

/-- A backslash and an opening bracket begin neither trivia nor a quantifier. -/
theorem scan_eq_scanPlain (extended : Bool) {c : Char} (hc : c = '\\' ∨ c = '[') (rest : List Char) :
    scan extended c rest = scanPlain extended c rest := by
  rcases hc with rfl | rfl <;> cases extended <;> rfl

/-- A step that fails takes the whole text with an ending behind it. -/
theorem exists_scan_ending {extended : Bool} {c : Char} {rest : List Char} {flaw : Flaw}
    (h : scan extended c rest = .error flaw) :
    ∃ brackets lexeme, scan extended c (rest ++ ending brackets) = .ok lexeme ∧
      lexeme.length = (c :: rest ++ ending brackets).length := by
  rcases scan_error h with ⟨-, rfl, rfl⟩ | ⟨-, rfl, hnone⟩
  · refine ⟨0, ⟨.controlChar, 2⟩, ?_, rfl⟩
    rw [scan_eq_scanPlain extended (.inl rfl)]
    rfl
  · obtain ⟨brackets, hends⟩ := exists_bracketLength?_ending hnone
    refine ⟨brackets, ⟨.bracket, (rest ++ ending brackets).length + 1⟩, ?_, rfl⟩
    rw [scan_eq_scanPlain extended (.inr rfl)]
    simp only [scanPlain, hends]

section Exchange

variable {c : Char} {rest : List Char}

/-- A text that begins with a backslash or an opening bracket is nothing that runs, names and quantifiers go on
with. -/
theorem breaks_cons (hc : c = '\\' ∨ c = '[') : Breaks (c :: rest) := by
  intro d hd
  cases hd
  exact hc.elim (fun hslash => .inr (.inl hslash)) .inl

/-- Such a text can be taken away. -/
theorem exchanges_nil (hc : c = '\\' ∨ c = '[') : Exchanges (c :: rest) [] where
  breaks_back := breaks_cons hc
  breaks_other := breaks_nil
  marks := by simp
  items := fun text hnone => by
    rw [List.append_nil, Option.eq_none_iff_forall_ne_some]
    intro n hn
    rw [posixEnd?_append hn] at hnone
    cases hnone
  ne_nil := List.cons_ne_nil c rest
  conditions := fun text hnone => by
    rw [List.append_nil, Option.eq_none_iff_forall_ne_some]
    intro n hn
    rw [closingParen?_append hn] at hnone
    cases hnone
  back_head := by rcases hc with rfl | rfl <;> simp
  other_head := by simp

/-- It can be gone on with. -/
theorem exchanges_ending (hc : c = '\\' ∨ c = '[') (brackets : Nat) :
    Exchanges (c :: rest) (c :: rest ++ ending brackets) where
  breaks_back := breaks_cons hc
  breaks_other := breaks_cons hc
  marks := fun mark hmark hmem => by
    refine (List.mem_append.mp hmem).resolve_right fun hending => ?_
    rcases List.mem_cons.mp hending with rfl | hbracket
    · simp at hmark
    · rw [List.eq_of_mem_replicate hbracket] at hmark
      simp at hmark
  items := fun text hnone => by
    rw [← List.append_assoc]
    exact posixEnd?_append_eq_none hnone (noColon_ending brackets).1 (noColon_ending brackets).2
  ne_nil := List.cons_ne_nil c rest
  conditions := fun text hnone => by
    rw [← List.append_assoc]
    exact closingParen?_append_eq_none hnone (by simp [ending, List.mem_replicate])
  back_head := by rcases hc with rfl | rfl <;> simp
  other_head := by rcases hc with rfl | rfl <;> simp

end Exchange

/-- The pattern is cut short at the place that the error points at: `front` stands in front of it and is cut
into the tokens `before`, and `back` is left open. -/
structure CutShort (pattern : String) (error : TokenizeError) (front back : String) (before : List Token) :
    Prop where
  /-- The two are the pattern. -/
  pattern_eq : pattern = front ++ back
  /-- A backslash is left open at the end, or a class is. -/
  back_eq : (error = .trailingBackslash front.utf8ByteSize ∧ back = "\\") ∨
    (error = .unterminatedClass front.utf8ByteSize ∧ ∃ more, back = "[" ++ more)
  /-- What stands in front can be cut by itself. -/
  tokenize_front : tokenize front = .ok before
  /-- Its tokens begin in front of the place of the error. -/
  offset_lt : ∀ token ∈ before, token.offset < front.utf8ByteSize
  /-- The pattern can be completed: the same tokens stand in front, and one token takes what was left open. -/
  completes : ∃ suffix token, tokenize (pattern ++ suffix) = .ok (before ++ [token]) ∧
    token.offset = front.utf8ByteSize ∧ token.raw = back ++ suffix

/-- A pattern that cannot be cut is cut short. -/
theorem exists_cutShort_of_tokenize_error {pattern : String} {error : TokenizeError}
    (h : tokenize pattern = .error error) :
    ∃ front back before, CutShort pattern error front back before := by
  obtain ⟨last, place, c, rest, before, flaw, hfront, hscan, rfl⟩ := CutsUpTo.of_error h
  obtain ⟨front, hsplit, hplace⟩ := hfront.exists_front
  rw [Nat.zero_add] at hplace
  subst hplace
  have hc : c = '\\' ∨ c = '[' :=
    (scan_error hscan).imp (fun hescape => hescape.2.1) fun hclass => hclass.2.1
  have hpattern : pattern = String.ofList front ++ String.ofList (c :: rest) := by
    rw [← String.ofList_append, ← hsplit, String.ofList_toList]
  obtain ⟨brackets, lexeme, hends, hlength⟩ := exists_scan_ending hscan
  rw [hsplit] at hfront
  refine ⟨String.ofList front, String.ofList (c :: rest), before, hpattern, ?_, ?_, hfront.offset_lt, ?_⟩
  · rcases scan_error hscan with ⟨rfl, rfl, rfl⟩ | ⟨rfl, rfl, -⟩
    · exact .inl ⟨rfl, rfl⟩
    · exact .inr ⟨rfl, String.ofList rest, @String.ofList_append ['['] rest⟩
  · have hcuts := (hfront.exchange (exchanges_nil hc)).cuts .done
    rw [List.append_nil, List.append_nil] at hcuts
    exact tokensFrom_eq_ok_iff.mpr (by rwa [String.toList_ofList])
  · have hnone : (c :: (rest ++ ending brackets)).drop lexeme.length = [] := by
      rw [hlength, List.cons_append, List.drop_length]
    let token := ofLexeme lexeme (String.ofList front).utf8ByteSize (c :: (rest ++ ending brackets))
    have hbehind : Cuts last (String.ofList front).utf8ByteSize (c :: (rest ++ ending brackets)) [token] :=
      .step hends (by rw [hnone]; exact .done)
    have hcuts := (hfront.exchange (exchanges_ending hc brackets)).cuts hbehind
    refine ⟨String.ofList (ending brackets), token, tokensFrom_eq_ok_iff.mpr ?_, rfl, ?_⟩
    · rwa [String.toList_append, String.toList_ofList, hsplit, List.append_assoc]
    · have hraw : token.raw = String.ofList ((c :: rest ++ ending brackets).take lexeme.length) := rfl
      rw [hraw, hlength, List.take_length, String.ofList_append]

/-- A closing bracket alone would not complete this pattern: it would end a POSIX item that begins in the first
class, and leave that one open. -/
theorem exists_cutShort_open_item :
    tokenize "[[:a]x[b:" = .error (.unterminatedClass 6) ∧
      tokenize ("[[:a]x[b:" ++ "]") = .error (.unterminatedClass 0) ∧
      ∃ front back before, CutShort "[[:a]x[b:" (.unterminatedClass 6) front back before := by
  have herror : tokenize "[[:a]x[b:" = .error (.unterminatedClass 6) := by cbv
  exact ⟨herror, by cbv, exists_cutShort_of_tokenize_error herror⟩

end Railroad.Token
