import Mathlib
import Railroad.Proofs.ExtendedScope
import Railroad.Proofs.Faults
import Railroad.Proofs.Lookahead
import Railroad.Proofs.NameText
import Railroad.Proofs.Raising

/-!
# A pattern in parentheses

A pattern that has a tree has it also inside parentheses: the opener in front of it and the close behind it
leave its tokens and its tree as they are. Only the numbers of its groups are higher by one if the
parentheses are a numbered group themselves.
-/

namespace Railroad

namespace Token

/-- A reference by number takes its digits and nothing else. -/
theorem escapeOf_backreference {c : Char} {after : List Char} {number : Nat}
    (h : (escapeOf c after).kind = .backreference number) :
    c.isDigit = true ∧ (escapeOf c after).length = (after.takeWhile Char.isDigit).length + 2 := by
  rcases escapeOf_rules c after with ⟨kind, hmem, heq⟩ | ⟨hdigit, group, heq⟩ | ⟨-, heq⟩ | ⟨-, heq⟩ |
    ⟨width, -, heq⟩ | heq
  · obtain rfl : kind = .backreference number := by rwa [heq] at h
    simp at hmem
  · exact ⟨hdigit, by rw [heq]⟩
  · rw [heq] at h
    rcases namedReference_cases after with hname | ⟨n, hname⟩ <;> rw [hname] at h <;> cases h
  · rw [heq] at h
    rcases property_cases (c == 'P') after with hproperty | ⟨n, hproperty⟩ <;> rw [hproperty] at h <;> cases h
  · rw [heq] at h
    cases h
  · rw [heq] at h
    cases h

/-- A reference by number is a backslash with digits. -/
theorem scan_backreference {extended : Bool} {c : Char} {rest : List Char} {lexeme : Lexeme}
    {number : Nat} (h : scan extended c rest = .ok lexeme) (hkind : lexeme.kind = .backreference number) :
    ∃ digits, (c :: rest).take lexeme.length = '\\' :: digits ∧ ∀ d ∈ digits, d.isDigit = true := by
  have hplain := scanPlain_of_scan h (by simp [hkind]) (by simp [hkind])
  rcases scanPlain_cases hplain with ⟨rfl, d, after, rfl, rfl⟩ | ⟨rfl, rfl⟩ | hbare
  · obtain ⟨hdigit, hlength⟩ := escapeOf_backreference hkind
    refine ⟨d :: after.takeWhile Char.isDigit, ?_, ?_⟩
    · rw [hlength, List.take_succ_cons, List.take_succ_cons,
        ← List.prefix_iff_eq_take.mp (List.takeWhile_prefix Char.isDigit)]
    · intro e hmem
      rcases List.mem_cons.mp hmem with rfl | hmem
      · exact hdigit
      · exact List.all_eq_true.mp List.all_takeWhile e hmem
  · exact absurd hkind (parenthesis_kind_ne rfl Kind.noConfusion rest)
  · rw [hkind] at hbare
    cases hbare

/-- The references among the tokens of a pattern show in their text whether they are made by name. -/
theorem showsReference_of_tokenize {pattern : String} {tokens : List Token}
    (h : tokenize pattern = .ok tokens) : ∀ token ∈ tokens, token.ShowsReference := by
  intro token hmem
  refine ⟨fun hkind => ?_, fun number hkind => ?_⟩
  · obtain ⟨name, hname, -⟩ := refersTo_of_tokenize h hmem hkind
    exact ⟨name, hname⟩
  · obtain ⟨extended, place, c, rest, lexeme, hscan, rfl⟩ :=
      (tokensFrom_eq_ok_iff.mp h).exists_scan hmem
    obtain ⟨digits, htake, hdigits⟩ := scan_backreference hscan hkind
    have hplain : ∀ d ∈ '\\' :: digits, (d != '<' && d != '\'') = true := by
      intro d hmem
      rcases List.mem_cons.mp hmem with rfl | hmem
      · rfl
      · have hdigit := hdigits d hmem
        simp only [Bool.and_eq_true, bne_iff_ne]
        constructor <;> rintro rfl <;> simp at hdigit
    have hnone : ('\\' :: digits).dropWhile (fun c => c != '<' && c != '\'') = [] :=
      List.dropWhile_eq_nil_iff.mpr hplain
    simp only [name?, ofLexeme, String.toList_ofList, htake, hnone]
    simp [Text.after?]

/-- A question mark is a quantifier wherever a token begins with it. -/
theorem scan_question {extended : Bool} {rest : List Char} {lexeme : Lexeme}
    (h : scan extended '?' rest = .ok lexeme) : ∃ q, lexeme.kind = .quantifier q := by
  have htrivia : (if extended then triviaLength false ('?' :: rest) else 0) = 0 := by
    have hblank : Unicode.isBlank '?' = false := by decide
    cases extended <;> simp [triviaLength, hblank]
  have hquantifier : ∃ q n, quantifier? ('?' :: rest) = some (q, n) := by
    simp only [quantifier?, repetition?]
    split <;> exact ⟨_, _, rfl⟩
  obtain ⟨q, n, hq⟩ := hquantifier
  simp only [scan, htrivia, hq] at h
  cases h
  exact ⟨q, rfl⟩

/-- The token without its place in the pattern. -/
def unplaced (token : Token) : Token := { token with offset := 0 }

/-- The scope behind a token is no matter of its place. -/
theorem after_unplaced (scope : Scope) (token : Token) :
    scope.after token.unplaced = scope.after token := rfl

/-- Settings at the bottom of the stack are kept, unless a close finds no other. -/
theorem after_append {scope : Scope} {token : Token} (bottom : List Bool)
    (h : token.kind = .groupClose → scope.outer ≠ []) :
    Scope.after ⟨scope.extended, scope.outer ++ bottom⟩ token =
      ⟨(scope.after token).extended, (scope.after token).outer ++ bottom⟩ := by
  obtain ⟨extended, outer⟩ := scope
  unfold Scope.after Scope.switched
  cases hkind : token.kind with
  | groupOpen opener =>
    dsimp only
    split
    · split <;> rfl
    · rfl
  | groupClose =>
    obtain ⟨setting, settings, rfl⟩ := List.exists_cons_of_ne_nil (h hkind)
    rfl
  | inlineFlags =>
    dsimp only
    split <;> rfl
  | _ => rfl

/-- The stack grows with the openers and shrinks with the closes. -/
theorem outer_length_after {scope : Scope} (token : Token)
    (h : token.kind = .groupClose → scope.outer ≠ []) :
    (scope.after token).outer.length + closings [token] = scope.outer.length + openings [token] := by
  by_cases hopens : token.opensGroup = true
  · rw [outer_after_of_opensGroup scope hopens, openings_cons_of_opensGroup [] hopens,
      closings_cons_of_not_closesGroup [] (closesGroup_of_opensGroup hopens)]
    simp
  have hnone := openings_cons_of_not_opensGroup [] (Bool.eq_false_iff.mpr hopens)
  by_cases hcloses : token.closesGroup = true
  · obtain ⟨extended, outer⟩ := scope
    obtain ⟨setting, settings, rfl⟩ := List.exists_cons_of_ne_nil (h (of_decide_eq_true hcloses))
    rw [after_of_closesGroup hcloses, hnone, closings_cons_of_closesGroup [] hcloses]
    simp
  · rw [outer_after_of_neither scope (Bool.eq_false_iff.mpr hopens) (Bool.eq_false_iff.mpr hcloses),
      hnone, closings_cons_of_not_closesGroup [] (Bool.eq_false_iff.mpr hcloses)]
    rfl

/-- Tokens that can be read are the same in front of a closing parenthesis at the end of the text, if the
text does not end inside a comment. -/
theorem Cuts.enclosed {scope : Scope} {offset : Nat} {text : List Char} {tokens : List Token}
    (h : Cuts scope offset text tokens) {progress last : Node.Progress}
    (hrun : progress.run (tokens.filter (·.kind != .trivia)) = .ok last)
    (hdepth : scope.outer.length = progress.groups.length)
    (hcomment : ∀ final, tokens.getLast? = some final → final.kind = .trivia →
      ¬ EndsInComment final.raw.toList) (bottom : List Bool) (place : Nat) :
    ∃ behind, Cuts ⟨scope.extended, scope.outer ++ bottom⟩ place (closed text) behind ∧
      behind.map unplaced = tokens.map unplaced ++ [⟨.groupClose, ")", 0⟩] := by
  induction h generalizing progress place with
  | done =>
    have hclose : ∀ extended, scan extended ')' [] = .ok ⟨.groupClose, 1⟩ := by
      intro extended
      cases extended <;> rfl
    exact ⟨_, .step (hclose _) .done, rfl⟩
  | @step scope offset c rest lexeme tokens hscan hbehind ih =>
    have hfits := scan_fits hscan
    have hgroup : rest.head? = some '?' → lexeme ≠ ⟨.groupOpen .capturing, 1⟩ := by
      rintro hquestion rfl
      obtain ⟨more, rfl⟩ := List.head?_eq_some_iff.mp hquestion
      cases hbehind with
      | step hnext _ =>
        obtain ⟨q, hq⟩ := scan_question hnext
        rw [List.filter_cons_of_pos (by simp [ofLexeme]), List.filter_cons_of_pos (by simp [ofLexeme, hq]),
          Node.Progress.run_of_opener_quantifier progress rfl hq] at hrun
        cases hrun
    have hend : lexeme.kind = .trivia → (c :: rest).drop lexeme.length = [] →
        ¬ EndsInComment ((c :: rest).take lexeme.length) := by
      intro hkind hnil
      rw [hnil] at hbehind
      cases hbehind
      have hlast := hcomment (ofLexeme lexeme offset (c :: rest)) rfl hkind
      rwa [ofLexeme, String.toList_ofList] at hlast
    have hscan' := scan_closed hscan hgroup hend
    have hsame (place : Nat) : (ofLexeme lexeme place (c :: closed rest)).unplaced =
        (ofLexeme lexeme offset (c :: rest)).unplaced := by
      simp only [unplaced, ofLexeme]
      rw [← closed_cons, take_closed hfits.2]
    -- trivia change neither side, and any other token changes both sides alike
    obtain ⟨next, hrest, hnext, hclose⟩ : ∃ next : Node.Progress,
        next.run (tokens.filter (·.kind != .trivia)) = .ok last ∧
          (scope.after (ofLexeme lexeme offset (c :: rest))).outer.length = next.groups.length ∧
          (lexeme.kind = .groupClose → scope.outer ≠ []) := by
      by_cases hkind : lexeme.kind = .trivia
      · rw [List.filter_cons_of_neg (by simp [ofLexeme, hkind])] at hrun
        refine ⟨progress, hrun, ?_, by simp [hkind]⟩
        rw [outer_after_of_neither scope (by simp [opensGroup, ofLexeme, hkind])
          (by simp [closesGroup, ofLexeme, hkind])]
        exact hdepth
      · rw [List.filter_cons_of_pos (by simpa [ofLexeme] using hkind)] at hrun
        obtain ⟨next, hstep, hrest⟩ := Node.Progress.exists_step_of_run_cons hrun
        have hclose : lexeme.kind = .groupClose → scope.outer ≠ [] := by
          intro hkind houter
          rw [houter] at hdepth
          exact hstep.groups_ne_nil hkind (List.length_eq_zero_iff.mp hdepth.symm)
        have hlength := hstep.groups_length
        have houter := outer_length_after (ofLexeme lexeme offset (c :: rest)) hclose
        exact ⟨next, hrest, by omega, hclose⟩
    have hlater : ∀ final, tokens.getLast? = some final → final.kind = .trivia →
        ¬ EndsInComment final.raw.toList := by
      intro final hfinal
      refine hcomment final ?_
      rw [List.getLast?_cons, hfinal]
      rfl
    obtain ⟨behind, hcuts, hbehind⟩ := ih hrest hnext hlater
      (place + (ofLexeme lexeme place (c :: closed rest)).raw.utf8ByteSize)
    rw [closed_cons]
    refine ⟨ofLexeme lexeme place (c :: closed rest) :: behind, .step hscan' ?_, ?_⟩
    · have hafter : Scope.after ⟨scope.extended, scope.outer ++ bottom⟩
          (ofLexeme lexeme place (c :: closed rest)) =
            Scope.after ⟨scope.extended, scope.outer ++ bottom⟩ (ofLexeme lexeme offset (c :: rest)) := by
        rw [← after_unplaced, hsame, after_unplaced]
      rw [hafter, after_append bottom hclose, ← closed_cons, drop_closed hfits.2]
      exact hcuts
    · rw [List.map_cons, hsame, hbehind]
      rfl

end Token

namespace Node

namespace Progress

/-- What a token makes of the progress is no matter of its place. -/
theorem run_unplaced (progress : Progress) (tokens : List Token) :
    progress.run (tokens.map Token.unplaced) = progress.run tokens := by
  induction tokens generalizing progress with
  | nil => rfl
  | cons token tokens ih =>
    have hstep : progress.step token.unplaced = progress.step token := rfl
    rw [List.map_cons, run, run, hstep]
    cases progress.step token with
    | ok next => exact ih next
    | error e => rfl

end Progress

/-- The pattern ends inside a comment of the extended notation. -/
def EndsInComment (pattern : String) : Prop :=
  ∃ tokens final, tokenize pattern = .ok tokens ∧ tokens.getLast? = some final ∧
    final.kind = .trivia ∧ Token.EndsInComment final.raw.toList

/-- A pattern with a tree is read up to its end, with no group left open. -/
theorem exists_run_of_ofPattern {pattern : String} {node : Node} (h : ofPattern pattern = .ok node) :
    ∃ tokens last, tokenize pattern = .ok tokens ∧
      Progress.start.run (tokens.filter (·.kind != .trivia)) = .ok last ∧ last.groups = [] ∧
        last.level.node = node := by
  unfold ofPattern at h
  split at h
  · cases h
  · rename_i tokens htokens
    split at h
    · cases h
    · rename_i node' hnode
      cases h
      obtain ⟨last, hrun, hgroups, hnode⟩ := ofTokens_eq_ok_iff.mp hnode
      exact ⟨tokens, last, htokens, hrun, hgroups, hnode⟩

/-- A pattern with a tree begins with no question mark. -/
theorem head?_ne_question {pattern : String} {node : Node} (h : ofPattern pattern = .ok node) :
    pattern.toList.head? ≠ some '?' := by
  intro hquestion
  obtain ⟨more, hmore⟩ := List.head?_eq_some_iff.mp hquestion
  obtain ⟨tokens, last, htokens, hrun, -, -⟩ := exists_run_of_ofPattern h
  have hcuts := Token.tokensFrom_eq_ok_iff.mp htokens
  rw [hmore] at hcuts
  cases hcuts with
  | step hscan _ =>
    obtain ⟨q, hq⟩ := Token.scan_question hscan
    rw [List.filter_cons_of_pos (by simp [Token.ofLexeme, hq])] at hrun
    simp [Progress.run, Progress.step, Token.ofLexeme, hq, Progress.start, Level.empty] at hrun

/-- The tokens of a pattern in parentheses are those of the pattern, between the opener and the close. -/
theorem tokenize_enclosed {pattern : String} {tokens : List Token} {last : Progress}
    (htokens : tokenize pattern = .ok tokens)
    (hrun : Progress.start.run (tokens.filter (·.kind != .trivia)) = .ok last)
    (hcomment : ¬ EndsInComment pattern) {opening : List Char} {opener : Opener}
    (hscan : Token.scan false '(' (opening ++ Token.closed pattern.toList) =
      .ok ⟨.groupOpen opener, opening.length + 1⟩) (hflagged : opener ≠ .flagged) :
    ∃ first behind, tokenize (String.ofList ('(' :: opening) ++ pattern ++ ")") = .ok (first :: behind) ∧
      first.kind = .groupOpen opener ∧
      behind.map Token.unplaced = tokens.map Token.unplaced ++ [⟨.groupClose, ")", 0⟩] := by
  have hend : ∀ final, tokens.getLast? = some final → final.kind = .trivia →
      ¬ Token.EndsInComment final.raw.toList := fun final hfinal hkind hopen =>
    hcomment ⟨tokens, final, htokens, hfinal, hkind, hopen⟩
  have htext : (String.ofList ('(' :: opening) ++ pattern ++ ")").toList =
      '(' :: (opening ++ Token.closed pattern.toList) := by
    simp [Token.closed]
  let first := Token.ofLexeme ⟨.groupOpen opener, opening.length + 1⟩ 0
    ('(' :: (opening ++ Token.closed pattern.toList))
  obtain ⟨behind, hcuts, hbehind⟩ := (Token.tokensFrom_eq_ok_iff.mp htokens).enclosed hrun rfl hend
    [false] (0 + first.raw.utf8ByteSize)
  refine ⟨first, behind, ?_, rfl, hbehind⟩
  have hafter : Token.Scope.initial.after first = ⟨false, [] ++ [false]⟩ := by
    simp [Token.Scope.after, first, Token.ofLexeme, hflagged, Token.Scope.initial]
  rw [tokenize, htext]
  refine Token.tokensFrom_eq_ok_iff.mpr (.step hscan ?_)
  have hdrop : ('(' :: (opening ++ Token.closed pattern.toList)).drop (opening.length + 1) =
      Token.closed pattern.toList := by simp
  rw [hafter, hdrop]
  exact hcuts

/-- The tree of a pattern in parentheses is a group around what the pattern is read as behind the opener. -/
theorem ofPattern_enclosed {pattern : String} {tokens : List Token} {last : Progress}
    (htokens : tokenize pattern = .ok tokens)
    (hrun : Progress.start.run (tokens.filter (·.kind != .trivia)) = .ok last)
    (hcomment : ¬ EndsInComment pattern) (opening : List Char) {opener : Opener}
    (hscan : Token.scan false '(' (opening ++ Token.closed pattern.toList) =
      .ok ⟨.groupOpen opener, opening.length + 1⟩) (hflagged : opener ≠ .flagged)
    {base inner : Progress} (kind : GroupKind) (index : Option Nat)
    (hopens : ∀ token, Progress.start.openGroup opener token = base.inside [⟨.empty, kind, index⟩])
    (hinner : base.run (tokens.filter (·.kind != .trivia)) = .ok inner) (hgroups : inner.groups = []) :
    ofPattern (String.ofList ('(' :: opening) ++ pattern ++ ")") =
      .ok (.group kind index (kind.label index) inner.level.node) := by
  obtain ⟨first, behind, htokens', hfirst, hbehind⟩ :=
    tokenize_enclosed htokens hrun hcomment hscan hflagged
  let whole : Progress := { inner with
    level := Level.empty.push (.group kind index (kind.label index) inner.level.node), groups := [] }
  have hread : (base.inside [⟨.empty, kind, index⟩]).run (behind.filter (·.kind != .trivia)) =
      .ok whole := by
    let close : Token := ⟨.groupClose, ")", 0⟩
    have hopen : (inner.inside [⟨.empty, kind, index⟩]).groups = [⟨.empty, kind, index⟩] := by
      rw [Progress.inside, hgroups]
      rfl
    have hclose : Progress.Step (inner.inside [⟨.empty, kind, index⟩]) close whole :=
      .closes rfl hopen
    have hsame (tokens : List Token) : (tokens.map Token.unplaced).filter (·.kind != .trivia) =
        (tokens.filter (·.kind != .trivia)).map Token.unplaced := List.filter_map
    rw [← Progress.run_unplaced, ← hsame, hbehind, List.filter_append, hsame,
      Progress.run_append _ (by rw [Progress.run_unplaced]; exact Progress.run_inside _ hinner)]
    exact Progress.run_singleton hclose
  have htree : ofTokens ((first :: behind).filter (·.kind != .trivia)) =
      .ok (.group kind index (kind.label index) inner.level.node) := by
    have hstep : Progress.start.step first = .ok (Progress.start.openGroup opener first) :=
      Progress.step_eq_ok_iff.mpr (.opens hfirst)
    refine ofTokens_eq_ok_iff.mpr ⟨whole, ?_, rfl, rfl⟩
    rw [List.filter_cons_of_pos (by simp [hfirst]), Progress.run, hstep, hopens]
    exact hread
  rw [ofPattern, htokens']
  simp only [htree]

/-- Parentheses around a pattern with a tree, which does not end inside a comment, are a group around the
same tree. Where the group is numbered, it is the first one, and the groups of the pattern and the references
to them by name have the next numbers. -/
theorem ofPattern_grouped {pattern : String} {node : Node} (h : ofPattern pattern = .ok node)
    (hcomment : ¬ EndsInComment pattern) :
    ofPattern ("(?:" ++ pattern ++ ")") = .ok (.group .nonCapturing none "Non-capturing group" node) ∧
      ofPattern ("(" ++ pattern ++ ")") =
        .ok (.group .capturing (some 1) "Capturing group #1" node.raised) := by
  obtain ⟨tokens, last, htokens, hrun, hgroups, rfl⟩ := exists_run_of_ofPattern h
  constructor
  · exact ofPattern_enclosed htokens hrun hcomment ['?', ':'] rfl (by decide) .nonCapturing none
      (fun _ => rfl) hrun hgroups
  · have hraised := Progress.run_raised (fun token hmem =>
      Token.showsReference_of_tokenize htokens token (List.mem_of_mem_filter hmem)) hrun
    have hscan : Token.scan false '(' (Token.closed pattern.toList) =
        .ok ⟨.groupOpen .capturing, 1⟩ := by
      have hquestion : (Token.closed pattern.toList).head? ≠ some '?' := by
        rw [Ne, Token.head?_closed_eq_iff (by decide)]
        exact head?_ne_question h
      have hparenthesis := Token.parenthesis_of_ne hquestion
      exact congrArg Except.ok hparenthesis
    have hgrouped := ofPattern_enclosed htokens hrun hcomment [] hscan (by decide) .capturing (some 1)
      (fun _ => rfl) hraised (by simp [Progress.raised, hgroups])
    rw [← Level.node_raised]
    exact hgrouped

/-- The tree of a pattern that refers to its group by name and by number, where the group has the given
number and the reference by number is to the first group. -/
def referring (number : Nat) (label : String) : Node :=
  .sequence [.group (.named "n") (some number) label (.terminal (.literal "a")),
    .terminal (.namedBackreference "\\k<n>" "n" (some number)), .terminal (.backreference "\\1" 1)]

/-- In parentheses the group is the second one, and only the reference by name goes with it. -/
theorem ofPattern_grouped_referring :
    ofPattern "(?<n>a)\\k<n>\\1" = .ok (referring 1 "Capturing group #1 <n>") ∧
      ¬ EndsInComment "(?<n>a)\\k<n>\\1" ∧
      ofPattern ("(" ++ "(?<n>a)\\k<n>\\1" ++ ")") = .ok (.group .capturing (some 1)
        "Capturing group #1" (referring 2 "Capturing group #2 <n>")) := by
  have htokens : tokenize "(?<n>a)\\k<n>\\1" = .ok [⟨.groupOpen .named, "(?<n>", 0⟩, ⟨.literal, "a", 5⟩,
      ⟨.groupClose, ")", 6⟩, ⟨.namedBackreference, "\\k<n>", 7⟩, ⟨.backreference 1, "\\1", 12⟩] := by cbv
  have htree : ofPattern "(?<n>a)\\k<n>\\1" = .ok (referring 1 "Capturing group #1 <n>") := by
    rw [ofPattern, htokens]
    rfl
  have hcomment : ¬ EndsInComment "(?<n>a)\\k<n>\\1" := by
    rintro ⟨tokens, final, hall, hfinal, hkind, -⟩
    cases htokens.symm.trans hall
    cases hfinal
    cases hkind
  have hraised : (referring 1 "Capturing group #1 <n>").raised =
      referring 2 "Capturing group #2 <n>" := rfl
  refine ⟨htree, hcomment, ?_⟩
  rw [← hraised]
  exact (ofPattern_grouped htree hcomment).2

end Node

end Railroad
