import Mathlib
import Railroad.Proofs.Cutting
import Railroad.Proofs.Reading
import Railroad.Proofs.SkippedComments

/-!
# Comments in front of a pattern

The tokens know no comments in parentheses: the parenthesis counts as the opener of a group, and the question mark
behind it as a quantifier with nothing to repeat. So wherever a check passes over comments, it accepts patterns
that have no diagram.
-/

namespace Railroad

namespace Token

/-- Where a comment begins, its parenthesis opens a group and its question mark repeats. -/
theorem Cuts.comment {scope : Scope} {offset : Nat} {text : List Char} {tokens : List Token}
    (h : Cuts scope offset ('(' :: '?' :: '#' :: text) tokens) :
    ∃ opener question behind, tokens = opener :: question :: behind ∧
      opener.kind = .groupOpen .capturing ∧
      question.kind = .quantifier ⟨.zeroOrOne, true, false⟩ ∧ question.raw = "?" := by
  cases h with
  | step hscan hbehind =>
    have hopener : ∀ extended, scan extended '(' ('?' :: '#' :: text) =
        .ok ⟨.groupOpen .capturing, 1⟩ := by
      intro extended
      cases extended <;> rfl
    rw [hopener] at hscan
    cases hscan
    cases hbehind with
    | step hscan _ =>
      have hquestion : ∀ extended, scan extended '?' ('#' :: text) =
          .ok ⟨.quantifier ⟨.zeroOrOne, true, false⟩, 1⟩ := by
        intro extended
        cases extended <;> rfl
      rw [hquestion] at hscan
      cases hscan
      exact ⟨_, _, _, rfl, rfl, rfl, rfl⟩

end Token

/-- A pattern that begins with a comment has no tree. If it can be cut into tokens at all, nothing can be
repeated at the beginning of the group that the comment seems to be. -/
theorem Node.ofPattern_comment (text : String) :
    Node.ofPattern ("(?#" ++ text) = .error (.tree (.nothingToRepeat "?")) ∨
      ∃ flaw, Node.ofPattern ("(?#" ++ text) = .error (.tokens flaw) := by
  unfold Node.ofPattern
  cases htokens : tokenize ("(?#" ++ text) with
  | error flaw => exact .inr ⟨flaw, rfl⟩
  | ok tokens =>
    have hcuts : Token.Cuts .initial 0 ('(' :: '?' :: '#' :: text.toList) tokens := by
      rw [← Token.tokensFrom_eq_ok_iff, ← htokens, tokenize, String.toList_append]
      rfl
    obtain ⟨opener, question, behind, rfl, hopener, hquestion, hraw⟩ := hcuts.comment
    left
    dsimp only
    rw [List.filter_cons_of_pos (by rw [hopener]; rfl),
      List.filter_cons_of_pos (by rw [hquestion]; rfl), Node.ofTokens,
      Node.Progress.run_of_opener_quantifier _ hopener hquestion, hraw]

/-- A check that passes over comments accepts a pattern behind a comment if it accepts the pattern. Still no zoom
gives a diagram: the pattern is refused for its tokens. -/
theorem visualize_comment {α : Type} [Scalar α] {validator : Validator} (hcomments : validator.PassesComments)
    {note pattern : String} (hnote : CommentText note.toList) (hpattern : validator pattern = .ok ()) :
    validator ("(?#" ++ note ++ ")" ++ pattern) = .ok () ∧
      ∃ e, (e = .tree (.nothingToRepeat "?") ∨ ∃ flaw, e = .tokens flaw) ∧
        ∀ scale : Nat, visualize validator ("(?#" ++ note ++ ")" ++ pattern) scale =
          (.failed (PatternError.message e) : Visualization α) := by
  have hvalid := hcomments note pattern hnote hpattern
  refine ⟨hvalid, ?_⟩
  have hnonempty : ("(?#" ++ note ++ ")" ++ pattern).isEmpty = false := by
    refine String.isEmpty_eq_false_iff.mpr fun hempty => ?_
    have hlist := congrArg String.toList hempty
    simp only [String.toList_append, List.append_assoc] at hlist
    cases hlist
  obtain ⟨e, he, herror⟩ : ∃ e, (e = .tree (.nothingToRepeat "?") ∨ ∃ flaw, e = .tokens flaw) ∧
      Node.ofPattern ("(?#" ++ note ++ ")" ++ pattern) = .error e := by
    have hpattern := Node.ofPattern_comment (note ++ ")" ++ pattern)
    rw [← String.append_assoc, ← String.append_assoc] at hpattern
    rcases hpattern with herror | ⟨flaw, herror⟩
    · exact ⟨_, .inl rfl, herror⟩
    · exact ⟨_, .inr ⟨flaw, rfl⟩, herror⟩
  refine ⟨e, he, fun scale => ?_⟩
  rw [visualize, hnonempty, analyze, hvalid, herror]
  rfl

/-- A comment whose text holds a quoted parenthesis stands in front of a literal, and the engine decides. -/
theorem visualize_comment_quotedParenthesis :
    Validator.PassesComments Regex.validate ∧ Regex.validate "a" = .ok () ∧
      Regex.validate ("(?#" ++ "b\\)c" ++ ")" ++ "a") = .ok () ∧
      ∃ e, (e = .tree (.nothingToRepeat "?") ∨ ∃ flaw, e = .tokens flaw) ∧
        ∀ scale : Nat, visualize Regex.validate ("(?#" ++ "b\\)c" ++ ")" ++ "a") scale =
          (.failed (PatternError.message e) : Visualization Float) := by
  have hnote : CommentText "b\\)c".toList :=
    .plain (by decide) (.quoted (.plain (by decide) .nil))
  have hpattern : Regex.validate "a" = .ok () := by cbv
  exact ⟨Regex.passesComments_validate, hpattern,
    visualize_comment Regex.passesComments_validate hnote hpattern⟩

/-- Not everything that passes has a diagram: a literal behind a comment passes, and none is drawn. -/
theorem not_forall_diagram_of_validate :
    ¬ ∀ validator : Validator, validator.PassesComments →
      ∀ (pattern : String) (scale : Nat), pattern ≠ "" → validator pattern = .ok () →
        ∃ diagram : Diagram Float, visualize validator pattern scale = .diagram diagram := by
  intro h
  have hvalid : Regex.validate "(?#note)a" = .ok () := by cbv
  obtain ⟨e, htree⟩ : ∃ e, Node.ofPattern "(?#note)a" = .error e := by
    have htext : "(?#" ++ "note)a" = "(?#note)a" := by decide
    rcases Node.ofPattern_comment "note)a" with herror | ⟨flaw, herror⟩ <;> rw [htext] at herror
    · exact ⟨_, herror⟩
    · exact ⟨_, herror⟩
  have hnonempty : ("(?#note)a").isEmpty = false := by decide
  obtain ⟨diagram, hdiagram⟩ :=
    h Regex.validate Regex.passesComments_validate "(?#note)a" 100 (by decide) hvalid
  rw [visualize, hnonempty, analyze, hvalid, htree] at hdiagram
  cases hdiagram

end Railroad
