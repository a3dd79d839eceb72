import Railroad.Node.Parser

/-!
# Runs over tokens

What one token does to the progress is a relation with one rule for each kind of token. The rules say
everything that a step can do, guards included, so a property of all runs needs one case for each rule.
-/

namespace Railroad.Node.Progress

/-- What reading a token makes of the progress. -/
inductive Step (progress : Progress) (token : Token) : Progress → Prop
  /-- An opener begins a level. -/
  | opens {opener : Opener} (kind_eq : token.kind = .groupOpen opener) :
      Step progress token (progress.openGroup opener token)
  /-- A close makes the innermost group an item of the level around it. -/
  | closes {g : OpenGroup} {groups : List OpenGroup} (kind_eq : token.kind = .groupClose)
      (groups_eq : progress.groups = g :: groups) :
      Step progress token
        { progress with level := g.outer.push (g.closed progress.level.node), groups := groups }
  /-- A bar finishes an alternative. -/
  | splits (kind_eq : token.kind = .alternation) :
      Step progress token { progress with level := progress.level.behindBar }
  /-- A quantifier takes the latest item, which has none so far and is no position. -/
  | repeats {q : Quantifier} {item : Item} {items : List Item} (kind_eq : token.kind = .quantifier q)
      (items_eq : progress.level.items = item :: items) (fresh : item.repeated = false)
      (wide : item.node.isZeroWidth = false) :
      Step progress token
        { progress with level := ⟨progress.level.options, ⟨quantify q item.node, true⟩ :: items⟩ }
  /-- Any other token is an item of its own. -/
  | stands {t : Terminal} (terminal_eq : progress.terminal? token = some t) :
      Step progress token { progress with level := progress.level.push (.terminal t) }

/-- A token that is read as a terminal has none of the kinds that shape the tree, so a distinction of
these kinds comes to its last case. -/
theorem match_kind_of_terminal? {γ : Type} {progress : Progress} {token : Token} {t : Terminal}
    (h : progress.terminal? token = some t) (opens : Opener → γ) (closes splits : γ)
    (repeats : Quantifier → γ) (stands : γ) :
    (match token.kind with
      | .groupOpen opener => opens opener
      | .groupClose => closes
      | .alternation => splits
      | .quantifier q => repeats q
      | _ => stands) = stands := by
  split
  case h_5 => rfl
  all_goals
    rename_i hkind
    simp only [terminal?, hkind, reduceCtorEq] at h

/-- A token that is read as a terminal becomes an item. -/
theorem step_of_terminal? {progress : Progress} {token : Token} {t : Terminal}
    (h : progress.terminal? token = some t) :
    progress.step token = .ok { progress with level := progress.level.push (.terminal t) } := by
  refine (match_kind_of_terminal? h _ _ _ _ _).trans ?_
  rw [h]

/-- The rules are what a step computes. -/
theorem step_eq_ok_iff {progress next : Progress} {token : Token} :
    progress.step token = .ok next ↔ Step progress token next := by
  constructor
  · intro h
    unfold step at h
    split at h
    · rename_i hkind
      cases h
      exact .opens hkind
    · rename_i hkind
      split at h
      · cases h
      · rename_i hgroups
        cases h
        exact .closes hkind hgroups
    · rename_i hkind
      cases h
      exact .splits hkind
    · rename_i hkind
      split at h
      · cases h
      · rename_i hitems
        split at h
        · cases h
        · rename_i hfresh
          split at h
          · cases h
          · rename_i hwide
            cases h
            exact .repeats hkind hitems (Bool.eq_false_iff.mpr hfresh) (Bool.eq_false_iff.mpr hwide)
    · split at h
      · rename_i hterminal
        cases h
        exact .stands hterminal
      · cases h
  · intro h
    cases h with
    | opens hkind => simp only [step, hkind]
    | closes hkind hgroups => simp only [step, hkind, hgroups]
    | splits hkind => simp only [step, hkind]
    | repeats hkind hitems hfresh hwide =>
      simp only [step, hkind, hitems, hfresh, hwide, Bool.false_eq_true, if_false]
    | stands hterminal => exact step_of_terminal? hterminal

/-- A close is read only where a group is open. -/
theorem Step.groups_ne_nil {progress next : Progress} {token : Token} (h : Step progress token next)
    (hkind : token.kind = .groupClose) : progress.groups ≠ [] := by
  intro hgroups
  have hstep := step_eq_ok_iff.mpr h
  simp only [step, hkind, hgroups, reduceCtorEq] at hstep

/-- A run over two lists goes on with the second where the first ends. -/
theorem run_append {progress middle : Progress} {first : List Token} (second : List Token)
    (h : progress.run first = .ok middle) : progress.run (first ++ second) = middle.run second := by
  induction first generalizing progress with
  | nil =>
    cases h
    rfl
  | cons token first ih =>
    cases hstep : progress.step token with
    | error e => simp only [run, hstep, reduceCtorEq] at h
    | ok next =>
      simp only [run, hstep] at h
      simp only [List.cons_append, run, hstep]
      exact ih h

/-- A run over two lists that comes to its end has come to the end of the first. -/
theorem exists_run_of_run_append {progress last : Progress} {first second : List Token}
    (h : progress.run (first ++ second) = .ok last) :
    ∃ middle, progress.run first = .ok middle ∧ middle.run second = .ok last := by
  induction first generalizing progress with
  | nil => exact ⟨progress, rfl, h⟩
  | cons token first ih =>
    cases hstep : progress.step token with
    | error e => simp only [List.cons_append, run, hstep, reduceCtorEq] at h
    | ok next =>
      simp only [List.cons_append, run, hstep] at h ⊢
      exact ih h

/-- A run over a token and others begins with a step. -/
theorem exists_step_of_run_cons {progress last : Progress} {token : Token} {tokens : List Token}
    (h : progress.run (token :: tokens) = .ok last) :
    ∃ next, Step progress token next ∧ next.run tokens = .ok last := by
  cases hstep : progress.step token with
  | error e => simp only [run, hstep, reduceCtorEq] at h
  | ok next =>
    simp only [run, hstep] at h
    exact ⟨next, step_eq_ok_iff.mp hstep, h⟩

/-- A run over one token is a step. -/
theorem run_singleton {progress next : Progress} {token : Token} (h : Step progress token next) :
    progress.run [token] = .ok next := by
  simp only [run, step_eq_ok_iff.mpr h]

/-- A group that begins with a quantifier has no place. -/
theorem run_of_opener_quantifier (progress : Progress) {opener question : Token} {o : Opener}
    {q : Quantifier} (hopener : opener.kind = .groupOpen o) (hquestion : question.kind = .quantifier q)
    (behind : List Token) :
    progress.run (opener :: question :: behind) = .error (.nothingToRepeat question.raw) := by
  simp only [run, step, hopener, hquestion, openGroup]
  rfl

/-- What every step keeps, a run keeps. The property speaks of all tokens read so far, so the tokens
in front of the run are carried along. -/
theorem run_keeps {motive : List Token → Progress → Prop}
    (hstep : ∀ {read progress token next}, motive read progress → Step progress token next →
      motive (read ++ [token]) next)
    {read tokens : List Token} {progress last : Progress} (hread : motive read progress)
    (hrun : progress.run tokens = .ok last) : motive (read ++ tokens) last := by
  induction tokens generalizing read progress with
  | nil =>
    cases hrun
    rwa [List.append_nil]
  | cons token tokens ih =>
    cases hnext : progress.step token with
    | error e => simp only [run, hnext, reduceCtorEq] at hrun
    | ok next =>
      simp only [run, hnext] at hrun
      have hlast := ih (hstep hread (step_eq_ok_iff.mp hnext)) hrun
      rwa [List.append_assoc] at hlast

/-- What holds before anything is read, and is kept by every step, holds after every run. -/
theorem run_induction {motive : List Token → Progress → Prop} (hstart : motive [] start)
    (hstep : ∀ {read progress token next}, motive read progress → Step progress token next →
      motive (read ++ [token]) next)
    {tokens : List Token} {progress : Progress} (hrun : start.run tokens = .ok progress) :
    motive tokens progress :=
  List.nil_append tokens ▸ run_keeps hstep hstart hrun

end Railroad.Node.Progress

namespace Railroad.Node

/-- Tokens have a tree exactly when the run over them ends with every group closed. -/
theorem ofTokens_eq_ok_iff {tokens : List Token} {node : Node} :
    ofTokens tokens = .ok node ↔
      ∃ progress, Progress.start.run tokens = .ok progress ∧ progress.groups = [] ∧
        progress.level.node = node := by
  unfold ofTokens
  constructor
  · intro h
    split at h
    · rename_i progress hrun
      unfold Progress.finish at h
      split at h
      · rename_i hgroups
        cases h
        exact ⟨progress, hrun, hgroups, rfl⟩
      · cases h
    · cases h
  · rintro ⟨progress, hrun, hgroups, rfl⟩
    simp only [hrun, Progress.finish, hgroups]

end Railroad.Node
