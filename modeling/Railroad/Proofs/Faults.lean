import Railroad.Proofs.Balance
import Railroad.Proofs.Descent

/-!
# Unfinished and wrong input

A list of tokens without a tree is either a beginning of one with a tree, from which nothing is missing but
the ends of its groups, or it has a fault that no continuation mends. The error tells which of the two it
is, and an error about an unexpected token names one that has no place.
-/

namespace Railroad.Node

open Token (openings closings)

namespace Progress

/-- A step opens or closes as many groups as its token. -/
theorem Step.groups_length {progress next : Progress} {token : Token}
    (h : Step progress token next) :
    next.groups.length + closings [token] = progress.groups.length + openings [token] := by
  cases h with
  | opens hkind => simp [openings, closings, Token.opensGroup, Token.closesGroup, hkind, openGroup]
  | closes hkind hgroups =>
    simp [openings, closings, Token.opensGroup, Token.closesGroup, hkind, hgroups]
  | splits hkind => simp [openings, closings, Token.opensGroup, Token.closesGroup, hkind]
  | repeats hkind => simp [openings, closings, Token.opensGroup, Token.closesGroup, hkind]
  | stands hterminal =>
    have hkind : token.kind.isTerminal = true := by
      rw [← terminal?_isSome progress, hterminal, Option.isSome_some]
    have hcounts : token.opensGroup = false ∧ token.closesGroup = false := by
      unfold Token.opensGroup Token.closesGroup
      cases hk : token.kind <;> simp_all [Token.Kind.isTerminal]
    simp [openings, closings, hcounts]

/-- The groups that are open behind a run are those opened less those closed. -/
theorem groups_length_of_run {tokens : List Token} {progress : Progress}
    (hrun : start.run tokens = .ok progress) :
    progress.groups.length + closings tokens = openings tokens := by
  refine run_induction (motive := fun read progress =>
    progress.groups.length + closings read = openings read) rfl ?_ hrun
  intro read progress token next hread hstep
  have hlength := hstep.groups_length
  simp only [Token.openings_append, Token.closings_append]
  omega

/-- Closing tokens close as many groups as there are of them, from the innermost on. -/
theorem run_closers {closers : List Token} (hclosers : ∀ token ∈ closers, token.kind = .groupClose)
    (progress : Progress) (hlength : closers.length ≤ progress.groups.length) :
    ∃ last, progress.run closers = .ok last ∧
      last.groups = progress.groups.drop closers.length := by
  induction closers generalizing progress with
  | nil => exact ⟨progress, rfl, rfl⟩
  | cons close closers ih =>
    cases hgroups : progress.groups with
    | nil => simp [hgroups] at hlength
    | cons g groups =>
      have hstep := Step.closes (hclosers close List.mem_cons_self) hgroups
      rw [hgroups] at hlength
      obtain ⟨last, hrun, hlast⟩ := ih (fun token hmem => hclosers token (List.mem_cons_of_mem _ hmem))
        { progress with level := g.outer.push (g.closed progress.level.node), groups := groups }
        (Nat.le_of_succ_le_succ hlength)
      refine ⟨last, ?_, hlast⟩
      rw [run, step_eq_ok_iff.mpr hstep]
      exact hrun

/-- A run that fails is not mended by what follows. -/
theorem run_append_of_error {progress : Progress} {tokens : List Token} {e : ParseError}
    (h : progress.run tokens = .error e) (more : List Token) :
    progress.run (tokens ++ more) = .error e := by
  induction tokens generalizing progress with
  | nil => cases h
  | cons token tokens ih =>
    cases hstep : progress.step token with
    | error other => simpa only [List.cons_append, run, hstep] using h
    | ok next =>
      simp only [run, hstep] at h
      simpa only [List.cons_append, run, hstep] using ih h

/-- A run fails at the first token that cannot be read. -/
theorem exists_step_error_of_run {progress : Progress} {tokens : List Token} {e : ParseError}
    (h : progress.run tokens = .error e) :
    ∃ front token back middle, tokens = front ++ token :: back ∧ progress.run front = .ok middle ∧
      middle.step token = .error e := by
  induction tokens generalizing progress with
  | nil => cases h
  | cons token tokens ih =>
    cases hstep : progress.step token with
    | error other =>
      simp only [run, hstep] at h
      exact ⟨[], token, tokens, progress, rfl, rfl, hstep.trans h⟩
    | ok next =>
      simp only [run, hstep] at h
      obtain ⟨front, fault, back, middle, rfl, hfront, hfault⟩ := ih h
      refine ⟨token :: front, fault, back, middle, rfl, ?_, hfault⟩
      rw [run, hstep]
      exact hfront

/-- A token that has no place is a close without an open group, or trivia. Every other fault of a token is
a fault of a quantifier. -/
theorem step_error_cases {progress : Progress} {token : Token} {e : ParseError}
    (h : progress.step token = .error e) :
    (e = .unexpectedToken token.raw ∧ (token.kind = .groupClose ∨ token.kind = .trivia)) ∨
      e = .nothingToRepeat token.raw ∨ e = .repeatedQuantifier token.raw ∨
        e = .quantifiedAssertion token.raw := by
  unfold step at h
  split at h
  · cases h
  · rename_i hkind
    split at h <;> cases h
    exact .inl ⟨rfl, .inl hkind⟩
  · cases h
  · split at h
    · cases h
      exact .inr (.inl rfl)
    · split at h
      · cases h
        exact .inr (.inr (.inl rfl))
      · split at h <;> cases h
        exact .inr (.inr (.inr rfl))
  · rename_i hopen hclose hbar hquantifier
    split at h <;> cases h
    rename_i hterminal
    have hkind : token.kind.isTerminal = false := by
      rw [← terminal?_isSome progress, hterminal, Option.isSome_none]
    refine .inl ⟨rfl, .inr ?_⟩
    cases hk : token.kind <;> simp_all [Token.Kind.isTerminal]

end Progress

/-- Closing tokens close one group each and open none. -/
theorem counts_of_closers {closers : List Token}
    (hclosers : ∀ token ∈ closers, token.kind = .groupClose) :
    openings closers = 0 ∧ closings closers = closers.length := by
  constructor
  · refine List.countP_eq_zero.mpr fun token hmem => ?_
    simp [Token.opensGroup, hclosers token hmem]
  · refine List.countP_eq_length.mpr fun token hmem => ?_
    simp [Token.closesGroup, hclosers token hmem]

/-- The tokens have no tree because groups are left open: a run over them goes through. -/
theorem ofTokens_eq_unbalanced_iff {tokens : List Token} :
    ofTokens tokens = .error .unbalancedParentheses ↔
      ∃ progress, Progress.start.run tokens = .ok progress ∧ progress.groups ≠ [] := by
  unfold ofTokens
  constructor
  · intro h
    split at h
    · rename_i progress hrun
      refine ⟨progress, hrun, fun hgroups => ?_⟩
      simp only [Progress.finish, hgroups, reduceCtorEq] at h
    · rename_i e hrun
      cases h
      obtain ⟨front, token, back, middle, -, -, hfault⟩ := Progress.exists_step_error_of_run hrun
      obtain ⟨h, -⟩ | h | h | h := Progress.step_error_cases hfault <;> cases h
  · rintro ⟨progress, hrun, hgroups⟩
    obtain ⟨g, groups, hopen⟩ := List.exists_cons_of_ne_nil hgroups
    simp only [hrun, Progress.finish, hopen]

/-- Any other error is one of the run. -/
theorem run_eq_error_of_ofTokens {tokens : List Token} {e : ParseError}
    (h : ofTokens tokens = .error e) (he : e ≠ .unbalancedParentheses) :
    Progress.start.run tokens = .error e := by
  cases hrun : Progress.start.run tokens with
  | ok progress =>
    simp only [ofTokens, hrun, Progress.finish] at h
    split at h <;> cases h
    exact absurd rfl he
  | error other =>
    simp only [ofTokens, hrun, Except.error.injEq] at h
    rw [h]

/-- What the answer for some tokens says about the longer lists that begin with them. -/
structure Foretells (tokens : List Token) : Prop where
  /-- Groups are left open exactly if a tree is reached by closing them. -/
  unfinished_iff : ofTokens tokens = .error .unbalancedParentheses ↔
    ∃ closers, closers ≠ [] ∧ (∀ token ∈ closers, token.kind = .groupClose) ∧
      ∃ node, ofTokens (tokens ++ closers) = .ok node
  /-- It takes as many closes as there are groups left open, and any of them do. -/
  closers_iff : ofTokens tokens = .error .unbalancedParentheses →
    ∀ closers, (∀ token ∈ closers, token.kind = .groupClose) →
      ((∃ node, ofTokens (tokens ++ closers) = .ok node) ↔
        openings tokens = closings tokens + closers.length)
  /-- Any other error stays, whatever follows. -/
  wrong : ∀ e, ofTokens tokens = .error e → e ≠ .unbalancedParentheses →
    ∀ more, ofTokens (tokens ++ more) = .error e
  /-- An unexpected token is a close or trivia. What stands in front of it could have gone on. -/
  unexpected : ∀ raw, ofTokens tokens = .error (.unexpectedToken raw) →
    ∃ front token back, tokens = front ++ token :: back ∧ token.raw = raw ∧
      (token.kind = .groupClose ∨ token.kind = .trivia) ∧
        ((∃ node, ofTokens front = .ok node) ∨ ofTokens front = .error .unbalancedParentheses)

/-- The views that know what a run knows, with any answer to a primary astray. -/
def Views.plain (astray : Option Token → ParseError) : Views where
  terminal names token := ({ Progress.start with names := names } : Progress).terminal? token
  kind opener token := some (Progress.kindOf opener token)
  astray := astray

/-- Where groups are left open, they are closed by as many closes as there are of them. -/
theorem exists_ofTokens_append_closers_iff {tokens closers : List Token} {progress : Progress}
    (hrun : Progress.start.run tokens = .ok progress)
    (hclosers : ∀ token ∈ closers, token.kind = .groupClose) :
    (∃ node, ofTokens (tokens ++ closers) = .ok node) ↔ progress.groups.length = closers.length := by
  have hopen := Progress.groups_length_of_run hrun
  obtain ⟨hopenings, hclosings⟩ := counts_of_closers hclosers
  constructor
  · rintro ⟨node, h⟩
    obtain ⟨last, hlast, hgroups, -⟩ := ofTokens_eq_ok_iff.mp h
    have hclosed := Progress.groups_length_of_run hlast
    simp only [hgroups, List.length_nil, Token.openings_append, Token.closings_append] at hclosed
    omega
  · intro hlength
    obtain ⟨last, hlast, hgroups⟩ := Progress.run_closers hclosers progress (Nat.le_of_eq hlength.symm)
    refine ⟨last.level.node, ofTokens_eq_ok_iff.mpr ⟨last, ?_, ?_, rfl⟩⟩
    · rw [Progress.run_append closers hrun, hlast]
    · rw [hgroups, ← hlength, List.drop_length]

/-- The answer for every list of tokens foretells the answers for longer ones, and the descent gives the
same answer whatever it would say of a primary that is to begin with a bar, a close or the end. -/
theorem ofTokens_foretells :
    (∀ tokens, Foretells tokens) ∧
      ∀ astray tokens, descend (.plain astray) tokens = some (ofTokens tokens) := by
  refine ⟨fun tokens => ⟨⟨fun h => ?_, ?_⟩, fun h closers hclosers => ?_, fun e h he more => ?_,
    fun raw h => ?_⟩, fun astray tokens => ?_⟩
  · obtain ⟨progress, hrun, hgroups⟩ := ofTokens_eq_unbalanced_iff.mp h
    let close : Token := ⟨.groupClose, ")", 0⟩
    have hclosers : ∀ token ∈ List.replicate progress.groups.length close,
        token.kind = .groupClose := fun token hmem => by
      rw [List.eq_of_mem_replicate hmem]
    refine ⟨_, ?_, hclosers, (exists_ofTokens_append_closers_iff hrun hclosers).mpr ?_⟩
    · simpa [List.replicate_eq_nil_iff] using hgroups
    · exact List.length_replicate.symm
  · rintro ⟨closers, hne, hclosers, node, h⟩
    obtain ⟨last, hlast, -, -⟩ := ofTokens_eq_ok_iff.mp h
    obtain ⟨progress, hrun, -⟩ := Progress.exists_run_of_run_append hlast
    have hlength := (exists_ofTokens_append_closers_iff hrun hclosers).mp ⟨node, h⟩
    refine ofTokens_eq_unbalanced_iff.mpr ⟨progress, hrun, fun hgroups => hne ?_⟩
    exact List.eq_nil_of_length_eq_zero (by rw [← hlength, hgroups, List.length_nil])
  · obtain ⟨progress, hrun, -⟩ := ofTokens_eq_unbalanced_iff.mp h
    have hopen := Progress.groups_length_of_run hrun
    rw [exists_ofTokens_append_closers_iff hrun hclosers]
    omega
  · have hrun := Progress.run_append_of_error (run_eq_error_of_ofTokens h he) more
    simp only [ofTokens, hrun]
  · have hrun := run_eq_error_of_ofTokens h ParseError.noConfusion
    obtain ⟨front, token, back, middle, rfl, hfront, hfault⟩ := Progress.exists_step_error_of_run hrun
    obtain ⟨he, hkind⟩ | he | he | he := Progress.step_error_cases hfault
    · refine ⟨front, token, back, rfl, (ParseError.unexpectedToken.inj he).symm, hkind, ?_⟩
      by_cases hgroups : middle.groups = []
      · exact .inl ⟨_, ofTokens_eq_ok_iff.mpr ⟨middle, hfront, hgroups, rfl⟩⟩
      · exact .inr (ofTokens_eq_unbalanced_iff.mpr ⟨middle, hfront, hgroups⟩)
    · cases he
    · cases he
    · cases he
  · refine descend_eq_ofTokens ⟨fun token _ _ progress => ?_, fun _ _ _ _ => rfl⟩
    exact Progress.terminal?_eq_of_names rfl token

end Railroad.Node
