import Mathlib
import Railroad.Proofs.Grammar
import Railroad.Proofs.NameText
import Railroad.Proofs.Numbering
import Railroad.Proofs.Printing

/-!
# References by name

A name is known from its opener on, inside the group as well as behind it, and an opener that repeats a
name takes it over. The known names are threaded through the run over the tokens; here they are read off
the tokens alone, so that the terminal of a reference is a matter of the openers in front of it. Terminals
stand in a tree in the order of their tokens.
-/

namespace Railroad

/-- Whether the token opens a group with this name. -/
def Token.declares (name : String) (token : Token) : Bool :=
  token.kind = .groupOpen .named ∧ token.name?.getD "" = name

/-- The group with this number is the last one that was given the name among the tokens. Its number is
one more than there are capturing openers in front of its own. -/
def Token.LastDeclared (name : String) (tokens : List Token) (number : Nat) : Prop :=
  ∃ front opener back, tokens = front ++ opener :: back ∧ opener.declares name = true ∧
    (∀ token ∈ back, token.declares name = false) ∧
    number = (front.filter Token.opensCapture).length + 1

namespace Node

mutual

/-- The terminals of a tree from left to right. -/
def leaves : Node → List Terminal
  | sequence parts => leavesOfAll parts
  | choice options => leavesOfAll options
  | quantified _ _ content => content.leaves
  | group _ _ _ content => content.leaves
  | terminal t => [t]

/-- The terminals of a list of trees. -/
def leavesOfAll : List Node → List Terminal
  | [] => []
  | node :: nodes => node.leaves ++ leavesOfAll nodes

end

/-- Trees in a row show their terminals in a row. -/
theorem leavesOfAll_eq (nodes : List Node) : leavesOfAll nodes = nodes.flatMap leaves := by
  induction nodes with
  | nil => rfl
  | cons node nodes ih => rw [leavesOfAll, ih, List.flatMap_cons]

/-- The terminals, as a spelling. -/
def leafing : Spelling Terminal where
  node := leaves
  bar := []
  opening := fun _ _ => []
  closing := []
  mark := fun _ => []
  node_sequence := fun parts => leavesOfAll_eq parts
  node_choice := fun options => by
    rw [intercalate_nil_eq, ← List.flatMap_def]
    exact leavesOfAll_eq options
  node_closed := fun g content => by
    rw [OpenGroup.closed, leaves, List.append_nil]
    rfl
  node_quantify := fun q content => by
    rw [List.append_nil]
    obtain ⟨repetition, greedy, possessive⟩ := q
    cases possessive <;> rfl

/-- A token shows the terminal that it is read as, and no other token shows anything. -/
theorem leafing_token {progress next : Progress} {token : Token}
    (h : Progress.Step progress token next) :
    leafing.token progress token = (progress.terminal? token).toList := by
  cases h with
  | opens hkind => simp only [Spelling.token, Progress.terminal?, hkind]; rfl
  | closes hkind => simp only [Spelling.token, Progress.terminal?, hkind]; rfl
  | splits hkind => simp only [Spelling.token, Progress.terminal?, hkind]; rfl
  | repeats hkind => simp only [Spelling.token, Progress.terminal?, hkind]; rfl
  | stands hterminal =>
    rw [leafing.token_of_terminal? hterminal, hterminal]
    rfl

/-- Whether a token is read as a terminal is a matter of its kind, and the terminal has its text. -/
theorem map_raw_terminal? (progress : Progress) (token : Token) :
    (progress.terminal? token).toList.map (·.raw) =
      ([token].filter fun token => token.kind.isTerminal).map (·.raw) := by
  have hkind := terminal?_isSome progress token
  cases hterminal : progress.terminal? token with
  | none =>
    rw [hterminal] at hkind
    rw [List.filter_cons_of_neg (p := fun token : Token => token.kind.isTerminal)
      (Bool.eq_false_iff.mp hkind.symm)]
    rfl
  | some t =>
    rw [hterminal] at hkind
    rw [List.filter_cons_of_pos (p := fun token : Token => token.kind.isTerminal) hkind.symm]
    exact congrArg (fun raw => [raw]) (terminal?_raw hterminal)

/-- The texts of the terminals read so far are those of the tokens of terminal kinds. -/
theorem leafing_run {tokens : List Token} {progress : Progress}
    (hrun : Progress.start.run tokens = .ok progress) :
    (leafing.progress progress).map (·.raw) =
      (tokens.filter fun token => token.kind.isTerminal).map (·.raw) := by
  refine Progress.run_induction (motive := fun read progress =>
    (leafing.progress progress).map (·.raw) =
      (read.filter fun token => token.kind.isTerminal).map (·.raw)) rfl ?_ hrun
  intro read progress token next hread hstep
  rw [leafing.progress_step hstep, leafing_token hstep, List.map_append, hread, List.filter_append,
    List.map_append, map_raw_terminal?]

/-- What has been read as terminals stays in front of what is read later. -/
theorem leafing_prefix {tokens : List Token} {progress last : Progress}
    (hrun : progress.run tokens = .ok last) :
    leafing.progress progress <+: leafing.progress last := by
  induction tokens generalizing progress with
  | nil =>
    cases hrun
    exact List.prefix_refl _
  | cons token tokens ih =>
    obtain ⟨next, hstep, hafter⟩ := Progress.exists_step_of_run_cons hrun
    refine List.IsPrefix.trans ?_ (ih hafter)
    rw [leafing.progress_step hstep]
    exact List.prefix_append _ _

/-- The opener of a named group puts its name in front of the known ones, with the next number. -/
theorem names_of_named {progress next : Progress} {token : Token}
    (hstep : Progress.Step progress token next) (hkind : token.kind = .groupOpen .named) :
    next.names = (token.name?.getD "", progress.next) :: progress.names := by
  cases hstep with
  | opens hopens =>
    cases Token.Kind.groupOpen.inj (hopens.symm.trans hkind)
    rfl
  | closes hother => exact absurd (hkind.symm.trans hother) Token.Kind.noConfusion
  | splits hother => exact absurd (hkind.symm.trans hother) Token.Kind.noConfusion
  | repeats hother => exact absurd (hkind.symm.trans hother) Token.Kind.noConfusion
  | stands hterminal => simp only [Progress.terminal?, hkind, reduceCtorEq] at hterminal

/-- Any other token leaves the known names alone. -/
theorem names_of_not_named {progress next : Progress} {token : Token}
    (hstep : Progress.Step progress token next) (hkind : token.kind ≠ .groupOpen .named) :
    next.names = progress.names := by
  cases hstep with
  | @opens opener hopens =>
    cases opener with
    | named => exact absurd hopens hkind
    | _ => rfl
  | closes => rfl
  | splits => rfl
  | repeats => rfl
  | stands => rfl

end Node

namespace Token

/-- The first opener with a name is the last one for as long as no other follows. -/
theorem LastDeclared.here {name : String} {token : Token} (tokens : List Token)
    (h : token.declares name = true) :
    LastDeclared name (tokens ++ [token]) ((tokens.filter opensCapture).length + 1) :=
  ⟨tokens, token, [], rfl, h, fun _ hmem => absurd hmem List.not_mem_nil, rfl⟩

/-- The last opener with a name stays the last one behind a token that declares another. -/
theorem LastDeclared.concat {name : String} {tokens : List Token} {number : Nat} {token : Token}
    (h : LastDeclared name tokens number) (htoken : token.declares name = false) :
    LastDeclared name (tokens ++ [token]) number := by
  obtain ⟨front, opener, back, rfl, hopener, hback, hnumber⟩ := h
  refine ⟨front, opener, back ++ [token], ?_, hopener, ?_, hnumber⟩
  · rw [List.append_assoc, List.cons_append]
  · intro other hmem
    rcases List.mem_append.mp hmem with hmem | hmem
    · exact hback other hmem
    · rw [List.mem_singleton.mp hmem, htoken]

/-- What a list of known names has to say about the tokens read so far. -/
structure Knows (names : List (String × Nat)) (tokens : List Token) : Prop where
  /-- A name that is found belongs to the last group that was given it. -/
  of_some : ∀ {name number}, names.lookup name = some number → LastDeclared name tokens number
  /-- A name that is not found was given to no group. -/
  of_none : ∀ {name}, names.lookup name = none → ∀ token ∈ tokens, token.declares name = false

/-- The opener of a named group takes its name over. -/
theorem Knows.named {names : List (String × Nat)} {tokens : List Token} {token : Token}
    (h : Knows names tokens) (hkind : token.kind = .groupOpen .named) :
    Knows ((token.name?.getD "", (tokens.filter opensCapture).length + 1) :: names)
      (tokens ++ [token]) := by
  have hdeclares : ∀ name, token.declares name = (name == token.name?.getD "") := by
    intro name
    rw [declares, Bool.eq_iff_iff, decide_eq_true_eq, beq_iff_eq]
    exact ⟨fun hname => hname.2.symm, fun hname => ⟨hkind, hname.symm⟩⟩
  constructor
  · intro name number hfound
    rw [List.lookup_cons] at hfound
    cases hname : name == token.name?.getD "" with
    | true =>
      rw [hname] at hfound
      cases hfound
      exact LastDeclared.here tokens ((hdeclares name).trans hname)
    | false =>
      rw [hname] at hfound
      exact (h.of_some hfound).concat ((hdeclares name).trans hname)
  · intro name hmissing other hmem
    rw [List.lookup_cons] at hmissing
    cases hname : name == token.name?.getD "" with
    | true =>
      rw [hname] at hmissing
      cases hmissing
    | false =>
      rw [hname] at hmissing
      rcases List.mem_append.mp hmem with hmem | hmem
      · exact h.of_none hmissing other hmem
      · rw [List.mem_singleton.mp hmem, hdeclares, hname]

/-- A token that opens no named group changes nothing. -/
theorem Knows.other {names : List (String × Nat)} {tokens : List Token} {token : Token}
    (h : Knows names tokens) (hkind : token.kind ≠ .groupOpen .named) :
    Knows names (tokens ++ [token]) := by
  have hdeclares : ∀ name, token.declares name = false := by
    intro name
    rw [declares, decide_eq_false_iff_not]
    exact fun hname => hkind hname.1
  constructor
  · exact fun hfound => (h.of_some hfound).concat (hdeclares _)
  · intro name hmissing other hmem
    rcases List.mem_append.mp hmem with hmem | hmem
    · exact h.of_none hmissing other hmem
    · rw [List.mem_singleton.mp hmem, hdeclares]

end Token

namespace Node

/-- After a run the known names tell of each name whether a group has it, and which one was given it
last. -/
theorem knows_run {tokens : List Token} {progress : Progress}
    (hrun : Progress.start.run tokens = .ok progress) : Token.Knows progress.names tokens := by
  refine (Progress.run_induction (motive := fun read progress =>
    Progress.start.run read = .ok progress ∧ Token.Knows progress.names read) ?_ ?_ hrun).2
  · exact ⟨rfl, fun h => (nomatch h), fun _ _ hmem => absurd hmem List.not_mem_nil⟩
  · rintro read progress token next ⟨hread, hknows⟩ hstep
    refine ⟨(Progress.run_append _ hread).trans (Progress.run_singleton hstep), ?_⟩
    by_cases hkind : token.kind = .groupOpen .named
    · rw [names_of_named hstep hkind, (counting_run hread).1]
      exact hknows.named hkind
    · rw [names_of_not_named hstep hkind]
      exact hknows.other hkind

/-- A group that was given a name is in the tree under its name and number. -/
theorem mem_heads_of_lastDeclared {before after : List Token} {node : Node}
    (h : ofTokens (before ++ after) = .ok node) {name : String} {number : Nat}
    (hlast : Token.LastDeclared name before number) :
    ⟨.named name, some number⟩ ∈ node.heads := by
  obtain ⟨front, opener, back, rfl, hopener, -, rfl⟩ := hlast
  obtain ⟨hkind, rfl⟩ := of_decide_eq_true hopener
  have hcapture : opener.opensCapture = true := by rw [Token.opensCapture, hkind]; rfl
  have hcounted : captureHead (front.filter Token.opensCapture).length opener ∈ node.counted := by
    rw [counted_ofTokens h, List.append_assoc, List.filter_append, List.cons_append,
      List.filter_cons_of_pos hcapture, List.mapIdx_append, List.mapIdx_cons]
    refine List.mem_append_right _ (List.mem_cons.mpr (.inl ?_))
    rw [Nat.zero_add]
  rw [captureHead, Token.captureKind, if_pos hkind] at hcounted
  exact (List.mem_filter.mp hcounted).1

/-- What a reference to a name behind some tokens is in the tree of all of them. -/
inductive Resolves (name : String) (before : List Token) (node : Node) : TerminalKind → Prop
  /-- The last group that was given the name, which the tree has under it. -/
  | known {number : Nat} (last : Token.LastDeclared name before number)
      (mem : ⟨.named name, some number⟩ ∈ node.heads) :
      Resolves name before node (.backreference number)
  /-- Nothing, where no group has been given the name. -/
  | unknown (none : ∀ token ∈ before, token.declares name = false) :
      Resolves name before node .unknown

/-- The terminal of a reference by name resolves the name. -/
theorem resolves_of_knows {names : List (String × Nat)} {before after : List Token} {node : Node}
    (h : ofTokens (before ++ after) = .ok node) (hknows : Token.Knows names before)
    (raw name : String) :
    Resolves name before node (Terminal.namedBackreference raw name (names.lookup name)).kind := by
  cases hfound : names.lookup name with
  | none => exact .unknown (hknows.of_none hfound)
  | some number =>
    have hlast := hknows.of_some hfound
    exact .known hlast (mem_heads_of_lastDeclared h hlast)

/-- The terminals of a tree are those of its tokens in order, and each reference by name among them is a
reference to the last group that was given the name in front of it, or unknown. In the tokens of a
pattern a name is what stands between the delimiters of the text. -/
theorem leaves_resolve_names :
    (∀ {tokens : List Token} {node : Node}, ofTokens tokens = .ok node →
      node.leaves.map (·.raw) = (tokens.filter fun token => token.kind.isTerminal).map (·.raw) ∧
      ∀ {before after : List Token} {token : Token}, tokens = before ++ token :: after →
        token.kind = .namedBackreference →
        ∃ t, node.leaves[(before.filter fun token => token.kind.isTerminal).length]? = some t ∧
          Resolves (token.name?.getD "") before node t.kind) ∧
    ∀ {pattern : String} {tokens : List Token}, tokenize pattern = .ok tokens →
      ∀ token ∈ tokens, (token.kind = .namedBackreference → ∃ name, token.RefersTo name) ∧
        (token.kind = .groupOpen .named → ∃ name, token.Introduces name) := by
  refine ⟨fun {tokens node} h => ⟨?_, ?_⟩, fun h token hmem =>
    ⟨Token.refersTo_of_tokenize h hmem, Token.introduces_of_tokenize h hmem⟩⟩
  · obtain ⟨last, hrun, hgroups, rfl⟩ := ofTokens_eq_ok_iff.mp h
    rw [← leafing_run hrun, ← leafing.node_eq_progress hgroups]
    rfl
  · rintro before after token rfl hkind
    obtain ⟨last, hrun, hgroups, rfl⟩ := ofTokens_eq_ok_iff.mp h
    obtain ⟨progress, hbefore, hbehind⟩ := Progress.exists_run_of_run_append hrun
    obtain ⟨next, hstep, hafter⟩ := Progress.exists_step_of_run_cons hbehind
    let name := token.name?.getD ""
    let t := Terminal.namedBackreference token.raw name (progress.names.lookup name)
    have hterminal : progress.terminal? token = some t := by
      simp only [Progress.terminal?, hkind]
      rfl
    have hlength : (before.filter fun token => token.kind.isTerminal).length =
        (leafing.progress progress).length := by
      rw [← List.length_map (f := (·.raw)), ← leafing_run hbefore, List.length_map]
    have hread : leafing.progress progress ++ [t] <+: last.level.node.leaves := by
      have hnext : leafing.progress next = leafing.progress progress ++ [t] := by
        rw [leafing.progress_step hstep, leafing_token hstep, hterminal]
        rfl
      have hleaves : last.level.node.leaves = leafing.progress last :=
        leafing.node_eq_progress hgroups
      rw [← hnext, hleaves]
      exact leafing_prefix hafter
    refine ⟨t, ?_, resolves_of_knows h (knows_run hbefore) token.raw name⟩
    obtain ⟨rest, hrest⟩ := hread
    rw [hlength, ← hrest, List.append_assoc, List.getElem?_append_right (Nat.le_refl _), Nat.sub_self]
    rfl

/-- The tokens of a pattern in which a name is referred to inside its group, taken over by a second group
and referred to again. -/
def takenOver : List Token :=
  [⟨.groupOpen .named, "(?<n>", 0⟩, ⟨.literal, "a", 5⟩, ⟨.namedBackreference, "\\k<n>", 6⟩,
    ⟨.groupClose, ")", 11⟩, ⟨.groupOpen .named, "(?P<n>", 12⟩, ⟨.literal, "b", 18⟩,
    ⟨.groupClose, ")", 19⟩, ⟨.namedBackreference, "\\k'n'", 20⟩, ⟨.namedBackreference, "(?P=m)", 25⟩]

/-- The reference behind both groups is to the second one, and the view of its token is the name between
its quotes. -/
theorem leaves_resolve_names_takenOver :
    tokenize "(?<n>a\\k<n>)(?P<n>b)\\k'n'(?P=m)" = .ok takenOver ∧
      (∃ name, Token.RefersTo ⟨.namedBackreference, "\\k'n'", 20⟩ name) ∧
      ∃ node t, ofTokens takenOver = .ok node ∧ node.leaves[3]? = some t ∧
        Resolves "n" (takenOver.take 7) node t.kind ∧ t.kind = .backreference 2 := by
  have htokens : tokenize "(?<n>a\\k<n>)(?P<n>b)\\k'n'(?P=m)" = .ok takenOver := by cbv
  have htree : ∃ node, ofTokens takenOver = .ok node := ⟨_, rfl⟩
  obtain ⟨node, h⟩ := htree
  have hname := (leaves_resolve_names.2 htokens ⟨.namedBackreference, "\\k'n'", 20⟩ (by decide)).1 rfl
  have hsplit : takenOver =
      takenOver.take 7 ++ ⟨.namedBackreference, "\\k'n'", 20⟩ :: takenOver.drop 8 := rfl
  obtain ⟨t, hleaf, hresolves⟩ := (leaves_resolve_names.1 h).2 hsplit rfl
  refine ⟨htokens, hname, node, t, h, hleaf, hresolves, ?_⟩
  cases h
  cases hleaf
  rfl

end Node

end Railroad
