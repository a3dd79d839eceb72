import Railroad.Proofs.Reports

/-!
# Walking over matches

Replacing walks over the matches that a host finds and cuts out what stands between them. There is an outcome
exactly if no match begins in front of the end of the one before it. A host that searches in turn finds matches
that end in order, but it may find one that begins too early: only where the beginning of a match is moved in
front of the search that finds it, and only if the search goes on behind the first match.
-/

namespace Railroad

variable {ε μ : Type} {host : Host ε μ}

section Found

variable {pattern : String} {matcher : μ} {text : Subject} {position : Nat} {found : List Captures}

/-- The matches that are found in turn from a position on, and their order. -/
theorem Host.Searches.found_of_findsInTurn (hsearches : host.Searches)
    (hmatcher : host.compile pattern = .ok matcher) (h : host.FindsInTurn matcher text position found) :
    (∀ c ∈ found, c.FoundFrom position text.size) ∧
      found.Pairwise (fun a b => a.whole.stop ≤ b.whole.stop) ∧
      (host.MovesAhead matcher → position ≤ text.size → InOrder text.size position found) := by
  induction h with
  | done => exact ⟨List.forall_mem_nil _, .nil, fun _ hposition => hposition⟩
  | @turn position origin c more hposition hsize hfound _ ih =>
    have hone := hsearches.foundFrom pattern matcher hmatcher text origin c hsize hfound
    obtain ⟨hmore, hstops, horder⟩ := ih
    have hstop : position ≤ c.whole.stop := hposition.trans hone.origin_le_stop
    refine ⟨List.forall_mem_cons.mpr ⟨⟨hone.toInside, hstop⟩, fun d hd =>
        ⟨(hmore d hd).toInside, hstop.trans (hmore d hd).origin_le_stop⟩⟩,
      List.pairwise_cons.mpr ⟨fun d hd => (hmore d hd).origin_le_stop, hstops⟩, fun hahead _ => ?_⟩
    exact ⟨hposition.trans (hahead text origin c hsize hfound), hone.start_le_stop,
      horder hahead hone.stop_le_size⟩

/-- The matches that are found in a text, one or all of them, and their order. -/
theorem Host.Searches.found_of_findMatches (hsearches : host.Searches)
    (hmatcher : host.compile pattern = .ok matcher) {everywhere : Bool}
    (h : host.findMatches matcher everywhere text = .ok found) :
    (∀ c ∈ found, c.Inside text.size) ∧ found.Pairwise (fun a b => a.whole.stop ≤ b.whole.stop) ∧
      (everywhere = false ∨ host.MovesAhead matcher → InOrder text.size 0 found) := by
  cases everywhere with
  | true =>
    have hturn := hsearches.inTurn pattern matcher hmatcher text found h
    obtain ⟨hall, hstops, horder⟩ := hsearches.found_of_findsInTurn hmatcher hturn
    exact ⟨fun c hc => (hall c hc).toInside, hstops, fun hahead =>
      horder (hahead.resolve_left Bool.true_eq_false.mp) (Nat.zero_le _)⟩
  | false =>
    obtain rfl | ⟨c, rfl, hfirst⟩ := Host.findMatches_first_cases h
    · exact ⟨List.forall_mem_nil _, .nil, fun _ => Nat.zero_le _⟩
    · have hone := hsearches.foundFrom pattern matcher hmatcher text 0 c (Nat.zero_le _) hfirst
      exact ⟨List.forall_mem_singleton.mpr hone.toInside, List.pairwise_singleton _ _,
        fun _ => ⟨Nat.zero_le _, hone.start_le_stop, hone.stop_le_size⟩⟩

end Found

-- The order of matches is a recursion on them, so unfolding it would set off the search.
/-- The matches of a pattern in a subject that are walked over: none if the pattern is empty, and none if it
cannot be prepared or the search is given up. -/
@[irreducible]
def walked (host : Host ε μ) (pattern subject : String) (flags : Flags) : List Captures :=
  if pattern.isEmpty then []
  else
    match host.compile (flags.switch ++ pattern) with
    | .error _ => []
    | .ok matcher => (host.findMatches matcher flags.everywhere subject.toList.toArray).toOption.getD []

/-- The pattern has matches to walk over, or there are none and it runs without an effect on the subject. -/
theorem walked_cases (host : Host ε μ) (pattern subject template : String) (flags : Flags) :
    (walked host pattern subject flags = [] ∧ Bytewise.processWith host pattern subject template flags =
      some (processWith host pattern subject template flags)) ∨
    ∃ matcher found, host.compile (flags.switch ++ pattern) = .ok matcher ∧
      host.findMatches matcher flags.everywhere subject.toList.toArray = .ok found ∧
      walked host pattern subject flags = found ∧
      processWith host pattern subject template flags =
        .ok (.ofCaptures template.toList (host.names matcher) subject.toList.toArray found) ∧
      Bytewise.processWith host pattern subject template flags =
        (Bytewise.ofCaptures template.toList (host.names matcher) subject.toList found).map .ok := by
  unfold walked
  by_cases hempty : pattern = ""
  · subst hempty
    exact .inl ⟨rfl, rfl⟩
  have hpattern : pattern.isEmpty = false := by
    rw [Bool.eq_false_iff, ne_eq, String.isEmpty_iff]
    exact hempty
  rw [hpattern, if_neg Bool.false_ne_true]
  cases hmatcher : host.compile (flags.switch ++ pattern) with
  | error e =>
    left
    unfold Bytewise.processWith processWith
    rw [hpattern, hmatcher]
    exact ⟨rfl, rfl⟩
  | ok matcher =>
    dsimp only
    cases hfound : host.findMatches matcher flags.everywhere subject.toList.toArray with
    | error e =>
      left
      unfold Bytewise.processWith processWith
      rw [hpattern, hmatcher]
      dsimp only
      rw [hfound]
      exact ⟨rfl, rfl⟩
    | ok found =>
      obtain ⟨hprocess, hbytes⟩ := processWith_eq template hempty hmatcher hfound
      exact .inr ⟨matcher, found, rfl, hfound, rfl, hprocess, hbytes⟩

/-- Matches that are stretches of a subject have a report exactly if each begins where the one before it ends or
later. The matches that a host finds in turn end in order, and running the pattern has an outcome exactly if they
begin in order as well. So it is whenever one match alone is asked for, or no match of the pattern begins in front
of the search that finds it. -/
theorem process_walked (hsearches : host.Searches) (pattern subject template : String) (flags : Flags) :
    (∀ names found, (∀ c ∈ found, c.Inside subject.length) →
      Bytewise.ofCaptures template.toList names subject.toList found =
        if InOrder subject.length 0 found then
          some (.ofCaptures template.toList names subject.toList.toArray found)
        else none) ∧
    (walked host pattern subject flags).Pairwise (fun a b => a.whole.stop ≤ b.whole.stop) ∧
    Bytewise.processWith host pattern subject template flags =
      (if InOrder subject.length 0 (walked host pattern subject flags) then
        some (processWith host pattern subject template flags)
      else none) ∧
    (flags.everywhere = false ∨
        (∀ matcher, host.compile (flags.switch ++ pattern) = .ok matcher → host.MovesAhead matcher) →
      InOrder subject.length 0 (walked host pattern subject flags)) := by
  have hreport : ∀ names found, (∀ c ∈ found, c.Inside subject.length) →
      Bytewise.ofCaptures template.toList names subject.toList found =
        if InOrder subject.length 0 found then
          some (.ofCaptures template.toList names subject.toList.toArray found)
        else none := by
    intro names found hinside
    rw [← String.length_toList] at hinside ⊢
    exact Bytewise.ofCaptures_eq template.toList names hinside
  refine ⟨hreport, ?_⟩
  obtain ⟨hnone, hsame⟩ | ⟨matcher, found, hmatcher, hfound, hwalked, hprocess, hbytes⟩ :=
    walked_cases host pattern subject template flags
  · have hempty : InOrder subject.length 0 [] := Nat.zero_le _
    rw [hnone, if_pos hempty]
    exact ⟨.nil, hsame, fun _ => hempty⟩
  · obtain ⟨hinside, hstops, horder⟩ := hsearches.found_of_findMatches hmatcher hfound
    rw [List.size_toArray, String.length_toList] at hinside horder
    rw [hwalked, hbytes, hprocess, hreport _ found hinside]
    refine ⟨hstops, ?_, fun hahead => horder (hahead.imp_right fun hmoves => hmoves matcher hmatcher)⟩
    split <;> rfl

/-- Behind a look back the beginning of a match may be moved. -/
theorem process_walked_behindLookBack :
    Regex.host.Searches ∧
      InOrder "ab".length 0 (walked Regex.host "a|(?<=a)\\Kb" "ab" ⟨true, false, false⟩) := by
  have hmoves : ∀ matcher, Regex.host.compile (Flags.switch ⟨true, false, false⟩ ++ "a|(?<=a)\\Kb") =
      .ok matcher → Regex.host.MovesAhead matcher := by
    intro matcher hmatcher
    obtain ⟨outline, hread, -⟩ := Regex.engine_of_compile hmatcher
    refine Regex.host_movesAhead hmatcher hread ?_
    have hswitch : Flags.switch ⟨true, false, false⟩ ++ "a|(?<=a)\\Kb" = "a|(?<=a)\\Kb" :=
      String.empty_append
    have hahead : (Regex.read "a|(?<=a)\\Kb").toOption.all (·.expr.movesAhead false) = true := by cbv
    rw [hswitch] at hread
    rw [hread] at hahead
    exact hahead
  exact ⟨Regex.host_searches, (process_walked Regex.host_searches "a|(?<=a)\\Kb" "ab" "-"
    ⟨true, false, false⟩).2.2.2 (.inr hmoves)⟩

/-- Not every pattern has an outcome: where the beginning of a match is moved in front of the end of the
match before it, there is nothing to cut out between them. -/
theorem not_forall_process_isSome :
    ¬ ∀ (ε μ : Type) (host : Host ε μ), host.Searches → ∀ pattern subject template flags,
      (Bytewise.processWith host pattern subject template flags).isSome = true := by
  intro hall
  have hnone : Bytewise.processWith Regex.host "a|(?<=\\Ka)b" "ab" "-" ⟨true, false, false⟩ = none := by cbv
  have hsome := hall _ _ Regex.host Regex.host_searches "a|(?<=\\Ka)b" "ab" "-" ⟨true, false, false⟩
  rw [hnone] at hsome
  exact Bool.false_ne_true hsome

end Railroad
