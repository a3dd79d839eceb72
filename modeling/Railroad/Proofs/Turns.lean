import Railroad.Proofs.Searching

/-!
# The turns of the engine

The engine searches a whole text in turn: each search begins where the match before it ends, or one character
further. So the engine keeps what is documented of hosts.
-/

namespace Railroad.Regex

open Captures (FoundFrom)

/-- The turns of a search through a whole text: it ends, or finds a match and goes on behind it, with or
without the match. -/
theorem Matcher.matchesFrom_cases {matcher : Matcher} {text : Subject} {last : Option Nat}
    {fuel origin : Nat} {found : List Captures}
    (h : matcher.matchesFrom text last (fuel + 1) origin = .ok found) :
    found = [] ∨ ∃ first later last', origin ≤ text.size ∧
      matcher.find? text origin = .ok (some first) ∧ first.whole.stop ≤ later ∧
      ∃ more, matcher.matchesFrom text last' fuel later = .ok more ∧
        (found = more ∨ found = first :: more) := by
  rw [matchesFrom] at h
  split at h
  · exact .inl (Except.ok.inj h).symm
  rename_i horigin
  split at h
  · cases h
  · exact .inl (Except.ok.inj h).symm
  rename_i first hfirst
  refine .inr ?_
  dsimp only at h
  split at h
  · split at h
    · exact ⟨first, _, _, Nat.not_lt.mp horigin, hfirst, Nat.le_succ _, found, h, .inl rfl⟩
    · split at h
      · cases h
      · rename_i more hmore
        cases h
        exact ⟨first, _, _, Nat.not_lt.mp horigin, hfirst, Nat.le_succ _, more, hmore, .inr rfl⟩
  · split at h
    · cases h
    · rename_i more hmore
      cases h
      exact ⟨first, _, _, Nat.not_lt.mp horigin, hfirst, le_rfl, more, hmore, .inr rfl⟩

/-- The matches of a whole text are found in turn. -/
theorem Matcher.findsInTurn {pattern : String} {matcher : Matcher} (hmatcher : compile pattern = .ok matcher)
    {text : Subject} {last : Option Nat} {fuel origin position : Nat} (hposition : position ≤ origin)
    {found : List Captures} (h : matcher.matchesFrom text last fuel origin = .ok found) :
    host.FindsInTurn matcher text position found := by
  obtain ⟨outline, hread, -⟩ := engine_of_compile hmatcher
  induction fuel generalizing last origin position found with
  | zero =>
    cases h
    exact .done
  | succ fuel ih =>
    obtain rfl | ⟨first, later, last', horigin, hfirst, hlater, more, hmore, hfound⟩ := matchesFrom_cases h
    · exact .done
    obtain rfl | rfl := hfound
    · -- The match is left out, and the search goes on where it ends or later.
      have hstop := (found_of_find? hmatcher hread horigin hfirst).1.origin_le_stop
      exact ih (hposition.trans (hstop.trans hlater)) hmore
    · exact .turn hposition horigin hfirst (ih hlater hmore)

/-- The first match of a whole text is the one that is found from its beginning on. -/
theorem Matcher.find?_of_allMatches {matcher : Matcher} {text : Subject} {found : List Captures}
    (h : matcher.allMatches text = .ok found) : matcher.find? text 0 = .ok found.head? := by
  rw [allMatches, matchesFrom, if_neg (Nat.not_lt_zero _)] at h
  cases hfirst : matcher.find? text 0 with
  | error e =>
    rw [hfirst] at h
    cases h
  | ok first =>
    rw [hfirst] at h
    cases first with
    | none =>
      cases h
      rfl
    | some captures =>
      dsimp only at h
      split at h
      · rw [if_neg (Option.some_ne_none _).symm] at h
        split at h <;> cases h
        rfl
      · split at h <;> cases h
        rfl

/-- The engine searches as hosts do. -/
theorem host_searches : host.Searches where
  foundFrom pattern matcher hmatcher text origin captures horigin h := by
    obtain ⟨outline, hread, -⟩ := engine_of_compile hmatcher
    exact (Matcher.found_of_find? hmatcher hread horigin h).1
  inTurn _ _ hmatcher _ _ h := Matcher.findsInTurn hmatcher (Nat.le_refl 0) h
  first _ _ _ _ _ h := Matcher.find?_of_allMatches h

/-- No match begins in front of its search where the beginning of the match is moved nowhere inside a look
back. -/
theorem host_movesAhead {pattern : String} {matcher : Matcher} {outline : Outline}
    (hmatcher : compile pattern = .ok matcher) (hread : read pattern = .ok outline)
    (hahead : outline.expr.movesAhead false = true) : host.MovesAhead matcher :=
  fun _ _ _ horigin h => (Matcher.found_of_find? hmatcher hread horigin h).2 hahead

end Railroad.Regex
