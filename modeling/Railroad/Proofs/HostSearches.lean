import Railroad.Host

/-!
# Searches of a host

What the documentation of engines says of their searches, as properties of a host. A match is a stretch of the
text that ends where the search began or later. Where it begins is another matter: a pattern may move the
beginning of a match, and inside a look back it may move it in front of the search. Searches through a whole text
go on where a match ends.
-/

namespace Railroad

/-- The match is a stretch of a text of this length. -/
structure Captures.Inside (size : Nat) (captures : Captures) : Prop where
  /-- It does not begin beyond its end. -/
  start_le_stop : captures.whole.start ≤ captures.whole.stop
  /-- It ends inside the text. -/
  stop_le_size : captures.whole.stop ≤ size

/-- The match ends where the search for it began, or later. -/
structure Captures.FoundFrom (origin size : Nat) (captures : Captures) : Prop extends
    captures.Inside size where
  /-- The search began in front of its end. -/
  origin_le_stop : origin ≤ captures.whole.stop

namespace Host

variable {ε μ : Type} {host : Host ε μ} {matcher : μ} {text : Subject}

/-- Searches in turn, from a position on: each begins where the match before it ends, or later. -/
inductive FindsInTurn (host : Host ε μ) (matcher : μ) (text : Subject) : Nat → List Captures → Prop
  /-- Nothing more is found. -/
  | done {position : Nat} : FindsInTurn host matcher text position []
  /-- A match is found, and the search goes on behind it. -/
  | turn {position origin : Nat} {captures : Captures} {more : List Captures} (hposition : position ≤ origin)
      (hsize : origin ≤ text.size) (hfound : host.find? matcher text origin = .ok (some captures))
      (hmore : FindsInTurn host matcher text captures.whole.stop more) :
      FindsInTurn host matcher text position (captures :: more)

/-- What is documented of searches for patterns that the host accepts. -/
structure Searches (host : Host ε μ) : Prop where
  /-- A search finds a stretch of the text that ends where the search began, or later. -/
  foundFrom : ∀ pattern matcher, host.compile pattern = .ok matcher →
    ∀ (text : Subject) origin captures, origin ≤ text.size →
      host.find? matcher text origin = .ok (some captures) → captures.FoundFrom origin text.size
  /-- All matches of a text are found in turn. -/
  inTurn : ∀ pattern matcher, host.compile pattern = .ok matcher →
    ∀ text found, host.findAll matcher text = .ok found → host.FindsInTurn matcher text 0 found
  /-- The first of them is the one that a single search finds. -/
  first : ∀ pattern matcher, host.compile pattern = .ok matcher →
    ∀ text found, host.findAll matcher text = .ok found → host.find? matcher text 0 = .ok found.head?

/-- No match of the pattern begins in front of the search that finds it. -/
def MovesAhead (host : Host ε μ) (matcher : μ) : Prop :=
  ∀ (text : Subject) origin captures, origin ≤ text.size →
    host.find? matcher text origin = .ok (some captures) → origin ≤ captures.whole.start

/-- Without going on, a search finds one match at most, and it is the first of those that a search finds which
goes on. -/
theorem findMatches_first {found : List Captures} (h : host.findMatches matcher false text = .ok found) :
    found.length ≤ 1 ∧ host.find? matcher text 0 = .ok found.head? := by
  unfold findMatches at h
  rw [if_neg Bool.false_ne_true] at h
  cases hfirst : host.find? matcher text 0 with
  | error e =>
    rw [hfirst] at h
    cases h
  | ok first =>
    rw [hfirst] at h
    cases h
    cases first with
    | none => exact ⟨Nat.zero_le _, rfl⟩
    | some captures => exact ⟨Nat.le_refl _, rfl⟩

/-- Without going on, a search finds nothing, or it finds one match. -/
theorem findMatches_first_cases {found : List Captures} (h : host.findMatches matcher false text = .ok found) :
    found = [] ∨ ∃ captures, found = [captures] ∧ host.find? matcher text 0 = .ok (some captures) := by
  obtain ⟨hlength, hfirst⟩ := findMatches_first h
  cases found with
  | nil => exact .inl rfl
  | cons captures more =>
    obtain rfl : more = [] :=
      List.eq_nil_of_length_eq_zero (Nat.le_zero.mp (Nat.le_of_succ_le_succ hlength))
    exact .inr ⟨captures, rfl, hfirst⟩

/-- A match that is found in turn is found by a search of its own. -/
theorem FindsInTurn.exists_find?_of_mem {position : Nat} {found : List Captures}
    (h : host.FindsInTurn matcher text position found) {captures : Captures} (hmem : captures ∈ found) :
    ∃ origin, host.find? matcher text origin = .ok (some captures) := by
  induction h with
  | done => cases hmem
  | @turn _ origin _ _ _ _ hfound _ ih =>
    rcases List.mem_cons.mp hmem with rfl | hmem
    · exact ⟨origin, hfound⟩
    · exact ih hmem

/-- Whether searches go on or not, a match that is found is found by a search of its own. -/
theorem Searches.exists_find?_of_mem (hsearches : host.Searches) {pattern : String}
    (hmatcher : host.compile pattern = .ok matcher) {everywhere : Bool} {found : List Captures}
    (h : host.findMatches matcher everywhere text = .ok found) {captures : Captures}
    (hmem : captures ∈ found) : ∃ origin, host.find? matcher text origin = .ok (some captures) := by
  cases everywhere with
  | true => exact (hsearches.inTurn pattern matcher hmatcher text found h).exists_find?_of_mem hmem
  | false =>
    obtain rfl | ⟨first, rfl, hfirst⟩ := findMatches_first_cases h
    · cases hmem
    · obtain rfl := List.mem_singleton.mp hmem
      exact ⟨0, hfirst⟩

/-- The match that is found alone is the first of all. -/
theorem Searches.eq_take_of_findMatches (hsearches : host.Searches) {pattern : String}
    (hmatcher : host.compile pattern = .ok matcher) {found all : List Captures}
    (h : host.findMatches matcher false text = .ok found) (hall : host.findAll matcher text = .ok all) :
    found = all.take 1 := by
  have hfirst := hsearches.first pattern matcher hmatcher text all hall
  have hhead : found.head? = all.head? := Except.ok.inj ((findMatches_first h).2.symm.trans hfirst)
  rw [List.take_one, ← hhead]
  obtain rfl | ⟨captures, rfl, -⟩ := findMatches_first_cases h <;> rfl

end Host

end Railroad
