/-!
# The host engine

The engine that finds the matches of a pattern stands outside this library. What is asked of it is gathered
here: it prepares a pattern or refuses it, and it finds matches, which are given by the bounds of their groups.
Group zero is the whole match. What is said of running a pattern is said of every host.
-/

namespace Railroad

/-- A text, by its characters. -/
abbrev Subject := Array Char

/-- The characters between two positions. -/
def Subject.between (text : Subject) (start stop : Nat) : List Char := (text.extract start stop).toList

/-- A stretch of a text between two positions. A position is the number of characters before it. -/
structure Span where
  /-- The position at which it begins. -/
  start : Nat
  /-- The position at which it ends. -/
  stop : Nat
  deriving DecidableEq, Repr

/-- The groups of a match. -/
structure Captures where
  /-- The whole match. -/
  whole : Span
  /-- The stretches of the groups from number one on. A group that took no part has none. -/
  groups : List (Option Span)
  deriving DecidableEq, Repr

/-- An engine, by its answers. A pattern is prepared for searching as a `μ`, and whatever goes wrong is an
`ε`. -/
structure Host (ε μ : Type) where
  /-- Prepares a pattern. -/
  compile : String → Except ε μ
  /-- The wording of an error. -/
  message : ε → String
  /-- The named groups of a pattern, the latest first. -/
  names : μ → List (String × Nat)
  /-- The match that a search finds which begins at a position of a text. -/
  find? : μ → Subject → Nat → Except ε (Option Captures)
  /-- The matches that searches through a whole text find, one behind the other. -/
  findAll : μ → Subject → Except ε (List Captures)

namespace Host

variable {ε μ : Type}

/-- Checks a pattern, and gives the message for one that cannot be prepared. -/
def validate (host : Host ε μ) (pattern : String) : Except String Unit :=
  match host.compile pattern with
  | .ok _ => .ok ()
  | .error e => .error (host.message e)

/-- The patterns that pass are those that can be prepared. -/
theorem validate_eq_ok_iff {host : Host ε μ} {pattern : String} :
    host.validate pattern = .ok () ↔ ∃ matcher, host.compile pattern = .ok matcher := by
  unfold validate
  cases host.compile pattern with
  | error e =>
    constructor
    · intro h
      cases h
    · rintro ⟨_, h⟩
      cases h
  | ok matcher => exact ⟨fun _ => ⟨matcher, rfl⟩, fun _ => rfl⟩

/-- The matches of a pattern in a text: all of them or at most the first. -/
def findMatches (host : Host ε μ) (matcher : μ) (everywhere : Bool) (text : Subject) :
    Except ε (List Captures) :=
  if everywhere then host.findAll matcher text
  else
    match host.find? matcher text 0 with
    | .ok found => .ok found.toList
    | .error e => .error e

end Host

end Railroad
