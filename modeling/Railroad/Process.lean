import Railroad.Json
import Railroad.Replacement

/-!
# Matching and replacing

A pattern is run against a subject by a host. The outcome lists the matches and gives the subject with each
match replaced by what a template stands for there.
-/

namespace Railroad

/-- How a pattern is run. -/
structure Flags where
  /-- Whether the search goes on behind the first match. -/
  everywhere : Bool
  /-- Whether case is ignored. -/
  ignoreCase : Bool
  /-- Whether the ends of lines count as ends. -/
  multiLine : Bool
  deriving DecidableEq, Repr

/-- The switch in front of a pattern that sets the flags for it. -/
def Flags.switch (flags : Flags) : String :=
  match flags.ignoreCase, flags.multiLine with
  | false, false => ""
  | true, false => "(?i)"
  | false, true => "(?m)"
  | true, true => "(?im)"

/-- A match, as it is reported. -/
structure MatchReport where
  /-- The number of characters in front of it. -/
  index : Nat
  /-- The texts of its groups, the whole match first. -/
  groups : List String
  deriving DecidableEq, Repr

/-- The outcome of running a pattern. -/
structure ProcessReport where
  /-- The matches in order. -/
  found : List MatchReport
  /-- The subject with the matches replaced. -/
  replaced : String
  deriving DecidableEq, Repr

/-- The report of a match in a subject. -/
def MatchReport.ofCaptures (subject : Subject) (captures : Captures) : MatchReport :=
  let groups := GroupTexts.ofCaptures [] subject captures
  ⟨captures.whole.start, groups.texts.map fun text => String.ofList (text.getD [])⟩

/-- The subject from a position on, with each of the matches replaced. -/
def replaceFrom (template : List Char) (names : List (String × Nat)) (subject : Subject)
    (position : Nat) : List Captures → List Char
  | [] => subject.between position subject.size
  | captures :: more =>
    subject.between position captures.whole.start ++
      (expand template (.ofCaptures names subject captures) ++
        replaceFrom template names subject captures.whole.stop more)

/-- The report of matches in a subject. -/
def ProcessReport.ofCaptures (template : List Char) (names : List (String × Nat))
    (subject : Subject) (found : List Captures) : ProcessReport :=
  ⟨found.map (.ofCaptures subject),
    String.ofList (replaceFrom template names subject 0 found)⟩

/-- Runs a pattern against a subject. An empty pattern matches nothing. -/
def processWith {ε μ : Type} (host : Host ε μ) (pattern subject template : String) (flags : Flags) :
    Except ε ProcessReport :=
  if pattern.isEmpty then .ok ⟨[], subject⟩
  else
    match host.compile (flags.switch ++ pattern) with
    | .error e => .error e
    | .ok matcher =>
      let text := subject.toList.toArray
      match host.findMatches matcher flags.everywhere text with
      | .error e => .error e
      | .ok found => .ok (.ofCaptures template.toList (host.names matcher) text found)

/-- A match as structured text. -/
def MatchReport.json (report : MatchReport) : Json :=
  .object [("index", .nat report.index), ("groups", .array (report.groups.map .string))]

/-- An outcome as structured text. -/
def ProcessReport.json (report : ProcessReport) : Json :=
  .object [("matches", .array (report.found.map (·.json))), ("replaced", .string report.replaced)]

end Railroad
