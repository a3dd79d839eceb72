import Railroad.Regex.Machine
import Railroad.Regex.Parser

/-!
# Searching

A pattern is compiled once and then searched for in texts. Matches of a whole text follow each other
without overlap, and an empty match does not follow another match at once. That makes this engine a host.
-/

namespace Railroad.Regex

/-- How a pattern is searched for. -/
inductive Engine where
  /-- By linear code. -/
  | linear (code : Array Linear.Inst)
  /-- By the machine, with this many registers. -/
  | machine (program : Array Instruction) (registers : Nat)

/-- A pattern that is ready for searching. -/
structure Matcher where
  /-- How it is searched for. -/
  engine : Engine
  /-- The number of its groups, group zero included. -/
  groupCount : Nat
  /-- Its named groups, the latest first. -/
  names : List (String × Nat)

mutual

/-- The greatest number of a group that linear code can set. A content that occurs at most zero times
has no groups. -/
def Expr.lastGroup : Expr → Nat
  | .concat parts => Expr.lastGroupOfAll parts
  | .alternatives options => Expr.lastGroupOfAll options
  | .group number content => max number content.lastGroup
  | .repeated _ high _ content => if high = some 0 then 0 else content.lastGroup
  | _ => 0

/-- The greatest number of a group that linear code for several expressions can set. -/
def Expr.lastGroupOfAll : List Expr → Nat
  | [] => 0
  | e :: es => max e.lastGroup (Expr.lastGroupOfAll es)

end

/-- Prepares a pattern for searching. -/
def compile (pattern : String) : Except Error Matcher := do
  let ⟨e, names, referenced⟩ ← read pattern
  let _ ← e.checkReferences 1
  if e.isHard referenced then
    let program ← e.program referenced
    return ⟨.machine program (2 * e.nesting + 2), e.groups.length + 1, names⟩
  else
    let code ← e.linearCode?
    return ⟨.linear code.toArray, e.lastGroup + 1, names⟩

end Railroad.Regex

namespace Railroad.Captures

/-- The stretch between two noted positions. -/
def span? (slots : Array (Option Nat)) (number : Nat) : Option Span :=
  match slots[2 * number]?.join, slots[2 * number + 1]?.join with
  | some start, some stop => some ⟨start, stop⟩
  | _, _ => none

/-- The groups that the noted positions bound, for a whole match. -/
def ofSlots (whole : Span) (groupCount : Nat) (slots : Array (Option Nat)) : Captures :=
  ⟨whole, (List.range (groupCount - 1)).map fun n => span? slots (n + 1)⟩

end Railroad.Captures

namespace Railroad.Regex

namespace Matcher

/-- The first match that begins at a position or behind it. A beginning that was moved behind the end
counts as the end. -/
def find? (matcher : Matcher) (text : Subject) (origin : Nat) : Except Error (Option Captures) :=
  let slots := 2 * matcher.groupCount
  match matcher.engine with
  | .linear code =>
    .ok <| (Linear.searchFrom code text slots (text.size + 1 - origin) origin ∅).map
      fun (start, thread) => .ofSlots ⟨start, thread.place⟩ matcher.groupCount thread.slots
  | .machine program registers =>
    match Machine.search program slots registers text origin with
    | .error e => .error e
    | .ok none => .ok none
    | .ok (some way) =>
      let start := (way.slot? 0).getD way.place
      .ok (some (.ofSlots ⟨min start way.place, way.place⟩ matcher.groupCount way.slots))

/-- The matches from a position on, where `last` is the end of the match before. After an empty match
the search goes on one character further. -/
def matchesFrom (matcher : Matcher) (text : Subject) (last : Option Nat) :
    Nat → Nat → Except Error (List Captures)
  | 0, _ => .ok []
  | fuel + 1, origin =>
    if text.size < origin then .ok []
    else
      match matcher.find? text origin with
      | .error e => .error e
      | .ok none => .ok []
      | .ok (some captures) =>
        let stop := captures.whole.stop
        if captures.whole.start = stop then
          if last = some stop then matchesFrom matcher text last fuel (stop + 1)
          else
            match matchesFrom matcher text (some stop) fuel (stop + 1) with
            | .error e => .error e
            | .ok more => .ok (captures :: more)
        else
          match matchesFrom matcher text (some stop) fuel stop with
          | .error e => .error e
          | .ok more => .ok (captures :: more)

/-- All matches in a text. Every turn begins behind the turn before, except that a match which ends
where its search began is followed by one search from there. -/
def allMatches (matcher : Matcher) (text : Subject) : Except Error (List Captures) :=
  matcher.matchesFrom text none (2 * text.size + 4) 0

end Matcher

/-- The engine as a host. -/
def host : Host Error Matcher := ⟨compile, Error.message, Matcher.names, Matcher.find?, Matcher.allMatches⟩

/-- Checks a pattern for the engine. -/
def validate (pattern : String) : Except String Unit := host.validate pattern

end Railroad.Regex
