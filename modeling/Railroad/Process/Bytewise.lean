import Railroad.Process
import Railroad.Text.Bytes

/-!
# Replacing byte by byte

A second way of running a pattern, in which places are bytes of the subject and of the template, and every
piece of them is a checked cut. What stands between two matches is cut out from the end of the first to the
beginning of the second, wherever they are.
-/

namespace Railroad.Bytewise

open Text (Attempt sliceFrom slice find? byteLength bytes)

/-- The byte at which the character with a number begins. -/
def byteAt (text : List Char) (place : Nat) : Nat := byteLength (text.take place)

/-- What the braces at the beginning of a text hold, if there are braces that close. -/
def body? (after : List Char) : Attempt (Option (List Char)) := do
  match ← Text.stripStart ['\x7b'] after with
  | none => return none
  | some inner =>
    match find? (· == '\x7d') inner with
    | none => return none
    | some close => return some (← slice 0 close inner)

/-- Whether a byte is that of a decimal digit. -/
def isDigitByte (byte : UInt8) : Bool := 48 ≤ byte.toNat && byte.toNat ≤ 57

/-- The number of bytes at the beginning of a text that are digits. -/
def digitCount (text : List Char) : Nat := ((bytes text).takeWhile isDigitByte).length

/-- What the dollar sign at the beginning of a text stands for, and the number of bytes that it takes with
what it refers to. -/
def reference (groups : GroupTexts) (text : List Char) : Attempt (List Char × Nat) := do
  let after ← sliceFrom 1 text
  if after.head? = some '$' then return (['$'], 2)
  else if after.head? = some '&' then return ((Piece.group 0 ['$', '&']).fill groups, 2)
  else
    match ← body? after with
    | some body =>
      let written ← slice 0 (byteLength body + 3) text
      match Piece.groupNumber? (Text.withoutPlus body) with
      | some n => return ((Piece.group n written).fill groups, byteLength written)
      | none => return ((Piece.named (String.ofList body)).fill groups, byteLength written)
    | none =>
      let digits := digitCount after
      let numeral ← slice 0 digits after
      match Piece.groupNumber? (Text.withoutPlus numeral) with
      | some n => return ((Piece.group n (← slice 0 (digits + 1) text)).fill groups, digits + 1)
      | none => return (['$'], 1)

/-- What the beginning of a template stands for, up to its first dollar sign and what that refers to, and
the rest of the template if there is a dollar sign. -/
def expandStep (groups : GroupTexts) (template : List Char) :
    Attempt (List Char × Option (List Char)) :=
  match find? (· == '$') template with
  | none => some (template, none)
  | some dollar => do
    let plain ← slice 0 dollar template
    let rest ← sliceFrom dollar template
    let (text, size) ← reference groups rest
    return (plain ++ text, some (← sliceFrom size rest))

/-- What a template stands for in a match. A step that takes no byte would be repeated without end. -/
def expand (groups : GroupTexts) (template : List Char) : Attempt (List Char) :=
  match expandStep groups template with
  | none => none
  | some (text, none) => some text
  | some (text, some behind) =>
    if byteLength behind < byteLength template then (expand groups behind).map (text ++ ·) else none
termination_by byteLength template

/-- The report of a match in a subject. -/
def report (subject : List Char) (captures : Captures) : Attempt MatchReport := do
  let before ← slice 0 (byteAt subject captures.whole.start) subject
  return ⟨before.length, (MatchReport.ofCaptures subject.toArray captures).groups⟩

/-- The subject from a place on, with each of the matches replaced. -/
def replaceFrom (template : List Char) (names : List (String × Nat)) (subject : List Char)
    (last : Nat) : List Captures → Attempt (List Char)
  | [] => sliceFrom (byteAt subject last) subject
  | captures :: more => do
    let kept ← slice (byteAt subject last) (byteAt subject captures.whole.start) subject
    let text ← expand (.ofCaptures names subject.toArray captures) template
    let rest ← replaceFrom template names subject captures.whole.stop more
    return kept ++ (text ++ rest)

/-- The report of matches in a subject. -/
def ofCaptures (template : List Char) (names : List (String × Nat)) (subject : List Char)
    (found : List Captures) : Attempt ProcessReport := do
  let reports ← found.mapM (report subject)
  let replaced ← replaceFrom template names subject 0 found
  return ⟨reports, String.ofList replaced⟩

/-- Runs a pattern against a subject. An empty pattern matches nothing. -/
def processWith {ε μ : Type} (host : Host ε μ) (pattern subject template : String) (flags : Flags) :
    Attempt (Except ε ProcessReport) :=
  if pattern.isEmpty then some (.ok ⟨[], subject⟩)
  else
    match host.compile (flags.switch ++ pattern) with
    | .error e => some (.error e)
    | .ok matcher =>
      match host.findMatches matcher flags.everywhere subject.toList.toArray with
      | .error e => some (.error e)
      | .ok found =>
        (ofCaptures template.toList (host.names matcher) subject.toList found).map .ok

end Railroad.Bytewise
