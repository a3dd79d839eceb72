import Railroad.Regex.CharSet
import Railroad.Regex.Expr

/-!
# Bracketed classes

The set that the characters between two brackets stand for. Classes nest, and three operators combine
what stands before them with what stands behind: intersection, difference and symmetric difference, from
left to right. Where case is ignored, folding comes before negation and before every operator.
-/

namespace Railroad.Regex

/-- The set of a class that is written as an escape, unless it names an unknown property. -/
def Shorthand.set? (s : Shorthand) (negated ignoreCase : Bool) : Option CharSet :=
  match s with
  | digit => some (.negatedIf negated .digit)
  | space => some (.negatedIf negated .space)
  | word => some (.negatedIf negated .word)
  | hexDigit => some (.negatedIf negated .hexDigit)
  | property text =>
    (Unicode.Property.ofText? text).map fun (p, inverted) =>
      .negatedIf (negated != inverted) (.foldedIf ignoreCase (.property p))

namespace Class

/-- An operator between sets. -/
inductive Operator where
  /-- What is in both. -/
  | intersection
  /-- What is in the first only. -/
  | difference
  /-- What is in exactly one. -/
  | symmetricDifference
  deriving DecidableEq, Repr

/-- The set that an operator makes of two. -/
def Operator.apply : Operator → CharSet → CharSet → CharSet
  | intersection => .both
  | difference => .without
  | symmetricDifference => .apart

/-- A class that has been opened. -/
structure Frame where
  /-- Whether a caret excludes the members. -/
  negated : Bool
  /-- What stands before the operator that awaits its second operand. -/
  pending : Option (Operator × CharSet)
  /-- The members since then. -/
  members : CharSet

/-- The frame with more members. -/
def Frame.add (frame : Frame) (set : CharSet) : Frame :=
  ⟨frame.negated, frame.pending, .either frame.members set⟩

/-- Everything read in a frame so far as one set. -/
def Frame.operand (ignoreCase : Bool) (frame : Frame) : CharSet :=
  match frame.pending with
  | none => frame.members
  | some (op, before) =>
    op.apply (.foldedIf ignoreCase before) (.foldedIf ignoreCase frame.members)

/-- The frame behind an operator. -/
def Frame.operator (ignoreCase : Bool) (frame : Frame) (op : Operator) : Frame :=
  ⟨frame.negated, some (op, frame.operand ignoreCase), .none⟩

/-- The set of a frame that is closed. -/
def Frame.close (ignoreCase : Bool) (frame : Frame) : CharSet :=
  .negatedIf frame.negated (.foldedIf ignoreCase (frame.operand ignoreCase))

/-- An item that may begin or end a range. -/
inductive Primary where
  /-- A character. -/
  | character (c : Char)
  /-- A set, which bounds no range. -/
  | set (s : CharSet)

/-- The item that an atom is. -/
def primary? (ignoreCase : Bool) : ClassAtom → Option Primary
  | .plain c => some (.character c)
  | .quoted c => some (.character c)
  | .shorthand s negated => (s.set? negated ignoreCase).map .set

/-- The set of an item. -/
def Primary.toSet : Primary → CharSet
  | character c => .singleton c
  | set s => s

/-- The set at the beginning of the atoms, which is an item or a range, and what follows it. A minus
sign makes a range unless a bracket or another minus sign follows. -/
def item? (ignoreCase : Bool) : List ClassAtom → Option (CharSet × List ClassAtom)
  | [] => none
  | atom :: rest =>
    match primary? ignoreCase atom with
    | none => none
    | some first =>
      match rest with
      | .plain '-' :: .plain ']' :: _ => some (first.toSet, rest)
      | .plain '-' :: .plain '-' :: _ => some (first.toSet, rest)
      | [.plain '-'] => none
      | .plain '-' :: bound :: rest =>
        match first, primary? ignoreCase bound with
        | .character low, some (.character high) =>
          if low ≤ high then some (.span low high, rest) else none
        | _, _ => none
      | _ => some (first.toSet, rest)

/-- The letters in front of the next colon. -/
def plainName : List ClassAtom → List Char × List ClassAtom
  | .plain c :: rest =>
    if c == ':' then ([], .plain c :: rest)
    else ((c :: (plainName rest).1), (plainName rest).2)
  | rest => ([], rest)

/-- The class with a POSIX name that stands behind an opening bracket, and what follows it. -/
def posix? (ignoreCase : Bool) : List ClassAtom → Option (CharSet × List ClassAtom)
  | .plain ':' :: rest =>
    let (negated, rest) := match rest with
      | .plain '^' :: rest => (true, rest)
      | _ => (false, rest)
    let (name, rest) := plainName rest
    match rest with
    | .plain ':' :: .plain ']' :: rest =>
      (CharSet.posixSpans? (String.ofList name)).map fun spans =>
        (.negatedIf negated (.foldedIf ignoreCase (.ofSpans spans)), rest)
    | _ => none
  | _ => none

/-- The minus signs at the beginning of the atoms, as members, and what follows them. -/
def leadingMinus (frame : Frame) : List ClassAtom → Frame × List ClassAtom
  | .plain '-' :: rest => leadingMinus (frame.add (.singleton '-')) rest
  | rest => (frame, rest)

/-- The frame that begins behind an opening bracket, and what follows its special first members: minus
signs, or else a closing bracket. -/
def openFrame (atoms : List ClassAtom) : Frame × List ClassAtom :=
  let (negated, atoms) := match atoms with
    | .plain '^' :: rest => (true, rest)
    | _ => (false, atoms)
  let fresh : Frame := ⟨negated, none, .none⟩
  match atoms with
  | .plain ']' :: rest => (fresh.add (.singleton ']'), rest)
  | _ => leadingMinus fresh atoms

/-- Reads atoms into the innermost of the open frames until the outermost frame is closed. Every turn
takes an atom, so that as much `fuel` as there are atoms is enough. -/
def readFrames (ignoreCase : Bool) (frame : Frame) (outer : List Frame) :
    Nat → List ClassAtom → Option (CharSet × List ClassAtom)
  | 0, _ => none
  | _, [] => none
  | fuel + 1, .plain '[' :: rest =>
    match posix? ignoreCase rest with
    | some (set, rest) => readFrames ignoreCase (frame.add set) outer fuel rest
    | none =>
      let (inner, rest) := openFrame rest
      readFrames ignoreCase inner (frame :: outer) fuel rest
  | fuel + 1, .plain ']' :: rest =>
    match outer with
    | [] => some (frame.close ignoreCase, rest)
    | parent :: outer => readFrames ignoreCase (parent.add (frame.close ignoreCase)) outer fuel rest
  | fuel + 1, .plain '&' :: .plain '&' :: rest =>
    readFrames ignoreCase (frame.operator ignoreCase .intersection) outer fuel rest
  | fuel + 1, .plain '-' :: .plain '-' :: rest =>
    readFrames ignoreCase (frame.operator ignoreCase .difference) outer fuel rest
  | fuel + 1, .plain '~' :: .plain '~' :: rest =>
    readFrames ignoreCase (frame.operator ignoreCase .symmetricDifference) outer fuel rest
  | fuel + 1, atoms =>
    match item? ignoreCase atoms with
    | some (set, rest) => readFrames ignoreCase (frame.add set) outer fuel rest
    | none => none

end Class

/-- The set of a bracketed class, given by what follows its opening bracket. -/
def bracketSet? (atoms : List ClassAtom) (ignoreCase : Bool) : Option CharSet :=
  let (frame, rest) := Class.openFrame atoms
  match Class.readFrames ignoreCase frame [] (atoms.length + 1) rest with
  | some (set, []) => some set
  | _ => none

end Railroad.Regex
