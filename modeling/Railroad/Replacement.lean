import Railroad.Host
import Railroad.Text.Numeral

/-!
# Replacement templates

A template is text in which a dollar sign refers to groups of a match: by number, by a number or a name
in braces, or to the whole match. Two dollar signs stand for one. A number that no group has is copied
as it is written.
-/

namespace Railroad

/-- A piece of a template. -/
inductive Piece where
  /-- A character that stands for itself. -/
  | char (c : Char)
  /-- A group by number, and how the reference is written. -/
  | group (number : Nat) (written : List Char)
  /-- A group by name. -/
  | named (name : String)
  deriving DecidableEq, Repr

namespace Piece

/-- The number of a group: a decimal numeral that fits into 64 bits. -/
def groupNumber? (digits : List Char) : Option Nat :=
  match Text.decimal? digits with
  | some n => if n < UInt64.size then some n else none
  | none => none

/-- The reference between braces: a number, before which a plus sign may stand, or else a name. -/
def braced (body : List Char) : Piece :=
  match groupNumber? (Text.withoutPlus body) with
  | some n => .group n ('$' :: '\x7b' :: body ++ ['\x7d'])
  | none => .named (String.ofList body)

/-- The reference that digits behind a dollar sign are, and their number. -/
def bare? (rest : List Char) : Option (Piece × Nat) :=
  let digits := rest.takeWhile Char.isDigit
  (groupNumber? digits).map fun n => (.group n ('$' :: digits), digits.length)

/-- The reference behind a dollar sign, and the number of characters that it takes there. -/
def reference? (rest : List Char) : Option (Piece × Nat) :=
  match rest with
  | '$' :: _ => some (.char '$', 1)
  | '&' :: _ => some (.group 0 ['$', '&'], 1)
  | '\x7b' :: inner =>
    match inner.findIdx? (· == '\x7d') with
    | some n => some (braced (inner.take n), n + 2)
    | none => none
  | _ => bare? rest

end Piece

/-- The pieces of a template, from left to right. A dollar sign that refers to nothing stands for
itself. -/
def Piece.ofTemplate (template : List Char) : List Piece :=
  match template with
  | [] => []
  | c :: rest =>
    if c = '$' then
      match Piece.reference? rest with
      | some (piece, n) => piece :: Piece.ofTemplate (rest.drop n)
      | none => .char '$' :: Piece.ofTemplate rest
    else .char c :: Piece.ofTemplate rest
termination_by template.length
decreasing_by all_goals (simp only [List.length_drop, List.length_cons]; omega)

/-- What a template can refer to: the texts of the groups of a match, and the names of groups. -/
structure GroupTexts where
  /-- The texts of the groups, the whole match first. A group that took no part has none. -/
  texts : List (Option (List Char))
  /-- The named groups, the latest first. -/
  names : List (String × Nat)
  deriving DecidableEq, Repr

namespace GroupTexts

/-- The text of a group, which is empty if the group took no part. -/
def text (groups : GroupTexts) (number : Nat) : List Char :=
  (groups.texts[number]?.join).getD []

/-- The groups of a match in a text. -/
def ofCaptures (names : List (String × Nat)) (subject : Subject) (captures : Captures) :
    GroupTexts :=
  let textOf (span : Span) := subject.between span.start span.stop
  ⟨some (textOf captures.whole) :: captures.groups.map (·.map textOf), names⟩

end GroupTexts

/-- What a piece stands for in a match. -/
def Piece.fill (groups : GroupTexts) : Piece → List Char
  | char c => [c]
  | group number written =>
    if number < groups.texts.length then groups.text number else written
  | named name =>
    match groups.names.lookup name with
    | some number => groups.text number
    | none => []

/-- What a template stands for in a match. -/
def expand (template : List Char) (groups : GroupTexts) : List Char :=
  (Piece.ofTemplate template).flatMap (·.fill groups)

end Railroad
