import Railroad.Text.Piece

/-!
# Places in a text by bytes

Places in a text are counted in bytes here, and a text is cut only where a character begins or the text
ends. Every cut is checked, and so is every count that is taken down by one: what cannot be done has no
outcome.
-/

namespace Railroad.Text

/-- What comes of a computation that has no outcome if it cuts a text inside a character or beyond its end,
takes one from zero, or goes on without end. -/
abbrev Attempt (α : Type) : Type := Option α

/-- The bytes of a text. -/
def bytes (text : List Char) : List UInt8 := text.flatMap String.utf8EncodeChar

/-- The two parts of a text at a byte. -/
def cutAt : Nat → List Char → Attempt (List Char × List Char)
  | 0, text => some ([], text)
  | _ + 1, [] => none
  | n + 1, c :: text =>
    if c.utf8Size ≤ n + 1 then
      (cutAt (n + 1 - c.utf8Size) text).map fun parts => (c :: parts.1, parts.2)
    else none

/-- The text from a byte on. -/
def sliceFrom (start : Nat) (text : List Char) : Attempt (List Char) :=
  (cutAt start text).map (·.2)

/-- A cut leaves the bytes behind it. -/
theorem byteLength_of_cutAt {n : Nat} {text : List Char} {parts : List Char × List Char}
    (h : cutAt n text = some parts) : n + byteLength parts.2 = byteLength text := by
  fun_induction cutAt n text generalizing parts with
  | case1 =>
    cases h
    exact Nat.zero_add _
  | case2 => cases h
  | case3 n c text hle ih =>
    obtain ⟨behind, hbehind, rfl⟩ := Option.map_eq_some_iff.mp h
    have hrest := ih hbehind
    simp only [byteLength]
    omega
  | case4 => cases h

/-- A text that goes on behind a byte has more bytes. -/
theorem lt_byteLength_of_sliceFrom {start : Nat} {text rest : List Char}
    (h : sliceFrom start text = some rest) (hrest : rest ≠ []) : start < byteLength text := by
  obtain ⟨parts, hparts, rfl⟩ := Option.map_eq_some_iff.mp h
  have hbytes := byteLength_of_cutAt hparts
  cases hback : parts.2 with
  | nil => exact absurd hback hrest
  | cons c back =>
    have hpos := c.utf8Size_pos
    simp only [hback, byteLength] at hbytes
    omega

/-- The text between two bytes, of which the second may not be in front of the first. -/
def slice (start stop : Nat) (text : List Char) : Attempt (List Char) := do
  let rest ← sliceFrom start text
  if start ≤ stop then (cutAt (stop - start) rest).map (·.1) else none

/-- One less than a count. -/
def lowered : Nat → Attempt Nat
  | 0 => none
  | n + 1 => some n

/-- The byte at which the first character that satisfies `p` begins. -/
def find? (p : Char → Bool) : List Char → Option Nat
  | [] => none
  | c :: text => if p c then some 0 else (find? p text).map (· + c.utf8Size)

/-- The byte at which the last character that is `mark` begins. -/
def findLast? (mark : Char) : List Char → Option Nat
  | [] => none
  | c :: text =>
    match findLast? mark text with
    | some n => some (n + c.utf8Size)
    | none => if c = mark then some 0 else none

/-- The byte at which a part of a text begins for the first time. -/
def findPart? (part : List Char) : List Char → Option Nat
  | [] => if part.isEmpty then some 0 else none
  | c :: text =>
    if part.isPrefixOf (c :: text) then some 0 else (findPart? part text).map (· + c.utf8Size)

/-- The number of bytes of the characters at the beginning of a text that satisfy `p`. -/
def leading (p : Char → Bool) (text : List Char) : Nat :=
  (find? (fun c => !p c) text).getD (byteLength text)

/-- What is left of the text behind a beginning that it has. -/
def stripStart (beginning text : List Char) : Attempt (Option (List Char)) :=
  if beginning.isPrefixOf text then (sliceFrom (byteLength beginning) text).map some else some none

/-- What is left of the text in front of an ending that it has. -/
def stripEnd (ending text : List Char) : Attempt (Option (List Char)) :=
  if ending.isSuffixOf text then
    (slice 0 (byteLength text - byteLength ending) text).map some
  else some none

end Railroad.Text
