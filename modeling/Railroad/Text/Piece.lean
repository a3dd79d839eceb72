/-!
# Pieces of text

Cuts of a text at characters of a given kind, and its length in bytes.
-/

namespace Railroad.Text

/-- The number of bytes that the characters take in UTF-8. -/
def byteLength : List Char → Nat
  | [] => 0
  | c :: text => c.utf8Size + byteLength text

/-- The text without the characters at its end that satisfy `p`. -/
def trimEnd (p : Char → Bool) (text : List Char) : List Char :=
  (text.reverse.dropWhile p).reverse

/-- Characters at the end that satisfy `p` are trimmed up to one that does not. -/
theorem trimEnd_append {p : Char → Bool} {front back : List Char} (hfront : ∀ c ∈ front, p c = false)
    (hback : ∀ c ∈ back, p c = true) : trimEnd p (front ++ back) = front := by
  have hkept : front.reverse.dropWhile p = front.reverse := by
    cases hreverse : front.reverse with
    | nil => rfl
    | cons last rest =>
      have hmem : last ∈ front := by
        rw [← List.mem_reverse, hreverse]
        exact List.mem_cons_self
      exact List.dropWhile_cons_of_neg (by simp [hfront last hmem])
  rw [trimEnd, List.reverse_append,
    List.dropWhile_append_of_pos fun c hmem => hback c (List.mem_reverse.mp hmem), hkept,
    List.reverse_reverse]

/-- The text from byte `n` on, where `n` is the beginning of a character. -/
def dropBytes : Nat → List Char → List Char
  | 0, text => text
  | _, [] => []
  | n, c :: text => dropBytes (n - c.utf8Size) text

/-- The text before the last occurrence of `mark`. -/
def beforeLast? (mark : Char) (text : List Char) : Option (List Char) :=
  match text.reverse.dropWhile (· != mark) with
  | [] => none
  | _ :: before => some before.reverse

/-- What is left of the text behind a beginning that it has. -/
def after? (beginning text : List Char) : Option (List Char) :=
  if beginning.isPrefixOf text then some (text.drop beginning.length) else none

/-- What is left of the text in front of an ending that it has. -/
def before? (ending text : List Char) : Option (List Char) :=
  if ending.isSuffixOf text then some (text.take (text.length - ending.length)) else none

end Railroad.Text
