import Railroad.Drawing.Markup
import Railroad.Proofs.ShownCharacters

/-!
# Characters that no document may have

A document of markup may not have every character, and some have no way of being written in it at all. None
of them is printable, so those that a diagram shows are among the ones that are traced back to the tokens of
its pattern.
-/

namespace Railroad

namespace Markup

/-- Whether a document may have a character: a tab, a line feed, a carriage return, or any character from
the blank on that is no noncharacter at the end of the first plane. -/
def allows (c : Char) : Bool :=
  c == '\t' || c == '\n' || c == '\r' || (0x20 ≤ c.toNat && c.toNat ≤ 0xD7FF) ||
    (0xE000 ≤ c.toNat && c.toNat ≤ 0xFFFD) || 0x10000 ≤ c.toNat

/-- The characters of a text that no document may have. -/
def faults (text : List Char) : List Char := text.filter fun c => !allows c

/-- A printable character is allowed. -/
theorem allows_of_isPrintable {c : Char} (h : Text.isPrintable c = true) : allows c = true := by
  simp only [Text.isPrintable, Bool.and_eq_true, decide_eq_true_eq] at h
  have hlow : (0x20 : Nat) ≤ c.toNat := h.1
  have hhigh : c.toNat ≤ 0x7E := h.2
  have hhigh' : c.toNat ≤ 0xD7FF := Nat.le_trans hhigh (by decide)
  simp only [allows, hlow, hhigh', decide_true, Bool.and_self, Bool.or_true, Bool.true_or]

/-- A digit is allowed. -/
theorem allows_of_isDigit {c : Char} (h : c.isDigit = true) : allows c = true :=
  allows_of_isPrintable (Text.isPrintable_of_isDigit h)

/-- A letter of ASCII is allowed. -/
theorem allows_of_isAlpha {c : Char} (h : c.isAlpha = true) : allows c = true := by
  simp only [Char.isAlpha, Char.isUpper, Char.isLower, Bool.or_eq_true, Bool.and_eq_true,
    decide_eq_true_eq] at h
  rcases h with h | h
  · exact allows_of_isPrintable (Text.isPrintable_of_le 'A' 'Z' h.1 h.2 (by decide))
  · exact allows_of_isPrintable (Text.isPrintable_of_le 'a' 'z' h.1 h.2 (by decide))

/-- A text without such characters. -/
theorem faults_eq_nil_iff {text : List Char} : faults text = [] ↔ ∀ c ∈ text, allows c = true :=
  Text.outside_eq_nil_iff

/-- The characters in question. -/
theorem mem_faults {text : List Char} {c : Char} :
    c ∈ faults text ↔ c ∈ text ∧ allows c = false := Text.mem_outside

/-- The characters in question are not printable. -/
theorem mem_faults_iff {text : List Char} {c : Char} :
    c ∈ faults text ↔ c ∈ Text.outside Text.isPrintable text ∧ allows c = false := by
  rw [mem_faults, Text.mem_outside]
  constructor
  · rintro ⟨hmem, hforbidden⟩
    refine ⟨⟨hmem, Bool.eq_false_iff.mpr fun hprintable => ?_⟩, hforbidden⟩
    rw [allows_of_isPrintable hprintable] at hforbidden
    cases hforbidden
  · rintro ⟨⟨hmem, -⟩, hforbidden⟩
    exact ⟨hmem, hforbidden⟩

/-- Those of two texts stand one behind the other. -/
theorem faults_append (first second : List Char) :
    faults (first ++ second) = faults first ++ faults second := Text.outside_append first second

/-- An allowed character in front of a text. -/
theorem faults_cons {c : Char} (hc : allows c = true) (text : List Char) :
    faults (c :: text) = faults text := Text.outside_cons hc text

/-- A text that is given by its characters. -/
theorem faults_ofList {text : List Char} (h : faults text = []) :
    faults (String.ofList text).toList = [] := Text.outside_ofList h

/-- Wording in front of a text. -/
theorem faults_behind {front : String} (hfront : faults front.toList = []) (text : String) :
    faults (front ++ text).toList = faults text.toList := Text.outside_behind hfront text

/-- A number has none. -/
theorem faults_toString (n : Nat) : faults (toString n).toList = [] := by
  refine faults_eq_nil_iff.mpr fun c hmem => allows_of_isPrintable ?_
  exact Text.outside_eq_nil_iff.mp (Text.outside_toString n) c hmem

end Markup

/-- The characters of the texts of a terminal that no document may have. -/
def Terminal.faults (t : Terminal) : List Char :=
  Markup.faults t.label.toList ++ Markup.faults (t.detail.getD "").toList ++
    Markup.faults t.description.toList

/-- They are those of its characters that are not printable and not allowed. -/
theorem Terminal.mem_faults_iff {t : Terminal} {c : Char} :
    c ∈ t.faults ↔ c ∈ t.unusual ∧ Markup.allows c = false := by
  simp only [faults, unusual, List.mem_append, Markup.mem_faults_iff, or_and_right]

namespace Node

mutual

/-- The characters of the texts of a tree that no document may have. -/
def faults : Node → List Char
  | sequence parts => faultsOfAll parts
  | choice options => faultsOfAll options
  | quantified _ _ content => content.faults
  | group _ _ label content => Markup.faults label.toList ++ content.faults
  | terminal t => t.faults

/-- The characters of the texts of a list of trees that no document may have. -/
def faultsOfAll : List Node → List Char
  | [] => []
  | node :: nodes => node.faults ++ faultsOfAll nodes

end

mutual

/-- They are those of its characters that are not printable and not allowed. -/
theorem mem_faults_iff {c : Char} : (node : Node) →
    (c ∈ node.faults ↔ c ∈ node.unusual ∧ Markup.allows c = false)
  | sequence parts => mem_faultsOfAll_iff parts
  | choice options => mem_faultsOfAll_iff options
  | quantified _ _ content => content.mem_faults_iff
  | group _ _ label content => by
    rw [faults, unusual, List.mem_append, List.mem_append, content.mem_faults_iff,
      Markup.mem_faults_iff, or_and_right]
  | terminal _ => Terminal.mem_faults_iff

/-- So are those of a list of trees. -/
theorem mem_faultsOfAll_iff {c : Char} : (nodes : List Node) →
    (c ∈ faultsOfAll nodes ↔ c ∈ unusualOfAll nodes ∧ Markup.allows c = false)
  | [] => by simp [faultsOfAll, unusualOfAll]
  | node :: nodes => by
    rw [faultsOfAll, unusualOfAll, List.mem_append, List.mem_append, node.mem_faults_iff,
      mem_faultsOfAll_iff nodes, or_and_right]

end

/-- The tree of a pattern shows what the tokens of the pattern show. -/
theorem mem_faults_ofPattern {pattern : String} {node : Node} (h : ofPattern pattern = .ok node) :
    ∃ tokens, tokenize pattern = .ok tokens ∧
      ∀ c, c ∈ node.faults ↔ ∃ token ∈ tokens, c ∈ Markup.faults token.shown := by
  obtain ⟨tokens, htokens, hshown⟩ := mem_unusual_ofPattern h
  refine ⟨tokens, htokens, fun c => ?_⟩
  rw [node.mem_faults_iff, hshown]
  simp only [Markup.mem_faults_iff, ← and_assoc, exists_and_right]

end Node

end Railroad
