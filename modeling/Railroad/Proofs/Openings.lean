import Railroad.Proofs.Numbering
import Railroad.Proofs.ShownCharacters
import Railroad.Proofs.Tiling

/-!
# Where groups open

The tokens of a pattern stand one behind the other. So the places at which they open groups with numbers
increase, and no such place is inside the condition of a conditional, which belongs to the token that opens it.
-/

namespace Railroad.Token

open Text (byteLength)

/-- The places at which tokens open groups with numbers. -/
def captureOffsets (tokens : List Token) : List Nat := (tokens.filter opensCapture).map (·.offset)

/-- Whether a place is in the condition that the token holds, behind its first three characters. -/
def hides (token : Token) (place : Nat) : Bool :=
  decide (token.kind = .groupOpen .conditional ∧ token.offset + 3 ≤ place ∧
    place < token.offset + token.raw.utf8ByteSize)

/-- Whether a place is in the condition of a conditional. -/
def inCondition (tokens : List Token) (place : Nat) : Bool := tokens.any (·.hides place)

/-- One token stands in front of the other. -/
structure Before (front back : Token) : Prop where
  /-- It begins earlier. -/
  offset_lt : front.offset < back.offset
  /-- It ends before the other begins. -/
  stop_le : front.offset + front.raw.utf8ByteSize ≤ back.offset

variable {scope : Scope} {offset : Nat} {text : List Char} {tokens : List Token}

/-- No token stands in front of the text. -/
theorem Cuts.offset_le (h : Cuts scope offset text tokens) : ∀ token ∈ tokens, offset ≤ token.offset := by
  induction h with
  | done => exact List.forall_mem_nil _
  | step _ _ ih =>
    exact List.forall_mem_cons.mpr
      ⟨Nat.le_refl _, fun token hmem => (Nat.le_add_right _ _).trans (ih token hmem)⟩

/-- Each token stands in front of those that are found later. -/
theorem Cuts.pairwise_before (h : Cuts scope offset text tokens) : tokens.Pairwise Before := by
  induction h with
  | done => exact .nil
  | @step scope offset c rest lexeme tokens hscan hbehind ih =>
    refine List.pairwise_cons.mpr ⟨fun token hmem => ?_, ih⟩
    have hstop := hbehind.offset_le token hmem
    have hne : (ofLexeme lexeme offset (c :: rest)).raw ≠ "" := ofLexeme_raw_ne_empty offset (scan_fits hscan)
    have hpos : 0 < (ofLexeme lexeme offset (c :: rest)).raw.utf8ByteSize :=
      Nat.pos_of_ne_zero (mt String.utf8ByteSize_eq_zero_iff.mp hne)
    exact ⟨(Nat.lt_add_of_pos_right hpos).trans_le hstop, hstop⟩

/-- A token is a part of the text, and its offset counts the bytes in front of it. -/
theorem Cuts.exists_around (h : Cuts scope offset text tokens) {token : Token} (hmem : token ∈ tokens) :
    ∃ front back, text = front ++ (token.raw.toList ++ back) ∧ token.offset = offset + byteLength front := by
  induction h with
  | done => cases hmem
  | @step scope offset c rest lexeme tokens _ _ ih =>
    have hsplit : (ofLexeme lexeme offset (c :: rest)).raw.toList ++ (c :: rest).drop lexeme.length =
        c :: rest := by
      rw [ofLexeme, String.toList_ofList, List.take_append_drop]
    rcases List.mem_cons.mp hmem with rfl | hmem
    · exact ⟨[], _, hsplit.symm, rfl⟩
    · obtain ⟨front, back, htext, hoffset⟩ := ih hmem
      refine ⟨(ofLexeme lexeme offset (c :: rest)).raw.toList ++ front, back, ?_, ?_⟩
      · rw [List.append_assoc, ← htext, hsplit]
      · rw [hoffset, Text.byteLength_append, Text.utf8ByteSize_eq, Nat.add_assoc]

/-- The token that opens a conditional holds its condition between parentheses. -/
theorem Cuts.exists_condition (h : Cuts scope offset text tokens) {token : Token} (hmem : token ∈ tokens)
    (hkind : token.kind = .groupOpen .conditional) :
    ∃ condition, token.condition? = some (String.ofList condition) ∧
      token.raw.toList = '(' :: '?' :: '(' :: (condition ++ [')']) := by
  obtain ⟨extended, place, c, rest, lexeme, hscan, rfl⟩ := h.exists_scan hmem
  obtain ⟨rfl, hrule⟩ := scan_conditional hscan hkind
  exact condition?_of_rule place hrule

/-- Groups open one behind the other. -/
theorem Cuts.pairwise_captureOffsets (h : Cuts scope offset text tokens) : (captureOffsets tokens).Pairwise (· < ·) :=
  List.pairwise_map.mpr ((h.pairwise_before.filter _).imp Before.offset_lt)

/-- No group opens inside a condition. -/
theorem Cuts.inCondition_of_mem_captureOffsets (h : Cuts scope offset text tokens) {place : Nat}
    (hmem : place ∈ captureOffsets tokens) : inCondition tokens place = false := by
  obtain ⟨opener, hopener, rfl⟩ := List.mem_map.mp hmem
  obtain ⟨hopener, hopens⟩ := List.mem_filter.mp hopener
  refine List.any_eq_false.mpr fun token htoken hhides => ?_
  obtain ⟨hkind, hbegin, hend⟩ := of_decide_eq_true hhides
  have hne : opener ≠ token := by
    rintro rfl
    rw [opensCapture, hkind] at hopens
    cases hopens
  have heither : tokens.Pairwise fun a b => Before a b ∨ Before b a := h.pairwise_before.imp Or.inl
  have hsymm : Std.Symm fun a b => Before a b ∨ Before b a := ⟨fun _ _ => Or.symm⟩
  rcases heither.forall hopener htoken hne with hfront | hback
  · have hlt := hfront.offset_lt
    omega
  · have hle := hback.stop_le
    omega

/-- A parenthesis inside a condition is one of its characters. -/
theorem Cuts.mem_condition (h : Cuts scope offset text tokens) {front back : List Char}
    (htext : text = front ++ '(' :: back)
    (hhidden : inCondition tokens (offset + byteLength front) = true) :
    ∃ token ∈ tokens, token.kind = .groupOpen .conditional ∧
      ∃ condition, token.condition? = some condition ∧ '(' ∈ condition.toList := by
  obtain ⟨token, hmem, hhides⟩ := List.any_eq_true.mp hhidden
  obtain ⟨hkind, hbegin, hend⟩ := of_decide_eq_true hhides
  obtain ⟨condition, hcondition, hraw⟩ := h.exists_condition hmem hkind
  refine ⟨token, hmem, hkind, _, hcondition, ?_⟩
  obtain ⟨before, after, haround, hoffset⟩ := h.exists_around hmem
  have hmarks : byteLength (before ++ ['(', '?', '(']) = byteLength before + 3 := Text.byteLength_append _ _
  have hsize : token.raw.utf8ByteSize = 3 + byteLength (condition ++ [')']) := by
    rw [Text.utf8ByteSize_eq, hraw]
    exact Text.byteLength_append ['(', '?', '('] _
  -- The parenthesis is behind the three marks, and in front of what follows the token.
  have hwhole : front ++ '(' :: back = (before ++ ['(', '?', '(']) ++ (condition ++ [')'] ++ after) := by
    rw [← htext, haround, hraw]
    simp only [List.append_assoc, List.cons_append, List.nil_append]
  obtain ⟨inner, rfl, hinner⟩ := Text.exists_of_append_eq hwhole (by omega)
  have hparenthesis : '(' ∈ condition ++ [')'] := by
    refine Text.mem_of_append_eq hinner.symm ?_
    rw [Text.byteLength_append] at hend
    omega
  rw [String.toList_ofList]
  exact (List.mem_append.mp hparenthesis).resolve_right (by decide)

end Railroad.Token
