import Railroad.Token

/-!
# Open and closed groups

Which groups are open at a place is a matter of counting: a group stays open for as long as no beginning of
the tokens behind its opener closes more groups than it opens.
-/

namespace Railroad.Token

/-- Whether the token opens a group. -/
def opensGroup (token : Token) : Bool :=
  match token.kind with
  | .groupOpen _ => true
  | _ => false

/-- Whether the token closes a group. -/
def closesGroup (token : Token) : Bool := token.kind = .groupClose

/-- How many groups the tokens open. -/
def openings (tokens : List Token) : Nat := tokens.countP opensGroup

/-- How many groups the tokens close. -/
def closings (tokens : List Token) : Nat := tokens.countP closesGroup

/-- A group that was opened just in front of the tokens is still open behind them. -/
def StaysOpen (tokens : List Token) : Prop :=
  ∀ front back, tokens = front ++ back → closings front ≤ openings front

/-- The tokens close every group that they open, and no other. -/
structure Balanced (tokens : List Token) : Prop where
  /-- No group in front of them is closed. -/
  staysOpen : StaysOpen tokens
  /-- All groups in them are closed. -/
  openings_eq : openings tokens = closings tokens

@[simp]
theorem openings_nil : openings [] = 0 := rfl

@[simp]
theorem closings_nil : closings [] = 0 := rfl

@[simp]
theorem openings_append (front back : List Token) :
    openings (front ++ back) = openings front + openings back := List.countP_append

@[simp]
theorem closings_append (front back : List Token) :
    closings (front ++ back) = closings front + closings back := List.countP_append

/-- An opener counts as one. -/
theorem openings_cons_of_opensGroup {token : Token} (tokens : List Token)
    (h : token.opensGroup = true) : openings (token :: tokens) = openings tokens + 1 :=
  List.countP_cons_of_pos h

/-- Any other token does not count as an opener. -/
theorem openings_cons_of_not_opensGroup {token : Token} (tokens : List Token)
    (h : token.opensGroup = false) : openings (token :: tokens) = openings tokens :=
  List.countP_cons_of_neg (Bool.eq_false_iff.mp h)

/-- A close counts as one. -/
theorem closings_cons_of_closesGroup {token : Token} (tokens : List Token)
    (h : token.closesGroup = true) : closings (token :: tokens) = closings tokens + 1 :=
  List.countP_cons_of_pos h

/-- Any other token does not count as a close. -/
theorem closings_cons_of_not_closesGroup {token : Token} (tokens : List Token)
    (h : token.closesGroup = false) : closings (token :: tokens) = closings tokens :=
  List.countP_cons_of_neg (Bool.eq_false_iff.mp h)

/-- An opener is no close. -/
theorem closesGroup_of_opensGroup {token : Token} (h : token.opensGroup = true) :
    token.closesGroup = false := by
  unfold opensGroup at h
  split at h
  · rename_i hkind
    simp [closesGroup, hkind]
  · cases h

/-- A close is no opener. -/
theorem opensGroup_of_closesGroup {token : Token} (h : token.closesGroup = true) :
    token.opensGroup = false := by
  have hkind : token.kind = .groupClose := of_decide_eq_true h
  rw [opensGroup, hkind]

/-- Without tokens nothing is closed. -/
theorem staysOpen_nil : StaysOpen [] := by
  intro front back hsplit
  have hfront := (List.nil_eq_append_iff.mp hsplit).1
  simp [hfront]

/-- What stays open all the way stays open up to every place on it. -/
theorem StaysOpen.of_append {front back : List Token} (h : StaysOpen (front ++ back)) :
    StaysOpen front := by
  rintro part rest rfl
  exact h part (rest ++ back) (List.append_assoc _ _ _)

/-- Groups stay open over two stretches if each of them closes no group in front of it. -/
theorem StaysOpen.append {front back : List Token} (hfront : StaysOpen front)
    (hback : StaysOpen back) : StaysOpen (front ++ back) := by
  intro part rest hsplit
  obtain ⟨more, rfl, hmore⟩ | ⟨more, hmore, -⟩ := List.append_eq_append_iff.mp hsplit
  · have hwhole := hfront front [] (List.append_nil front).symm
    have hrest := hback more rest hmore
    simp only [openings_append, closings_append]
    omega
  · exact hfront part more hmore

/-- A token that is no close leaves everything open. -/
theorem staysOpen_singleton {token : Token} (h : token.closesGroup = false) : StaysOpen [token] := by
  intro front back hsplit
  obtain ⟨rfl, -⟩ | ⟨rfl, -⟩ := List.singleton_eq_append_iff.mp hsplit
  · exact Nat.le_refl _
  · rw [closings_cons_of_not_closesGroup [] h]
    exact Nat.zero_le _

/-- A token that is no close can be left out of account. -/
theorem staysOpen_concat_iff {tokens : List Token} {token : Token} (h : token.closesGroup = false) :
    StaysOpen (tokens ++ [token]) ↔ StaysOpen tokens :=
  ⟨StaysOpen.of_append, fun htokens => htokens.append (staysOpen_singleton h)⟩

/-- No tokens close what they open. -/
theorem balanced_nil : Balanced [] := ⟨staysOpen_nil, rfl⟩

/-- Two stretches that close what they open. -/
theorem Balanced.append {front back : List Token} (hfront : Balanced front) (hback : Balanced back) :
    Balanced (front ++ back) where
  staysOpen := hfront.staysOpen.append hback.staysOpen
  openings_eq := by
    rw [openings_append, closings_append, hfront.openings_eq, hback.openings_eq]

/-- A token that is neither an opener nor a close. -/
theorem balanced_singleton {token : Token} (hopen : token.opensGroup = false)
    (hclose : token.closesGroup = false) : Balanced [token] where
  staysOpen := staysOpen_singleton hclose
  openings_eq := by
    rw [openings_cons_of_not_opensGroup [] hopen, closings_cons_of_not_closesGroup [] hclose]
    rfl

/-- Tokens that close what they open can be left out of account. -/
theorem staysOpen_append_balanced_iff {tokens block : List Token} (h : Balanced block) :
    StaysOpen (tokens ++ block) ↔ StaysOpen tokens :=
  ⟨StaysOpen.of_append, fun htokens => htokens.append h.staysOpen⟩

/-- A close behind tokens that close what they open closes the group around them. -/
theorem Balanced.not_staysOpen_concat {inner : List Token} {close : Token} (h : Balanced inner)
    (hclose : close.closesGroup = true) : ¬ StaysOpen (inner ++ [close]) := by
  intro hopen
  have hcount := hopen _ [] (List.append_nil _).symm
  have hequal := h.openings_eq
  have hcloses := closings_cons_of_closesGroup [] hclose
  have hopens := openings_cons_of_not_opensGroup [] (opensGroup_of_closesGroup hclose)
  simp only [openings_append, closings_append, openings_nil, closings_nil] at hcount hcloses hopens
  omega

/-- A group inside tokens that close what they open is closed by them. -/
theorem Balanced.not_staysOpen {outer inner : List Token} {opener : Token}
    (h : Balanced (outer ++ opener :: inner)) (hopener : opener.opensGroup = true) :
    ¬ StaysOpen inner := by
  intro hopen
  have houter := h.staysOpen outer (opener :: inner) rfl
  have hinner := hopen inner [] (List.append_nil _).symm
  have hequal := h.openings_eq
  have hopens := openings_cons_of_opensGroup inner hopener
  have hcloses := closings_cons_of_not_closesGroup inner (closesGroup_of_opensGroup hopener)
  simp only [openings_append, closings_append] at hequal
  omega

/-- A group with its two ends closes what it opens. -/
theorem Balanced.group {inner : List Token} {opener close : Token} (h : Balanced inner)
    (hopener : opener.opensGroup = true) (hclose : close.closesGroup = true) :
    Balanced (opener :: (inner ++ [close])) := by
  have hopens (tokens : List Token) := openings_cons_of_opensGroup tokens hopener
  have hcloses (tokens : List Token) :=
    closings_cons_of_not_closesGroup tokens (closesGroup_of_opensGroup hopener)
  have hlast := closings_cons_of_closesGroup [] hclose
  have hlast' := openings_cons_of_not_opensGroup [] (opensGroup_of_closesGroup hclose)
  have hequal := h.openings_eq
  simp only [openings_nil, closings_nil] at hlast hlast'
  refine ⟨?_, ?_⟩
  · intro front back hsplit
    cases front with
    | nil => exact Nat.le_refl _
    | cons first front =>
      obtain ⟨hfirst, hrest⟩ := List.cons.inj hsplit
      rw [← hfirst, hopens, hcloses]
      obtain ⟨part, rfl, hpart⟩ | ⟨part, hpart, -⟩ := List.append_eq_append_iff.mp hrest
      · obtain ⟨rfl, -⟩ | ⟨rfl, -⟩ := List.singleton_eq_append_iff.mp hpart <;>
          simp only [openings_append, closings_append, openings_nil, closings_nil] <;> omega
      · have hinner := h.staysOpen front part hpart
        omega
  · rw [hopens, hcloses, openings_append, closings_append]
    omega

end Railroad.Token
