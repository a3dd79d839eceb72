import Railroad.Proofs.ReaderRuns

/-!
# Readings lie behind each other

Whatever is read, the text that is left gets no longer, and every group that is opened takes the next
number. Each step of reading comes with a lemma that says so, and how many characters the step takes at
the least.
-/

namespace Railroad.Regex

/-- A reading lies behind another one: at least `taken` characters were taken on the way, and the groups
that were opened on the way are numbered in the order of opening. -/
structure Reading.Onward (taken : Nat) (r r' : Reading) (numbers : List Nat) : Prop where
  /-- Every opened group has been counted. -/
  opened : r'.opened = r.opened + numbers.length
  /-- The numbers go on from those given before. -/
  inOrder : numbers = List.range' (r.opened + 1) numbers.length
  /-- Characters were taken. -/
  shorter : r'.rest.length + taken ≤ r.rest.length
  /-- A group takes a character to open. -/
  covered : r'.rest.length + numbers.length ≤ r.rest.length

namespace Reading.Onward

variable {m n : Nat} {r r₁ r₂ : Reading} {xs ys : List Nat}

/-- A reading that opens nothing lies behind another one if no more text is left. -/
theorem quiet (hopened : r₁.opened = r.opened) (hshorter : r₁.rest.length + n ≤ r.rest.length) :
    Onward n r r₁ [] :=
  ⟨hopened, rfl, hshorter, by simp only [List.length_nil]; omega⟩

/-- A reading lies behind itself. -/
theorem refl (r : Reading) : Onward 0 r r [] := quiet rfl (Nat.le_refl _)

/-- What was taken and opened adds up. -/
theorem trans (h : Onward m r r₁ xs) (h' : Onward n r₁ r₂ ys) :
    Onward (m + n) r r₂ (xs ++ ys) where
  opened := by rw [h'.opened, h.opened, List.length_append, Nat.add_assoc]
  inOrder := by
    rw [List.length_append, ← List.range'_append_1, ← h.inOrder]
    have := h'.inOrder
    rw [h.opened, Nat.add_right_comm] at this
    rw [← this]
  shorter := by have := h.shorter; have := h'.shorter; omega
  covered := by
    have := h.covered
    have := h'.covered
    rw [List.length_append]
    omega

/-- At least as many characters are at least fewer. -/
theorem mono (h : Onward m r r₁ xs) (hle : n ≤ m) : Onward n r r₁ xs :=
  { h with shorter := by have := h.shorter; omega }

/-- Characters may go without anything being opened. -/
theorem ofDrop (hrest : r₁.rest = r.rest.drop n) (hopened : r₁.opened = r.opened) :
    Onward 0 r r₁ [] := by
  refine quiet hopened ?_
  rw [hrest, List.length_drop]
  omega

/-- Where text is left, at least one character goes. -/
theorem ofDrop_succ (hleft : r.rest ≠ []) (hrest : r₁.rest = r.rest.drop (n + 1))
    (hopened : r₁.opened = r.opened) : Onward 1 r r₁ [] := by
  refine quiet hopened ?_
  have := List.length_pos_iff.mpr hleft
  rw [hrest, List.length_drop]
  omega

/-- The group that opens behind its parenthesis takes the next number. -/
theorem group (h : Onward 1 r r₁ []) (h' : Onward n { r₁ with opened := r₁.opened + 1 } r₂ ys) :
    Onward 1 r r₂ ((r₁.opened + 1) :: ys) where
  opened := by
    have := h.opened
    have := h'.opened
    simp only [List.length_nil, List.length_cons] at *
    omega
  inOrder := by
    have hsame : r₁.opened = r.opened := h.opened
    rw [List.length_cons, List.range'_succ, hsame]
    have := h'.inOrder
    rw [hsame] at this
    rw [← this]
  shorter := by
    have hbehind := h.shorter
    have hinside : r₂.rest.length + n ≤ r₁.rest.length := h'.shorter
    omega
  covered := by
    have hbehind := h.shorter
    have hinside : r₂.rest.length + ys.length ≤ r₁.rest.length := h'.covered
    rw [List.length_cons]
    omega

end Reading.Onward

namespace Reader

open Reading (Onward)

variable {α β : Type} {r r' : Reading}

/-- Wherever a step succeeds, the groups in the value that it gives are the groups from `before` and the
ones that it opens. -/
def Opens (before : List Nat) (groups : α → List Nat) (m : Reader α) : Prop :=
  ∀ ⦃r a r'⦄, m.run r = .ok (a, r') → ∃ opened, groups a = before ++ opened ∧ Onward 0 r r' opened

/-- A step opens nothing. -/
abbrev Quiet (m : Reader α) : Prop := Opens [] (fun _ => []) m

namespace Opens

variable {before : List Nat} {groups : β → List Nat}

/-- Without groups from before, a step opens the groups in its value. -/
theorem onward {m : Reader β} (hm : Opens [] groups m) {b : β} (h : m.run r = .ok (b, r')) :
    Onward 0 r r' (groups b) := by
  obtain ⟨opened, heq, honward⟩ := hm h
  rwa [heq]

/-- A step that opens the groups in its value does so without groups from before. -/
theorem ofOnward {m : Reader β}
    (hm : ∀ {r b r'}, m.run r = .ok (b, r') → Onward 0 r r' (groups b)) : Opens [] groups m :=
  fun _ _ _ h => ⟨_, rfl, hm h⟩

/-- A value with the groups from before may be given. -/
theorem pure {b : β} (hb : groups b = before) : Opens before groups (pure b) := by
  intro r _ r' h
  obtain ⟨rfl, rfl⟩ := run_pure_eq_ok.mp h
  exact ⟨[], by rw [hb, List.append_nil], .refl r⟩

/-- A step that stops opens nothing. -/
theorem stop (position : Nat) (fault : Fault) : Opens before groups (stop position fault) :=
  fun _ _ _ h => (run_stop_eq_ok.mp h).elim

/-- A step that stops where it stands opens nothing. -/
theorem stopHere (fault : Fault) : Opens before groups (stopHere fault) :=
  fun _ _ _ h => (run_stopHere_eq_ok.mp h).elim

/-- A step that throws opens nothing. -/
theorem throw (e : Error) : Opens before groups (throw e) :=
  fun _ _ _ h => (run_throw_eq_ok.mp h).elim

/-- What a step opens is there before the next step. -/
theorem andThen {inner : α → List Nat} {m : Reader α} {f : α → Reader β} (hm : Opens [] inner m)
    (hf : ∀ a, Opens (before ++ inner a) groups (f a)) : Opens before groups (m >>= f) := by
  intro r b r' h
  obtain ⟨a, between, ha, hb⟩ := run_bind_eq_ok.mp h
  obtain ⟨opened, heq, honward⟩ := hf a hb
  exact ⟨inner a ++ opened, by rw [heq, List.append_assoc], (hm.onward ha).trans honward⟩

/-- A step that opens nothing may come first. -/
theorem bind {m : Reader α} {f : α → Reader β} (hm : Quiet m)
    (hf : ∀ a, Opens before groups (f a)) : Opens before groups (m >>= f) :=
  hm.andThen fun a => by rw [List.append_nil]; exact hf a

/-- A value without groups may be made of what a step gives. -/
theorem map {m : Reader α} (hm : Quiet m) {f : α → β} (hf : ∀ a, groups (f a) = before) :
    Opens before groups (m >>= fun a => Pure.pure (f a)) :=
  hm.bind fun a => .pure (hf a)

/-- A step may look at the reading. -/
theorem get {f : Reading → Reader β} (hf : ∀ r, Opens before groups (f r)) :
    Opens before groups (get >>= f : Reader β) :=
  fun r _ _ h => hf r h

/-- A step may look at what is left. -/
theorem rest {f : List Char → Reader β} (hf : ∀ text, Opens before groups (f text)) :
    Opens before groups (rest >>= f) :=
  fun r _ _ h => hf r.rest h

/-- A step may look at the flags. -/
theorem flags {f : ReadFlags → Reader β} (hf : ∀ flags, Opens before groups (f flags)) :
    Opens before groups (flags >>= f) :=
  fun r _ _ h => hf r.flags h

/-- Going on opens nothing. -/
theorem advance (n : Nat) : Quiet (advance n) := by
  refine .ofOnward fun h => ?_
  obtain rfl := run_advance_eq_ok.mp h
  exact .ofDrop rfl rfl

/-- Changes of what is neither left nor opened open nothing. -/
theorem modify {g : Reading → Reading} (hrest : ∀ r, (g r).rest = r.rest)
    (hopened : ∀ r, (g r).opened = r.opened) : Quiet (modify g : Reader Unit) := by
  refine .ofOnward fun h => ?_
  cases h
  exact .quiet (hopened _) (Nat.le_of_eq (congrArg List.length (hrest _)))

/-- Where text is left, a step that goes on first takes a character. -/
theorem taking {m : Reader β} (hm : Opens [] groups m) {n : Nat} {b : β} (hleft : r.rest ≠ [])
    (h : (Reader.advance (n + 1) >>= fun _ => m).run r = .ok (b, r')) :
    Onward 1 r r' (groups b) := by
  rw [run_advance_bind] at h
  have hgone : Onward 1 r (r.behind (n + 1)) [] := .ofDrop_succ hleft rfl rfl
  exact hgone.trans (hm.onward h)

/-- What depends on whether a step took anything: if it took nothing, nothing was opened. -/
theorem stalling {inner : α → List Nat} {m : Reader α} {stalled more : α → Reader β}
    (hm : Opens [] inner m) (hstalled : ∀ a, Opens before groups (stalled a))
    (hmore : ∀ a, Opens (before ++ inner a) groups (more a)) {b : β}
    (h : (do
      let a ← m
      if (← Reader.rest).length == r.rest.length then stalled a else more a).run r = .ok (b, r')) :
    ∃ opened, groups b = before ++ opened ∧ Onward 0 r r' opened := by
  obtain ⟨a, between, ha, hb⟩ := run_bind_eq_ok.mp h
  have honward := hm.onward ha
  simp only [run_rest_bind] at hb
  split at hb
  · rename_i hlength
    obtain ⟨opened, heq, hopened⟩ := hstalled a hb
    have hnone : inner a = [] := by
      have := honward.covered
      rw [beq_iff_eq.mp hlength] at this
      exact List.length_eq_zero_iff.mp (by omega)
    rw [hnone] at honward
    exact ⟨opened, heq, honward.trans hopened⟩
  · obtain ⟨opened, heq, hopened⟩ := hmore a hb
    exact ⟨inner a ++ opened, by rw [heq, List.append_assoc], honward.trans hopened⟩

end Opens

/-- Blanks and comments open nothing. -/
theorem space_quiet : Quiet space := by
  refine .get fun r => ?_
  split
  · exact .advance _
  · exact .stop _ _

/-- A reference back by number opens nothing. -/
theorem numberedReference_quiet : Quiet numberedReference := by
  refine .get fun r => ?_
  split
  · split
    · exact (Opens.advance _).bind fun _ =>
        .bind (.modify (fun _ => rfl) fun _ => rfl) fun _ => .pure rfl
    · exact .stopHere _
  · exact .stopHere _

/-- A reference back by name opens nothing. -/
theorem namedReference_quiet (opening closing : List Char) :
    Quiet (namedReference opening closing) := by
  refine .get fun r => ?_
  split
  · exact .stopHere _
  · split
    · exact .stopHere _
    · exact (Opens.advance _).bind fun _ =>
        .bind (.modify (fun _ => rfl) fun _ => rfl) fun _ => .pure rfl

/-- The digits of a hexadecimal escape open nothing. -/
theorem hexCharacter_quiet (digits : Nat) : Quiet (hexCharacter digits) := by
  refine .rest fun text => ?_
  extract_lets fixed finish
  -- However the digits were found, what comes behind them is the same.
  have hfinish : ∀ found, Quiet (finish found) := by
    intro found
    dsimp only [finish]
    split
    · exact (Opens.advance _).bind fun _ => .pure rfl
    · exact .stopHere _
  split
  · exact (Opens.pure rfl).bind hfinish
  · split
    · extract_lets run
      split
      · split
        · exact (Opens.pure rfl).bind hfinish
        · exact (Opens.stopHere _).bind hfinish
      · exact (Opens.stopHere _).bind hfinish
    · exact (Opens.stopHere _).bind hfinish

/-- The text that names a property opens nothing. -/
theorem propertyText_quiet (start : Nat) : Quiet (propertyText start) := by
  refine .rest fun text => ?_
  split
  · split
    · exact (Opens.advance _).bind fun _ => .pure rfl
    · exact .stop _ _
  · exact (Opens.advance _).bind fun _ => .pure rfl
  · exact .pure rfl

/-- The groups in what an escape stands for. -/
def Escape.groups : Escape → List Nat
  | .character _ _ | .shorthand _ _ => []
  | .other e => e.groups

/-- A position or a mark has no groups. -/
theorem groups_of_position? {c : Char} {e : Expr} (h : position? c = some e) : e.groups = [] := by
  unfold position? at h
  split at h <;> cases h <;> rfl

/-- An escape opens nothing and has no groups, and it takes at least its backslash. -/
theorem escape_onward {groups : Escape → List Nat} (hgroups : ∀ e, e.groups = [] → groups e = [])
    {inClass : Bool} {e : Escape} (h : (escape inClass).run r = .ok (e, r')) :
    Onward 1 r r' (groups e) := by
  simp only [escape, run_get_bind, run_rest_bind] at h
  split at h
  · exact (run_stopHere_eq_ok.mp h).elim
  · rename_i c after hrest
    have hleft : r.rest ≠ [] := by
      rintro hnil
      rw [hnil] at hrest
      cases hrest
    split at h
    · exact Opens.taking (numberedReference_quiet.map fun _ => hgroups _ rfl) hleft h
    split at h
    · refine Opens.taking ?_ hleft h
      split <;> exact (namedReference_quiet _ _).map fun _ => hgroups _ rfl
    split at h
    · rename_i hposition
      refine Opens.taking (.pure (hgroups _ ?_)) hleft h
      split at hposition
      · cases hposition
      · exact groups_of_position? hposition
    · exact Opens.taking (.pure (hgroups _ rfl)) hleft h
    split at h
    · exact Opens.taking ((hexCharacter_quiet _).map fun _ => hgroups _ rfl) hleft h
    split at h
    · exact Opens.taking ((hexCharacter_quiet _).map fun _ => hgroups _ rfl) hleft h
    split at h
    · exact Opens.taking ((hexCharacter_quiet _).map fun _ => hgroups _ rfl) hleft h
    split at h
    · exact Opens.taking ((propertyText_quiet _).map fun _ => hgroups _ rfl) hleft h
    split at h
    · exact Opens.taking (.pure (hgroups _ rfl)) hleft h
    split at h
    · exact (run_stopHere_eq_ok.mp h).elim
    · exact Opens.taking (.pure (hgroups _ rfl)) hleft h

/-- The atoms that an escape stands for take nothing more. -/
theorem classAtoms_quiet (start : Nat) (e : Escape) : Quiet (classAtoms start e) := by
  unfold classAtoms
  split
  · exact .pure rfl
  · exact .pure rfl
  · exact .pure rfl
  · exact .stop _ _

/-- What stands between brackets opens nothing. -/
theorem bracketAtoms_quiet (fuel depth : Nat) : Quiet (bracketAtoms fuel depth) := by
  induction fuel generalizing depth with
  | zero => exact .stopHere _
  | succ fuel ih =>
    refine .rest fun text => ?_
    split
    · exact .stopHere _
    · have hescape : Quiet (escape true) :=
        .ofOnward fun h => (escape_onward (fun _ _ => rfl) h).mono (Nat.zero_le 1)
      exact .get fun _ => hescape.bind fun _ => (classAtoms_quiet _ _).bind fun _ =>
        (ih _).map fun _ => rfl
    · exact (Opens.advance _).bind fun _ => (ih _).map fun _ => rfl
    · refine (Opens.advance _).bind fun _ => ?_
      split
      · exact .pure rfl
      · exact (ih _).map fun _ => rfl
    · exact (Opens.advance _).bind fun _ => (ih _).map fun _ => rfl

/-- A class opens nothing, and takes at least its bracket. -/
theorem bracket_onward {e : Expr} (hleft : r.rest ≠ []) (h : bracket.run r = .ok (e, r')) :
    Onward 1 r r' e.groups := by
  refine Opens.taking ?_ hleft h
  refine .rest fun _ => ?_
  extract_lets behindCaret
  have hcaret : ∀ caret, Opens [] Expr.groups (behindCaret caret) := by
    intro caret
    refine .rest fun _ => ?_
    extract_lets behindFirst
    have hfirst : ∀ first, Opens [] Expr.groups (behindFirst first) := fun first =>
      .rest fun _ => (bracketAtoms_quiet _ _).bind fun _ => .flags fun _ => .pure rfl
    split
    · exact (Opens.advance _).bind fun _ => (Opens.pure rfl).bind hfirst
    · exact (Opens.pure rfl).bind hfirst
  split
  · exact (Opens.advance _).bind fun _ => (Opens.pure rfl).bind hcaret
  · exact (Opens.pure rfl).bind hcaret

/-- The bounds of a quantifier open nothing. -/
theorem bounds_quiet : Quiet bounds := by
  refine .get fun r => ?_
  split
  · exact .pure rfl
  · exact .pure rfl
  · exact .pure rfl
  · split
    · exact (Opens.advance _).bind fun _ => .pure rfl
    · exact .pure rfl
  · exact .pure rfl

/-- A parenthesis that has to come next opens nothing. -/
theorem closing_quiet : Quiet closing := by
  refine space_quiet.bind fun _ => .rest fun text => ?_
  split
  · exact .stopHere _
  · exact .advance _
  · exact .stopHere _

/-- The condition that is a reference opens nothing. -/
theorem conditionReference_quiet : Quiet conditionReference := by
  refine .rest fun text => ?_
  split
  · exact (namedReference_quiet _ _).map fun _ => rfl
  · exact (namedReference_quiet _ _).map fun _ => rfl
  · split
    · exact numberedReference_quiet.map fun _ => rfl
    · exact .pure rfl
  · exact .stopHere _

/-- A step opens the groups in the expression that it gives. Where text is left it takes a character. -/
def OpensGroup (m : Reader Expr) : Prop :=
  ∀ ⦃r e r'⦄, r.rest ≠ [] → m.run r = .ok (e, r') → Onward 1 r r' e.groups

variable {group inside : Reader Expr}

/-- Behind blanks and comments, an item is empty and takes nothing, or it takes a character and opens the
groups in it. -/
theorem atom_cases (hgroup : OpensGroup group) {e : Expr} (h : (atom group).run r = .ok (e, r')) :
    ∃ between, space.run r = .ok ((), between) ∧
      (e = .empty ∧ between = r' ∨ Onward 1 between r' e.groups) := by
  obtain ⟨_, between, hspace, h⟩ := run_bind_eq_ok.mp h
  refine ⟨between, hspace, ?_⟩
  simp only [run_flags_bind, run_rest_bind] at h
  -- An item that is a single character or stands for one takes it.
  have hsingle : ∀ {c text e'}, between.rest = c :: text → e'.groups = [] →
      (do advance 1; return e' : Reader Expr).run between = .ok (e, r') →
        Onward 1 between r' e.groups := by
    intro c text e' hrest hgroups h
    obtain ⟨rfl, rfl⟩ := run_pure_eq_ok.mp h
    rw [hgroups]
    exact .ofDrop_succ (by rw [hrest]; exact List.cons_ne_nil _ _) rfl rfl
  split at h
  · exact .inl (run_pure_eq_ok.mp h |>.imp_left Eq.symm)
  · rename_i hrest
    exact .inr (hsingle hrest rfl h)
  · rename_i hrest
    exact .inr (hsingle hrest rfl h)
  · rename_i hrest
    exact .inr (hsingle hrest rfl h)
  · rename_i hrest
    exact .inr (hgroup (by rw [hrest]; exact List.cons_ne_nil _ _) h)
  · obtain ⟨found, r₁, hescape, h⟩ := run_bind_eq_ok.mp h
    have honward := escape_onward (fun _ => id) hescape
    split at h
    · obtain ⟨rfl, rfl⟩ := run_pure_eq_ok.mp h
      exact .inr honward
    · obtain ⟨rfl, rfl⟩ := run_pure_eq_ok.mp h
      exact .inr honward
    · obtain ⟨rfl, rfl⟩ := run_pure_eq_ok.mp h
      exact .inr honward
  · rename_i hrest
    exact .inr (bracket_onward (by rw [hrest]; exact List.cons_ne_nil _ _) h)
  · rename_i hrest
    split at h
    · exact .inl (run_pure_eq_ok.mp h |>.imp_left Eq.symm)
    · exact .inr (hsingle hrest rfl h)

/-- An item opens the groups in it. -/
theorem atom_opens (hgroup : OpensGroup group) : Opens [] Expr.groups (atom group) := by
  refine .ofOnward fun h => ?_
  obtain ⟨between, hspace, ⟨rfl, rfl⟩ | hitem⟩ := atom_cases hgroup h
  · exact space_quiet.onward hspace
  · exact ((space_quiet.onward hspace).trans hitem).mono (Nat.zero_le _)

/-- Without bounds nothing is taken. -/
theorem eq_of_bounds_none (h : bounds.run r = .ok (none, r')) : r' = r := by
  simp only [bounds, run_get_bind] at h
  split at h
  · cases h
  · cases h
  · cases h
  · split at h
    · cases h
    · exact (run_pure_eq_ok.mp h).2.symm
  · exact (run_pure_eq_ok.mp h).2.symm

/-- Behind an item, no other groups are opened than those of the quantified item. An empty item has no
quantifier, and only blanks and comments are taken behind it. -/
theorem piece_cases {e : Expr} (h : (piece group).run r = .ok (e, r')) :
    ∃ item between, (atom group).run r = .ok (item, between) ∧
      (∃ opened, e.groups = item.groups ++ opened ∧ Onward 0 between r' opened) ∧
      (item = .empty → e = .empty ∧ space.run between = .ok ((), r')) := by
  obtain ⟨item, between, hitem, h⟩ := run_bind_eq_ok.mp h
  obtain ⟨_, r₁, hspace, h⟩ := run_bind_eq_ok.mp h
  obtain ⟨b, r₂, hbounds, h⟩ := run_bind_eq_ok.mp h
  have hbefore := (space_quiet.onward hspace).trans (bounds_quiet.onward hbounds)
  refine ⟨item, between, hitem, ?_⟩
  split at h
  · obtain ⟨rfl, rfl⟩ := run_pure_eq_ok.mp h
    obtain rfl := eq_of_bounds_none hbounds
    exact ⟨⟨[], (List.append_nil _).symm, hbefore⟩, fun hempty => ⟨hempty, hspace⟩⟩
  · split at h
    · exact (run_stopHere_eq_ok.mp h).elim
    · rename_i hrepeatable
      refine ⟨?_, fun hempty => absurd (by rw [hempty]; rfl) hrepeatable⟩
      obtain ⟨opened, heq, hopened⟩ :
          ∃ opened, e.groups = item.groups ++ opened ∧ Onward 0 r₂ r' opened := by
        refine Opens.bind (Opens.advance _) (fun _ => space_quiet.bind fun _ => .rest fun _ => ?_) h
        extract_lets behindMark
        have hmark : ∀ lazyMark, Opens item.groups Expr.groups (behindMark lazyMark) := by
          intro lazyMark
          refine .flags fun _ => .rest fun _ => ?_
          split
          · exact (Opens.advance _).bind fun _ => .pure rfl
          · exact .pure rfl
        split
        · exact (Opens.advance _).bind fun _ => (Opens.pure rfl).bind hmark
        · exact (Opens.pure rfl).bind hmark
      exact ⟨opened, heq, hbefore.trans hopened⟩

/-- An item with its quantifier opens the groups in it. -/
theorem piece_opens (hgroup : OpensGroup group) : Opens [] Expr.groups (piece group) := by
  intro r e r' h
  obtain ⟨item, between, hitem, ⟨opened, heq, hopened⟩, -⟩ := piece_cases h
  exact ⟨item.groups ++ opened, heq, ((atom_opens hgroup).onward hitem).trans hopened⟩

/-- An empty expression has no groups. -/
theorem groups_of_isEmpty {e : Expr} (h : e.isEmpty = true) : e.groups = [] := by
  cases e with
  | empty => rfl
  | _ => cases h

/-- Items behind each other open the groups in all of them. -/
theorem pieces_opens (hgroup : OpensGroup group) (fuel : Nat) :
    Opens [] Expr.groupsOfAll (pieces group fuel) := by
  induction fuel with
  | zero => exact .pure rfl
  | succ fuel ih =>
    intro r items r' h
    simp only [pieces, run_rest_bind] at h
    split at h
    · exact Opens.pure rfl h
    · refine (piece_opens hgroup).stalling (fun _ => .pure rfl) (fun item => ?_) h
      refine ih.andThen fun more => .pure ?_
      split
      · rename_i hempty
        rw [groups_of_isEmpty hempty]
        rfl
      · rfl

/-- Expressions in a row have the groups of all of them. -/
theorem groups_ofParts (parts : List Expr) : (Expr.ofParts parts).groups = Expr.groupsOfAll parts := by
  unfold Expr.ofParts
  split
  · rfl
  · rw [Expr.groupsOfAll, Expr.groupsOfAll, List.append_nil]
  · rw [Expr.groups]

/-- An alternative opens the groups in it. -/
theorem branch_opens (hgroup : OpensGroup group) : Opens [] Expr.groups (branch group) :=
  .rest fun _ => (pieces_opens hgroup _).andThen fun parts => .pure (groups_ofParts parts)

/-- Further alternatives open the groups in all of them. -/
theorem moreBranches_opens (hgroup : OpensGroup group) (fuel : Nat) :
    Opens [] Expr.groupsOfAll (moreBranches group fuel) := by
  induction fuel with
  | zero => exact .pure rfl
  | succ fuel ih =>
    refine .rest fun text => ?_
    split
    · exact (Opens.advance _).bind fun _ => (branch_opens hgroup).andThen fun option =>
        space_quiet.bind fun _ => ih.andThen fun more => .pure rfl
    · exact .pure rfl

/-- Alternatives open the groups in all of them. -/
theorem expression_opens (hgroup : OpensGroup group) : Opens [] Expr.groups (expression group) := by
  refine (branch_opens hgroup).andThen fun option => space_quiet.bind fun _ => .rest fun _ =>
    (moreBranches_opens hgroup _).andThen fun more => ?_
  split
  · refine .get fun r => ?_
    extract_lets finish
    have hfinish : ∀ u, Opens ([] ++ option.groups ++ Expr.groupsOfAll []) Expr.groups (finish u) :=
      fun _ => .pure (by rw [Expr.groupsOfAll, List.append_nil]; rfl)
    split
    · exact (Opens.throw _).bind hfinish
    · exact hfinish ()
  · exact .pure rfl

/-- A lookaround or an atomic group opens the groups inside. -/
theorem markedGroup_opens (skip : Nat) (wrap : Expr → Expr)
    (hwrap : ∀ e, (wrap e).groups = e.groups) (hinside : Opens [] Expr.groups inside) :
    Opens [] Expr.groups (markedGroup skip wrap inside) :=
  (Opens.advance _).bind fun _ => hinside.andThen fun content => closing_quiet.bind fun _ =>
    .pure (hwrap content)

/-- A group with flags opens the groups inside, and a switch opens nothing. -/
theorem flagGroup_opens (start : Nat) (written : List Char) (outer : ReadFlags)
    (hinside : Opens [] Expr.groups inside) (negated : Bool) (fuel : Nat) :
    Opens [] Expr.groups (flagGroup start written outer inside negated fuel) := by
  induction fuel generalizing negated with
  | zero => exact .stopHere _
  | succ fuel ih =>
    refine space_quiet.bind fun _ => .get fun r => ?_
    extract_lets length unknown
    split
    · exact .stopHere _
    · split
      · exact .stop _ _
      · exact (Opens.advance _).bind fun _ => .pure rfl
    · split
      · exact .stop _ _
      · refine (Opens.advance _).bind fun _ => hinside.andThen fun content => .rest fun _ => ?_
        split
        · exact .stopHere _
        · exact (Opens.advance _).bind fun _ =>
            .bind (.modify (fun _ => rfl) fun _ => rfl) fun _ => .pure rfl
    · split
      · exact .stop _ _
      · exact (Opens.advance _).bind fun _ => ih _
    · split
      · exact .stopHere _
      · exact (Opens.advance _).bind fun _ => ih _
    · split
      · exact .stop _ _
      · exact .bind (.modify (fun _ => rfl) fun _ => rfl) fun _ =>
          (Opens.advance _).bind fun _ => ih _

/-- A conditional has the groups of its condition and those of the alternatives that its branches are
made of. Without branches it is its condition. -/
theorem groups_branches (condition content : Expr) :
    (let (ifTrue, ifFalse) := match content with
      | .alternatives [first, second] => (first, second)
      | .alternatives (first :: others) => (first, Expr.alternatives others)
      | _ => (content, Expr.empty)
    if ifTrue.isEmpty && ifFalse.isEmpty then condition
    else Expr.conditional condition ifTrue ifFalse).groups = condition.groups ++ content.groups := by
  have hif : ∀ {ifTrue ifFalse : Expr}, ifTrue.groups ++ ifFalse.groups = content.groups →
      (if ifTrue.isEmpty && ifFalse.isEmpty then condition
        else .conditional condition ifTrue ifFalse).groups = condition.groups ++ content.groups := by
    intro ifTrue ifFalse h
    split
    · rename_i hempty
      rw [Bool.and_eq_true] at hempty
      rw [← h, groups_of_isEmpty hempty.1, groups_of_isEmpty hempty.2, List.append_nil,
        List.append_nil]
    · rw [Expr.groups, List.append_assoc, h]
  apply hif
  split
  · simp only [Expr.groups, Expr.groupsOfAll, List.append_nil]
  · simp only [Expr.groups, Expr.groupsOfAll]
  · simp only [Expr.groups, List.append_nil]

/-- A conditional opens the groups of its condition before those of its branches. -/
theorem conditional_opens (hinside : Opens [] Expr.groups inside) :
    Opens [] Expr.groups (conditional inside) := by
  refine conditionReference_quiet.bind fun reference => ?_
  extract_lets behindCondition
  have hbehind : ∀ written, Opens written.groups Expr.groups (behindCondition written) := by
    intro written
    dsimp only [behindCondition]
    -- A reference may stand alone as a condition, anything else needs a branch.
    split
    · rename_i n
      change Opens (Expr.groupMatched n).groups _ _
      refine closing_quiet.bind fun _ r e r' h => ?_
      simp only [run_rest_bind, ite_true] at h
      exact hinside.stalling (fun _ => closing_quiet.bind fun _ => .pure rfl)
        (fun content => closing_quiet.bind fun _ => .pure (groups_branches _ content)) h
    · refine closing_quiet.bind fun _ r e r' h => ?_
      simp only [run_rest_bind, Bool.false_eq_true, ite_false] at h
      exact hinside.stalling (fun _ => .stopHere _)
        (fun content => closing_quiet.bind fun _ => .pure (groups_branches _ content)) h
  split
  · exact (Opens.pure rfl).andThen hbehind
  · exact hinside.andThen hbehind

/-- A group that takes the next number behind its parenthesis opens it before the groups inside. -/
theorem Opens.numbered {f : Nat → Reader Expr} {before : Reading} {e : Expr}
    (hf : ∀ n, Opens [n] Expr.groups (f n)) (hbefore : Onward 1 before r [])
    (h : (openNumber >>= f).run r = .ok (e, r')) : Onward 1 before r' e.groups := by
  obtain ⟨opened, heq, honward⟩ := hf _ h
  rw [heq]
  exact hbefore.group honward

/-- A group with a name opens itself and the groups inside. -/
theorem namedGroup_onward {skip : Nat} {before : Reading} {e : Expr}
    (hinside : Opens [] Expr.groups inside) (hbefore : Onward 1 before r [])
    (h : (namedGroup skip inside).run r = .ok (e, r')) : Onward 1 before r' e.groups := by
  refine Opens.numbered (fun n => .rest fun text => ?_) hbefore h
  split
  · exact .stopHere _
  · exact .bind (.modify (fun _ => rfl) fun _ => rfl) fun _ => (Opens.advance _).bind fun _ =>
      hinside.andThen fun content => closing_quiet.bind fun _ => .pure rfl

/-- A group takes its parenthesis and opens the groups in it. -/
theorem groupOf_opensGroup (hinside : Opens [] Expr.groups inside) :
    OpensGroup (groupOf inside) := by
  intro r e r' hleft h
  simp only [groupOf, run_advance_bind] at h
  have hparenthesis : Onward 1 r (r.behind 1) [] := .ofDrop_succ hleft rfl rfl
  obtain ⟨_, between, hspace, h⟩ := run_bind_eq_ok.mp h
  have hbefore := hparenthesis.trans (space_quiet.onward hspace)
  simp only [run_rest_bind] at h
  split at h
  · exact hbefore.trans ((markedGroup_opens 2 (.look .ahead) (fun _ => rfl) hinside).onward h)
  · exact hbefore.trans ((markedGroup_opens 2 (.look .aheadNot) (fun _ => rfl) hinside).onward h)
  · exact hbefore.trans ((markedGroup_opens 3 (.look .behind) (fun _ => rfl) hinside).onward h)
  · exact hbefore.trans ((markedGroup_opens 3 (.look .behindNot) (fun _ => rfl) hinside).onward h)
  · exact namedGroup_onward hinside hbefore h
  · exact namedGroup_onward hinside hbefore h
  · have hreference : Opens [] Expr.groups (do
        advance 3
        return .backreference (← namedReference [] [')'])) :=
      (Opens.advance _).bind fun _ => (namedReference_quiet _ _).map fun _ => rfl
    exact hbefore.trans (hreference.onward h)
  · exact hbefore.trans ((markedGroup_opens 2 .atomic (fun _ => rfl) hinside).onward h)
  · exact hbefore.trans (Opens.onward ((Opens.advance _).bind fun _ => conditional_opens hinside) h)
  · refine hbefore.trans (Opens.onward ((Opens.advance _).bind fun _ => .get fun r => ?_) h)
    exact flagGroup_opens _ _ _ hinside _ _
  · have hcontent : ∀ n, Opens [n] Expr.groups (do
        let content ← inside
        closing
        return .group n content) := fun n =>
      hinside.andThen fun content => closing_quiet.bind fun _ => .pure rfl
    exact Opens.numbered hcontent hbefore h

/-- A group at any depth takes its parenthesis and opens the groups in it. -/
theorem group_opensGroup (levels : Nat) : OpensGroup (Reader.group levels) := by
  induction levels with
  | zero => exact fun _ _ _ _ h => (run_stopHere_eq_ok.mp h).elim
  | succ levels ih => exact groupOf_opensGroup (expression_opens ih)

/-- A pattern opens the groups in it. -/
theorem pattern_opens : Opens [] Expr.groups pattern := by
  refine (expression_opens (group_opensGroup _)).andThen fun e => .rest fun _ => ?_
  split
  · exact .pure rfl
  · exact .stopHere _

end Reader

/-- A pattern that is read has its groups numbered from one on, in the order in which they open. -/
theorem groups_of_read {pattern : String} {outline : Outline} (h : read pattern = .ok outline) :
    outline.expr.groups = List.range' 1 outline.expr.groups.length := by
  unfold read at h
  dsimp only at h
  split at h
  · rename_i hrun
    cases h
    exact (Reader.pattern_opens.onward hrun).inOrder
  · cases h

end Railroad.Regex
