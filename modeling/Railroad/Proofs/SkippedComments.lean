import Mathlib
import Railroad.Pipeline
import Railroad.Proofs.Bytes
import Railroad.Proofs.Displacement
import Railroad.Regex.Search

/-!
# Comments that are skipped

The engine skips a comment in parentheses like blanks, so that a pattern behind one is the same pattern. Whatever
it accepts it accepts behind a comment too.
-/

namespace Railroad

/-- The text of a comment: no parenthesis closes it unless a backslash stands in front, and every
backslash has a character behind it. -/
inductive CommentText : List Char → Prop where
  /-- There may be no text. -/
  | nil : CommentText []
  /-- A character that stands for itself. -/
  | plain {c : Char} {text : List Char} (hplain : c ≠ ')' ∧ c ≠ '\\') (htext : CommentText text) :
    CommentText (c :: text)
  /-- A character behind a backslash. -/
  | quoted {c : Char} {text : List Char} (htext : CommentText text) : CommentText ('\\' :: c :: text)

/-- A check that passes over comments: a pattern that passes also passes with a comment in front of it. -/
def Validator.PassesComments (validator : Validator) : Prop :=
  ∀ note pattern : String, CommentText note.toList → validator pattern = .ok () →
    validator ("(?#" ++ note ++ ")" ++ pattern) = .ok ()

namespace Regex

/-- What is added to a length twice is added together. -/
theorem map_add_map_add (found : Except Nat Nat) (m n : Nat) :
    (found.map (· + m)).map (· + n) = found.map (· + (m + n)) := by
  cases found with
  | error excess => rfl
  | ok length => exact congrArg Except.ok (Nat.add_assoc _ _ _)

/-- Inside a comment its text is skipped, then the parenthesis that closes it, and what may be skipped
behind. -/
theorem spaceLength_commentText (extended : Bool) {note : List Char} (hnote : CommentText note)
    (text : List Char) :
    spaceLength extended .comment (note ++ ')' :: text) =
      (spaceLength extended .outside text).map (· + (note.length + 1)) := by
  induction hnote with
  | nil => rfl
  | @plain c note hplain _ ih =>
    simp only [List.cons_append, spaceLength, beq_iff_eq, hplain.1, hplain.2, if_false]
    rw [ih, map_add_map_add]
    rfl
  | @quoted c note _ ih =>
    change ((spaceLength extended .comment (note ++ ')' :: text)).map (· + 1)).map (· + 1) = _
    rw [ih, map_add_map_add, map_add_map_add]
    rfl

/-- A comment in parentheses around a text. -/
def comment (note : List Char) : List Char := '(' :: '?' :: '#' :: (note ++ [')'])

/-- A comment is skipped, and what may be skipped behind it. -/
theorem spaceLength_comment (extended : Bool) {note : List Char} (hnote : CommentText note)
    (text : List Char) :
    spaceLength extended .outside (comment note ++ text) =
      (spaceLength extended .outside text).map (· + (comment note).length) := by
  have hopening : spaceLength extended .outside (comment note ++ text) =
      (spaceLength extended .comment (note ++ ')' :: text)).map (· + 3) := by
    rw [comment, List.cons_append, List.cons_append, List.cons_append, List.append_assoc]
    cases extended <;> rfl
  rw [hopening, spaceLength_commentText extended hnote, map_add_map_add, comment]
  simp only [List.length_cons, List.length_append, List.length_nil]

/-- Behind some characters and then some more is behind all of them. -/
theorem Reading.behind_behind (m n : Nat) (r : Reading) :
    (r.behind m).behind n = r.behind (n + m) := by
  unfold behind
  dsimp only
  simp only [Text.byteLength_eq]
  rw [List.drop_drop, Nat.add_comm n m, Nat.add_assoc, List.take_add, String.utf8Len_append]

namespace Reader

variable {note text : List Char} {r r' : Reading} {group : Reader Expr}

/-- Skipping does not stop behind a comment. -/
theorem space_comment (hnote : CommentText note) (hrest : r.rest = comment note ++ text) :
    space.run r = space.run (r.behind (comment note).length) := by
  have htext : (r.behind (comment note).length).rest = text := by
    rw [Reading.behind, hrest]
    exact List.drop_left
  have hlength := spaceLength_comment r.flags.extended hnote text
  rw [← hrest] at hlength
  simp only [space, run_get_bind]
  rw [hlength, htext]
  have hflags : (r.behind (comment note).length).flags = r.flags := rfl
  rw [hflags]
  cases spaceLength r.flags.extended .outside text with
  | error excess => rfl
  | ok n => exact congrArg (fun r => Except.ok ((), r)) (Reading.behind_behind _ n r).symm

/-- Where skipping takes nothing, it changes nothing. -/
theorem space_stalls {u : Unit} (h : space.run r = .ok (u, r'))
    (hlength : r.rest.length ≤ r'.rest.length) : r' = r := by
  simp only [space, run_get_bind] at h
  split at h
  · rename_i n _
    obtain rfl := run_advance_eq_ok.mp h
    cases n with
    | zero => rfl
    | succ n =>
      have hnil : r.rest = [] := by
        simp only [Reading.behind, List.length_drop] at hlength
        exact List.length_eq_zero_iff.mp (by omega)
      unfold Reading.behind
      rw [hnil]
      cases r
      cases hnil
      rfl
  · exact (run_stop_eq_ok.mp h).elim

/-- Where an item with its quantifier takes nothing, it is empty and changes nothing. -/
theorem piece_stalls (hgroup : OpensGroup group) {e : Expr} (h : (piece group).run r = .ok (e, r'))
    (hlength : r.rest.length ≤ r'.rest.length) : e = .empty ∧ r' = r := by
  obtain ⟨item, between, hitem, ⟨opened, -, hopened⟩, hempty⟩ := piece_cases h
  obtain ⟨start, hspace, ⟨rfl, rfl⟩ | htaken⟩ := atom_cases hgroup hitem
  · obtain ⟨rfl, hbehind⟩ := hempty rfl
    have hfirst := (space_quiet.onward hspace).shorter
    have hsecond := (space_quiet.onward hbehind).shorter
    obtain rfl := space_stalls hspace (by omega)
    exact ⟨rfl, space_stalls hbehind hlength⟩
  · have hfirst := (space_quiet.onward hspace).shorter
    have htaken := htaken.shorter
    have hopened := hopened.shorter
    omega

/-- Enough fuel is as good as more of it. -/
theorem pieces_of_fuel (hgroup : OpensGroup group) {items : List Expr} {fuel fuel' : Nat}
    (hfuel' : r.rest.length < fuel') (h : (pieces group fuel).run r = .ok (items, r'))
    (hfuel : r.rest.length < fuel) : (pieces group fuel').run r = .ok (items, r') := by
  induction fuel generalizing fuel' r r' items with
  | zero => exact absurd hfuel (Nat.not_lt_zero _)
  | succ fuel ih =>
    obtain ⟨fuel', rfl⟩ := Nat.exists_eq_succ_of_ne_zero (Nat.ne_of_gt (Nat.zero_lt_of_lt hfuel'))
    simp only [pieces, run_rest_bind] at h ⊢
    split at h
    · rename_i hnone
      rw [if_pos hnone]
      exact h
    · rename_i hsome
      rw [if_neg hsome]
      obtain ⟨item, r₁, hitem, h⟩ := run_bind_eq_ok.mp h
      refine run_bind_eq_ok.mpr ⟨item, r₁, hitem, ?_⟩
      simp only [run_rest_bind] at h ⊢
      split at h
      · rename_i hstalled
        rw [if_pos hstalled]
        exact h
      · rename_i htaken
        rw [if_neg htaken]
        obtain ⟨more, r₂, hmore, h⟩ := run_bind_eq_ok.mp h
        have hshorter := ((piece_opens hgroup).onward hitem).shorter
        rw [beq_iff_eq] at htaken
        exact run_bind_eq_ok.mpr ⟨more, r₂, ih (by omega) hmore (by omega), h⟩

/-- Where no text is left, an item is empty. -/
theorem run_piece_nil (hnil : r.rest = []) : (piece group).run r = .ok (.empty, r) := by
  have hspace : space.run r = .ok ((), r) := by
    simp only [space, run_get_bind, hnil, spaceLength]
    rfl
  have hatom : (atom group).run r = .ok (.empty, r) := by
    refine run_bind_eq_ok.mpr ⟨(), r, hspace, ?_⟩
    simp only [run_flags_bind, run_rest_bind, hnil]
    rfl
  have hbounds : bounds.run r = .ok (none, r) := by
    simp only [bounds, run_get_bind, hnil]
    rfl
  exact run_bind_eq_ok.mpr ⟨.empty, r, hatom, run_bind_eq_ok.mpr ⟨(), r, hspace,
    run_bind_eq_ok.mpr ⟨none, r, hbounds, rfl⟩⟩⟩

/-- Items are the same if the first of them is read before the others, even if it takes nothing. -/
theorem pieces_of_piece (hgroup : OpensGroup group) {items : List Expr} {fuel : Nat} (fuel' : Nat)
    (hfuel : r.rest.length < fuel) (hfuel' : r.rest.length < fuel')
    (h : (pieces group fuel).run r = .ok (items, r')) :
    (do
      let item ← piece group
      let more ← pieces group fuel'
      return if item.isEmpty then more else item :: more).run r = .ok (items, r') := by
  have hmore := pieces_of_fuel hgroup hfuel' h hfuel
  -- An empty item in front changes nothing.
  have hempty : (piece group).run r = .ok (.empty, r) →
      (do
        let item ← piece group
        let more ← pieces group fuel'
        return if item.isEmpty then more else item :: more).run r = .ok (items, r') := fun hpiece =>
    run_bind_eq_ok.mpr ⟨.empty, r, hpiece, run_bind_eq_ok.mpr ⟨items, r', hmore, rfl⟩⟩
  cases fuel with
  | zero => exact absurd hfuel (Nat.not_lt_zero _)
  | succ fuel =>
    simp only [pieces, run_rest_bind] at h
    split at h
    · rename_i hnone
      exact hempty (run_piece_nil (List.length_eq_zero_iff.mp (beq_iff_eq.mp hnone)))
    · obtain ⟨item, r₁, hitem, h⟩ := run_bind_eq_ok.mp h
      have hshorter := ((piece_opens hgroup).onward hitem).shorter
      simp only [run_rest_bind] at h
      split at h
      · rename_i hstalled
        obtain ⟨rfl, rfl⟩ := piece_stalls hgroup hitem (Nat.le_of_eq (beq_iff_eq.mp hstalled).symm)
        exact hempty hitem
      · rename_i htaken
        rw [beq_iff_eq] at htaken
        obtain ⟨more, r₂, hbehind, h⟩ := run_bind_eq_ok.mp h
        have hsame : (pieces group fuel').run r₁ = .ok (more, r₂) :=
          pieces_of_fuel hgroup (by omega) hbehind (by omega)
        exact run_bind_eq_ok.mpr ⟨item, r₁, hitem, run_bind_eq_ok.mpr ⟨more, r₂, hsame, h⟩⟩

/-- Behind a comment the text is left that stands behind it. -/
theorem rest_behind_comment (hrest : r.rest = comment note ++ text) :
    (r.behind (comment note).length).rest = text := by
  rw [Reading.behind, hrest]
  exact List.drop_left

/-- Items are the same behind a comment. -/
theorem pieces_comment (hgroup : OpensGroup group) (hnote : CommentText note)
    (hrest : r.rest = comment note ++ text) {items : List Expr}
    (h : (pieces group (text.length + 1)).run (r.behind (comment note).length) = .ok (items, r')) :
    (pieces group (r.rest.length + 1)).run r = .ok (items, r') := by
  have hpiece : (piece group).run r = (piece group).run (r.behind (comment note).length) := by
    simp only [piece, atom, StateT.run_bind, space_comment hnote hrest]
  have hbehind := rest_behind_comment hrest
  have hlength : r.rest.length = (comment note).length + text.length := by
    rw [hrest, List.length_append]
  have hcomment : 0 < (comment note).length := Nat.succ_pos _
  have hfirst := pieces_of_piece hgroup r.rest.length (by rw [hbehind]; omega)
    (by rw [hbehind]; omega) h
  obtain ⟨item, r₁, hitem, hmore⟩ := run_bind_eq_ok.mp hfirst
  have hshorter := ((piece_opens hgroup).onward hitem).shorter
  rw [hbehind] at hshorter
  -- The comment has been taken, so the items go on behind the first one.
  simp only [pieces, run_rest_bind]
  rw [if_neg (by rw [beq_iff_eq]; omega)]
  refine run_bind_eq_ok.mpr ⟨item, r₁, by rw [hpiece, hitem], ?_⟩
  simp only [run_rest_bind]
  rw [if_neg (by rw [beq_iff_eq]; omega)]
  exact hmore

/-- A pattern is the same behind a comment. -/
theorem pattern_comment (hnote : CommentText note) (hrest : r.rest = comment note ++ text) {e : Expr}
    (h : pattern.run (r.behind (comment note).length) = .ok (e, r')) :
    pattern.run r = .ok (e, r') := by
  obtain ⟨_, r₁, hexpression, hend⟩ := run_bind_eq_ok.mp h
  refine run_bind_eq_ok.mpr ⟨_, r₁, ?_, hend⟩
  obtain ⟨_, r₂, hbranch, hmore⟩ := run_bind_eq_ok.mp hexpression
  refine run_bind_eq_ok.mpr ⟨_, r₂, ?_, hmore⟩
  simp only [branch, run_rest_bind, rest_behind_comment hrest] at hbranch ⊢
  obtain ⟨items, r₃, hitems, hparts⟩ := run_bind_eq_ok.mp hbranch
  exact run_bind_eq_ok.mpr ⟨items, r₃, pieces_comment (group_opensGroup _) hnote hrest hitems, hparts⟩

end Reader

/-- The reading with which a pattern begins. -/
def Reading.start (text : List Char) (size : Nat) : Reading :=
  { rest := text, position := 0, size := size, flags := .none, opened := 0, names := [],
    referenced := [], byNumber := false }

/-- Behind a comment a pattern begins at another place. -/
theorem Reading.start_behind (note text : List Char) (size : Nat) :
    (start (comment note ++ text) (size + Text.byteLength (comment note))).behind
        (comment note).length =
      (start text size).displaced (Text.byteLength (comment note)) := by
  unfold behind displaced start
  simp only [List.drop_left, List.take_left]

/-- What is read does not change behind a comment. -/
theorem read_comment {note pattern : String} (hnote : CommentText note.toList) {outline : Outline}
    (h : read pattern = .ok outline) : read ("(?#" ++ note ++ ")" ++ pattern) = .ok outline := by
  have htext : ("(?#" ++ note ++ ")" ++ pattern).toList = comment note.toList ++ pattern.toList := by
    simp only [String.toList_append, comment, List.cons_append, List.append_assoc]
    rfl
  have hsize : ("(?#" ++ note ++ ")" ++ pattern).utf8ByteSize =
      pattern.utf8ByteSize + Text.byteLength (comment note.toList) := by
    rw [← String.utf8Len_toList, htext, String.utf8Len_append, String.utf8Len_toList,
      Text.byteLength_eq, Nat.add_comm]
  have hread : ∀ {e r},
      Reader.pattern.run (.start pattern.toList pattern.utf8ByteSize) = .ok (e, r) →
      Reader.pattern.run (.start (comment note.toList ++ pattern.toList)
        (pattern.utf8ByteSize + Text.byteLength (comment note.toList))) =
          .ok (e, r.displaced (Text.byteLength (comment note.toList))) := by
    intro e r hrun
    refine Reader.pattern_comment hnote rfl ?_
    rw [Reading.start_behind]
    exact Reader.pattern_displaces hrun
  unfold read at h ⊢
  rw [htext, hsize]
  dsimp only at h ⊢
  split at h
  · rename_i hrun
    cases h
    split
    · rename_i hrun'
      have hboth := (hread hrun).symm.trans hrun'
      cases hboth
      rfl
    · rename_i hrun'
      have hboth := (hread hrun).symm.trans hrun'
      cases hboth
  · cases h

/-- A pattern is prepared for searching in the same way behind a comment. -/
theorem compile_comment {note pattern : String} (hnote : CommentText note.toList)
    {matcher : Matcher} (h : compile pattern = .ok matcher) :
    compile ("(?#" ++ note ++ ")" ++ pattern) = .ok matcher := by
  unfold compile at h ⊢
  cases hread : read pattern with
  | error e =>
    rw [hread] at h
    cases h
  | ok outline =>
    rw [hread] at h
    rw [read_comment hnote hread]
    exact h

/-- The engine passes over comments. -/
theorem passesComments_validate : Validator.PassesComments validate := by
  intro note pattern hnote hpattern
  obtain ⟨matcher, hmatcher⟩ := Host.validate_eq_ok_iff.mp hpattern
  exact Host.validate_eq_ok_iff.mpr ⟨matcher, compile_comment hnote hmatcher⟩

end Regex

end Railroad
