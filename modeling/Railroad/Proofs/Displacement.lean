import Railroad.Proofs.Onward

/-!
# Reading at another place

A reading may stand at another byte of a longer pattern, with the same text left. Whatever is read there
is the same: places matter for messages only, and the length of the pattern only bounds the numbers that
a reference may have. Each step of reading comes with a lemma that says so.
-/

namespace Railroad.Regex

/-- The reading with the same text left, `k` bytes further into a pattern that is `k` bytes longer. -/
def Reading.displaced (k : Nat) (r : Reading) : Reading :=
  { r with position := r.position + k, size := r.size + k }

/-- Characters are gone by at the other place as well. -/
theorem Reading.behind_displaced (n k : Nat) (r : Reading) :
    (r.displaced k).behind n = (r.behind n).displaced k := by
  unfold behind displaced
  simp only [Nat.add_right_comm]

namespace Reader

variable {α β : Type} {k : Nat}

/-- Wherever one step succeeds, another one does the same with the displaced reading. -/
def Displaces (k : Nat) (m m' : Reader α) : Prop :=
  ∀ ⦃r a r'⦄, m.run r = .ok (a, r') → m'.run (r.displaced k) = .ok (a, r'.displaced k)

namespace Displaces

/-- A value is the same at another place. -/
theorem pure (a : α) : Displaces k (pure a) (pure a) := by
  intro r b r' h
  obtain ⟨rfl, rfl⟩ := run_pure_eq_ok.mp h
  rfl

/-- A step that stops has not succeeded. -/
theorem stop {position : Nat} {fault : Fault} {m' : Reader α} :
    Displaces k (stop position fault) m' :=
  fun _ _ _ h => (run_stop_eq_ok.mp h).elim

/-- A step that stops where it stands has not succeeded. -/
theorem stopHere {fault : Fault} {m' : Reader α} : Displaces k (stopHere fault) m' :=
  fun _ _ _ h => (run_stopHere_eq_ok.mp h).elim

/-- A step that throws has not succeeded. -/
theorem throw {e : Error} {m' : Reader α} : Displaces k (throw e) m' :=
  fun _ _ _ h => (run_throw_eq_ok.mp h).elim

/-- Steps behind each other can be displaced if each of them can. -/
theorem bind {m m' : Reader α} {f f' : α → Reader β} (hm : Displaces k m m')
    (hf : ∀ a, Displaces k (f a) (f' a)) : Displaces k (m >>= f) (m' >>= f') := by
  intro r b r' h
  obtain ⟨a, between, ha, hb⟩ := run_bind_eq_ok.mp h
  exact run_bind_eq_ok.mpr ⟨a, between.displaced k, hm ha, hf a hb⟩

/-- What is made of a value is the same at another place. -/
theorem map {m m' : Reader α} (hm : Displaces k m m') (f : α → β) :
    Displaces k (m >>= fun a => Pure.pure (f a)) (m' >>= fun a => Pure.pure (f a)) :=
  hm.bind fun a => .pure (f a)

/-- A step may look at the reading. -/
theorem get {f f' : Reading → Reader β} (hf : ∀ r, Displaces k (f r) (f' (r.displaced k))) :
    Displaces k (get >>= f : Reader β) (get >>= f' : Reader β) :=
  fun r _ _ h => hf r h

/-- A step may look at what is left. -/
theorem rest {f f' : List Char → Reader β} (hf : ∀ text, Displaces k (f text) (f' text)) :
    Displaces k (rest >>= f) (rest >>= f') :=
  fun r _ _ h => hf r.rest h

/-- A step may look at the flags. -/
theorem flags {f f' : ReadFlags → Reader β} (hf : ∀ flags, Displaces k (f flags) (f' flags)) :
    Displaces k (flags >>= f) (flags >>= f') :=
  fun r _ _ h => hf r.flags h

/-- Going on is the same at another place. -/
theorem advance (n : Nat) : Displaces k (advance n) (advance n) := by
  intro r u r' h
  obtain rfl := run_advance_eq_ok.mp h
  exact run_advance_eq_ok.mpr (r.behind_displaced n k)

/-- Changes that leave the place alone are the same at another place. -/
theorem modify {g : Reading → Reading} (hg : ∀ r, g (r.displaced k) = (g r).displaced k) :
    Displaces k (modify g : Reader Unit) (modify g) := by
  intro r u r' h
  cases h
  exact congrArg (fun r => Except.ok ((), r)) (hg r)

end Displaces

/-- Blanks and comments are the same at another place. -/
theorem space_displaces : Displaces k space space := by
  refine .get fun r => ?_
  dsimp only [Reading.displaced]
  split
  · exact .advance _
  · exact .stop

/-- A reference back by number is the same at another place of a longer pattern. -/
theorem numberedReference_displaces : Displaces k numberedReference numberedReference := by
  refine .get fun r => ?_
  dsimp only [Reading.displaced]
  split
  · split
    · rename_i hsmall
      rw [if_pos (Nat.lt_of_lt_of_le hsmall (Nat.div_le_div_right (Nat.le_add_right _ _)))]
      exact (Displaces.advance _).bind fun _ => .bind (.modify fun _ => rfl) fun _ => .pure _
    · exact .stopHere
  · exact .stopHere

/-- A reference back by name is the same at another place. -/
theorem namedReference_displaces (opening closing : List Char) :
    Displaces k (namedReference opening closing) (namedReference opening closing) := by
  refine .get fun r => ?_
  dsimp only [Reading.displaced]
  split
  · exact .stopHere
  · split
    · exact .stopHere
    · exact (Displaces.advance _).bind fun _ => .bind (.modify fun _ => rfl) fun _ => .pure _

/-- The digits of a hexadecimal escape are the same at another place. -/
theorem hexCharacter_displaces (digits : Nat) :
    Displaces k (hexCharacter digits) (hexCharacter digits) := by
  refine .rest fun text => ?_
  extract_lets fixed finish
  have hfinish : ∀ found, Displaces k (finish found) (finish found) := by
    intro found
    dsimp only [finish]
    split
    · exact (Displaces.advance _).bind fun _ => .pure _
    · exact .stopHere
  split
  · exact (Displaces.pure _).bind hfinish
  · split
    · extract_lets run
      split
      · split
        · exact (Displaces.pure _).bind hfinish
        · exact Displaces.stopHere.bind hfinish
      · exact Displaces.stopHere.bind hfinish
    · exact Displaces.stopHere.bind hfinish

/-- The text that names a property is the same at another place. -/
theorem propertyText_displaces (start start' : Nat) :
    Displaces k (propertyText start) (propertyText start') := by
  refine .rest fun text => ?_
  split
  · split
    · exact (Displaces.advance _).bind fun _ => .pure _
    · exact .stop
  · exact (Displaces.advance _).bind fun _ => .pure _
  · exact .pure _

/-- An escape is the same at another place. -/
theorem escape_displaces (inClass : Bool) : Displaces k (escape inClass) (escape inClass) := by
  refine .get fun r => .rest fun text => ?_
  split
  · exact .stopHere
  split
  · exact (Displaces.advance _).bind fun _ => numberedReference_displaces.map _
  split
  · refine (Displaces.advance _).bind fun _ => ?_
    split <;> exact (namedReference_displaces _ _).map _
  split
  · exact (Displaces.advance _).bind fun _ => .pure _
  · exact (Displaces.advance _).bind fun _ => .pure _
  split
  · exact (Displaces.advance _).bind fun _ => (hexCharacter_displaces _).map _
  split
  · exact (Displaces.advance _).bind fun _ => (hexCharacter_displaces _).map _
  split
  · exact (Displaces.advance _).bind fun _ => (hexCharacter_displaces _).map _
  split
  · exact (Displaces.advance _).bind fun _ => (propertyText_displaces _ _).map _
  split
  · exact (Displaces.advance _).bind fun _ => .pure _
  split
  · exact .stopHere
  · exact (Displaces.advance _).bind fun _ => .pure _

/-- The atoms of an escape are the same at another place. -/
theorem classAtoms_displaces (start start' : Nat) (e : Escape) :
    Displaces k (classAtoms start e) (classAtoms start' e) := by
  unfold classAtoms
  split
  · exact .pure _
  · exact .pure _
  · exact .pure _
  · exact .stop

/-- What stands between brackets is the same at another place. -/
theorem bracketAtoms_displaces (fuel depth : Nat) :
    Displaces k (bracketAtoms fuel depth) (bracketAtoms fuel depth) := by
  induction fuel generalizing depth with
  | zero => exact .stopHere
  | succ fuel ih =>
    refine .rest fun text => ?_
    split
    · exact .stopHere
    · exact .get fun _ => (escape_displaces _).bind fun _ => (classAtoms_displaces _ _ _).bind
        fun _ => (ih _).map _
    · exact (Displaces.advance _).bind fun _ => (ih _).map _
    · refine (Displaces.advance _).bind fun _ => ?_
      split
      · exact .pure _
      · exact (ih _).map _
    · exact (Displaces.advance _).bind fun _ => (ih _).map _

/-- A class is the same at another place. -/
theorem bracket_displaces : Displaces k bracket bracket := by
  refine (Displaces.advance _).bind fun _ => .rest fun _ => ?_
  extract_lets behindCaret
  have hcaret : ∀ caret, Displaces k (behindCaret caret) (behindCaret caret) := by
    intro caret
    refine .rest fun _ => ?_
    extract_lets behindFirst
    have hfirst : ∀ first, Displaces k (behindFirst first) (behindFirst first) := fun first =>
      .rest fun _ => (bracketAtoms_displaces _ _).bind fun _ => .flags fun _ => .pure _
    split
    · exact (Displaces.advance _).bind fun _ => (Displaces.pure _).bind hfirst
    · exact (Displaces.pure _).bind hfirst
  split
  · exact (Displaces.advance _).bind fun _ => (Displaces.pure _).bind hcaret
  · exact (Displaces.pure _).bind hcaret

variable {group inside : Reader Expr}

/-- An item is the same at another place. -/
theorem atom_displaces (hgroup : Displaces k group group) :
    Displaces k (atom group) (atom group) := by
  refine space_displaces.bind fun _ => .flags fun f => .rest fun text => ?_
  split
  · exact .pure _
  · exact (Displaces.advance _).bind fun _ => .pure _
  · exact (Displaces.advance _).bind fun _ => .pure _
  · exact (Displaces.advance _).bind fun _ => .pure _
  · exact hgroup
  · refine (escape_displaces _).bind fun e => ?_
    split <;> exact .pure _
  · exact bracket_displaces
  · split
    · exact .pure _
    · exact (Displaces.advance _).bind fun _ => .pure _

/-- The bounds of a quantifier are the same at another place. -/
theorem bounds_displaces : Displaces k bounds bounds := by
  refine .get fun r => ?_
  dsimp only [Reading.displaced]
  split
  · exact .pure _
  · exact .pure _
  · exact .pure _
  · split
    · exact (Displaces.advance _).bind fun _ => .pure _
    · exact .pure _
  · exact .pure _

/-- An item with its quantifier is the same at another place. -/
theorem piece_displaces (hgroup : Displaces k group group) :
    Displaces k (piece group) (piece group) := by
  refine (atom_displaces hgroup).bind fun item => space_displaces.bind fun _ =>
    bounds_displaces.bind fun b => ?_
  split
  · exact .pure _
  · split
    · exact .stopHere
    · refine (Displaces.advance _).bind fun _ => space_displaces.bind fun _ => .rest fun _ => ?_
      extract_lets behindMark
      have hmark : ∀ lazyMark, Displaces k (behindMark lazyMark) (behindMark lazyMark) := by
        intro lazyMark
        refine .flags fun _ => .rest fun _ => ?_
        split
        · exact (Displaces.advance _).bind fun _ => .pure _
        · exact .pure _
      split
      · exact (Displaces.advance _).bind fun _ => (Displaces.pure _).bind hmark
      · exact (Displaces.pure _).bind hmark

/-- Items behind each other are the same at another place. -/
theorem pieces_displaces (hgroup : Displaces k group group) (fuel : Nat) :
    Displaces k (pieces group fuel) (pieces group fuel) := by
  induction fuel with
  | zero => exact .pure _
  | succ fuel ih =>
    refine .rest fun text => ?_
    extract_lets before
    split
    · exact .pure _
    · refine (piece_displaces hgroup).bind fun item => .rest fun text => ?_
      split
      · exact .pure _
      · exact ih.map _

/-- An alternative is the same at another place. -/
theorem branch_displaces (hgroup : Displaces k group group) :
    Displaces k (branch group) (branch group) :=
  .rest fun _ => (pieces_displaces hgroup _).map _

/-- Further alternatives are the same at another place. -/
theorem moreBranches_displaces (hgroup : Displaces k group group) (fuel : Nat) :
    Displaces k (moreBranches group fuel) (moreBranches group fuel) := by
  induction fuel with
  | zero => exact .pure _
  | succ fuel ih =>
    refine .rest fun text => ?_
    split
    · exact (Displaces.advance _).bind fun _ => (branch_displaces hgroup).bind fun _ =>
        space_displaces.bind fun _ => ih.map _
    · exact .pure _

/-- Alternatives are the same at another place. -/
theorem expression_displaces (hgroup : Displaces k group group) :
    Displaces k (expression group) (expression group) := by
  refine (branch_displaces hgroup).bind fun option => space_displaces.bind fun _ => .rest fun _ =>
    (moreBranches_displaces hgroup _).bind fun more => ?_
  split
  · refine .get fun r => ?_
    dsimp only [Reading.displaced]
    split
    · exact .throw
    · exact .pure _
  · exact .pure _

/-- The parenthesis that closes a group is the same at another place. -/
theorem closing_displaces : Displaces k closing closing := by
  refine space_displaces.bind fun _ => .rest fun text => ?_
  split
  · exact .stopHere
  · exact .advance _
  · exact .stopHere

/-- The number of the next group is the same at another place. -/
theorem openNumber_displaces : Displaces k openNumber openNumber :=
  .get fun _ => .bind (.modify fun _ => rfl) fun _ => .pure _

/-- A group with a name is the same at another place. -/
theorem namedGroup_displaces (skip : Nat) (hinside : Displaces k inside inside) :
    Displaces k (namedGroup skip inside) (namedGroup skip inside) := by
  refine openNumber_displaces.bind fun n => .rest fun text => ?_
  split
  · exact .stopHere
  · exact .bind (.modify fun _ => rfl) fun _ => (Displaces.advance _).bind fun _ =>
      hinside.bind fun _ => closing_displaces.bind fun _ => .pure _

/-- A lookaround or an atomic group is the same at another place. -/
theorem markedGroup_displaces (skip : Nat) (wrap : Expr → Expr)
    (hinside : Displaces k inside inside) :
    Displaces k (markedGroup skip wrap inside) (markedGroup skip wrap inside) :=
  (Displaces.advance _).bind fun _ => hinside.bind fun _ => closing_displaces.bind fun _ => .pure _

/-- A group with flags is the same at another place. -/
theorem flagGroup_displaces (start start' : Nat) (written : List Char) (outer : ReadFlags)
    (hinside : Displaces k inside inside) (negated : Bool) (fuel : Nat) :
    Displaces k (flagGroup start written outer inside negated fuel)
      (flagGroup start' written outer inside negated fuel) := by
  induction fuel generalizing negated with
  | zero => exact .stopHere
  | succ fuel ih =>
    refine space_displaces.bind fun _ => .get fun r => ?_
    dsimp only [Reading.displaced]
    split
    · exact .stopHere
    · split
      · exact .stop
      · exact (Displaces.advance _).bind fun _ => .pure _
    · split
      · exact .stop
      · refine (Displaces.advance _).bind fun _ => hinside.bind fun _ => .rest fun _ => ?_
        split
        · exact .stopHere
        · exact (Displaces.advance _).bind fun _ => .bind (.modify fun _ => rfl) fun _ => .pure _
    · split
      · exact .stop
      · exact (Displaces.advance _).bind fun _ => ih _
    · split
      · exact .stopHere
      · exact (Displaces.advance _).bind fun _ => ih _
    · split
      · exact .stop
      · exact .bind (.modify fun _ => rfl) fun _ => (Displaces.advance _).bind fun _ => ih _

/-- The condition that is a reference is the same at another place. -/
theorem conditionReference_displaces : Displaces k conditionReference conditionReference := by
  refine .rest fun text => ?_
  split
  · exact (namedReference_displaces _ _).map _
  · exact (namedReference_displaces _ _).map _
  · split
    · exact numberedReference_displaces.map _
    · exact .pure _
  · exact .stopHere

/-- A conditional is the same at another place. -/
theorem conditional_displaces (hinside : Displaces k inside inside) :
    Displaces k (conditional inside) (conditional inside) := by
  refine conditionReference_displaces.bind fun reference => ?_
  extract_lets behindCondition
  have hbehind : ∀ written, Displaces k (behindCondition written) (behindCondition written) := by
    intro written
    refine closing_displaces.bind fun _ => .rest fun _ => hinside.bind fun content => .rest fun _ => ?_
    split
    · split
      · exact closing_displaces.bind fun _ => .pure _
      · exact .stopHere
    · exact closing_displaces.bind fun _ => .pure _
  split
  · exact (Displaces.pure _).bind hbehind
  · exact hinside.bind hbehind

/-- A group is the same at another place. -/
theorem groupOf_displaces (hinside : Displaces k inside inside) :
    Displaces k (groupOf inside) (groupOf inside) := by
  refine (Displaces.advance _).bind fun _ => space_displaces.bind fun _ => .rest fun _ => ?_
  split
  · exact markedGroup_displaces _ _ hinside
  · exact markedGroup_displaces _ _ hinside
  · exact markedGroup_displaces _ _ hinside
  · exact markedGroup_displaces _ _ hinside
  · exact namedGroup_displaces _ hinside
  · exact namedGroup_displaces _ hinside
  · exact (Displaces.advance _).bind fun _ => (namedReference_displaces _ _).map _
  · exact markedGroup_displaces _ _ hinside
  · exact (Displaces.advance _).bind fun _ => conditional_displaces hinside
  · exact (Displaces.advance _).bind fun _ => .get fun r => flagGroup_displaces _ _ _ _ hinside _ _
  · exact openNumber_displaces.bind fun _ => hinside.bind fun _ => closing_displaces.bind fun _ =>
      .pure _

/-- A group at any depth is the same at another place. -/
theorem group_displaces (levels : Nat) :
    Displaces k (Reader.group levels) (Reader.group levels) := by
  induction levels with
  | zero => exact .stopHere
  | succ levels ih => exact groupOf_displaces (expression_displaces ih)

/-- A whole pattern is the same at another place. -/
theorem pattern_displaces : Displaces k pattern pattern := by
  refine (expression_displaces (group_displaces _)).bind fun e => .rest fun _ => ?_
  split
  · exact .pure _
  · exact .stopHere

end Reader

end Railroad.Regex
