import Railroad.Node.Descent
import Railroad.Proofs.Grammar

/-!
# Both ways of building the tree agree

The descent calls a reader for each rule of the grammar, while the run keeps a stack of open groups. A
reader that begins where the run has come to stops at a later token, with a tree that the run has by then
made an item of its innermost level; or it fails, and then the run fails with the same error. So both
have one outcome for every list of tokens. The descent is never astray, and it always ends.
-/

namespace Railroad.Node

namespace Progress

/-- What comes of the tokens that are left. -/
def outcome (progress : Progress) (tokens : List Token) : Except ParseError Node :=
  (progress.run tokens).bind finish

/-- A token that can be read leaves the outcome to the tokens behind it. -/
theorem outcome_of_step {progress next : Progress} {token : Token} (tokens : List Token)
    (h : Step progress token next) : progress.outcome (token :: tokens) = next.outcome tokens := by
  unfold outcome
  rw [run, step_eq_ok_iff.mpr h]

/-- A token that has no place decides the outcome. -/
theorem outcome_of_step_error {progress : Progress} {token : Token} {e : ParseError}
    (tokens : List Token) (h : progress.step token = .error e) :
    progress.outcome (token :: tokens) = .error e := by
  unfold outcome
  rw [run, h]
  rfl

/-- The terminal for a token is a matter of the known names alone. -/
theorem terminal?_eq_of_names {progress other : Progress} (h : progress.names = other.names)
    (token : Token) : progress.terminal? token = other.terminal? token := by
  unfold terminal?
  rw [h]

end Progress

/-- The tree of a list of tokens is the outcome from the start. -/
theorem ofTokens_eq_outcome (tokens : List Token) :
    ofTokens tokens = Progress.start.outcome tokens := by
  unfold ofTokens Progress.outcome
  cases Progress.start.run tokens <;> rfl

/-- The views answer every question about the tokens as the run does. -/
structure Views.Agrees (views : Views) (tokens : List Token) : Prop where
  /-- A token of a terminal kind has its terminal. -/
  terminal_eq : ∀ token ∈ tokens, token.kind.isTerminal = true → ∀ progress : Progress,
    views.terminal progress.names token = progress.terminal? token
  /-- An opener has its kind of group. -/
  kind_eq : ∀ token ∈ tokens, ∀ opener, token.kind = .groupOpen opener →
    views.kind opener token = some (Progress.kindOf opener token)

/-- Fewer tokens have fewer questions. -/
theorem Views.Agrees.of_suffix {views : Views} {tokens later : List Token}
    (h : views.Agrees tokens) (hlater : later <:+ tokens) : views.Agrees later where
  terminal_eq token hmem := h.terminal_eq token (hlater.subset hmem)
  kind_eq token hmem := h.kind_eq token (hlater.subset hmem)

namespace Cursor

/-- The progress of a run that has come as far as the cursor. -/
def progress (cursor : Cursor) (level : Level) (groups : List OpenGroup) : Progress :=
  ⟨level, groups, cursor.next, cursor.names⟩

/-- What comes of the tokens that are left. -/
def outcome (cursor : Cursor) (level : Level) (groups : List OpenGroup) : Except ParseError Node :=
  (cursor.progress level groups).outcome cursor.rest

/-- The run gets from one cursor to the other, and from one level to the other. -/
structure Leads (groups : List OpenGroup) (level last : Level) (cursor next : Cursor) : Prop where
  /-- The second cursor is behind the first. -/
  suffix : next.rest <:+ cursor.rest
  /-- Both have one outcome. -/
  outcome_eq : cursor.outcome level groups = next.outcome last groups

/-- The run stays where it is. -/
theorem Leads.refl (groups : List OpenGroup) (level : Level) (cursor : Cursor) :
    Leads groups level level cursor cursor :=
  ⟨List.suffix_refl _, rfl⟩

/-- One way behind another. -/
theorem Leads.trans {groups : List OpenGroup} {level middle last : Level} {cursor next end' : Cursor}
    (h : Leads groups level middle cursor next) (hnext : Leads groups middle last next end') :
    Leads groups level last cursor end' :=
  ⟨hnext.suffix.trans h.suffix, h.outcome_eq.trans hnext.outcome_eq⟩

/-- No quantifier follows. -/
def BehindItem (cursor : Cursor) : Prop :=
  ∀ token ∈ cursor.rest.head?, ∀ q, token.kind ≠ .quantifier q

/-- Otherwise a quantifier follows. -/
theorem exists_quantifier {rest : List Token} {next : Nat} {names : List (String × Nat)}
    (h : ¬ BehindItem ⟨rest, next, names⟩) :
    ∃ token tail q, rest = token :: tail ∧ token.kind = .quantifier q := by
  simp only [BehindItem, Classical.not_forall, Classical.not_not] at h
  obtain ⟨token, hmem, q, hkind⟩ := h
  obtain ⟨tail, rfl⟩ := List.head?_eq_some_iff.mp hmem
  exact ⟨token, tail, q, rfl, hkind⟩

/-- Nothing follows but a bar or a close. -/
def BehindSequence (cursor : Cursor) : Prop :=
  ∀ token ∈ cursor.rest.head?, token.kind = .groupClose ∨ token.kind = .alternation

/-- Nothing follows but a close. -/
def BehindAlternatives (cursor : Cursor) : Prop :=
  ∀ token ∈ cursor.rest.head?, token.kind = .groupClose

end Cursor

namespace Descent

/-- The reader has an outcome: a value with the cursor behind it, or an error. -/
def Reads {α : Type} (reader : Descent α) (cursor : Cursor) (good : α → Cursor → Prop)
    (bad : ParseError → Prop) : Prop :=
  (∃ a next, (reader.run cursor).run = some (.ok (a, next)) ∧ good a next) ∨
    ∃ e, (reader.run cursor).run = some (.error e) ∧ bad e

section Rules

variable {α β : Type} {cursor : Cursor} {good : α → Cursor → Prop} {bad : ParseError → Prop}

/-- A value that is at hand. -/
theorem Reads.pure {a : α} (h : good a cursor) : Reads (Pure.pure a) cursor good bad :=
  .inl ⟨a, cursor, rfl, h⟩

/-- An error that is at hand. -/
theorem Reads.throw {e : ParseError} (h : bad e) : Reads (MonadExcept.throw e) cursor good bad :=
  .inr ⟨e, rfl, h⟩

/-- What a reader makes of the tokens may be said in other words. -/
theorem Reads.mono {reader : Descent α} {other : α → Cursor → Prop} {bad' : ParseError → Prop}
    (h : Reads reader cursor good bad) (hgood : ∀ a next, good a next → other a next)
    (hbad : ∀ e, bad e → bad' e) : Reads reader cursor other bad' :=
  h.imp (fun ⟨a, next, hrun, ha⟩ => ⟨a, next, hrun, hgood a next ha⟩)
    fun ⟨e, hrun, he⟩ => ⟨e, hrun, hbad e he⟩

/-- One reader behind another. -/
theorem Reads.bind {reader : Descent β} {after : β → Descent α} {middle : β → Cursor → Prop}
    (h : Reads reader cursor middle bad)
    (hafter : ∀ b next, middle b next → Reads (after b) next good bad) :
    Reads (reader >>= after) cursor good bad := by
  obtain ⟨b, next, hrun, hmiddle⟩ | ⟨e, hrun, hbad⟩ := h
  · have heq : ((reader >>= after).run cursor).run = ((after b).run next).run := by
      rw [StateT.run_bind, ExceptT.run_bind, hrun]
      rfl
    obtain ⟨a, last, hlast, hgood⟩ | ⟨e, hlast, hbad⟩ := hafter b next hmiddle
    · exact .inl ⟨a, last, heq.trans hlast, hgood⟩
    · exact .inr ⟨e, heq.trans hlast, hbad⟩
  · refine .inr ⟨e, ?_, hbad⟩
    rw [StateT.run_bind, ExceptT.run_bind, hrun]
    rfl

/-- A reader behind one that has a known outcome. -/
theorem Reads.bind_of_run {reader : Descent β} {after : β → Descent α} {b : β} {next : Cursor}
    (hrun : (reader.run cursor).run = some (.ok (b, next))) (h : Reads (after b) next good bad) :
    Reads (reader >>= after) cursor good bad := by
  have hfirst : Reads reader cursor (fun a behind => a = b ∧ behind = next) bad :=
    .inl ⟨b, next, hrun, rfl, rfl⟩
  refine hfirst.bind ?_
  rintro _ _ ⟨rfl, rfl⟩
  exact h

end Rules

/-- The reader makes of the tokens in front of it what a reader of alternatives is to make of them. -/
def ReadsAlternatives (reader : Descent Node) (cursor : Cursor) : Prop :=
  ∀ groups, Reads reader cursor
    (fun node next => next.BehindAlternatives ∧
      ∃ level, level.node = node ∧ cursor.Leads groups .empty level next)
    (fun e => cursor.outcome .empty groups = .error e)

section Readers

variable {inside : Descent Node} {views : Views} {groups : List OpenGroup} {level : Level} {token : Token}
  {rest : List Token} {next : Nat} {names : List (String × Nat)}

/-- The reader has read some of the tokens, and the run has made its tree the latest item of the
innermost level. -/
def BecomesItem (groups : List OpenGroup) (level : Level) (start : Cursor) (repeated : Bool)
    (node : Node) (behind : Cursor) : Prop :=
  start.Leads groups level ⟨level.options, ⟨node, repeated⟩ :: level.items⟩ behind ∧
    behind.rest.length < start.rest.length

/-- A group is read as the run reads it: opener, alternatives, close. -/
theorem group_reads {opener : Opener} (hviews : views.Agrees (token :: rest))
    (hinside : ∀ cursor : Cursor, cursor.rest = rest → ReadsAlternatives inside cursor)
    (hkind : token.kind = .groupOpen opener) :
    Reads (group inside views opener token) ⟨rest, next, names⟩
      (BecomesItem groups level ⟨token :: rest, next, names⟩ false)
      (fun e => Cursor.outcome ⟨token :: rest, next, names⟩ level groups = .error e) := by
  let progress : Progress := ⟨level, groups, next, names⟩
  let g : OpenGroup := ⟨level, Progress.kindOf opener token, progress.number? opener⟩
  let opened := progress.openGroup opener token
  let start : Cursor := ⟨rest, opened.next, opened.names⟩
  have houtcome : Cursor.outcome ⟨token :: rest, next, names⟩ level groups =
      start.outcome .empty (g :: groups) := Progress.outcome_of_step rest (.opens hkind)
  have hnumber : ((takeNumber opener).run ⟨rest, next, names⟩).run =
      some (.ok (g.index, ⟨rest, opened.next, names⟩)) := by
    cases opener <;> rfl
  have hkindOf : ((ask (views.kind opener token)).run ⟨rest, opened.next, names⟩).run =
      some (.ok (g.kind, ⟨rest, opened.next, names⟩)) := by
    rw [hviews.kind_eq token List.mem_cons_self opener hkind]
    rfl
  have hname : ((declareName g.kind g.index).run ⟨rest, opened.next, names⟩).run =
      some (.ok ((), start)) := by
    cases opener <;> rfl
  rw [group]
  refine Reads.bind_of_run hnumber (Reads.bind_of_run hkindOf (Reads.bind_of_run hname ?_))
  have hread := hinside start rfl (g :: groups)
  refine Reads.bind (hread.mono (fun _ _ => id) fun e he => houtcome.trans he) ?_
  rintro content ⟨after, next, names⟩ ⟨hbehind, last, hnode, hleads⟩
  refine Reads.bind_of_run rfl ?_
  cases after with
  | nil =>
    refine Reads.throw ?_
    rw [houtcome, hleads.outcome_eq]
    rfl
  | cons close after =>
    have hclose : close.kind = .groupClose := hbehind close rfl
    have hsuffix : after <:+ rest := (List.suffix_cons close after).trans hleads.suffix
    simp only [List.head?_cons, hclose]
    refine Reads.bind_of_run rfl (Reads.pure ⟨⟨hsuffix.trans (List.suffix_cons token rest), ?_⟩, ?_⟩)
    · let closing : Progress := ⟨last, g :: groups, next, names⟩
      have hgroups : closing.groups = g :: groups := rfl
      have hstep := Progress.Step.closes hclose hgroups
      rw [houtcome, hleads.outcome_eq, ← hnode]
      exact Progress.outcome_of_step after hstep
    · exact Nat.lt_succ_of_le hsuffix.length_le

/-- A primary becomes an item that can still take a quantifier. -/
theorem primary_reads (hviews : views.Agrees (token :: rest))
    (hinside : ∀ cursor : Cursor, cursor.rest = rest → ReadsAlternatives inside cursor)
    (hclose : token.kind ≠ .groupClose) (hbar : token.kind ≠ .alternation)
    (hitems : ∀ q, token.kind = .quantifier q → level.items = []) :
    Reads (primary inside views) ⟨token :: rest, next, names⟩
      (BecomesItem groups level ⟨token :: rest, next, names⟩ false)
      (fun e => Cursor.outcome ⟨token :: rest, next, names⟩ level groups = .error e) := by
  have hstands : token.kind.isTerminal = true →
      Reads (do
        let t ← ask (views.terminal (← get).names token)
        return Node.terminal t) ⟨rest, next, names⟩
      (BecomesItem groups level ⟨token :: rest, next, names⟩ false)
      (fun e => Cursor.outcome ⟨token :: rest, next, names⟩ level groups = .error e) := by
    intro hterminal
    let progress : Progress := ⟨level, groups, next, names⟩
    obtain ⟨t, ht⟩ : ∃ t, progress.terminal? token = some t := by
      rwa [← Option.isSome_iff_exists, terminal?_isSome]
    have hask : ((ask (views.terminal names token)).run ⟨rest, next, names⟩).run =
        some (.ok (t, ⟨rest, next, names⟩)) := by
      rw [hviews.terminal_eq token List.mem_cons_self hterminal progress, ht]
      rfl
    refine Reads.bind_of_run rfl (Reads.bind_of_run hask (Reads.pure ⟨⟨?_, ?_⟩, Nat.lt_succ_self _⟩))
    · exact List.suffix_cons token rest
    · exact Progress.outcome_of_step rest (.stands ht)
  rw [primary]
  refine Reads.bind_of_run rfl (Reads.bind_of_run rfl ?_)
  cases hkind : token.kind with
  | groupOpen opener => exact group_reads hviews hinside hkind
  | quantifier q =>
    refine Reads.throw (Progress.outcome_of_step_error rest ?_)
    simp only [Progress.step, hkind, Cursor.progress, hitems q hkind]
  | groupClose => exact absurd hkind hclose
  | alternation => exact absurd hkind hbar
  | trivia =>
    refine Reads.throw (Progress.outcome_of_step_error rest ?_)
    simp only [Progress.step, Progress.terminal?, hkind]
  | _ => exact hstands (by rw [hkind]; rfl)

/-- What is read of an item: no quantifier follows that could still belong to it. -/
def ItemRead (groups : List OpenGroup) (level : Level) (start : Cursor) (node : Node)
    (behind : Cursor) : Prop :=
  behind.BehindItem ∧ ∃ repeated, BecomesItem groups level start repeated node behind

/-- An item is complete where no quantifier follows. -/
theorem unlessQuantifier_reads {node : Node} {start behind : Cursor} {repeated : Bool}
    {act : Token → Quantifier → Descent Node} {bad : ParseError → Prop}
    (hitem : BecomesItem groups level start repeated node behind)
    (hact : ∀ token tail q, behind.rest = token :: tail → token.kind = .quantifier q →
      Reads (act token q) behind (ItemRead groups level start) bad) :
    Reads (unlessQuantifier node act) behind (ItemRead groups level start) bad := by
  rw [unlessQuantifier]
  refine Reads.bind_of_run rfl ?_
  obtain ⟨rest, next, names⟩ := behind
  by_cases hbehind : Cursor.BehindItem ⟨rest, next, names⟩
  · have hread : Reads (Pure.pure node) ⟨rest, next, names⟩ (ItemRead groups level start) bad :=
      Reads.pure ⟨hbehind, repeated, hitem⟩
    cases rest with
    | nil => exact hread
    | cons token tail =>
      simp only [List.head?_cons]
      split
      · rename_i q hkind
        exact absurd hkind (hbehind token rfl q)
      · exact hread
  · obtain ⟨token, tail, q, rfl, hkind⟩ := Cursor.exists_quantifier hbehind
    simp only [List.head?_cons, hkind]
    exact hact token tail q rfl hkind

/-- An item is a primary, and the quantifier behind it takes the primary that has just been read. -/
theorem item_reads (hviews : views.Agrees (token :: rest))
    (hinside : ∀ cursor : Cursor, cursor.rest = rest → ReadsAlternatives inside cursor)
    (hclose : token.kind ≠ .groupClose) (hbar : token.kind ≠ .alternation)
    (hitems : ∀ q, token.kind = .quantifier q → level.items = []) :
    Reads (item inside views) ⟨token :: rest, next, names⟩
      (ItemRead groups level ⟨token :: rest, next, names⟩)
      (fun e => Cursor.outcome ⟨token :: rest, next, names⟩ level groups = .error e) := by
  let start : Cursor := ⟨token :: rest, next, names⟩
  rw [item]
  refine Reads.bind (primary_reads hviews hinside hclose hbar hitems) ?_
  intro content behind hprimary
  refine unlessQuantifier_reads hprimary ?_
  intro token tail q hrest hkind
  obtain ⟨rest, next, names⟩ := behind
  cases hrest
  obtain ⟨hleads, hlength⟩ := hprimary
  by_cases hwide : content.isZeroWidth = true
  · rw [if_pos hwide]
    refine Reads.throw (hleads.outcome_eq.trans (Progress.outcome_of_step_error tail ?_))
    simp only [Progress.step, hkind, Cursor.progress, hwide, if_true, Bool.false_eq_true, if_false]
  · rw [if_neg hwide]
    let progress : Progress := ⟨level.push content, groups, next, names⟩
    have hlatest : progress.level.items = ⟨content, false⟩ :: level.items := rfl
    have hstep := Progress.Step.repeats hkind hlatest rfl (Bool.eq_false_iff.mpr hwide)
    have htaken : BecomesItem groups level start true (quantify q content) ⟨tail, next, names⟩ :=
      ⟨⟨(List.suffix_cons token tail).trans hleads.suffix,
        hleads.outcome_eq.trans (Progress.outcome_of_step tail hstep)⟩,
        Nat.lt_trans (Nat.lt_succ_self _) hlength⟩
    refine Reads.bind_of_run rfl (unlessQuantifier_reads htaken ?_)
    intro second tail q hrest hsecond
    cases hrest
    refine Reads.throw (htaken.1.outcome_eq.trans (Progress.outcome_of_step_error tail ?_))
    simp only [Progress.step, hsecond, Cursor.progress, if_true]

/-- The items of an alternative are read to the next bar or close. Each of them takes a token, so the count
is not used up, and the alternatives inside its parentheses have fewer tokens. -/
theorem items_reads {n limit : Nat}
    (hinside : ∀ cursor : Cursor, cursor.rest.length < n → views.Agrees cursor.rest →
      ReadsAlternatives inside cursor)
    {cursor : Cursor} {parts : List Node} (hlength : cursor.rest.length ≤ n)
    (hlimit : cursor.rest.length < limit) (hviews : views.Agrees cursor.rest)
    (hparts : level.items.reverse.map (·.node) = parts)
    (hfresh : cursor.BehindItem ∨ level.items = []) :
    Reads (items inside views limit parts) cursor
      (fun node behind => behind.BehindSequence ∧ ∃ last, last.options = level.options ∧
        last.alternative = node ∧ cursor.Leads groups level last behind)
      (fun e => cursor.outcome level groups = .error e) := by
  induction limit generalizing cursor level parts with
  | zero => exact absurd hlimit (Nat.not_lt_zero _)
  | succ limit ih =>
    obtain ⟨rest, next, names⟩ := cursor
    have hend : Cursor.BehindSequence ⟨rest, next, names⟩ →
        Reads (Pure.pure (Node.ofParts parts)) ⟨rest, next, names⟩
          (fun node behind => behind.BehindSequence ∧ ∃ last, last.options = level.options ∧
            last.alternative = node ∧ Cursor.Leads groups level last ⟨rest, next, names⟩ behind)
          (fun e => Cursor.outcome ⟨rest, next, names⟩ level groups = .error e) := by
      intro hbehind
      refine Reads.pure ⟨hbehind, level, rfl, ?_, .refl groups level _⟩
      rw [Level.alternative, hparts]
    rw [items]
    refine Reads.bind_of_run rfl ?_
    cases rest with
    | nil => exact hend fun _ hmem => (nomatch hmem)
    | cons token rest =>
      simp only [List.head?_cons]
      by_cases hkind : token.kind = .groupClose ∨ token.kind = .alternation
      · have hdone := hend fun other hmem => by cases hmem; exact hkind
        obtain hkind | hkind := hkind <;> simpa only [hkind] using hdone
      · obtain ⟨hclose, hbar⟩ := not_or.mp hkind
        split
        · rename_i hkind
          exact absurd hkind hclose
        · rename_i hkind
          exact absurd hkind hbar
        · simp only [List.length_cons] at hlength hlimit
          have hitems : ∀ q, token.kind = .quantifier q → level.items = [] := fun q hq =>
            hfresh.resolve_left fun hbehind => hbehind token rfl q hq
          have hbelow : ∀ cursor : Cursor, cursor.rest = rest → ReadsAlternatives inside cursor := by
            rintro ⟨_, next, names⟩ rfl
            exact hinside _ hlength (hviews.of_suffix (List.suffix_cons token _))
          refine Reads.bind (item_reads hviews hbelow hclose hbar hitems) ?_
          rintro node behind ⟨hbehind, repeated, hleads, hshorter⟩
          simp only [List.length_cons] at hshorter
          have hnodes : (Item.mk node repeated :: level.items).reverse.map (·.node) = parts ++ [node] := by
            simp [hparts]
          have hmore := @ih ⟨level.options, _⟩ behind (parts ++ [node]) (by omega) (by omega)
            (hviews.of_suffix hleads.suffix) hnodes (.inl hbehind)
          refine hmore.mono ?_ fun e he => hleads.outcome_eq.trans he
          rintro whole last ⟨hend, final, hoptions, hwhole, hlast⟩
          exact ⟨hend, final, hoptions, hwhole, hleads.trans hlast⟩

/-- The alternatives behind the first one are read to the next close. -/
theorem moreOptions_reads {n limit : Nat}
    (hinside : ∀ cursor : Cursor, cursor.rest.length < n → views.Agrees cursor.rest →
      ReadsAlternatives inside cursor)
    {cursor : Cursor} {options : List Node} (hlength : cursor.rest.length ≤ n)
    (hlimit : cursor.rest.length < limit) (hviews : views.Agrees cursor.rest)
    (hoptions : (level.alternative :: level.options).reverse = options)
    (hbehind : cursor.BehindSequence) :
    Reads (moreOptions inside views limit options) cursor
      (fun node behind => behind.BehindAlternatives ∧ ∃ last, last.node = node ∧
        cursor.Leads groups level last behind)
      (fun e => cursor.outcome level groups = .error e) := by
  induction limit generalizing cursor level options with
  | zero => exact absurd hlimit (Nat.not_lt_zero _)
  | succ limit ih =>
    obtain ⟨rest, next, names⟩ := cursor
    have hend : Cursor.BehindAlternatives ⟨rest, next, names⟩ →
        Reads (Pure.pure (Node.ofOptions options)) ⟨rest, next, names⟩
          (fun node behind => behind.BehindAlternatives ∧ ∃ last, last.node = node ∧
            Cursor.Leads groups level last ⟨rest, next, names⟩ behind)
          (fun e => Cursor.outcome ⟨rest, next, names⟩ level groups = .error e) := by
      intro hclose
      refine Reads.pure ⟨hclose, level, ?_, .refl groups level _⟩
      rw [Level.node, hoptions]
    rw [moreOptions]
    refine Reads.bind_of_run rfl ?_
    cases rest with
    | nil => exact hend fun _ hmem => (nomatch hmem)
    | cons token rest =>
      simp only [List.length_cons] at hlength hlimit
      obtain hkind | hkind := hbehind token rfl
      · have hdone := hend fun other hmem => by cases hmem; exact hkind
        simpa only [List.head?_cons, hkind] using hdone
      · let start : Cursor := ⟨token :: rest, next, names⟩
        have hbar : start.Leads groups level level.behindBar ⟨rest, next, names⟩ :=
          ⟨List.suffix_cons token rest, Progress.outcome_of_step rest (.splits hkind)⟩
        have hrest := hviews.of_suffix hbar.suffix
        have hitems := @items_reads inside views groups level.behindBar n limit hinside
          ⟨rest, next, names⟩ [] (Nat.le_of_succ_le hlength) (Nat.lt_of_succ_lt_succ hlimit) hrest rfl
          (.inr rfl)
        simp only [List.head?_cons, hkind]
        refine Reads.bind_of_run rfl (Reads.bind
          (hitems.mono (fun _ _ => id) fun e he => hbar.outcome_eq.trans he) ?_)
        rintro option behind ⟨hsequence, last, hlast, halternative, hleads⟩
        have hshorter : behind.rest.length ≤ rest.length := hleads.suffix.length_le
        have hread : (last.alternative :: last.options).reverse = options ++ [option] := by
          simp [hlast, halternative, ← hoptions, Level.behindBar]
        have hmore := ih (by omega) (by omega) (hrest.of_suffix hleads.suffix) hread hsequence
        refine hmore.mono ?_ fun e he => (hbar.trans hleads).outcome_eq.trans he
        rintro whole final ⟨hclose, inner, hnode, hfinal⟩
        exact ⟨hclose, inner, hnode, (hbar.trans hleads).trans hfinal⟩

/-- Alternatives are read to the next close that belongs to none of the groups in them. -/
theorem alternatives_reads {limit : Nat} (cursor : Cursor) (hlimit : cursor.rest.length < limit)
    (hviews : views.Agrees cursor.rest) : ReadsAlternatives (alternatives views limit) cursor := by
  induction limit generalizing cursor with
  | zero => exact absurd hlimit (Nat.not_lt_zero _)
  | succ limit ih =>
    intro groups
    have hinside : ∀ inner : Cursor, inner.rest.length < cursor.rest.length →
        views.Agrees inner.rest → ReadsAlternatives (alternatives views limit) inner :=
      fun inner hlt hinner => ih inner (Nat.lt_of_lt_of_le hlt (Nat.le_of_lt_succ hlimit)) hinner
    rw [alternatives]
    refine Reads.bind (items_reads hinside (Nat.le_refl _) hlimit hviews rfl (.inr rfl)) ?_
    rintro first behind ⟨hbehind, last, hlast, halternative, hleads⟩
    have hshorter := hleads.suffix.length_le
    have hread : (last.alternative :: last.options).reverse = [first] := by
      simp [hlast, halternative, Level.empty]
    have hmore := @moreOptions_reads _ views groups last _ _ hinside behind [first] hshorter
      (Nat.lt_of_le_of_lt hshorter hlimit) (hviews.of_suffix hleads.suffix) hread hbehind
    refine hmore.mono ?_ fun e he => hleads.outcome_eq.trans he
    rintro node final ⟨hclose, level, hnode, hfinal⟩
    exact ⟨hclose, level, hnode, hleads.trans hfinal⟩

/-- A tree that takes all tokens is what comes of them. -/
theorem whole_reads (tokens : List Token) (hviews : views.Agrees tokens) :
    Reads (whole views (tokens.length + 1)) ⟨tokens, 1, []⟩ (fun node _ => ofTokens tokens = .ok node)
      (fun e => ofTokens tokens = .error e) := by
  let start : Cursor := ⟨tokens, 1, []⟩
  have houtcome : ofTokens tokens = start.outcome .empty [] := ofTokens_eq_outcome tokens
  rw [whole]
  refine Reads.bind ((alternatives_reads start (Nat.lt_succ_self _) hviews []).mono (fun _ _ => id)
    fun e he => houtcome.trans he) ?_
  rintro node ⟨rest, next, names⟩ ⟨hbehind, level, hnode, hleads⟩
  refine Reads.bind_of_run rfl ?_
  cases rest with
  | nil =>
    refine Reads.pure ?_
    rw [houtcome, hleads.outcome_eq, ← hnode]
    rfl
  | cons token rest =>
    have hclose : token.kind = .groupClose := hbehind token rfl
    refine Reads.throw ((houtcome.trans hleads.outcome_eq).trans
      (Progress.outcome_of_step_error rest ?_))
    simp only [Progress.step, hclose, Cursor.progress]

end Readers

end Descent

/-- The descent has an outcome for every list of tokens about which the views know what the run knows,
and it is that of the run. It never asks what to answer where a primary is to begin with a bar, a close
or the end of the tokens. -/
theorem descend_eq_ofTokens {views : Views} {tokens : List Token} (hviews : views.Agrees tokens) :
    descend views tokens = some (ofTokens tokens) := by
  have hrun : descend views tokens =
      (((Descent.whole views (tokens.length + 1)).run ⟨tokens, 1, []⟩).run).map (Except.map Prod.fst) := by
    unfold descend
    rw [StateT.run'_eq, ExceptT.run_map]
    rfl
  obtain ⟨node, next, hok, hnode⟩ | ⟨e, herror, he⟩ := Descent.whole_reads tokens hviews
  · rw [hrun, hok, hnode]
    rfl
  · rw [hrun, herror, he]
    rfl

end Railroad.Node
