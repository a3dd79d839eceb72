import Railroad.Proofs.Reading

/-!
# The grammar of token lists

The lists of tokens that have a tree are those that a small grammar derives. In one direction every run
leaves behind derivations of what it has read, one for each open level. In the other a derivation drives
the run from any progress whatsoever, and leaves the open groups as they were. Which primaries are
zero-width, and so take no quantifier, is read off the kinds, texts and openers of the tokens.
-/

namespace Railroad

/-- The kinds of tokens that stand for themselves: all but the ends of groups, bars, quantifiers and
trivia. -/
def Token.Kind.isTerminal : Token.Kind → Bool
  | .groupOpen _ | .groupClose | .alternation | .quantifier _ | .trivia => false
  | _ => true

/-- The kinds of tokens that are looked up by their text. -/
def Token.Kind.isLookedUp : Token.Kind → Bool
  | .charClass | .anchor | .controlChar | .complex => true
  | _ => false

/-- The texts of the positions among the tokens that are looked up. -/
def Token.positionTexts : List String := ["^", "$", "\\b", "\\B", "\\A", "\\z", "\\Z", "\\G", "\\<", "\\>"]

/-- Whether groups of the opener look at the text around a position. -/
def Opener.looksAround : Opener → Bool
  | lookAhead | negativeLookAhead | lookBehind | negativeLookBehind => true
  | _ => false

/-- Whether the terminal that is built for a token is a position. -/
def Token.isPosition (token : Token) : Bool :=
  (Node.Progress.start.terminal? token).any fun t => (Node.terminal t).isZeroWidth

namespace Node

/-- What a list of tokens can be derived as. -/
inductive Category where
  /-- Sequences with bars between them. -/
  | alternatives
  /-- Any number of items. -/
  | sequence
  /-- A primary with at most one quantifier. -/
  | item
  /-- A terminal or a group, and whether its tree is zero-width. -/
  | primary (zeroWidth : Bool)

/-- The grammar. -/
inductive Derives : Category → List Token → Prop
  /-- A sequence alone. -/
  | single {tokens : List Token} (only : Derives .sequence tokens) : Derives .alternatives tokens
  /-- One more sequence behind a bar. -/
  | split {before after : List Token} {bar : Token} (front : Derives .alternatives before)
      (kind_eq : bar.kind = .alternation) (last : Derives .sequence after) :
      Derives .alternatives (before ++ bar :: after)
  /-- No items. -/
  | empty : Derives .sequence []
  /-- One more item. -/
  | append {before after : List Token} (front : Derives .sequence before)
      (last : Derives .item after) : Derives .sequence (before ++ after)
  /-- A primary without a quantifier. -/
  | bare {tokens : List Token} {zeroWidth : Bool} (content : Derives (.primary zeroWidth) tokens) :
      Derives .item tokens
  /-- A primary with a quantifier, which must not be zero-width. -/
  | repeated {tokens : List Token} {token : Token} {q : Quantifier}
      (content : Derives (.primary false) tokens) (kind_eq : token.kind = .quantifier q) :
      Derives .item (tokens ++ [token])
  /-- A terminal. -/
  | terminal {token : Token} (kind_eq : token.kind.isTerminal = true) :
      Derives (.primary token.isPosition) [token]
  /-- Alternatives in parentheses. -/
  | group {first last : Token} {opener : Opener} {tokens : List Token}
      (first_kind : first.kind = .groupOpen opener) (content : Derives .alternatives tokens)
      (last_kind : last.kind = .groupClose) :
      Derives (.primary (Progress.kindOf opener first).isLookaround) (first :: (tokens ++ [last]))

/-- A text that is looked up is a position exactly if it is one of ten. What stands in for a text that the table does
not have is none. -/
theorem isZeroWidth_known?_getD (raw : String) {other : Terminal}
    (hother : (Node.terminal other).isZeroWidth = false) :
    (Node.terminal ((Terminal.known? raw).getD other)).isZeroWidth = Token.positionTexts.contains raw := by
  have htable : ∀ row ∈ Terminal.knownTable,
      (Node.terminal ((Terminal.known? row.1).getD (Terminal.literal row.1))).isZeroWidth =
        Token.positionTexts.contains row.1 := by decide
  have htexts : ∀ text ∈ Token.positionTexts, (Terminal.known? text).isSome = true := by decide
  cases hknown : Terminal.known? raw with
  | none =>
    rw [Option.getD_none, hother, eq_comm, Bool.eq_false_iff, ne_eq, List.contains_iff_mem]
    intro hmem
    have hsome := htexts raw hmem
    rw [hknown] at hsome
    cases hsome
  | some t =>
    obtain ⟨entry, hlookup, rfl⟩ := Option.map_eq_some_iff.mp hknown
    have hrow := Terminal.of_lookup htable hlookup
    rwa [hknown] at hrow

/-- A token is a position exactly if it switches flags, or is looked up and has one of ten texts. -/
theorem isPosition_eq (token : Token) :
    token.isPosition = (token.kind == .inlineFlags ||
      (token.kind.isLookedUp && Token.positionTexts.contains token.raw)) := by
  unfold Token.isPosition Progress.terminal?
  cases token.kind with
  | charClass => exact isZeroWidth_known?_getD token.raw rfl
  | anchor => exact isZeroWidth_known?_getD token.raw rfl
  | controlChar => exact isZeroWidth_known?_getD token.raw rfl
  | complex => exact isZeroWidth_known?_getD token.raw rfl
  | unicodeProperty negated =>
    rw [Option.any_some, isZeroWidth, Terminal.unicodeProperty_kind]
    rfl
  | bracket =>
    rw [Option.any_some, isZeroWidth, Terminal.bracket_kind]
    rfl
  | escape =>
    obtain ⟨value, hkind⟩ := Terminal.escapedLiteral_kind token.raw
    rw [Option.any_some, isZeroWidth, hkind]
    rfl
  | backreference | namedBackreference | quantifier | groupOpen | groupClose | alternation | inlineFlags | trivia
  | literal => rfl

/-- A group looks around exactly if its opener does. -/
theorem isLookaround_kindOf (opener : Opener) (token : Token) :
    (Progress.kindOf opener token).isLookaround = opener.looksAround := by
  cases opener <;> rfl

/-- The primaries that no quantifier may follow are the switches of flags, the positions that are looked up, and
the groups of the four openers that look around. -/
theorem derives_zeroWidth_iff (tokens : List Token) :
    Derives (.primary true) tokens ↔
      (∃ token, tokens = [token] ∧ (token.kind = .inlineFlags ∨
        token.kind.isLookedUp = true ∧ token.raw ∈ Token.positionTexts)) ∨
      ∃ first last opener inner, tokens = first :: (inner ++ [last]) ∧ first.kind = .groupOpen opener ∧
        opener.looksAround = true ∧ Derives .alternatives inner ∧ last.kind = .groupClose := by
  have hposition : ∀ token : Token, token.isPosition = true ↔ token.kind = .inlineFlags ∨
      token.kind.isLookedUp = true ∧ token.raw ∈ Token.positionTexts := by
    intro token
    rw [isPosition_eq, Bool.or_eq_true, Bool.and_eq_true, beq_iff_eq, List.contains_iff_mem]
  constructor
  · intro h
    generalize hcategory : Category.primary true = category at h
    cases h with
    | @terminal token _ =>
      exact .inl ⟨token, rfl, (hposition token).mp (Category.primary.inj hcategory).symm⟩
    | @group first last opener inner hfirst hinner hlast =>
      have hlooks := (isLookaround_kindOf opener first).symm.trans (Category.primary.inj hcategory).symm
      exact .inr ⟨first, last, opener, inner, rfl, hfirst, hlooks, hinner, hlast⟩
    | _ => cases hcategory
  · rintro (⟨token, rfl, hkind⟩ | ⟨first, last, opener, inner, rfl, hfirst, hlooks, hinner, hlast⟩)
    · have hterminal : token.kind.isTerminal = true := by
        rcases hkind with hflags | ⟨hlooked, -⟩
        · rw [hflags]
          rfl
        · revert hlooked
          cases token.kind <;> simp [Token.Kind.isLookedUp, Token.Kind.isTerminal]
      exact (hposition token).mpr hkind ▸ Derives.terminal hterminal
    · exact (isLookaround_kindOf opener first).trans hlooks ▸ Derives.group hfirst hinner hlast

/-- The tokens that are read as terminals are those of a terminal kind. -/
theorem terminal?_isSome (progress : Progress) (token : Token) :
    (progress.terminal? token).isSome = token.kind.isTerminal := by
  unfold Progress.terminal?
  cases token.kind <;> rfl

/-- A reference by name is no position, whether or not a group has the name. -/
theorem namedBackreference_isZeroWidth (raw name : String) (number : Option Nat) :
    (Node.terminal (Terminal.namedBackreference raw name number)).isZeroWidth = false := by
  cases number <;> rfl

/-- The names that are known where a token is read do not make it a position. -/
theorem isZeroWidth_of_terminal? {progress : Progress} {token : Token} {t : Terminal}
    (h : progress.terminal? token = some t) : (Node.terminal t).isZeroWidth = token.isPosition := by
  have hnames : token.isPosition =
      (progress.terminal? token).any fun t => (Node.terminal t).isZeroWidth := by
    unfold Token.isPosition Progress.terminal?
    cases token.kind with
    | namedBackreference =>
      simp only [Option.any_some, namedBackreference_isZeroWidth]
    | _ => rfl
  rw [hnames, h, Option.any_some]

/-- What a derivation makes of a run: it goes through, leaves the open groups as they were, and for a
primary adds one item. -/
def Drives : Category → List Token → Prop
  | .primary zeroWidth, tokens => ∀ progress : Progress, ∃ last content,
      progress.run tokens = .ok last ∧ last.groups = progress.groups ∧
        last.level = progress.level.push content ∧ content.isZeroWidth = zeroWidth
  | _, tokens => ∀ progress : Progress, ∃ last,
      progress.run tokens = .ok last ∧ last.groups = progress.groups

/-- A derivation drives the run from any progress. -/
theorem Derives.drives {category : Category} {tokens : List Token} (h : Derives category tokens) :
    Drives category tokens := by
  induction h with
  | single _ ih => exact ih
  | @split before after bar _ hkind _ ihfront ihlast =>
    intro progress
    obtain ⟨middle, hfront, hmiddle⟩ := ihfront progress
    obtain ⟨last, hlast, hgroups⟩ := ihlast { middle with level := middle.level.behindBar }
    refine ⟨last, ?_, hgroups.trans hmiddle⟩
    rw [Progress.run_append _ hfront, Progress.run,
      Progress.step_eq_ok_iff.mpr (.splits hkind)]
    exact hlast
  | empty => exact fun progress => ⟨progress, rfl, rfl⟩
  | append _ _ ihfront ihlast =>
    intro progress
    obtain ⟨middle, hfront, hmiddle⟩ := ihfront progress
    obtain ⟨last, hlast, hgroups⟩ := ihlast middle
    exact ⟨last, (Progress.run_append _ hfront).trans hlast, hgroups.trans hmiddle⟩
  | bare _ ih =>
    intro progress
    obtain ⟨last, _, hrun, hgroups, _⟩ := ih progress
    exact ⟨last, hrun, hgroups⟩
  | @repeated tokens token q _ hkind ih =>
    intro progress
    obtain ⟨middle, content, hrun, hgroups, hlevel, hwide⟩ := ih progress
    have hitems : middle.level.items = ⟨content, false⟩ :: progress.level.items := by
      rw [hlevel]
      rfl
    refine ⟨_, (Progress.run_append _ hrun).trans
      (Progress.run_singleton (.repeats hkind hitems rfl hwide)), hgroups⟩
  | @terminal token hkind =>
    intro progress
    rw [← terminal?_isSome progress, Option.isSome_iff_exists] at hkind
    obtain ⟨t, hterminal⟩ := hkind
    exact ⟨_, .terminal t, Progress.run_singleton (.stands hterminal), rfl, rfl,
      isZeroWidth_of_terminal? hterminal⟩
  | @group first last opener tokens hfirst _ hlast ih =>
    intro progress
    obtain ⟨inside, hrun, hgroups⟩ := ih (progress.openGroup opener first)
    let g : OpenGroup := ⟨progress.level, Progress.kindOf opener first, progress.number? opener⟩
    refine ⟨{ inside with level := progress.level.push (g.closed inside.level.node),
                          groups := progress.groups }, g.closed inside.level.node, ?_, rfl, rfl, rfl⟩
    rw [Progress.run, Progress.step_eq_ok_iff.mpr (.opens hfirst)]
    exact (Progress.run_append _ hrun).trans (Progress.run_singleton (.closes hlast hgroups))

/-- The items of the current alternative, the latest first, are derivations of what has been read of
it. -/
inductive ItemsRead : List Item → List Token → Prop
  /-- Nothing has been read. -/
  | nil : ItemsRead [] []
  /-- The latest item can still take a quantifier. -/
  | bare {items : List Item} {before after : List Token} {content : Node}
      (front : ItemsRead items before) (last : Derives (.primary content.isZeroWidth) after) :
      ItemsRead (⟨content, false⟩ :: items) (before ++ after)
  /-- The latest item has its quantifier. -/
  | repeated {items : List Item} {before after : List Token} {content : Node}
      (front : ItemsRead items before) (last : Derives .item after) :
      ItemsRead (⟨content, true⟩ :: items) (before ++ after)

/-- The finished alternatives with the bar behind them, if there are any. -/
inductive FrontRead : List Token → Prop
  /-- No alternative is finished. -/
  | nil : FrontRead []
  /-- A bar stands behind the finished alternatives. -/
  | split {tokens : List Token} {bar : Token} (front : Derives .alternatives tokens)
      (kind_eq : bar.kind = .alternation) : FrontRead (tokens ++ [bar])

/-- What has been read of a level. -/
inductive LevelRead (level : Level) : List Token → Prop
  /-- The finished alternatives and the current one. -/
  | intro {before after : List Token} (front : FrontRead before)
      (items : ItemsRead level.items after) : LevelRead level (before ++ after)

/-- What has been read up to the innermost opener. -/
inductive GroupsRead : List OpenGroup → List Token → Prop
  /-- No group is open. -/
  | nil : GroupsRead [] []
  /-- A group has been opened behind what was read of the level around it. -/
  | cons {g : OpenGroup} {groups : List OpenGroup} {before outer : List Token} {token : Token}
      {opener : Opener} (around : GroupsRead groups before) (level : LevelRead g.outer outer)
      (kind_eq : token.kind = .groupOpen opener) (group_eq : g.kind = Progress.kindOf opener token) :
      GroupsRead (g :: groups) (before ++ (outer ++ [token]))

/-- What has been read altogether. -/
inductive Read (progress : Progress) : List Token → Prop
  /-- What has been read up to the innermost opener, and behind it. -/
  | intro {before after : List Token} (groups : GroupsRead progress.groups before)
      (level : LevelRead progress.level after) : Read progress (before ++ after)

/-- The items of an alternative are a sequence. -/
theorem ItemsRead.sequence {items : List Item} {tokens : List Token} (h : ItemsRead items tokens) :
    Derives .sequence tokens := by
  induction h with
  | nil => exact .empty
  | bare _ hlast ih => exact .append ih (.bare hlast)
  | repeated _ hlast ih => exact .append ih hlast

/-- What has been read of a level is a list of alternatives, complete as it stands. -/
theorem LevelRead.alternatives {level : Level} {tokens : List Token} (h : LevelRead level tokens) :
    Derives .alternatives tokens := by
  obtain ⟨hfront, hitems⟩ := h
  cases hfront with
  | nil => exact .single hitems.sequence
  | split hfront hkind =>
    rw [List.append_assoc]
    exact .split hfront hkind hitems.sequence

/-- A primary goes to the end of the current alternative. -/
theorem LevelRead.push {level : Level} {before after : List Token} {content : Node}
    (h : LevelRead level before) (hlast : Derives (.primary content.isZeroWidth) after) :
    LevelRead (level.push content) (before ++ after) := by
  obtain ⟨hfront, hitems⟩ := h
  rw [List.append_assoc]
  exact .intro hfront (.bare hitems hlast)

/-- A quantifier goes to the latest item, which is a primary that is not zero-width. -/
theorem LevelRead.quantify {level : Level} {tokens : List Token} {token : Token} {q : Quantifier}
    {item : Item} {items : List Item} {content : Node} (h : LevelRead level tokens)
    (hkind : token.kind = .quantifier q) (hitems : level.items = item :: items)
    (hfresh : item.repeated = false) (hwide : item.node.isZeroWidth = false) :
    LevelRead ⟨level.options, ⟨content, true⟩ :: items⟩ (tokens ++ [token]) := by
  obtain ⟨hfront, hread⟩ := h
  rw [hitems] at hread
  cases hread with
  | bare hbefore hlast =>
    rw [List.append_assoc, List.append_assoc]
    rw [hwide] at hlast
    exact .intro hfront (.repeated hbefore (.repeated hlast hkind))
  | repeated => cases hfresh

/-- A bar goes behind what has been read of a level, which is then all in front of the current
alternative. -/
theorem LevelRead.behindBar {level : Level} {tokens : List Token} {bar : Token}
    (h : LevelRead level tokens) (hkind : bar.kind = .alternation) :
    LevelRead level.behindBar (tokens ++ [bar]) :=
  List.append_nil (tokens ++ [bar]) ▸ .intro (.split h.alternatives hkind) .nil

/-- A group that closes is a primary of the level around it. -/
theorem GroupsRead.close {g : OpenGroup} {groups : List OpenGroup} {level : Level}
    {before after : List Token} {token : Token} (hgroups : GroupsRead (g :: groups) before)
    (hlevel : LevelRead level after) (hkind : token.kind = .groupClose) :
    ∃ behind inside, GroupsRead groups behind ∧
      LevelRead (g.outer.push (g.closed level.node)) inside ∧
        before ++ (after ++ [token]) = behind ++ inside := by
  cases hgroups with
  | @cons _ _ behind outer first _ haround houter hfirst hgroup =>
    have hprimary := Derives.group hfirst hlevel.alternatives hkind
    rw [← hgroup] at hprimary
    refine ⟨behind, outer ++ first :: (after ++ [token]), haround, houter.push hprimary, ?_⟩
    simp only [List.append_assoc, List.cons_append, List.nil_append]

/-- Each step keeps the derivations of what has been read. -/
theorem Read.step {progress next : Progress} {tokens : List Token} {token : Token}
    (h : Read progress tokens) (hstep : Progress.Step progress token next) :
    Read next (tokens ++ [token]) := by
  obtain ⟨hgroups, hlevel⟩ := h
  rw [List.append_assoc]
  cases hstep with
  | opens hkind =>
    rw [← List.append_nil (_ ++ _)]
    exact .intro (.cons hgroups hlevel hkind rfl) (.intro .nil .nil)
  | closes hkind hopen =>
    rw [hopen] at hgroups
    obtain ⟨behind, inside, haround, hinside, htokens⟩ := hgroups.close hlevel hkind
    rw [htokens]
    exact .intro haround hinside
  | splits hkind => exact .intro hgroups (hlevel.behindBar hkind)
  | repeats hkind hitems hfresh hwide =>
    exact .intro hgroups (hlevel.quantify hkind hitems hfresh hwide)
  | stands hterminal =>
    have hkind : token.kind.isTerminal = true := by
      rw [← terminal?_isSome progress, hterminal, Option.isSome_some]
    have hprimary := Derives.terminal hkind
    rw [← isZeroWidth_of_terminal? hterminal] at hprimary
    exact .intro hgroups (hlevel.push hprimary)

/-- A list of tokens has a tree exactly when the grammar derives it as alternatives. -/
theorem ofTokens_isOk_iff_derives (tokens : List Token) :
    (∃ node, ofTokens tokens = .ok node) ↔ Derives .alternatives tokens := by
  constructor
  · rintro ⟨node, h⟩
    obtain ⟨progress, hrun, hgroups, -⟩ := ofTokens_eq_ok_iff.mp h
    have hstart : Read Progress.start ([] ++ ([] ++ [])) := .intro .nil (.intro .nil .nil)
    obtain ⟨hbefore, hlevel⟩ := Progress.run_induction
      (motive := fun tokens progress => Read progress tokens) hstart Read.step hrun
    rw [hgroups] at hbefore
    cases hbefore
    exact hlevel.alternatives
  · intro h
    obtain ⟨progress, hrun, hgroups⟩ := h.drives Progress.start
    exact ⟨progress.level.node, ofTokens_eq_ok_iff.mpr ⟨progress, hrun, hgroups, rfl⟩⟩

end Node

end Railroad
