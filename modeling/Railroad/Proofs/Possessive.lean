import Railroad.Proofs.Exchanging
import Railroad.Proofs.Grammar

/-!
# Possessive quantifiers as atomic groups

A possessive quantifier means an atomic group around the primary and the same quantifier without the mark.
Written out with the parentheses of that group, the tokens have the same tree, but for the label of the one
group. What reading a primary adds does not depend on the level or on the groups around it, so it adds the
same inside the parentheses, with the same numbers and names. From there on the two runs differ in one place.
-/

namespace Railroad.Node

/-- What reading some tokens adds, wherever it begins: only the number of the next group and the names so
far decide about it. A primary adds a tree, an item an item, a sequence some items, and alternatives are all
that has been read of their group. -/
def Adds : Category → List Token → Prop
  | .primary zeroWidth, tokens => ∀ next names, ∃ content next' names',
      content.isZeroWidth = zeroWidth ∧ ∀ level groups, Progress.run ⟨level, groups, next, names⟩ tokens =
        .ok ⟨level.push content, groups, next', names'⟩
  | .item, tokens => ∀ next names, ∃ item next' names',
      ∀ level groups, Progress.run ⟨level, groups, next, names⟩ tokens =
        .ok ⟨⟨level.options, item :: level.items⟩, groups, next', names'⟩
  | .sequence, tokens => ∀ next names, ∃ items next' names',
      ∀ level groups, Progress.run ⟨level, groups, next, names⟩ tokens =
        .ok ⟨⟨level.options, items ++ level.items⟩, groups, next', names'⟩
  | .alternatives, tokens => ∀ next names, ∃ level next' names',
      ∀ groups, Progress.run ⟨.empty, groups, next, names⟩ tokens = .ok ⟨level, groups, next', names'⟩

/-- What is derived adds the same wherever it is read. -/
theorem Derives.adds {category : Category} {tokens : List Token} (h : Derives category tokens) :
    Adds category tokens := by
  induction h with
  | single _ ih =>
    intro next names
    obtain ⟨items, next', names', hrun⟩ := ih next names
    exact ⟨⟨[], items ++ []⟩, next', names', hrun .empty⟩
  | @split before after bar _ hkind _ ihfront ihlast =>
    intro next names
    obtain ⟨level, middle, known, hfront⟩ := ihfront next names
    obtain ⟨items, next', names', hlast⟩ := ihlast middle known
    refine ⟨⟨level.behindBar.options, items ++ []⟩, next', names', fun groups => ?_⟩
    rw [Progress.run_append _ (hfront groups), Progress.run, Progress.step_eq_ok_iff.mpr (.splits hkind)]
    exact hlast level.behindBar groups
  | empty => exact fun next names => ⟨[], next, names, fun _ _ => rfl⟩
  | append _ _ ihfront ihlast =>
    intro next names
    obtain ⟨items, middle, known, hfront⟩ := ihfront next names
    obtain ⟨item, next', names', hlast⟩ := ihlast middle known
    refine ⟨item :: items, next', names', fun level groups => ?_⟩
    rw [Progress.run_append _ (hfront level groups)]
    exact hlast ⟨level.options, items ++ level.items⟩ groups
  | bare _ ih =>
    intro next names
    obtain ⟨content, next', names', -, hrun⟩ := ih next names
    exact ⟨⟨content, false⟩, next', names', hrun⟩
  | @repeated tokens token q _ hkind ih =>
    intro next names
    obtain ⟨content, next', names', hwide, hrun⟩ := ih next names
    refine ⟨⟨quantify q content, true⟩, next', names', fun level groups => ?_⟩
    rw [Progress.run_append _ (hrun level groups)]
    have hstep : Progress.Step ⟨level.push content, groups, next', names'⟩ token _ :=
      .repeats hkind rfl rfl hwide
    exact Progress.run_singleton hstep
  | @terminal token hkind =>
    intro next names
    rw [← terminal?_isSome ⟨.empty, [], next, names⟩, Option.isSome_iff_exists] at hkind
    obtain ⟨t, hterminal⟩ := hkind
    -- Of what has been read, a terminal depends on the names only.
    exact ⟨.terminal t, next, names, isZeroWidth_of_terminal? hterminal,
      fun _ _ => Progress.run_singleton (.stands hterminal)⟩
  | @group first last opener tokens hfirst _ hlast ih =>
    intro next names
    let opened := Progress.openGroup ⟨.empty, [], next, names⟩ opener first
    let index := Progress.number? ⟨.empty, [], next, names⟩ opener
    obtain ⟨level, next', names', hrun⟩ := ih opened.next opened.names
    let g : OpenGroup := ⟨.empty, Progress.kindOf opener first, index⟩
    refine ⟨g.closed level.node, next', names', rfl, fun outer groups => ?_⟩
    let around : OpenGroup := ⟨outer, Progress.kindOf opener first, index⟩
    have hclose : Progress.Step ⟨level, around :: groups, next', names'⟩ last _ := .closes hlast rfl
    rw [Progress.run, Progress.step_eq_ok_iff.mpr (.opens hfirst)]
    exact (Progress.run_append _ (hrun (around :: groups))).trans (Progress.run_singleton hclose)

/-- What has been read in front of a quantifier ends with a primary that is no position. -/
theorem Read.exists_primary {progress : Progress} {tokens : List Token} (h : Read progress tokens)
    {item : Item} {items : List Item} (hitems : progress.level.items = item :: items)
    (hfresh : item.repeated = false) :
    ∃ before primary, tokens = before ++ primary ∧
      Derives (.primary item.node.isZeroWidth) primary := by
  obtain ⟨-, -, hread⟩ := h
  rw [hitems] at hread
  cases hread with
  | bare _ hlast => exact ⟨_, _, by rw [← List.append_assoc, ← List.append_assoc], hlast⟩
  | repeated => cases hfresh

namespace Progress

/-- The tokens of a primary, with a quantifier without the mark behind them and the parentheses of an atomic
group around both, add the group around the repeated tree. -/
theorem run_grouped {primary : List Token} {opener plain close : Token} {q : Quantifier} {content : Node}
    {next next' : Nat} {names names' : List (String × Nat)}
    (hadds : ∀ level groups, run ⟨level, groups, next, names⟩ primary =
      .ok ⟨level.push content, groups, next', names'⟩)
    (hopener : opener.kind = .groupOpen .atomic)
    (hplain : plain.kind = .quantifier { q with possessive := false })
    (hclose : close.kind = .groupClose) (hwide : content.isZeroWidth = false) (outer : Level)
    (groups : List OpenGroup) :
    run ⟨outer, groups, next, names⟩ (opener :: (primary ++ [plain, close])) =
      .ok ⟨outer.push (group .atomic none (GroupKind.atomic.label none)
        (quantified q.repetition q.greedy content)), groups, next', names'⟩ := by
  let g : OpenGroup := ⟨outer, .atomic, none⟩
  let repeated : Level := ⟨[], [⟨quantify { q with possessive := false } content, true⟩]⟩
  have hopened : Step ⟨outer, groups, next, names⟩ opener _ := .opens hopener
  have hquantified : Step ⟨Level.empty.push content, g :: groups, next', names'⟩ plain _ :=
    .repeats hplain rfl rfl hwide
  have hclosed : Step ⟨repeated, g :: groups, next', names'⟩ close _ := .closes hclose rfl
  rw [run, step_eq_ok_iff.mpr hopened]
  refine (run_append _ (hadds .empty (g :: groups))).trans ?_
  rw [run, step_eq_ok_iff.mpr hquantified]
  exact run_singleton hclosed

/-- A run over a primary ends with its tree as the latest item, and the run over the primary in an atomic
group ends with the group in its place. -/
theorem exists_grouped {before primary : List Token} {opener plain close : Token} {q : Quantifier}
    {zeroWidth : Bool} {progress : Progress} {item : Item} {items : List Item}
    (hprimary : Derives (.primary zeroWidth) primary) (hopener : opener.kind = .groupOpen .atomic)
    (hplain : plain.kind = .quantifier { q with possessive := false })
    (hclose : close.kind = .groupClose) (hrun : start.run (before ++ primary) = .ok progress)
    (hitems : progress.level.items = item :: items) (hwide : item.node.isZeroWidth = false) :
    item.node.print = primary.map Token.symbol ∧
      ∃ progress', start.run (before ++ opener :: (primary ++ [plain, close])) = .ok progress' ∧
        Exchanged (quantify q item.node)
          (group .atomic none (GroupKind.atomic.label none) (quantified q.repetition q.greedy item.node))
          (before.map Token.symbol) []
          { progress with level := ⟨progress.level.options, ⟨quantify q item.node, true⟩ :: items⟩ }
          progress' := by
  obtain ⟨⟨outer, groups, next, names⟩, hbefore, hafter⟩ := exists_run_of_run_append hrun
  obtain ⟨content, next', names', -, hadds⟩ := hprimary.adds next names
  cases (hadds outer groups).symm.trans hafter
  cases hitems
  have hprinted : printing.groups groups ++ printing.level outer = before.map Token.symbol :=
    printing_run hbefore
  constructor
  · have hall := printing_run hrun
    rw [Spelling.progress, printing.level_push, ← List.append_assoc, hprinted, List.map_append] at hall
    exact List.append_cancel_left hall
  · refine ⟨_, (run_append _ hbefore).trans (run_grouped hadds hopener hplain hclose hwide outer groups), ?_⟩
    have hgroup : Node.Exchanged (quantify q content) (group .atomic none (GroupKind.atomic.label none)
        (quantified q.repetition q.greedy content)) [] [] _ _ := .here
    have hunmarked : true = false → false = false := fun _ => rfl
    have hlevel := Exchanged.level groups next' names'
      (Level.Exchanged.item outer.options [] outer.items hgroup hunmarked)
    simp only [List.append_nil, List.reverse_nil, List.flatMap_nil, hprinted] at hlevel
    exact hlevel

/-- A quantifier is read where the latest item has none and is no position. -/
theorem Step.of_quantifier {progress next : Progress} {token : Token} {q : Quantifier}
    (h : Step progress token next) (hkind : token.kind = .quantifier q) :
    ∃ item items, progress.level.items = item :: items ∧ item.repeated = false ∧
      item.node.isZeroWidth = false ∧ next = { progress with
        level := ⟨progress.level.options, ⟨quantify q item.node, true⟩ :: items⟩ } := by
  cases h with
  | repeats hother hitems hfresh hwide =>
    cases Token.Kind.quantifier.inj (hother.symm.trans hkind)
    exact ⟨_, _, hitems, hfresh, hwide, rfl⟩
  | opens hother => exact absurd (hkind.symm.trans hother) Token.Kind.noConfusion
  | closes hother => exact absurd (hkind.symm.trans hother) Token.Kind.noConfusion
  | splits hother => exact absurd (hkind.symm.trans hother) Token.Kind.noConfusion
  | stands hterminal => simp only [terminal?, hkind, reduceCtorEq] at hterminal

end Progress

/-- A possessive quantifier is its atomic group. In front of it there is a primary. Whenever it is taken with
the quantifier into the parentheses of an atomic group, and the mark is left out, the tokens have a tree as
well. The two trees are the same, with all numbers and names, but for one group: in the tree of the
possessive quantifier it has the label of a possessive group, and in the other tree that of an atomic one. The
group is at the place of the tokens, and in it, under the quantifier, is the tree of the primary. -/
theorem ofTokens_possessive {front after : List Token} {quantifier : Token} {q : Quantifier} {node : Node}
    (h : ofTokens (front ++ quantifier :: after) = .ok node) (hkind : quantifier.kind = .quantifier q)
    (hpossessive : q.possessive = true) :
    (∃ before primary, front = before ++ primary ∧ Derives (.primary false) primary) ∧
    ∀ before primary zeroWidth opener plain close, front = before ++ primary →
      Derives (.primary zeroWidth) primary → opener.kind = .groupOpen .atomic →
      plain.kind = .quantifier { q with possessive := false } → close.kind = .groupClose →
      ∃ node' content,
        ofTokens (before ++ opener :: (primary ++ plain :: close :: after)) = .ok node' ∧
        content.print = primary.map Token.symbol ∧
        Exchanged (group .atomic none "Atomic group (possessive)" (quantified q.repetition q.greedy content))
          (group .atomic none "Atomic group" (quantified q.repetition q.greedy content))
          (before.map Token.symbol) (after.map Token.symbol) node node' := by
  obtain ⟨last, hrun, hgroups, rfl⟩ := ofTokens_eq_ok_iff.mp h
  obtain ⟨middle, hfront, hrest⟩ := Progress.exists_run_of_run_append hrun
  obtain ⟨next, hstep, hafter⟩ := Progress.exists_step_of_run_cons hrest
  obtain ⟨item, items, hitems, hfresh, hwide, rfl⟩ :=
    hstep.of_quantifier hkind
  constructor
  · have hstart : Read Progress.start ([] ++ ([] ++ [])) := .intro .nil (.intro .nil .nil)
    have hread := Progress.run_induction (motive := fun tokens progress => Read progress tokens) hstart
      Read.step hfront
    obtain ⟨before, primary, hsplit, hprimary⟩ := hread.exists_primary hitems hfresh
    exact ⟨before, primary, hsplit, hwide ▸ hprimary⟩
  · rintro before primary zeroWidth opener plain close rfl hprimary hopener hplain hclose
    obtain ⟨hprint, progress', hgrouped, hexchanged⟩ :=
      Progress.exists_grouped hprimary hopener hplain hclose hfront hitems hwide
    have hlabelled : quantify q item.node =
        group .atomic none "Atomic group (possessive)" (quantified q.repetition q.greedy item.node) := by
      rw [quantify, if_pos hpossessive]
      rfl
    rw [hlabelled] at hexchanged hafter
    obtain ⟨last', hrun', hlast⟩ := hexchanged.run rfl hafter
    obtain ⟨hgroups', hnode⟩ := hlast.finish hgroups
    refine ⟨last'.level.node, item.node, ?_, hprint, hnode⟩
    refine ofTokens_eq_ok_iff.mpr ⟨last', ?_, hgroups', rfl⟩
    have hall := (Progress.run_append after hgrouped).trans hrun'
    simpa only [List.append_assoc, List.cons_append, List.nil_append] using hall

/-- The tokens of `((?<n>a?+)*+|b)\k<n>` in front of the quantifier `*+`, but for the parenthesis that stands
first. -/
def namedPrimary : List Token :=
  [⟨.groupOpen .named, "(?<n>", 1⟩, ⟨.literal, "a", 6⟩, ⟨.quantifier ⟨.zeroOrOne, true, true⟩, "?+", 7⟩,
    ⟨.groupClose, ")", 9⟩]

/-- The tokens of the same pattern behind the quantifier. -/
def behindNamed : List Token :=
  [⟨.alternation, "|", 12⟩, ⟨.literal, "b", 13⟩, ⟨.groupClose, ")", 14⟩, ⟨.namedBackreference, "\\k<n>", 15⟩]

/-- So it is around a named group with another possessive quantifier, inside a group and in front of a
reference to the name. -/
theorem ofTokens_possessive_named :
    ∃ node node' content,
      ofTokens (⟨.groupOpen .capturing, "(", 0⟩ :: namedPrimary ++
        ⟨.quantifier ⟨.zeroOrMore, true, true⟩, "*+", 10⟩ :: behindNamed) = .ok node ∧
      ofTokens (⟨.groupOpen .capturing, "(", 0⟩ :: ⟨.groupOpen .atomic, "(?>", 1⟩ :: (namedPrimary ++
        ⟨.quantifier ⟨.zeroOrMore, true, false⟩, "*", 10⟩ :: ⟨.groupClose, ")", 11⟩ :: behindNamed)) =
          .ok node' ∧
      Exchanged (group .atomic none "Atomic group (possessive)" (quantified .zeroOrMore true content))
        (group .atomic none "Atomic group" (quantified .zeroOrMore true content))
        [.opens .capturing ""] [.bar, .terminal "b", .closes, .terminal "\\k<n>"] node node' := by
  have htree : ∃ node, ofTokens (⟨.groupOpen .capturing, "(", 0⟩ :: namedPrimary ++
      ⟨.quantifier ⟨.zeroOrMore, true, true⟩, "*+", 10⟩ :: behindNamed) = .ok node := ⟨_, rfl⟩
  obtain ⟨node, hnode⟩ := htree
  have hletter : Derives (.primary (Token.isPosition ⟨.literal, "a", 6⟩)) [⟨.literal, "a", 6⟩] :=
    .terminal rfl
  have hitem : Derives .item ([⟨.literal, "a", 6⟩] ++ [⟨.quantifier ⟨.zeroOrOne, true, true⟩, "?+", 7⟩]) :=
    .repeated hletter rfl
  have hinside : Derives .alternatives
      [⟨.literal, "a", 6⟩, ⟨.quantifier ⟨.zeroOrOne, true, true⟩, "?+", 7⟩] :=
    .single (.append .empty hitem)
  have hopens : Token.kind ⟨.groupOpen .named, "(?<n>", 1⟩ = .groupOpen .named := rfl
  have hcloses : Token.kind ⟨.groupClose, ")", 9⟩ = .groupClose := rfl
  have hprimary : Derives (.primary false) namedPrimary := .group hopens hinside hcloses
  obtain ⟨node', content, hnode', -, hexchanged⟩ := (ofTokens_possessive hnode rfl rfl).2
    [⟨.groupOpen .capturing, "(", 0⟩] namedPrimary false ⟨.groupOpen .atomic, "(?>", 1⟩
    ⟨.quantifier ⟨.zeroOrMore, true, false⟩, "*", 10⟩ ⟨.groupClose, ")", 11⟩ rfl hprimary rfl rfl rfl
  exact ⟨node, node', content, hnode, hnode', hexchanged⟩

end Railroad.Node
