import Railroad.Proofs.Printing

/-!
# Trees that differ in one place

Two trees are the same but for one place, where the second has another tree than the first. The place is
told by what is printed in front of it and behind it. Two runs over the same tokens keep such a difference:
a token that is read is put behind the place or around it, on both sides alike.
-/

namespace Railroad.Node

/-- The second tree is the first one with `old` exchanged for `new` in one place. What is printed in front
of the place comes first, then what is printed behind it. -/
inductive Exchanged (old new : Node) : List Symbol → List Symbol → Node → Node → Prop
  /-- The whole tree is exchanged. -/
  | here : Exchanged old new [] [] old new
  /-- The place is in a part of a sequence. -/
  | part {left right : List Symbol} {a b : Node} (front back : List Node)
      (inner : Exchanged old new left right a b) :
      Exchanged old new (front.flatMap print ++ left) (right ++ back.flatMap print)
        (sequence (front ++ a :: back)) (sequence (front ++ b :: back))
  /-- The place is in an option of a choice. -/
  | option {left right : List Symbol} {a b : Node} (front back : List Node)
      (inner : Exchanged old new left right a b) :
      Exchanged old new ((front.flatMap fun option => option.print ++ [.bar]) ++ left)
        (right ++ back.flatMap fun option => .bar :: option.print)
        (choice (front ++ a :: back)) (choice (front ++ b :: back))
  /-- The place is in a group. -/
  | closed {left right : List Symbol} {a b : Node} (kind : GroupKind) (index : Option Nat)
      (inner : Exchanged old new left right a b) :
      Exchanged old new (kind.symbol :: left) (right ++ [.closes])
        (group kind index (kind.label index) a) (group kind index (kind.label index) b)
  /-- The place is under a quantifier. -/
  | repeated {left right : List Symbol} {a b : Node} (q : Quantifier)
      (inner : Exchanged old new left right a b) :
      Exchanged old new left (right ++ [.repeats q]) (quantify q a) (quantify q b)

/-- A list with one member and others around it that is a single member has only this one. -/
theorem append_cons_eq_singleton {α : Type} {front back : List α} {a b : α}
    (h : front ++ a :: back = [b]) : front = [] ∧ back = [] := by
  have hlength := congrArg List.length h
  simp only [List.length_append, List.length_cons, List.length_nil] at hlength
  exact ⟨List.eq_nil_of_length_eq_zero (by omega), List.eq_nil_of_length_eq_zero (by omega)⟩

namespace Exchanged

variable {old new a b : Node} {left right : List Symbol}

/-- A tree in which a place is exchanged is a position if it was one before. -/
theorem isZeroWidth_eq (h : Exchanged old new left right a b)
    (hsame : old.isZeroWidth = new.isZeroWidth) : a.isZeroWidth = b.isZeroWidth := by
  cases h with
  | here => exact hsame
  | part | option | closed => rfl
  | repeated q =>
    unfold quantify
    cases q.possessive <;> rfl

/-- The place is in one of some parts in a row. -/
theorem ofParts (h : Exchanged old new left right a b) (front back : List Node) :
    Exchanged old new (front.flatMap print ++ left) (right ++ back.flatMap print)
      (ofParts (front ++ a :: back)) (ofParts (front ++ b :: back)) := by
  by_cases hone : front = [] ∧ back = []
  · obtain ⟨rfl, rfl⟩ := hone
    simp only [List.flatMap_nil, List.nil_append, List.append_nil]
    exact h
  · have hmany (c : Node) : Node.ofParts (front ++ c :: back) = sequence (front ++ c :: back) := by
      unfold Node.ofParts
      split
      · rename_i hsingle
        exact absurd (append_cons_eq_singleton hsingle) hone
      · rfl
    rw [hmany a, hmany b]
    exact .part front back h

/-- The place is in one of some options. -/
theorem ofOptions (h : Exchanged old new left right a b) (front back : List Node) :
    Exchanged old new ((front.flatMap fun option => option.print ++ [.bar]) ++ left)
      (right ++ back.flatMap fun option => .bar :: option.print)
      (ofOptions (front ++ a :: back)) (ofOptions (front ++ b :: back)) := by
  by_cases hone : front = [] ∧ back = []
  · obtain ⟨rfl, rfl⟩ := hone
    simp only [List.flatMap_nil, List.nil_append, List.append_nil]
    exact h
  · have hmany (c : Node) : Node.ofOptions (front ++ c :: back) = choice (front ++ c :: back) := by
      unfold Node.ofOptions
      split
      · rename_i hsingle
        exact absurd (append_cons_eq_singleton hsingle) hone
      · rfl
    rw [hmany a, hmany b]
    exact .option front back h

end Exchanged

/-- The second level is the first one with `old` exchanged for `new` in one place. The item with the place
may have lost the note that a quantifier has been read for it. -/
inductive Level.Exchanged (old new : Node) : List Symbol → List Symbol → Level → Level → Prop
  /-- The place is in an item of the current alternative. -/
  | item {left right : List Symbol} {a b : Node} {repeated repeated' : Bool} (options : List Node)
      (later earlier : List Item) (inner : Node.Exchanged old new left right a b)
      (fresh : repeated = false → repeated' = false) :
      Exchanged old new (printing.level ⟨options, earlier⟩ ++ left)
        (right ++ later.reverse.flatMap fun item => item.node.print)
        ⟨options, later ++ ⟨a, repeated⟩ :: earlier⟩ ⟨options, later ++ ⟨b, repeated'⟩ :: earlier⟩
  /-- The place is in a finished alternative. -/
  | option {left right : List Symbol} {a b : Node} (later earlier : List Node) (items : List Item)
      (inner : Node.Exchanged old new left right a b) :
      Exchanged old new (printing.level ⟨earlier, []⟩ ++ left)
        (right ++ .bar :: printing.level ⟨later, items⟩)
        ⟨later ++ a :: earlier, items⟩ ⟨later ++ b :: earlier, items⟩

/-- Options with a bar behind each of them and another one at the end have a bar in front of each of them
if one is put in front of all. -/
theorem bar_flatMap (options : List Node) (last : List Symbol) :
    Symbol.bar :: ((options.flatMap fun option => option.print ++ [.bar]) ++ last) =
      (options.flatMap fun option => .bar :: option.print) ++ .bar :: last := by
  induction options with
  | nil => rfl
  | cons option options ih => simp only [List.flatMap_cons, List.append_assoc, List.cons_append,
      List.nil_append, ih]

namespace Level.Exchanged

variable {old new : Node} {left right : List Symbol} {first second : Level}

/-- Where the place is in a finished alternative, what is added to the later ones comes behind it. -/
theorem behind {a b : Node} (inner : Node.Exchanged old new left right a b)
    {later later' earlier : List Node} {items items' : List Item} {symbols : List Symbol}
    (hlevel : printing.level ⟨later', items'⟩ = printing.level ⟨later, items⟩ ++ symbols) :
    Exchanged old new (printing.level ⟨earlier, []⟩ ++ left)
      (right ++ .bar :: printing.level ⟨later, items⟩ ++ symbols)
      ⟨later' ++ a :: earlier, items'⟩ ⟨later' ++ b :: earlier, items'⟩ := by
  rw [List.append_assoc, List.cons_append, ← hlevel]
  exact .option later' earlier items' inner

/-- A tree that is put at the end of both levels comes behind the place. -/
theorem push (h : Exchanged old new left right first second) (node : Node) :
    Exchanged old new left (right ++ node.print) (first.push node) (second.push node) := by
  cases h with
  | item options later earlier inner fresh =>
    have hpushed := Exchanged.item options (⟨node, false⟩ :: later) earlier inner fresh
    rw [List.reverse_cons, List.flatMap_append, List.flatMap_singleton, ← List.append_assoc] at hpushed
    exact hpushed
  | option later earlier items inner => exact behind inner (printing.level_push ⟨later, items⟩ node)

/-- The current alternatives differ in the place if it is in one of their items. -/
theorem alternative {a b : Node} (h : Node.Exchanged old new left right a b) (options : List Node)
    (later earlier : List Item) (repeated repeated' : Bool) :
    Node.Exchanged old new ((earlier.reverse.flatMap fun item => item.node.print) ++ left)
      (right ++ later.reverse.flatMap fun item => item.node.print)
      (Level.alternative ⟨options, later ++ ⟨a, repeated⟩ :: earlier⟩)
      (Level.alternative ⟨options, later ++ ⟨b, repeated'⟩ :: earlier⟩) := by
  have hparts := h.ofParts (earlier.reverse.map (·.node)) (later.reverse.map (·.node))
  simp only [List.flatMap_map] at hparts
  simpa only [Level.alternative, List.reverse_append, List.reverse_cons, List.append_assoc,
    List.map_append, List.map_cons, List.map_nil, List.cons_append, List.nil_append] using hparts

/-- A bar finishes both alternatives. -/
theorem behindBar (h : Exchanged old new left right first second) :
    Exchanged old new left (right ++ [.bar]) first.behindBar second.behindBar := by
  cases h with
  | @item _ _ a b repeated repeated' options later earlier inner fresh =>
    have hfinished := Exchanged.option [] options []
      (alternative inner options later earlier repeated repeated')
    simp only [Spelling.level, printing, List.reverse_nil, List.flatMap_nil, List.append_nil,
      List.append_assoc, List.nil_append] at hfinished ⊢
    exact hfinished
  | option later earlier items inner => exact behind inner (printing.level_behindBar ⟨later, items⟩)

/-- The trees of the levels differ in the place. -/
theorem node (h : Exchanged old new left right first second) :
    Node.Exchanged old new left right first.node second.node := by
  cases h with
  | @item _ _ a b repeated repeated' options later earlier inner fresh =>
    have halternative := (alternative inner options later earlier repeated repeated').ofOptions
      options.reverse []
    simpa only [Level.node, List.reverse_cons, Spelling.level, printing, List.flatMap_nil,
      List.append_nil, List.append_assoc] using halternative
  | option later earlier items inner =>
    have hoption := inner.ofOptions earlier.reverse
      (later.reverse ++ [Level.alternative ⟨later, items⟩])
    have halternative : (Level.alternative ⟨later, items⟩).print =
        items.reverse.flatMap fun item => item.node.print := by
      have hparts := printing.node_ofParts (items.reverse.map (·.node))
      rw [List.flatMap_map] at hparts
      exact hparts
    rw [List.flatMap_append, List.flatMap_singleton, ← bar_flatMap, halternative] at hoption
    simp only [Level.node, List.reverse_cons, List.reverse_append, Spelling.level, printing,
      List.reverse_nil, List.flatMap_nil, List.append_nil, List.append_assoc, List.cons_append,
      List.nil_append] at hoption ⊢
    exact hoption

/-- A quantifier takes the latest items of both levels, whether or not the place is in them. -/
theorem quantify (h : Exchanged old new left right first second)
    (hsame : old.isZeroWidth = new.isZeroWidth) (q : Quantifier) {item : Item} {items : List Item}
    (hitems : first.items = item :: items) (hfresh : item.repeated = false)
    (hwide : item.node.isZeroWidth = false) :
    ∃ item' items', second.items = item' :: items' ∧ item'.repeated = false ∧
      item'.node.isZeroWidth = false ∧
      Exchanged old new left (right ++ [.repeats q])
        ⟨first.options, ⟨Node.quantify q item.node, true⟩ :: items⟩
        ⟨second.options, ⟨Node.quantify q item'.node, true⟩ :: items'⟩ := by
  cases h with
  | @item _ right a b repeated repeated' options later earlier inner fresh =>
    cases later with
    | nil =>
      obtain ⟨rfl, rfl⟩ := List.cons.inj hitems
      refine ⟨⟨b, repeated'⟩, _, rfl, fresh hfresh, ?_, ?_⟩
      · exact (inner.isZeroWidth_eq hsame).symm.trans hwide
      · have hrepeated := Exchanged.item options [] earlier (inner.repeated q) (fun h : true = false => h)
        simp only [List.reverse_nil, List.flatMap_nil, List.append_nil] at hrepeated ⊢
        exact hrepeated
    | cons latest later =>
      simp only [List.cons_append, List.cons.injEq] at hitems
      obtain ⟨rfl, rfl⟩ := hitems
      refine ⟨latest, later ++ ⟨b, repeated'⟩ :: earlier, rfl, hfresh, hwide, ?_⟩
      have hbehind := Exchanged.item options (⟨Node.quantify q latest.node, true⟩ :: later) earlier
        inner fresh
      have hprint : (Node.quantify q latest.node).print = latest.node.print ++ [.repeats q] :=
        printing.node_quantify q latest.node
      simpa only [List.reverse_cons, List.flatMap_append, List.flatMap_singleton, hprint,
        List.append_assoc, List.cons_append] using hbehind
  | option later earlier items inner =>
    cases hitems
    exact ⟨item, _, rfl, hfresh, hwide, behind inner (printing.level_quantify q later item items)⟩

end Level.Exchanged

namespace Progress

/-- The second list of open groups is the first one with `old` exchanged for `new` in one place in front of
the innermost opener. -/
inductive GroupsExchanged (old new : Node) :
    List Symbol → List Symbol → List OpenGroup → List OpenGroup → Prop
  /-- The place is in the level around the innermost group. -/
  | here {left right : List Symbol} {first second : Level} (kind : GroupKind) (index : Option Nat)
      (groups : List OpenGroup) (outer : Level.Exchanged old new left right first second) :
      GroupsExchanged old new (printing.groups groups ++ left) (right ++ [kind.symbol])
        (⟨first, kind, index⟩ :: groups) (⟨second, kind, index⟩ :: groups)
  /-- The place is further out. -/
  | under {left right : List Symbol} {groups groups' : List OpenGroup} (g : OpenGroup)
      (around : GroupsExchanged old new left right groups groups') :
      GroupsExchanged old new left (right ++ printing.level g.outer ++ [g.kind.symbol])
        (g :: groups) (g :: groups')

/-- What has been read differs in one place: one time there is `old`, the other time `new`. -/
inductive Exchanged (old new : Node) : List Symbol → List Symbol → Progress → Progress → Prop
  /-- The place is in the innermost level. -/
  | level {left right : List Symbol} {first second : Level} (groups : List OpenGroup) (next : Nat)
      (names : List (String × Nat)) (inner : Level.Exchanged old new left right first second) :
      Exchanged old new (printing.groups groups ++ left) right ⟨first, groups, next, names⟩
        ⟨second, groups, next, names⟩
  /-- The place is in front of the innermost opener. -/
  | groups {left right : List Symbol} {groups groups' : List OpenGroup} (level : Level) (next : Nat)
      (names : List (String × Nat)) (outer : GroupsExchanged old new left right groups groups') :
      Exchanged old new left (right ++ printing.level level) ⟨level, groups, next, names⟩
        ⟨level, groups', next, names⟩

namespace Exchanged

variable {old new : Node} {left right : List Symbol} {first second : Progress}

/-- Where the place is in front of the innermost opener, what is added to the level comes behind it. -/
theorem behind {groups groups' : List OpenGroup} (outer : GroupsExchanged old new left right groups groups')
    {level level' : Level} {symbols : List Symbol}
    (hlevel : printing.level level' = printing.level level ++ symbols) (next : Nat)
    (names : List (String × Nat)) :
    Exchanged old new left (right ++ printing.level level ++ symbols) ⟨level', groups, next, names⟩
      ⟨level', groups', next, names⟩ := by
  rw [List.append_assoc, ← hlevel]
  exact .groups level' next names outer

/-- An opener that is read on both sides comes behind the place. -/
theorem openGroup (h : Exchanged old new left right first second) (opener : Opener) (token : Token) :
    Exchanged old new left (right ++ [(kindOf opener token).symbol]) (first.openGroup opener token)
      (second.openGroup opener token) := by
  rw [← List.append_nil (right ++ _)]
  cases h with
  | level groups next names inner => exact .groups .empty _ _ (.here _ _ groups inner)
  | groups level next names outer => exact .groups .empty _ _ (.under ⟨level, _, _⟩ outer)

/-- A group that is closed on both sides has the place in it, or is put behind the place. -/
theorem close (h : Exchanged old new left right first second) {g : OpenGroup} {groups : List OpenGroup}
    (hgroups : first.groups = g :: groups) :
    ∃ g' groups', second.groups = g' :: groups' ∧
      Exchanged old new left (right ++ [.closes])
        { first with level := g.outer.push (g.closed first.level.node), groups := groups }
        { second with level := g'.outer.push (g'.closed second.level.node), groups := groups' } := by
  cases h with
  | @level left right first second _ next names inner =>
    cases hgroups
    have hgroup := inner.node.closed g.kind g.index
    have hitem := Level.Exchanged.item g.outer.options [] g.outer.items hgroup (fun h : false = false => h)
    have hlevel := Exchanged.level groups next names hitem
    refine ⟨g, groups, rfl, ?_⟩
    simp only [Spelling.groups, List.reverse_nil, List.flatMap_nil, List.append_nil,
      List.append_assoc] at hlevel ⊢
    exact hlevel
  | groups level next names outer =>
    have hprint (g : OpenGroup) : (g.closed level.node).print =
        g.kind.symbol :: (printing.level level ++ [.closes]) := by
      rw [← printing.node_level]
      exact printing.node_closed g level.node
    cases outer with
    | @here left right first' second' kind index _ inner =>
      cases hgroups
      have hpushed := inner.push (OpenGroup.closed ⟨first', kind, index⟩ level.node)
      rw [hprint] at hpushed
      refine ⟨_, _, rfl, ?_⟩
      have hlevel := Exchanged.level groups next names hpushed
      simp only [List.append_assoc, List.cons_append, List.nil_append] at hlevel ⊢
      exact hlevel
    | under _ around =>
      cases hgroups
      have hlevel := Exchanged.groups (g.outer.push (g.closed level.node)) next names around
      have hprinted : printing.node (g.closed level.node) = _ := hprint g
      rw [printing.level_push, hprinted] at hlevel
      refine ⟨_, _, rfl, ?_⟩
      simpa only [List.append_assoc, List.cons_append, List.nil_append] using hlevel

/-- A step keeps the difference, and what its token is printed as comes behind the place. -/
theorem step {next : Progress} {token : Token} (h : Exchanged old new left right first second)
    (hsame : old.isZeroWidth = new.isZeroWidth) (hstep : Step first token next) :
    ∃ next', Step second token next' ∧ Exchanged old new left (right ++ [token.symbol]) next next' := by
  cases hstep with
  | @opens opener hkind =>
    have hsymbol : token.symbol = (kindOf opener token).symbol := by
      simp only [Token.symbol, hkind, symbol_kindOf]
    exact ⟨_, .opens hkind, hsymbol ▸ h.openGroup opener token⟩
  | closes hkind hgroups =>
    have hsymbol : token.symbol = .closes := by simp only [Token.symbol, hkind]
    obtain ⟨g', groups', hgroups', hclosed⟩ := h.close hgroups
    exact ⟨_, .closes hkind hgroups', hsymbol ▸ hclosed⟩
  | splits hkind =>
    have hsymbol : token.symbol = .bar := by simp only [Token.symbol, hkind]
    refine ⟨_, .splits hkind, ?_⟩
    rw [hsymbol]
    cases h with
    | level groups next names inner => exact .level groups next names inner.behindBar
    | groups level next names outer => exact behind outer (printing.level_behindBar level) next names
  | @repeats q item items hkind hitems hfresh hwide =>
    have hsymbol : token.symbol = .repeats q := by simp only [Token.symbol, hkind]
    rw [hsymbol]
    cases h with
    | level groups next names inner =>
      obtain ⟨item', items', hitems', hfresh', hwide', hinner⟩ :=
        inner.quantify hsame q hitems hfresh hwide
      exact ⟨_, .repeats hkind hitems' hfresh' hwide', .level groups next names hinner⟩
    | groups level next names outer =>
      have hlevel : level = ⟨level.options, item :: items⟩ := by rw [← hitems]
      have hquantified := printing.level_quantify q level.options item items
      rw [← hlevel] at hquantified
      exact ⟨_, .repeats hkind hitems hfresh hwide, behind outer hquantified next names⟩
  | @stands t hterminal =>
    rw [symbol_of_terminal? hterminal]
    cases h with
    | level groups next names inner =>
      exact ⟨_, .stands hterminal, .level groups next names (inner.push (.terminal t))⟩
    | groups level next names outer =>
      exact ⟨_, .stands hterminal, behind outer (printing.level_push level (.terminal t)) next names⟩

/-- A run keeps the difference. -/
theorem run {tokens : List Token} {last : Progress} (h : Exchanged old new left right first second)
    (hsame : old.isZeroWidth = new.isZeroWidth) (hrun : first.run tokens = .ok last) :
    ∃ last', second.run tokens = .ok last' ∧
      Exchanged old new left (right ++ tokens.map Token.symbol) last last' := by
  induction tokens generalizing first second right with
  | nil =>
    cases hrun
    exact ⟨second, rfl, (List.append_nil right).symm ▸ h⟩
  | cons token tokens ih =>
    obtain ⟨next, hstep, hrest⟩ := exists_step_of_run_cons hrun
    obtain ⟨next', hstep', hnext⟩ := h.step hsame hstep
    obtain ⟨last', hrun', hlast⟩ := ih hnext hrest
    refine ⟨last', ?_, ?_⟩
    · rw [Progress.run, step_eq_ok_iff.mpr hstep']
      exact hrun'
    · rwa [List.append_assoc] at hlast

/-- Where no group is open, the trees differ in the place. -/
theorem finish (h : Exchanged old new left right first second) (hgroups : first.groups = []) :
    second.groups = [] ∧ Node.Exchanged old new left right first.level.node second.level.node := by
  cases h with
  | level groups next names inner =>
    cases hgroups
    exact ⟨rfl, inner.node⟩
  | groups level next names outer =>
    cases outer <;> cases hgroups

end Exchanged

end Progress

end Railroad.Node
