import Railroad.Proofs.Grouping

/-!
# The normal form of trees

A tree that tokens make has no part that says nothing: a single part is no sequence, a single alternative
is no choice, what is repeated takes text, and a group has a number exactly if its kind has one. Every
level keeps this for its alternatives and its items while the tokens are read, so it holds at every depth
of the tree of a pattern.
-/

namespace Railroad.Node

/-- The tree is a leaf or a group, so a quantifier may follow it. -/
def IsPrimary : Node → Prop
  | terminal _ | group _ _ _ _ => True
  | sequence _ | choice _ | quantified _ _ _ => False

/-- The tree is a repetition. -/
def IsRepetition : Node → Prop
  | quantified _ _ _ => True
  | sequence _ | choice _ | group _ _ _ _ | terminal _ => False

/-- The tree is a choice. -/
def IsChoice : Node → Prop
  | choice _ => True
  | sequence _ | quantified _ _ _ | group _ _ _ _ | terminal _ => False

/-- The tree may be a part of a sequence. -/
def IsItem (node : Node) : Prop := node.IsPrimary ∨ node.IsRepetition

/-- What a possessive quantifier makes: an atomic group without a number around a repetition. -/
structure WrapsPossessive (kind : GroupKind) (index : Option Nat) (label : String) (content : Node) :
    Prop where
  /-- The kind of the group. -/
  kind_eq : kind = .atomic
  /-- It has no number. -/
  index_eq : index = none
  /-- Its caption. -/
  label_eq : label = possessiveLabel
  /-- It holds a repetition. -/
  content : content.IsRepetition

/-- The outermost node of a tree is in normal form. -/
def WellFormed : Node → Prop
  | sequence parts => parts.length ≠ 1 ∧ ∀ part ∈ parts, part.IsItem
  | choice options => 2 ≤ options.length ∧ ∀ option ∈ options, ¬ option.IsChoice
  | quantified _ _ content => content.IsPrimary ∧ content.isZeroWidth = false
  | group kind index label content =>
    (index.isSome ↔ kind.isCapturing) ∧
      (label = kind.label index ∨ WrapsPossessive kind index label content)
  | terminal _ => True

mutual

/-- All nodes of a tree, from the outermost on. -/
def nodes : Node → List Node
  | sequence parts => sequence parts :: nodesOfAll parts
  | choice options => choice options :: nodesOfAll options
  | quantified repetition greedy content => quantified repetition greedy content :: content.nodes
  | group kind index label content => group kind index label content :: content.nodes
  | terminal t => [terminal t]

/-- All nodes of several trees. -/
def nodesOfAll : List Node → List Node
  | [] => []
  | node :: more => node.nodes ++ nodesOfAll more

end

/-- Every node of a tree is in normal form. -/
def Normal (node : Node) : Prop := ∀ part ∈ node.nodes, part.WellFormed

/-- The nodes of several trees are those of each one. -/
theorem forall_mem_nodesOfAll {more : List Node} (h : ∀ node ∈ more, node.Normal) :
    ∀ part ∈ nodesOfAll more, part.WellFormed := by
  induction more with
  | nil => exact List.forall_mem_nil _
  | cons node more ih =>
    obtain ⟨hnode, hmore⟩ := List.forall_mem_cons.mp h
    exact List.forall_mem_append.mpr ⟨hnode, ih hmore⟩

/-- A leaf is in normal form. -/
theorem normal_terminal (t : Terminal) : (terminal t).Normal := List.forall_mem_singleton.mpr trivial

/-- A group whose number fits its kind is in normal form with its own caption, around any tree that is. -/
theorem normal_group {kind : GroupKind} {index : Option Nat} {content : Node}
    (hindex : index.isSome ↔ kind.isCapturing) (hcontent : content.Normal) :
    (group kind index (kind.label index) content).Normal :=
  List.forall_mem_cons.mpr ⟨⟨hindex, .inl rfl⟩, hcontent⟩

/-- A repetition of a leaf or a group that takes text is in normal form, and so is the atomic group that
stands for it if it is possessive. -/
theorem normal_quantify (q : Quantifier) {node : Node} (hnode : node.Normal) (hprimary : node.IsPrimary)
    (hwide : node.isZeroWidth = false) : (quantify q node).Normal ∧ (quantify q node).IsItem := by
  have hrepeated : (quantified q.repetition q.greedy node).Normal :=
    List.forall_mem_cons.mpr ⟨⟨hprimary, hwide⟩, hnode⟩
  unfold quantify
  cases q.possessive with
  | false => exact ⟨hrepeated, .inr trivial⟩
  | true =>
    have hwraps : WrapsPossessive .atomic none possessiveLabel
        (quantified q.repetition q.greedy node) := ⟨rfl, rfl, rfl, trivial⟩
    have hindex : (none : Option Nat).isSome ↔ GroupKind.atomic.isCapturing := by decide
    exact ⟨List.forall_mem_cons.mpr ⟨⟨hindex, .inr hwraps⟩, hrepeated⟩, .inl trivial⟩

/-- A part of a sequence is no choice. -/
theorem IsItem.not_isChoice {node : Node} (h : node.IsItem) : ¬ node.IsChoice := by
  cases node with
  | choice options => rcases h with hprimary | hrepetition <;> contradiction
  | sequence parts => exact id
  | quantified repetition greedy content => exact id
  | group kind index label content => exact id
  | terminal t => exact id

/-- Parts in a row are in normal form, whether or not they make a sequence, and they are no choice. -/
theorem normal_ofParts {parts : List Node} (h : ∀ part ∈ parts, part.Normal ∧ part.IsItem) :
    (ofParts parts).Normal ∧ ¬ (ofParts parts).IsChoice := by
  unfold ofParts
  split
  · rename_i part
    obtain ⟨hnormal, hitem⟩ := h part List.mem_cons_self
    exact ⟨hnormal, hitem.not_isChoice⟩
  · rename_i hparts
    refine ⟨List.forall_mem_cons.mpr ⟨⟨?_, fun part hpart => (h part hpart).2⟩, ?_⟩, id⟩
    · intro hlength
      obtain ⟨part, hpart⟩ := List.length_eq_one_iff.mp hlength
      exact hparts part hpart
    · exact forall_mem_nodesOfAll fun part hpart => (h part hpart).1

/-- Options are in normal form, whether or not they make a choice, if there is one at least and none of
them is a choice. -/
theorem normal_ofOptions {options : List Node} (hne : options ≠ [])
    (h : ∀ option ∈ options, option.Normal ∧ ¬ option.IsChoice) : (ofOptions options).Normal := by
  unfold ofOptions
  split
  · exact (h _ List.mem_cons_self).1
  · rename_i hoptions
    refine List.forall_mem_cons.mpr ⟨⟨?_, fun option hoption => (h option hoption).2⟩, ?_⟩
    · have hzero : options.length ≠ 0 := mt List.length_eq_zero_iff.mp hne
      have hone : options.length ≠ 1 := by
        intro hlength
        obtain ⟨option, hoption⟩ := List.length_eq_one_iff.mp hlength
        exact hoptions option hoption
      omega
    · exact forall_mem_nodesOfAll fun option hoption => (h option hoption).1

/-- What has been read of a level is in normal form. -/
structure Level.Normal (level : Level) : Prop where
  /-- The finished alternatives are, and none of them is a choice. -/
  options : ∀ option ∈ level.options, option.Normal ∧ ¬ option.IsChoice
  /-- The items of the current one are, and each may be a part of a sequence. -/
  items : ∀ item ∈ level.items, item.node.Normal ∧ item.node.IsItem
  /-- An item without a quantifier is a leaf or a group. -/
  fresh : ∀ item ∈ level.items, item.repeated = false → item.node.IsPrimary

namespace Level.Normal

variable {level : Level}

/-- Nothing has been read. -/
theorem empty : Level.empty.Normal :=
  ⟨List.forall_mem_nil _, List.forall_mem_nil _, List.forall_mem_nil _⟩

/-- The current alternative. -/
theorem alternative (h : level.Normal) : level.alternative.Normal ∧ ¬ level.alternative.IsChoice := by
  refine normal_ofParts ?_
  intro part hpart
  obtain ⟨item, hitem, rfl⟩ := List.mem_map.mp hpart
  exact h.items item (List.mem_reverse.mp hitem)

/-- The tree of a level. -/
theorem node (h : level.Normal) : level.node.Normal := by
  refine normal_ofOptions (mt List.reverse_eq_nil_iff.mp (List.cons_ne_nil _ _)) ?_
  intro option hoption
  rcases List.mem_cons.mp (List.mem_reverse.mp hoption) with rfl | hfinished
  · exact h.alternative
  · exact h.options option hfinished

/-- A level with one more leaf or group. -/
theorem push (h : level.Normal) {node : Node} (hnode : node.Normal) (hprimary : node.IsPrimary) :
    (level.push node).Normal :=
  ⟨h.options, List.forall_mem_cons.mpr ⟨⟨hnode, .inl hprimary⟩, h.items⟩,
    List.forall_mem_cons.mpr ⟨fun _ => hprimary, h.fresh⟩⟩

/-- A level behind a bar. -/
theorem behindBar (h : level.Normal) : level.behindBar.Normal :=
  ⟨List.forall_mem_cons.mpr ⟨h.alternative, h.options⟩, List.forall_mem_nil _, List.forall_mem_nil _⟩

end Level.Normal

/-- What has been read is in normal form. -/
structure Progress.Normal (progress : Progress) : Prop where
  /-- The innermost level is. -/
  level : progress.level.Normal
  /-- What stands outside the open groups is. -/
  outer : ∀ g ∈ progress.groups, g.outer.Normal
  /-- An open group has a number exactly if its kind has one. -/
  index : ∀ g ∈ progress.groups, g.index.isSome ↔ g.kind.isCapturing

/-- A group takes a number when it is opened exactly if its kind has one. -/
theorem number?_isSome (progress : Progress) (opener : Opener) (token : Token) :
    (progress.number? opener).isSome = (Progress.kindOf opener token).isCapturing := by
  cases opener <;> rfl

/-- A step keeps the normal form. -/
theorem Progress.Normal.step {progress next : Progress} {token : Token} (h : progress.Normal)
    (hstep : Step progress token next) : next.Normal := by
  cases hstep with
  | @opens opener _ =>
    have hindex : (progress.number? opener).isSome ↔ (Progress.kindOf opener token).isCapturing := by
      rw [number?_isSome]
    exact ⟨.empty, List.forall_mem_cons.mpr ⟨h.level, h.outer⟩,
      List.forall_mem_cons.mpr ⟨hindex, h.index⟩⟩
  | @closes g groups _ hgroups =>
    have houter := h.outer
    have hindex := h.index
    rw [hgroups, List.forall_mem_cons] at houter hindex
    have hgroup : (g.closed progress.level.node).Normal := normal_group hindex.1 h.level.node
    exact ⟨houter.1.push hgroup trivial, houter.2, hindex.2⟩
  | splits _ => exact ⟨h.level.behindBar, h.outer, h.index⟩
  | @repeats q item items _ hitems hfresh hwide =>
    have hread := h.level.items
    have hprimary := h.level.fresh
    rw [hitems, List.forall_mem_cons] at hread hprimary
    have hnode := normal_quantify q hread.1.1 (hprimary.1 hfresh) hwide
    have hlevel : Level.Normal ⟨progress.level.options, ⟨quantify q item.node, true⟩ :: items⟩ :=
      { options := h.level.options
        items := List.forall_mem_cons.mpr ⟨hnode, hread.2⟩
        fresh := List.forall_mem_cons.mpr ⟨fun hfresh => Bool.noConfusion hfresh, hprimary.2⟩ }
    exact ⟨hlevel, h.outer, h.index⟩
  | @stands t _ => exact ⟨h.level.push (normal_terminal t) trivial, h.outer, h.index⟩

/-- At every depth of the tree of a pattern the node is in normal form. -/
theorem wellFormed_ofPattern {pattern : String} {node : Node} (h : ofPattern pattern = .ok node) :
    ∀ part ∈ node.nodes, part.WellFormed := by
  obtain ⟨_, last, -, hrun, -, rfl⟩ := exists_run_of_ofPattern h
  have hread : last.Normal :=
    Progress.run_induction (motive := fun _ progress => progress.Normal)
      ⟨.empty, List.forall_mem_nil _, List.forall_mem_nil _⟩ (fun h hstep => h.step hstep) hrun
  exact hread.level.node

/-- A repeated group with an empty alternative, before another part. -/
theorem ofPattern_possessive :
    ofPattern "(a|)*+b" = .ok (.sequence [.group .atomic none possessiveLabel
      (.quantified .zeroOrMore true (.group .capturing (some 1) "Capturing group #1"
        (.choice [.terminal (.literal "a"), .sequence []]))), .terminal (.literal "b")]) := by
  have htokens : tokenize "(a|)*+b" = .ok [⟨.groupOpen .capturing, "(", 0⟩, ⟨.literal, "a", 1⟩,
      ⟨.alternation, "|", 2⟩, ⟨.groupClose, ")", 3⟩, ⟨.quantifier ⟨.zeroOrMore, true, true⟩, "*+", 4⟩,
      ⟨.literal, "b", 6⟩] := by cbv
  rw [ofPattern, htokens]
  rfl

/-- The atomic group that the possessive quantifier stands for is in normal form, and so are the choice in
it and the sequence around it. -/
theorem wellFormed_ofPattern_possessive :
    ∃ node, ofPattern "(a|)*+b" = .ok node ∧ node.nodes.length = 8 ∧
      ∀ part ∈ node.nodes, part.WellFormed :=
  ⟨_, ofPattern_possessive, rfl, wellFormed_ofPattern ofPattern_possessive⟩

end Railroad.Node
