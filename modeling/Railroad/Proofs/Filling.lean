import Railroad.Proofs.Grouping

/-!
# Trees without empty choices

A choice is made of the alternatives of a level, and the current alternative is always one of them. So
every choice in the tree of a pattern has an option.
-/

namespace Railroad.Node

mutual

/-- Every choice in the tree has an option. -/
def Filled : Node → Prop
  | sequence parts => FilledAll parts
  | choice options => options ≠ [] ∧ FilledAll options
  | quantified _ _ content => content.Filled
  | group _ _ _ content => content.Filled
  | terminal _ => True

/-- Every choice in the trees of a list has an option. -/
def FilledAll : List Node → Prop
  | [] => True
  | node :: nodes => node.Filled ∧ FilledAll nodes

end

/-- The choices in the trees of a list are those in each of them. -/
theorem filledAll_iff {nodes : List Node} : FilledAll nodes ↔ ∀ node ∈ nodes, node.Filled := by
  induction nodes with
  | nil => exact iff_of_true trivial (List.forall_mem_nil _)
  | cons node nodes ih => rw [List.forall_mem_cons, ← ih]; rfl

/-- Parts in a row, whether or not they make a sequence. -/
theorem filled_ofParts {parts : List Node} (h : ∀ part ∈ parts, part.Filled) :
    (ofParts parts).Filled := by
  unfold ofParts
  split
  · exact h _ List.mem_cons_self
  · exact filledAll_iff.mpr h

/-- Options of which there is one, whether or not they make a choice. -/
theorem filled_ofOptions {options : List Node} (hne : options ≠ [])
    (h : ∀ option ∈ options, option.Filled) : (ofOptions options).Filled := by
  unfold ofOptions
  split
  · exact h _ List.mem_cons_self
  · exact ⟨hne, filledAll_iff.mpr h⟩

/-- A repetition adds no choice. -/
theorem filled_quantify (q : Quantifier) {node : Node} (h : node.Filled) :
    (quantify q node).Filled := by
  unfold quantify
  cases q.possessive with
  | true => exact h
  | false => exact h

/-- Every choice in a level has an option. -/
structure Level.Filled (level : Level) : Prop where
  /-- In the finished alternatives. -/
  options : ∀ option ∈ level.options, option.Filled
  /-- In the items of the current one. -/
  items : ∀ item ∈ level.items, item.node.Filled

namespace Level.Filled

variable {level : Level}

/-- Nothing holds no choice. -/
theorem empty : Level.empty.Filled := ⟨List.forall_mem_nil _, List.forall_mem_nil _⟩

/-- The current alternative. -/
theorem alternative (h : level.Filled) : level.alternative.Filled := by
  refine filled_ofParts ?_
  intro part hpart
  obtain ⟨item, hitem, rfl⟩ := List.mem_map.mp hpart
  exact h.items item (List.mem_reverse.mp hitem)

/-- The tree of a level has the current alternative, so it may be a choice. -/
theorem node (h : level.Filled) : level.node.Filled := by
  refine filled_ofOptions (mt List.reverse_eq_nil_iff.mp (List.cons_ne_nil _ _)) ?_
  intro option hoption
  rcases List.mem_cons.mp (List.mem_reverse.mp hoption) with rfl | hfinished
  · exact h.alternative
  · exact h.options option hfinished

/-- A level with one more item. -/
theorem push (h : level.Filled) {node : Node} (hnode : node.Filled) : (level.push node).Filled :=
  ⟨h.options, List.forall_mem_cons.mpr ⟨hnode, h.items⟩⟩

/-- A level behind a bar. -/
theorem behindBar (h : level.Filled) : level.behindBar.Filled :=
  ⟨List.forall_mem_cons.mpr ⟨h.alternative, h.options⟩, List.forall_mem_nil _⟩

end Level.Filled

/-- Every choice in what has been read has an option. -/
structure Progress.Filled (progress : Progress) : Prop where
  /-- In the innermost level. -/
  level : progress.level.Filled
  /-- Outside the open groups. -/
  groups : ∀ g ∈ progress.groups, g.outer.Filled

/-- A step keeps it. -/
theorem Progress.Filled.step {progress next : Progress} {token : Token} (h : progress.Filled)
    (hstep : Step progress token next) : next.Filled := by
  cases hstep with
  | opens _ => exact ⟨.empty, List.forall_mem_cons.mpr ⟨h.level, h.groups⟩⟩
  | @closes g groups _ hgroups =>
    have houter := h.groups
    rw [hgroups, List.forall_mem_cons] at houter
    exact ⟨houter.1.push h.level.node, houter.2⟩
  | splits _ => exact ⟨h.level.behindBar, h.groups⟩
  | @repeats q item items _ hitems _ _ =>
    have hread := h.level.items
    rw [hitems, List.forall_mem_cons] at hread
    exact ⟨⟨h.level.options, List.forall_mem_cons.mpr ⟨filled_quantify q hread.1, hread.2⟩⟩, h.groups⟩
  | stands _ => exact ⟨h.level.push trivial, h.groups⟩

/-- Every choice in the tree of a pattern has an option. -/
theorem filled_ofPattern {pattern : String} {node : Node} (h : ofPattern pattern = .ok node) :
    node.Filled := by
  obtain ⟨_, last, -, hrun, -, rfl⟩ := exists_run_of_ofPattern h
  have hread : last.Filled :=
    Progress.run_induction (motive := fun _ progress => progress.Filled) ⟨.empty, List.forall_mem_nil _⟩
      (fun h hstep => h.step hstep) hrun
  exact hread.level.node

end Railroad.Node
