import Railroad.Proofs.Reading

/-!
# Reading a tree from left to right

A spelling turns a tree into a list whose order is the order of the tokens. Whatever the spelling shows
of a tree, it also shows of a tree that is being built, and each step adds to the end what its token
stands for. The shape of the tree, which leaves out sequences and choices of one member, is dealt with
here once for all spellings.
-/

namespace Railroad.Node

/-- A way of reading trees from left to right. -/
structure Spelling (β : Type) where
  /-- What a tree shows. -/
  node : Node → List β
  /-- What stands between two options. -/
  bar : List β
  /-- What stands at the beginning of a group. -/
  opening : GroupKind → Option Nat → List β
  /-- What stands at the end of a group. -/
  closing : List β
  /-- What stands behind a repeated item. -/
  mark : Quantifier → List β
  /-- A sequence shows its parts in order. -/
  node_sequence : ∀ parts, node (.sequence parts) = parts.flatMap node
  /-- A choice shows its options in order. -/
  node_choice : ∀ options, node (.choice options) = bar.intercalate (options.map node)
  /-- A group shows its content between its two ends. -/
  node_closed : ∀ (g : OpenGroup) content,
    node (g.closed content) = opening g.kind g.index ++ node content ++ closing
  /-- A repeated item is shown as it is, and the mark behind it. -/
  node_quantify : ∀ q content, node (quantify q content) = node content ++ mark q

namespace Spelling

variable {β : Type} (s : Spelling β)

/-- What a level shows. -/
def level (level : Level) : List β :=
  (level.options.reverse.flatMap fun option => s.node option ++ s.bar) ++
    level.items.reverse.flatMap fun item => s.node item.node

/-- What the open groups show, with everything in front of the innermost opener. -/
def groups : List OpenGroup → List β
  | [] => []
  | g :: outer => groups outer ++ s.level g.outer ++ s.opening g.kind g.index

/-- What has been read shows. -/
def progress (progress : Progress) : List β := s.groups progress.groups ++ s.level progress.level

/-- What a token stands for where it is read. -/
def token (progress : Progress) (token : Token) : List β :=
  match token.kind with
  | .groupOpen opener => s.opening (Progress.kindOf opener token) (progress.number? opener)
  | .groupClose => s.closing
  | .alternation => s.bar
  | .quantifier q => s.mark q
  | _ => (progress.terminal? token).elim [] fun t => s.node (.terminal t)

/-- Parts in a row are shown in order, whether or not they make a sequence. -/
theorem node_ofParts (parts : List Node) : s.node (ofParts parts) = parts.flatMap s.node := by
  unfold ofParts
  split
  · rw [List.flatMap_singleton]
  · exact s.node_sequence parts

/-- Lists joined by a separator, the last one apart. -/
theorem intercalate_concat (separator : List β) (lists : List (List β)) (last : List β) :
    separator.intercalate (lists ++ [last]) = (lists.flatMap (· ++ separator)) ++ last := by
  induction lists with
  | nil => rw [List.nil_append, List.intercalate_singleton, List.flatMap_nil, List.nil_append]
  | cons first lists ih =>
    have hne : lists ++ [last] ≠ [] := List.append_ne_nil_of_right_ne_nil _ (List.cons_ne_nil _ _)
    rw [List.cons_append, List.intercalate_cons_of_ne_nil hne, ih, List.flatMap_cons]
    simp only [List.append_assoc]

/-- Options are shown in order, whether or not they make a choice. -/
theorem node_ofOptions (options : List Node) (last : Node) :
    s.node (ofOptions (options ++ [last])) =
      (options.flatMap fun option => s.node option ++ s.bar) ++ s.node last := by
  have hchoice := s.node_choice (options ++ [last])
  rw [List.map_append, List.map_singleton, intercalate_concat, List.flatMap_map] at hchoice
  cases options with
  | nil => rfl
  | cons first options =>
    rw [← hchoice]
    unfold ofOptions
    split
    · rename_i hsingle
      have hlength := congrArg List.length hsingle
      simp only [List.length_append, List.length_cons, List.length_nil] at hlength
      omega
    · rfl

/-- The tree of a level shows what the level shows. -/
theorem node_level (level : Level) : s.node level.node = s.level level := by
  rw [Level.node, List.reverse_cons, node_ofOptions, Level.alternative, node_ofParts,
    List.flatMap_map]
  rfl

/-- An item at the end of a level is shown at its end. -/
theorem level_push (level : Level) (node : Node) :
    s.level (level.push node) = s.level level ++ s.node node := by
  simp only [Spelling.level, Level.push, List.reverse_cons, List.flatMap_append,
    List.flatMap_singleton, List.append_assoc]

/-- A bar is shown at the end of its level. -/
theorem level_behindBar (level : Level) : s.level level.behindBar = s.level level ++ s.bar := by
  have halternative : s.node level.alternative =
      level.items.reverse.flatMap fun item => s.node item.node := by
    rw [Level.alternative, node_ofParts, List.flatMap_map]
  simp only [Spelling.level, Level.behindBar, List.reverse_cons, List.flatMap_append,
    List.flatMap_singleton, halternative, List.reverse_nil, List.flatMap_nil, List.append_nil,
    List.append_assoc]

/-- A quantifier is shown at the end of its level, behind the item that it takes. -/
theorem level_quantify (q : Quantifier) (options : List Node) (item : Item) (items : List Item) :
    s.level ⟨options, ⟨quantify q item.node, true⟩ :: items⟩ =
      s.level ⟨options, item :: items⟩ ++ s.mark q := by
  simp only [Spelling.level, List.reverse_cons, List.flatMap_append, List.flatMap_singleton,
    s.node_quantify, List.append_assoc]

/-- A token that is read as a terminal shows the terminal. -/
theorem token_of_terminal? {progress : Progress} {token : Token} {t : Terminal}
    (h : progress.terminal? token = some t) : s.token progress token = s.node (.terminal t) := by
  refine (Progress.match_kind_of_terminal? h _ _ _ _ _).trans ?_
  rw [h]
  rfl

/-- A step adds at the end what its token stands for. -/
theorem progress_step {progress next : Progress} {token : Token}
    (h : Progress.Step progress token next) :
    s.progress next = s.progress progress ++ s.token progress token := by
  cases h with
  | opens hkind =>
    simp only [Spelling.token, hkind, Spelling.progress, Progress.openGroup, groups,
      Spelling.level, Level.empty, List.reverse_nil, List.flatMap_nil, List.append_nil,
      List.append_assoc]
  | @closes g groups hkind hgroups =>
    simp only [Spelling.token, hkind, Spelling.progress, hgroups, Spelling.groups, level_push,
      s.node_closed, node_level, List.append_assoc]
  | splits hkind =>
    simp only [Spelling.token, hkind, Spelling.progress, level_behindBar, List.append_assoc]
  | @repeats q item items hkind hitems =>
    have hlevel : progress.level = ⟨progress.level.options, item :: items⟩ := by rw [← hitems]
    simp only [Spelling.token, hkind, Spelling.progress, level_quantify, ← hlevel,
      List.append_assoc]
  | stands hterminal =>
    simp only [s.token_of_terminal? hterminal, Spelling.progress, level_push, List.append_assoc]

/-- The tree that a run ends with shows what the run has read. -/
theorem node_eq_progress {progress : Progress} (hgroups : progress.groups = []) :
    s.node progress.level.node = s.progress progress := by
  rw [node_level, Spelling.progress, hgroups, Spelling.groups, List.nil_append]

end Spelling

end Railroad.Node
