import Railroad.Proofs.Grammar

/-!
# Groups behind one more group

The number of a group is the number of openers up to its own. With one more opener in front of the pattern
each of them is higher by one, and so are the numbers that references by name are resolved to. References
by number stay as they are written.
-/

namespace Railroad

/-- The leaf behind one more group: a reference that its text makes by name has the next number. -/
def Terminal.raised (t : Terminal) : Terminal :=
  match t.kind with
  | .backreference group =>
    match Token.name? ⟨.namedBackreference, t.raw, 0⟩ with
    | some name => .namedBackreference t.raw name (some (group + 1))
    | none => t
  | _ => t

namespace Node

mutual

/-- The tree behind one more group: every group has the next number, and its label says so. -/
def raised : Node → Node
  | sequence parts => sequence (raisedAll parts)
  | choice options => choice (raisedAll options)
  | quantified repetition greedy content => quantified repetition greedy content.raised
  | group kind (some i) _ content => group kind (some (i + 1)) (kind.label (some (i + 1))) content.raised
  | group kind none label content => group kind none label content.raised
  | terminal t => terminal t.raised

/-- The trees behind one more group. -/
def raisedAll : List Node → List Node
  | [] => []
  | node :: nodes => node.raised :: raisedAll nodes

end

/-- The trees are raised one by one. -/
theorem raisedAll_eq (nodes : List Node) : raisedAll nodes = nodes.map raised := by
  induction nodes with
  | nil => rfl
  | cons node nodes ih => rw [raisedAll, ih, List.map_cons]

/-- Parts are raised one by one. -/
theorem raised_ofParts (parts : List Node) : (ofParts parts).raised = ofParts (parts.map raised) := by
  match parts with
  | [] => rfl
  | [part] => rfl
  | first :: second :: parts =>
    simp only [ofParts, raised, raisedAll_eq, List.map_cons]

/-- Options are raised one by one. -/
theorem raised_ofOptions (options : List Node) :
    (ofOptions options).raised = ofOptions (options.map raised) := by
  match options with
  | [] => rfl
  | [option] => rfl
  | first :: second :: options =>
    simp only [ofOptions, raised, raisedAll_eq, List.map_cons]

/-- A repeated part is raised under its quantifier. -/
theorem raised_quantify (q : Quantifier) (node : Node) :
    (quantify q node).raised = quantify q node.raised := by
  unfold quantify
  cases q.possessive <;> simp [raised]

/-- A reference is no position, whatever its number. -/
theorem isZeroWidth_raised (node : Node) : node.raised.isZeroWidth = node.isZeroWidth := by
  cases node with
  | sequence | choice | quantified => rfl
  | group kind index label content => cases index <;> rfl
  | terminal t =>
    simp only [raised, Terminal.raised]
    split
    · rename_i hkind
      split
      · rw [namedBackreference_isZeroWidth]
        simp [isZeroWidth, hkind]
      · rfl
    · rfl

/-- What has been read inside one pair of parentheses, behind one more group. -/
def Level.raised (level : Level) : Level :=
  ⟨level.options.map Node.raised, level.items.map fun item => ⟨item.node.raised, item.repeated⟩⟩

/-- An open group behind one more group. -/
def OpenGroup.raised (g : OpenGroup) : OpenGroup := ⟨g.outer.raised, g.kind, g.index.map (· + 1)⟩

namespace Progress

/-- How far the tokens have been read, behind one more group. -/
def raised (progress : Progress) : Progress where
  level := progress.level.raised
  groups := progress.groups.map OpenGroup.raised
  next := progress.next + 1
  names := progress.names.map fun (name, number) => (name, number + 1)

/-- How far the tokens have been read, inside some groups that were opened before. -/
def inside (progress : Progress) (groups : List OpenGroup) : Progress :=
  { progress with groups := progress.groups ++ groups }

end Progress

section Raised

variable (level : Level) (g : OpenGroup) (node : Node)

/-- The current alternative is raised part by part. -/
theorem Level.alternative_raised : level.raised.alternative = level.alternative.raised := by
  simp only [alternative, raised, raised_ofParts, ← List.map_reverse, List.map_map]
  rfl

/-- All alternatives are raised one by one. -/
theorem Level.node_raised : level.raised.node = level.node.raised := by
  rw [Level.node, Level.node, raised_ofOptions, Level.alternative_raised]
  simp [Level.raised]

/-- A bar finishes the same alternative. -/
theorem Level.behindBar_raised : level.raised.behindBar = level.behindBar.raised := by
  rw [Level.behindBar, Level.alternative_raised]
  rfl

/-- A group is raised with its content. -/
theorem OpenGroup.closed_raised : g.raised.closed node.raised = (g.closed node).raised := by
  obtain ⟨outer, kind, index⟩ := g
  cases index <;> rfl

end Raised

end Node

/-- Whether a leaf refers to a group by its number. -/
def TerminalKind.refers : TerminalKind → Bool
  | backreference _ => true
  | _ => false

namespace Terminal

/-- A leaf without a group number stays as it is. -/
theorem raised_of_refers {t : Terminal} (h : t.kind.refers = false) : t.raised = t := by
  unfold raised
  split
  · rename_i hkind
    simp [hkind, TerminalKind.refers] at h
  · rfl

/-- No leaf of the table refers to a group. -/
theorem known?_refers {raw : String} {t : Terminal} (h : known? raw = some t) :
    t.kind.refers = false := by
  have htable : ∀ row ∈ knownTable, row.2.1.refers = false := by decide
  obtain ⟨row, hrow, rfl⟩ := Option.map_eq_some_iff.mp h
  exact of_lookup htable hrow

/-- A leaf of the table, or one that is used instead. -/
theorem getD_known?_refers (raw : String) {t : Terminal} (h : t.kind.refers = false) :
    ((known? raw).getD t).kind.refers = false := by
  cases hknown : known? raw with
  | none => exact h
  | some t' => exact known?_refers hknown

/-- A property refers to no group. -/
theorem unicodeProperty_refers (raw : String) (negated : Bool) :
    (unicodeProperty raw negated).kind.refers = false := by
  rw [unicodeProperty_kind]
  rfl

/-- A class refers to no group. -/
theorem bracket_refers (raw : String) : (bracket raw).kind.refers = false := by
  rw [bracket_kind]
  rfl

/-- An escape without another meaning refers to no group. -/
theorem escapedLiteral_refers (raw : String) : (escapedLiteral raw).kind.refers = false := by
  obtain ⟨value, hkind⟩ := escapedLiteral_kind raw
  rw [hkind]
  rfl

end Terminal

/-- The text of a reference tells whether it is made by name. -/
structure Token.ShowsReference (token : Token) : Prop where
  /-- A reference by name has its name in its text. -/
  name_of_named : token.kind = .namedBackreference → ∃ name, token.name? = some name
  /-- A reference by number has no name in its text. -/
  no_name_of_numbered : ∀ number, token.kind = .backreference number → token.name? = none

namespace Node.Progress

/-- The numbers that names are resolved to are all raised. -/
theorem lookup_raised (names : List (String × Nat)) (name : String) :
    (names.map fun (name, number) => (name, number + 1)).lookup name =
      (names.lookup name).map (· + 1) := by
  induction names with
  | nil => rfl
  | cons entry names ih =>
    obtain ⟨other, number⟩ := entry
    rw [List.map_cons, List.lookup_cons, List.lookup_cons, ih]
    cases name == other <;> rfl

/-- A token that stands for itself is read as the same leaf behind one more group. -/
theorem terminal?_raised (progress : Progress) {token : Token} (hshows : token.ShowsReference) :
    progress.raised.terminal? token = (progress.terminal? token).map Terminal.raised := by
  have hsame {t : Terminal} (h : t.kind.refers = false) : some t = (some t).map Terminal.raised := by
    rw [Option.map_some, Terminal.raised_of_refers h]
  unfold terminal?
  dsimp only
  cases hkind : token.kind with
  | charClass | anchor | controlChar => exact hsame (Terminal.getD_known?_refers _ rfl)
  | unicodeProperty negated => exact hsame (Terminal.unicodeProperty_refers _ _)
  | bracket => exact hsame (Terminal.bracket_refers _)
  | complex => exact hsame (Terminal.getD_known?_refers _ rfl)
  | escape => exact hsame (Terminal.escapedLiteral_refers _)
  | inlineFlags | literal => exact hsame rfl
  | backreference number =>
    have hname : Token.name? ⟨.namedBackreference, token.raw, 0⟩ = none :=
      hshows.no_name_of_numbered number hkind
    simp only [Option.map_some, Terminal.raised, Terminal.backreference, hname]
  | namedBackreference =>
    obtain ⟨name, hname⟩ := hshows.name_of_named hkind
    have hname' : Token.name? ⟨.namedBackreference, token.raw, 0⟩ = some name := hname
    simp only [hname, Option.getD_some, Option.map_some]
    rw [Progress.raised, lookup_raised]
    cases progress.names.lookup name with
    | none => rfl
    | some number => simp only [Option.map_some, Terminal.namedBackreference, Terminal.raised, hname']
  | _ => rfl

/-- A group that is opened behind one more group has the next number. -/
theorem openGroup_raised (progress : Progress) (opener : Opener) (token : Token) :
    progress.raised.openGroup opener token = (progress.openGroup opener token).raised := by
  cases opener <;> rfl

/-- A step is the same behind one more group. -/
theorem Step.raised {progress next : Progress} {token : Token} (h : Step progress token next)
    (hshows : token.ShowsReference) : Step progress.raised token next.raised := by
  cases h with
  | opens hkind =>
    rw [← openGroup_raised]
    exact .opens hkind
  | @closes g groups hkind hgroups =>
    have hclosed : Step progress.raised token _ := .closes hkind (congrArg (List.map _) hgroups)
    simp only [Progress.raised, Level.node_raised, OpenGroup.closed_raised] at hclosed
    exact hclosed
  | splits hkind =>
    have hsplit : Step progress.raised token _ := .splits hkind
    simpa only [Progress.raised, Level.behindBar_raised] using hsplit
  | @repeats q item items hkind hitems hfresh hwide =>
    have hitems' : progress.raised.level.items =
        ⟨item.node.raised, item.repeated⟩ :: items.map fun item => ⟨item.node.raised, item.repeated⟩ :=
      congrArg (List.map _) hitems
    have hrepeated := Step.repeats hkind hitems' hfresh ((isZeroWidth_raised item.node).trans hwide)
    simpa only [Progress.raised, Level.raised, List.map_cons, raised_quantify] using hrepeated
  | stands hterminal =>
    refine .stands ?_
    rw [terminal?_raised progress hshows, hterminal]
    rfl

/-- A run is the same behind one more group. -/
theorem run_raised {progress last : Progress} {tokens : List Token}
    (hshows : ∀ token ∈ tokens, token.ShowsReference) (hrun : progress.run tokens = .ok last) :
    progress.raised.run tokens = .ok last.raised := by
  induction tokens generalizing progress with
  | nil =>
    cases hrun
    rfl
  | cons token tokens ih =>
    obtain ⟨next, hstep, hrest⟩ := exists_step_of_run_cons hrun
    rw [run, step_eq_ok_iff.mpr (hstep.raised (hshows token List.mem_cons_self))]
    exact ih (fun other hmem => hshows other (List.mem_cons_of_mem _ hmem)) hrest

/-- A step is the same inside groups that were opened before. -/
theorem Step.inside {progress next : Progress} {token : Token} (h : Step progress token next)
    (groups : List OpenGroup) : Step (progress.inside groups) token (next.inside groups) := by
  cases h with
  | opens hkind => exact .opens hkind
  | closes hkind hgroups => exact .closes hkind (congrArg (· ++ groups) hgroups)
  | splits hkind => exact .splits hkind
  | repeats hkind hitems hfresh hwide => exact .repeats hkind hitems hfresh hwide
  | stands hterminal => exact .stands hterminal

/-- A run is the same inside groups that were opened before. -/
theorem run_inside {progress last : Progress} {tokens : List Token} (groups : List OpenGroup)
    (hrun : progress.run tokens = .ok last) :
    (progress.inside groups).run tokens = .ok (last.inside groups) := by
  induction tokens generalizing progress with
  | nil =>
    cases hrun
    rfl
  | cons token tokens ih =>
    obtain ⟨next, hstep, hrest⟩ := exists_step_of_run_cons hrun
    rw [run, step_eq_ok_iff.mpr (hstep.inside groups)]
    exact ih hrest

end Node.Progress

end Railroad
