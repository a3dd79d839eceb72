import Railroad.Proofs.Spelling

/-!
# Numbers of groups

Capturing groups are numbered by their opening parentheses. The counter is threaded through the run over
the tokens while the numbers are read off the finished tree, so the two orders have to be brought
together: the groups of a tree, the outer one before those inside it, stand in the order of their
openers.
-/

namespace Railroad

/-- Whether the token opens a group that gets a number. -/
def Token.opensCapture (token : Token) : Bool :=
  match token.kind with
  | .groupOpen opener => opener.isCapturing
  | _ => false

/-- The kind of the group that a capturing opener begins: named if the opener has a name to give. -/
def Token.captureKind (token : Token) : GroupKind :=
  if token.kind = .groupOpen .named then .named (token.name?.getD "") else .capturing

namespace Node

/-- A group without its content. -/
structure GroupHead where
  /-- Its kind. -/
  kind : GroupKind
  /-- Its number, if it has one. -/
  index : Option Nat
  deriving DecidableEq, Repr

mutual

/-- The groups of a tree, each in front of those inside it. The group that a possessive quantifier
stands for is among them. -/
def heads : Node → List GroupHead
  | sequence parts => headsOfAll parts
  | choice options => headsOfAll options
  | quantified _ _ content => content.heads
  | group kind index _ content => ⟨kind, index⟩ :: content.heads
  | terminal _ => []

/-- The groups of a list of trees. -/
def headsOfAll : List Node → List GroupHead
  | [] => []
  | node :: nodes => node.heads ++ headsOfAll nodes

end

mutual

/-- The numbers of a tree are those of its groups. -/
theorem captures_eq (node : Node) : node.captures = node.heads.filterMap (·.index) := by
  cases node with
  | sequence parts => exact capturesOfAll_eq parts
  | choice options => exact capturesOfAll_eq options
  | quantified _ _ content => exact captures_eq content
  | group kind index label content =>
    rw [captures, heads, captures_eq content, List.filterMap_cons]
    cases index <;> rfl
  | terminal _ => rfl

/-- The numbers of a list of trees are those of their groups. -/
theorem capturesOfAll_eq (nodes : List Node) :
    capturesOfAll nodes = (headsOfAll nodes).filterMap (·.index) := by
  cases nodes with
  | nil => rfl
  | cons node nodes =>
    rw [capturesOfAll, headsOfAll, captures_eq node, capturesOfAll_eq nodes, List.filterMap_append]

end

/-- A group that has a number, or is of a kind that has one. -/
def GroupHead.counts (head : GroupHead) : Bool := head.kind.isCapturing || head.index.isSome

/-- The groups of a tree that count. -/
def counted (node : Node) : List GroupHead := node.heads.filter GroupHead.counts

/-- Trees in a row show their groups in a row. -/
theorem filter_headsOfAll (nodes : List Node) :
    (headsOfAll nodes).filter GroupHead.counts = nodes.flatMap counted := by
  induction nodes with
  | nil => rfl
  | cons node nodes ih => rw [headsOfAll, List.filter_append, ih, List.flatMap_cons, counted]

/-- Joining lists with nothing between them. -/
theorem intercalate_nil_eq {β : Type} (lists : List (List β)) :
    ([] : List β).intercalate lists = lists.flatten := by
  induction lists with
  | nil => rfl
  | cons first lists ih =>
    cases lists with
    | nil => rw [List.intercalate_singleton, List.flatten_singleton]
    | cons second lists =>
      rw [List.intercalate_cons_cons, List.append_nil, ih, List.flatten_cons (l := first)]

/-- The groups that count, as a spelling. The group of a possessive quantifier is not one of them. -/
def counting : Spelling GroupHead where
  node := counted
  bar := []
  opening := fun kind index => [⟨kind, index⟩].filter GroupHead.counts
  closing := []
  mark := fun _ => []
  node_sequence := fun parts => filter_headsOfAll parts
  node_choice := fun options => by
    rw [intercalate_nil_eq, ← List.flatMap_def]
    exact filter_headsOfAll options
  node_closed := fun g content => by
    rw [counted, OpenGroup.closed, heads, List.append_nil, ← List.singleton_append,
      List.filter_append]
    rfl
  node_quantify := fun q content => by
    rw [List.append_nil]
    obtain ⟨repetition, greedy, possessive⟩ := q
    cases possessive <;> rfl

/-- A token that is read as a terminal opens nothing. -/
theorem opensCapture_of_terminal? {progress : Progress} {token : Token} {t : Terminal}
    (h : progress.terminal? token = some t) : token.opensCapture = false := by
  unfold Token.opensCapture
  split
  · rename_i hkind
    simp only [Progress.terminal?, hkind, reduceCtorEq] at h
  · rfl

/-- A capturing opener takes the next number, and its group is the next one that counts. -/
theorem counting_of_opensCapture {progress next : Progress} {token : Token}
    (hstep : Progress.Step progress token next) (hcapture : token.opensCapture = true) :
    next.next = progress.next + 1 ∧
      counting.token progress token = [⟨token.captureKind, some progress.next⟩] := by
  cases hstep with
  | @opens opener hkind =>
    simp only [Token.opensCapture, hkind] at hcapture
    simp only [Progress.openGroup, hcapture, if_true, Spelling.token, hkind, Progress.number?, true_and]
    cases opener <;> simp only [Opener.isCapturing, Bool.false_eq_true] at hcapture
    · simp only [Token.captureKind, hkind]
      rfl
    · simp only [Token.captureKind, hkind]
      rfl
  | closes hkind => simp only [Token.opensCapture, hkind, Bool.false_eq_true] at hcapture
  | splits hkind => simp only [Token.opensCapture, hkind, Bool.false_eq_true] at hcapture
  | repeats hkind => simp only [Token.opensCapture, hkind, Bool.false_eq_true] at hcapture
  | stands hterminal =>
    rw [opensCapture_of_terminal? hterminal] at hcapture
    cases hcapture

/-- Any other token leaves the numbers alone. -/
theorem counting_of_not_opensCapture {progress next : Progress} {token : Token}
    (hstep : Progress.Step progress token next) (hcapture : token.opensCapture = false) :
    next.next = progress.next ∧ counting.token progress token = [] := by
  cases hstep with
  | @opens opener hkind =>
    simp only [Token.opensCapture, hkind] at hcapture
    simp only [Progress.openGroup, hcapture, Bool.false_eq_true, if_false, Spelling.token, hkind,
      Progress.number?, true_and]
    cases opener <;> simp only [Opener.isCapturing, Bool.true_eq_false] at hcapture <;> rfl
  | closes hkind => exact ⟨rfl, by simp only [Spelling.token, hkind]; rfl⟩
  | splits hkind => exact ⟨rfl, by simp only [Spelling.token, hkind]; rfl⟩
  | repeats hkind => exact ⟨rfl, by simp only [Spelling.token, hkind]; rfl⟩
  | stands hterminal => exact ⟨rfl, counting.token_of_terminal? hterminal⟩

/-- The head that the opener in place `i` among the capturing openers stands for. -/
def captureHead (i : Nat) (token : Token) : GroupHead := ⟨token.captureKind, some (i + 1)⟩

/-- After a run the counter is one above the number of capturing openers, and their groups are the ones
that count, each with the number of its place. -/
theorem counting_run {tokens : List Token} {progress : Progress}
    (hrun : Progress.start.run tokens = .ok progress) :
    progress.next = (tokens.filter Token.opensCapture).length + 1 ∧
      counting.progress progress = (tokens.filter Token.opensCapture).mapIdx captureHead := by
  refine Progress.run_induction (motive := fun read progress =>
    progress.next = (read.filter Token.opensCapture).length + 1 ∧
      counting.progress progress = (read.filter Token.opensCapture).mapIdx captureHead)
    ⟨rfl, rfl⟩ ?_ hrun
  rintro read progress token next ⟨hnext, hcounted⟩ hstep
  rw [counting.progress_step hstep, hcounted, List.filter_append]
  cases hcapture : token.opensCapture with
  | true =>
    obtain ⟨hnumber, htoken⟩ := counting_of_opensCapture hstep hcapture
    have hfilter : [token].filter Token.opensCapture = [token] := List.filter_cons_of_pos hcapture
    rw [hnumber, htoken, hfilter, List.length_append, List.mapIdx_concat, hnext]
    exact ⟨rfl, rfl⟩
  | false =>
    obtain ⟨hnumber, htoken⟩ := counting_of_not_opensCapture hstep hcapture
    have hfilter : [token].filter Token.opensCapture = [] :=
      List.filter_cons_of_neg (Bool.eq_false_iff.mp hcapture)
    rw [hnumber, htoken, hfilter, List.append_nil, List.append_nil]
    exact ⟨hnext, rfl⟩

/-- The kinds of capturing openers are capturing. -/
theorem captureKind_isCapturing (token : Token) : token.captureKind.isCapturing = true := by
  unfold Token.captureKind
  split <;> rfl

/-- Read off in the order of their places, the numbers count up from one. -/
theorem filterMap_index_mapIdx (tokens : List Token) :
    (tokens.mapIdx captureHead).filterMap (·.index) = List.range' 1 tokens.length := by
  have hindex : ((·.index) ∘ fun place : Token × Nat => captureHead place.2 place.1) =
      fun place => some ((fun n => 1 + n) place.2) := by
    funext place
    exact congrArg some (Nat.add_comm _ _)
  calc (tokens.mapIdx captureHead).filterMap (·.index)
      = tokens.zipIdx.filterMap fun place => some ((fun n => 1 + n) place.2) := by
        rw [List.mapIdx_eq_zipIdx_map, List.filterMap_map, hindex]
    _ = (tokens.zipIdx.map (·.2)).map fun n => 1 + n := by
        rw [List.filterMap_eq_map', List.map_map]
        rfl
    _ = List.range' 1 tokens.length := by
        rw [List.zipIdx_map_snd, List.map_add_range']

/-- Leaving out groups that do not count leaves out no number. -/
theorem filterMap_index_counted (node : Node) :
    node.counted.filterMap (·.index) = node.heads.filterMap (·.index) := by
  rw [counted, List.filterMap_filter]
  congr 1
  funext head
  obtain ⟨kind, index⟩ := head
  cases index with
  | none => exact ite_self _
  | some n =>
    rw [GroupHead.counts, Option.isSome_some, Bool.or_true]
    rfl

/-- Leaving out groups that do not count leaves out no capturing group. -/
theorem filter_isCapturing_counted (node : Node) :
    (node.counted.filter fun head => head.kind.isCapturing) =
      node.heads.filter fun head => head.kind.isCapturing := by
  have habsorb : (fun head : GroupHead => head.kind.isCapturing && head.counts) =
      fun head => head.kind.isCapturing := by
    funext head
    rw [GroupHead.counts]
    cases head.kind.isCapturing <;> rfl
  rw [counted, List.filter_filter, habsorb]

/-- The groups that count are those of the capturing openers, in their order. -/
theorem counted_ofTokens {tokens : List Token} {node : Node} (h : ofTokens tokens = .ok node) :
    node.counted = (tokens.filter Token.opensCapture).mapIdx captureHead := by
  obtain ⟨progress, hrun, hgroups, rfl⟩ := ofTokens_eq_ok_iff.mp h
  exact (counting.node_eq_progress hgroups).trans (counting_run hrun).2

/-- A group that counts is of a capturing kind. -/
theorem isCapturing_of_mem_counted {tokens : List Token} {node : Node}
    (h : ofTokens tokens = .ok node) {head : GroupHead} (hmem : head ∈ node.counted) :
    head.kind.isCapturing = true := by
  rw [counted_ofTokens h, List.mem_mapIdx] at hmem
  obtain ⟨i, hi, rfl⟩ := hmem
  exact captureKind_isCapturing _

/-- The capturing openers of the tokens are the capturing groups of the tree in the same order, with
the numbers one, two and so on, and no other group has a number. -/
theorem captures_ofTokens {tokens : List Token} {node : Node} (h : ofTokens tokens = .ok node) :
    node.captures = List.range' 1 (tokens.filter Token.opensCapture).length ∧
      (node.heads.filter fun head => head.kind.isCapturing) =
        (tokens.filter Token.opensCapture).mapIdx captureHead ∧
      ∀ head ∈ node.heads, head.kind.isCapturing = false → head.index = none := by
  have hcounted := counted_ofTokens h
  refine ⟨?_, ?_, ?_⟩
  · rw [captures_eq, ← filterMap_index_counted, hcounted, filterMap_index_mapIdx]
  · have hall : ∀ head ∈ node.counted, head.kind.isCapturing = true :=
      fun head hmem => isCapturing_of_mem_counted h hmem
    rw [← filter_isCapturing_counted, List.filter_eq_self.mpr hall, hcounted]
  · intro head hmem hkind
    cases hindex : head.index with
    | none => rfl
    | some n =>
      have hcounts : head.counts = true := by
        rw [GroupHead.counts, hindex, Option.isSome_some, Bool.or_true]
      have htrue := isCapturing_of_mem_counted h (List.mem_filter.mpr ⟨hmem, hcounts⟩)
      rw [hkind] at htrue
      cases htrue

/-- The tokens of `(a|(?<n>(?=b)(c)*+))|\k<n>`. -/
def nestedGroups : List Token :=
  [⟨.groupOpen .capturing, "(", 0⟩, ⟨.literal, "a", 1⟩, ⟨.alternation, "|", 2⟩,
    ⟨.groupOpen .named, "(?<n>", 3⟩, ⟨.groupOpen .lookAhead, "(?=", 8⟩, ⟨.literal, "b", 11⟩,
    ⟨.groupClose, ")", 12⟩, ⟨.groupOpen .capturing, "(", 13⟩, ⟨.literal, "c", 14⟩,
    ⟨.groupClose, ")", 15⟩, ⟨.quantifier ⟨.zeroOrMore, true, true⟩, "*+", 16⟩,
    ⟨.groupClose, ")", 18⟩, ⟨.groupClose, ")", 19⟩, ⟨.alternation, "|", 20⟩,
    ⟨.namedBackreference, "\\k<n>", 21⟩]

/-- Three numbered groups inside each other, with a lookahead and a possessive quantifier between them. -/
theorem captures_ofTokens_nestedGroups :
    ∃ node, ofTokens nestedGroups = .ok node ∧ node.captures = [1, 2, 3] ∧
      (node.heads.filter fun head => head.kind.isCapturing) =
        [⟨.capturing, some 1⟩, ⟨.named "n", some 2⟩, ⟨.capturing, some 3⟩] ∧
      ∀ head ∈ node.heads, head.kind.isCapturing = false → head.index = none := by
  have htree : ∃ node, ofTokens nestedGroups = .ok node := ⟨_, rfl⟩
  obtain ⟨node, h⟩ := htree
  obtain ⟨hcaptures, hkinds, hothers⟩ := captures_ofTokens h
  refine ⟨node, h, hcaptures, hkinds.trans ?_, hothers⟩
  cbv

end Node

end Railroad
