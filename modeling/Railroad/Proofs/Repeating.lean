import Railroad.Proofs.NormalForm
import Railroad.Proofs.PlainText
import Railroad.Proofs.Slices

/-!
# What quantifiers repeat

A quantifier takes the item that the token in front of it has made. So a repetition in the tree of a pattern
is that of two tokens with at most trivia between them, and the item before it in its sequence stays where it
was. For plain text this means that one character is repeated, and that the rest of its run is the node before
the repetition.
-/

namespace Railroad

namespace Terminal

/-- The terminal shows its own text, as that of plain text does. -/
def IsPlain (t : Terminal) : Prop := t.kind = .literal t.raw

/-- No terminal of the table shows its own text. -/
theorem known?_not_isPlain {raw : String} {t : Terminal} (h : known? raw = some t) : ¬ t.IsPlain := by
  have htable : ∀ entry ∈ knownTable, ∀ value, entry.2.1 ≠ .literal value := by
    simp [knownTable]
  obtain ⟨entry, hlookup, rfl⟩ := Option.map_eq_some_iff.mp h
  exact of_lookup htable hlookup raw

/-- A terminal of another kind than a literal does not show its own text. -/
theorem not_isPlain_of_kind {t : Terminal} {kind : TerminalKind} (h : t.kind = kind)
    (hkind : ∀ value, kind ≠ .literal value) : ¬ t.IsPlain :=
  fun hplain => hkind t.raw (h.symm.trans hplain)

/-- An escape shows what it stands for, without its backslash. -/
theorem escapedLiteral_not_isPlain {raw : String} {body : List Char} (h : raw.toList = '\\' :: body) :
    ¬ (escapedLiteral raw).IsPlain := by
  intro hplain
  unfold IsPlain escapedLiteral at hplain
  rw [h, List.drop_one, List.tail_cons] at hplain
  dsimp only at hplain
  split at hplain
  · rename_i c hdecoded
    have hraw := congrArg String.toList (TerminalKind.literal.inj hplain)
    rw [h, String.toList_singleton] at hraw
    obtain ⟨-, rfl⟩ := List.cons.inj hraw
    cases hdecoded
  · have hraw := congrArg String.toList (TerminalKind.literal.inj hplain)
    rw [literalOf, h, String.toList_ofList] at hraw
    exact List.cons_ne_self _ _ hraw.symm

end Terminal

namespace Token

/-- The kinds of tokens that are looked up in the table. -/
def isKnownKind : Kind → Bool
  | .charClass | .anchor | .controlChar => true
  | _ => false

/-- The table has every escape of such a kind. -/
theorem escapeOf_known {d : Char} {after : List Char} (h : isKnownKind (escapeOf d after).kind = true) :
    (escapeOf d after).length = 2 ∧ (Terminal.known? (String.ofList ['\\', d])).isSome = true := by
  have hletters : ∀ letters ∈ [['d', 'D', 'w', 'W', 's', 'S', 'h', 'H'],
      ['b', 'B', 'A', 'z', 'Z', 'G', '<', '>'], ['n', 'r', 't', 'f', 'v', 'e', 'a']],
      ∀ d ∈ letters, (Terminal.known? (String.ofList ['\\', d])).isSome = true := by
    simp only [List.forall_mem_cons]
    and_intros
    all_goals first
      | exact List.forall_mem_nil _
      | rfl
  unfold escapeOf at h ⊢
  by_cases hclass : ['d', 'D', 'w', 'W', 's', 'S', 'h', 'H'].contains d = true
  · rw [if_pos hclass]
    exact ⟨rfl, hletters _ (by simp) d (List.contains_iff_mem.mp hclass)⟩
  by_cases hanchor : ['b', 'B', 'A', 'z', 'Z', 'G', '<', '>'].contains d = true
  · rw [if_neg hclass, if_pos hanchor]
    exact ⟨rfl, hletters _ (by simp) d (List.contains_iff_mem.mp hanchor)⟩
  by_cases hcontrol : ['n', 'r', 't', 'f', 'v', 'e', 'a'].contains d = true
  · rw [if_neg hclass, if_neg hanchor, if_pos hcontrol]
    exact ⟨rfl, hletters _ (by simp) d (List.contains_iff_mem.mp hcontrol)⟩
  exfalso
  rw [if_neg hclass, if_neg hanchor, if_neg hcontrol] at h
  split at h
  · cases h
  split at h
  · dsimp only at h
    split at h <;> cases h
  split at h
  · rcases namedReference_cases after with hname | ⟨n, hname⟩ <;> rw [hname] at h <;> cases h
  split at h
  · rcases property_cases (d == 'P') after with hproperty | ⟨n, hproperty⟩ <;> rw [hproperty] at h <;> cases h
  split at h
  · cases h
  split at h
  · cases h
  split at h <;> cases h

/-- What stands for a class, an anchor or a control character is in the table. -/
theorem known?_isSome_of_scan {extended : Bool} {c : Char} {rest : List Char} {lexeme : Lexeme}
    (h : scan extended c rest = .ok lexeme) (hkind : isKnownKind lexeme.kind = true) :
    (Terminal.known? (String.ofList ((c :: rest).take lexeme.length))).isSome = true := by
  have hne {kind : Kind} (hno : isKnownKind kind = false) : lexeme.kind ≠ kind := by
    rintro rfl
    rw [hno] at hkind
    cases hkind
  have hplain := scanPlain_of_scan h (hne rfl) fun _ => hne rfl
  unfold scanPlain at hplain
  split at hplain
  · split at hplain
    · cases hplain
    · cases hplain
      obtain ⟨hlength, hknown⟩ := escapeOf_known hkind
      rwa [hlength]
  · cases hplain
    rfl
  · cases hplain
    rfl
  · cases hplain
    rfl
  · cases hplain
    cases hkind
  · cases hplain
    cases hkind
  · cases hplain
    rcases parenthesis_kind rest with hgroup | hname
    · revert hkind hgroup
      cases (parenthesis rest).kind <;> simp [isParenthesisKind, isKnownKind]
    · exact absurd hname (hne rfl)
  · split at hplain
    · cases hplain
      cases hkind
    · cases hplain
  · cases hplain
    cases hkind
  · cases hplain
    cases hkind

/-- Only a token of plain text is read as a terminal that shows its own text. -/
theorem kind_eq_literal_of_isPlain {pattern : String} {tokens : List Token}
    (htokens : tokenize pattern = .ok tokens) {token : Token} (hmem : token ∈ tokens)
    {progress : Node.Progress} {t : Terminal} (h : progress.terminal? token = some t) (ht : t.IsPlain) :
    token.kind = .literal := by
  obtain ⟨extended, place, c, rest, lexeme, hscan, htoken⟩ :=
    (tokensFrom_eq_ok_iff.mp htokens).exists_scan hmem
  have hknown (hkind : isKnownKind token.kind = true) {other : Terminal} :
      ¬ ((Terminal.known? token.raw).getD other).IsPlain := by
    rw [htoken] at hkind ⊢
    obtain ⟨found, hfound⟩ := Option.isSome_iff_exists.mp (known?_isSome_of_scan hscan hkind)
    rw [ofLexeme, hfound]
    exact Terminal.known?_not_isPlain hfound
  have hother {found : Terminal} {kind : TerminalKind} (hkind : found.kind = kind)
      (hno : ∀ value, kind ≠ .literal value) : ¬ found.IsPlain := Terminal.not_isPlain_of_kind hkind hno
  unfold Node.Progress.terminal? at h
  dsimp only at h
  split at h <;> cases h
  all_goals rename_i hkind
  · exact absurd ht (hknown (by rw [hkind]; rfl))
  · exact absurd ht (hknown (by rw [hkind]; rfl))
  · exact absurd ht (hknown (by rw [hkind]; rfl))
  · exact absurd ht (hother (Terminal.unicodeProperty_kind _ _) (by simp))
  · exact absurd ht (hother (Terminal.bracket_kind _) (by simp))
  · exact absurd ht (@hother _ (.backreference _) rfl (by simp))
  · cases hnumber : progress.names.lookup (token.name?.getD "") with
    | some number =>
      rw [hnumber] at ht
      exact absurd ht (@hother _ (.backreference number) rfl (by simp))
    | none =>
      rw [hnumber] at ht
      exact absurd ht (@hother _ .unknown rfl (by simp))
  · cases hfound : Terminal.known? token.raw with
    | some found =>
      rw [hfound] at ht
      exact absurd ht (Terminal.known?_not_isPlain hfound)
    | none =>
      rw [hfound] at ht
      exact absurd ht (@hother _ .unknown rfl (by simp))
  · obtain ⟨body, hbody⟩ := (fitsWording_of_tokenize htokens hmem).2.1 hkind
    exact absurd ht (Terminal.escapedLiteral_not_isPlain hbody)
  · exact absurd ht (@hother _ .modifier rfl (by simp))
  · exact hkind

end Token

namespace Node

variable {repetition : Repetition} {greedy : Bool} {content : Node}

/-- The nodes of several trees are those of each one. -/
theorem mem_nodesOfAll_iff {node : Node} {more : List Node} :
    node ∈ nodesOfAll more ↔ ∃ tree ∈ more, node ∈ tree.nodes := by
  induction more with
  | nil => simp [nodesOfAll]
  | cons first more ih => simp [nodesOfAll, ih]

/-- Parts in a row have the nodes of each part. -/
theorem nodesOfAll_subset_ofParts (parts : List Node) : nodesOfAll parts ⊆ (ofParts parts).nodes := by
  unfold ofParts
  split
  · simp [nodesOfAll]
  · exact List.subset_cons_self _ _

/-- Alternatives have the nodes of each option. -/
theorem nodesOfAll_subset_ofOptions (options : List Node) :
    nodesOfAll options ⊆ (ofOptions options).nodes := by
  unfold ofOptions
  split
  · simp [nodesOfAll]
  · exact List.subset_cons_self _ _

/-- A quantifier leaves the nodes of its tree. -/
theorem nodes_subset_quantify (q : Quantifier) (node : Node) : node.nodes ⊆ (quantify q node).nodes := by
  unfold quantify
  split
  · exact List.subset_cons_of_subset _ (List.subset_cons_self _ _)
  · exact List.subset_cons_self _ _

/-- Parts in a row are repeated one by one. -/
theorem quantified_mem_ofParts {parts : List Node}
    (h : quantified repetition greedy content ∈ (ofParts parts).nodes) :
    quantified repetition greedy content ∈ nodesOfAll parts := by
  unfold ofParts at h
  split at h
  · exact List.mem_append_left _ h
  · exact (List.mem_cons.mp h).resolve_left (by simp)

/-- Alternatives are as well. -/
theorem quantified_mem_ofOptions {options : List Node}
    (h : quantified repetition greedy content ∈ (ofOptions options).nodes) :
    quantified repetition greedy content ∈ nodesOfAll options := by
  unfold ofOptions at h
  split at h
  · exact List.mem_append_left _ h
  · exact (List.mem_cons.mp h).resolve_left (by simp)

/-- A quantifier adds its own repetition. -/
theorem quantified_mem_quantify {q : Quantifier} {node : Node}
    (h : quantified repetition greedy content ∈ (quantify q node).nodes) :
    (q.repetition = repetition ∧ q.greedy = greedy ∧ node = content) ∨
      quantified repetition greedy content ∈ node.nodes := by
  unfold quantify at h
  split at h <;> simpa [nodes, eq_comm] using h

/-- The nodes of the trees that have been read of a level. -/
def Level.nodes (level : Level) : List Node := nodesOfAll (level.options ++ level.items.map (·.node))

/-- They are those of the finished alternatives and of the items. -/
theorem Level.mem_nodes_iff {level : Level} {node : Node} :
    node ∈ level.nodes ↔
      (∃ option ∈ level.options, node ∈ option.nodes) ∨ ∃ item ∈ level.items, node ∈ item.node.nodes := by
  simp [nodes, mem_nodesOfAll_iff, or_and_right, exists_or]

/-- The current alternative has the nodes of its items. -/
theorem Level.mem_alternative {level : Level} {node : Node} {item : Item} (hitem : item ∈ level.items)
    (hnode : node ∈ item.node.nodes) : node ∈ level.alternative.nodes :=
  nodesOfAll_subset_ofParts _ (mem_nodesOfAll_iff.mpr
    ⟨item.node, List.mem_map_of_mem (List.mem_reverse.mpr hitem), hnode⟩)

/-- The current alternative repeats what its items repeat. -/
theorem Level.quantified_mem_alternative {level : Level}
    (h : quantified repetition greedy content ∈ level.alternative.nodes) :
    ∃ item ∈ level.items, quantified repetition greedy content ∈ item.node.nodes := by
  obtain ⟨part, hpart, hmem⟩ := mem_nodesOfAll_iff.mp (quantified_mem_ofParts h)
  obtain ⟨item, hitem, rfl⟩ := List.mem_map.mp hpart
  exact ⟨item, List.mem_reverse.mp hitem, hmem⟩

/-- The tree of a level has the nodes of the trees that have been read. -/
theorem Level.nodes_subset_node (level : Level) : level.nodes ⊆ level.node.nodes := by
  intro node hmem
  refine nodesOfAll_subset_ofOptions _ (mem_nodesOfAll_iff.mpr ?_)
  rcases mem_nodes_iff.mp hmem with ⟨option, hoption, hnode⟩ | ⟨item, hitem, hnode⟩
  · exact ⟨option, List.mem_reverse.mpr (List.mem_cons_of_mem _ hoption), hnode⟩
  · exact ⟨level.alternative, List.mem_reverse.mpr List.mem_cons_self, mem_alternative hitem hnode⟩

/-- The tree of a level repeats what is repeated in the trees that have been read. -/
theorem Level.quantified_mem_node {level : Level}
    (h : quantified repetition greedy content ∈ level.node.nodes) :
    quantified repetition greedy content ∈ level.nodes := by
  obtain ⟨option, hoption, hmem⟩ := mem_nodesOfAll_iff.mp (quantified_mem_ofOptions h)
  rw [List.mem_reverse, List.mem_cons] at hoption
  rcases hoption with rfl | hoption
  · exact mem_nodes_iff.mpr (.inr (quantified_mem_alternative hmem))
  · exact mem_nodes_iff.mpr (.inl ⟨option, hoption, hmem⟩)

/-- A new item adds its nodes. -/
theorem Level.mem_nodes_push {level : Level} {node item : Node} :
    node ∈ (level.push item).nodes ↔ node ∈ item.nodes ∨ node ∈ level.nodes := by
  simp only [mem_nodes_iff, push, List.mem_cons, exists_eq_or_imp]
  exact or_left_comm

/-- Behind a bar the same is repeated as before. -/
theorem Level.quantified_mem_behindBar {level : Level}
    (h : quantified repetition greedy content ∈ level.behindBar.nodes) :
    quantified repetition greedy content ∈ level.nodes := by
  rcases mem_nodes_iff.mp h with ⟨option, hoption, hmem⟩ | ⟨item, hitem, -⟩
  · rcases List.mem_cons.mp hoption with rfl | hoption
    · exact mem_nodes_iff.mpr (.inr (quantified_mem_alternative hmem))
    · exact mem_nodes_iff.mpr (.inl ⟨option, hoption, hmem⟩)
  · exact absurd hitem List.not_mem_nil

/-- The level behind a quantifier for its latest item. -/
theorem Level.quantified_mem_repeated {level : Level} {q : Quantifier} {item : Item} {items : List Item}
    (hitems : level.items = item :: items)
    (h : quantified repetition greedy content ∈ nodes ⟨level.options, ⟨quantify q item.node, true⟩ :: items⟩) :
    (q.repetition = repetition ∧ q.greedy = greedy ∧ item.node = content) ∨
      quantified repetition greedy content ∈ level.nodes := by
  simp only [mem_nodes_iff, List.mem_cons, exists_eq_or_imp, hitems] at h ⊢
  rcases h with hoption | hself | hitem
  · exact .inr (.inl hoption)
  · exact (quantified_mem_quantify hself).imp_right (.inr ∘ .inl)
  · exact .inr (.inr (.inr hitem))

/-- The levels that have been begun, the innermost first. -/
def Progress.levels (progress : Progress) : List Level := progress.level :: progress.groups.map (·.outer)

/-- The terminal has been made of a token, and the token behind it has repeated it. -/
def RepeatedIn (tokens : List Token) (repetition : Repetition) (greedy : Bool) (t : Terminal) : Prop :=
  ∃ front token mark back possessive, ∃ progress : Progress, tokens = front ++ token :: mark :: back ∧
    progress.terminal? token = some t ∧ mark.kind = .quantifier ⟨repetition, greedy, possessive⟩

/-- More tokens may follow. -/
theorem RepeatedIn.append {tokens : List Token} {t : Terminal} (h : RepeatedIn tokens repetition greedy t)
    (more : List Token) : RepeatedIn (tokens ++ more) repetition greedy t := by
  obtain ⟨front, token, mark, back, possessive, progress, rfl, hterminal, hmark⟩ := h
  exact ⟨front, token, mark, back ++ more, possessive, progress, by simp, hterminal, hmark⟩

/-- What is repeated on a level comes from the tokens. -/
def Level.TracedIn (tokens : List Token) (level : Level) : Prop :=
  ∀ repetition greedy t, quantified repetition greedy (terminal t) ∈ level.nodes →
    RepeatedIn tokens repetition greedy t

/-- Where the terminals come from that have been read and those that have been repeated. -/
structure Progress.TracedIn (tokens : List Token) (progress : Progress) : Prop where
  /-- A terminal that is the latest item comes from the latest token. -/
  latest : ∀ t items, progress.level.items = ⟨terminal t, false⟩ :: items →
    ∃ front token, ∃ earlier : Progress, tokens = front ++ [token] ∧ earlier.terminal? token = some t
  /-- A repeated terminal comes from a token in front of a quantifier. -/
  repeated : ∀ level ∈ progress.levels, level.TracedIn tokens

/-- A step keeps the origins of all terminals. -/
theorem Progress.TracedIn.step {read : List Token} {progress next : Progress} {token : Token}
    (h : progress.TracedIn read) (hstep : Step progress token next) : next.TracedIn (read ++ [token]) := by
  have hkept : ∀ level ∈ progress.levels, level.TracedIn (read ++ [token]) :=
    fun level hlevel repetition greedy t hmem => (h.repeated level hlevel repetition greedy t hmem).append _
  unfold levels at hkept
  rw [List.forall_mem_cons] at hkept
  obtain ⟨hlevel, houter⟩ := hkept
  cases hstep with
  | @opens opener _ =>
    have hempty : Level.empty.TracedIn (read ++ [token]) := fun _ _ _ hmem => absurd hmem List.not_mem_nil
    refine ⟨fun t items hitems => ?_, ?_⟩
    · cases hitems
    · exact List.forall_mem_cons.mpr ⟨hempty, List.forall_mem_cons.mpr ⟨hlevel, houter⟩⟩
  | @closes g groups _ hgroups =>
    rw [hgroups, List.map_cons, List.forall_mem_cons] at houter
    refine ⟨fun t items hitems => ?_, List.forall_mem_cons.mpr ⟨fun repetition greedy t hmem => ?_, houter.2⟩⟩
    · cases hitems
    · rcases Level.mem_nodes_push.mp hmem with hgroup | hbefore
      · have hinner := (List.mem_cons.mp hgroup).resolve_left (by simp)
        exact hlevel _ _ _ (Level.quantified_mem_node hinner)
      · exact houter.1 _ _ _ hbefore
  | splits _ =>
    refine ⟨fun t items hitems => ?_, List.forall_mem_cons.mpr ⟨fun repetition greedy t hmem => ?_, houter⟩⟩
    · cases hitems
    · exact hlevel _ _ _ (Level.quantified_mem_behindBar hmem)
  | @repeats q item items hkind hitems hfresh hwide =>
    refine ⟨fun t others hothers => ?_, List.forall_mem_cons.mpr ⟨fun repetition greedy t hmem => ?_, houter⟩⟩
    · simp at hothers
    · rcases Level.quantified_mem_repeated hitems hmem with ⟨rfl, rfl, hnode⟩ | hbefore
      · -- the quantifier of this token stands behind that of the item
        obtain ⟨node, repeated⟩ := item
        obtain rfl : node = terminal t := hnode
        obtain rfl : repeated = false := hfresh
        obtain ⟨front, first, earlier, rfl, hterminal⟩ := h.latest t items hitems
        exact ⟨front, first, token, [], q.possessive, earlier, by simp, hterminal, hkind⟩
      · exact hlevel _ _ _ hbefore
  | @stands t hterminal =>
    refine ⟨fun other items hitems => ?_, List.forall_mem_cons.mpr ⟨fun repetition greedy other hmem => ?_, houter⟩⟩
    · cases hitems
      exact ⟨read, token, progress, rfl, hterminal⟩
    · rcases Level.mem_nodes_push.mp hmem with hself | hbefore
      · simp [nodes] at hself
      · exact hlevel _ _ _ hbefore

/-- In the tree of tokens every repeated terminal comes from a token in front of a quantifier. -/
theorem repeatedIn_of_run {tokens : List Token} {last : Progress} {t : Terminal}
    (hrun : Progress.start.run tokens = .ok last)
    (h : quantified repetition greedy (terminal t) ∈ last.level.node.nodes) :
    RepeatedIn tokens repetition greedy t := by
  have hstart : Progress.start.TracedIn [] := by
    refine ⟨fun t items hitems => ?_, List.forall_mem_singleton.mpr fun _ _ _ hmem => ?_⟩
    · cases hitems
    · exact absurd hmem List.not_mem_nil
  have hlast : last.TracedIn tokens :=
    Progress.run_induction (motive := fun read progress => progress.TracedIn read) hstart
      (fun h hstep => h.step hstep) hrun
  exact hlast.repeated last.level List.mem_cons_self _ _ _ (Level.quantified_mem_node h)

/-- Two trees follow each other in a sequence of a tree. -/
def Adjoins (first second node : Node) : Prop :=
  ∃ parts, sequence parts ∈ node.nodes ∧ [first, second] <:+: parts

variable {first second : Node}

/-- Trees that follow each other in a part do so in the whole. -/
theorem Adjoins.of_subset {node whole : Node} (h : Adjoins first second node)
    (hsubset : node.nodes ⊆ whole.nodes) : Adjoins first second whole := by
  obtain ⟨parts, hmem, hparts⟩ := h
  exact ⟨parts, hsubset hmem, hparts⟩

/-- Two trees follow each other on a level: in a tree that has been read, or as two items of which the second
has its quantifier. -/
def Level.Adjoins (first second : Node) (level : Level) : Prop :=
  (∃ newer older repeated, level.items = newer ++ ⟨second, true⟩ :: ⟨first, repeated⟩ :: older) ∨
    ∃ parts, sequence parts ∈ level.nodes ∧ [first, second] <:+: parts

namespace Level.Adjoins

variable {level : Level}

/-- Two items follow each other in the current alternative. -/
theorem alternative {newer older : List Item} {repeated : Bool}
    (h : level.items = newer ++ ⟨second, true⟩ :: ⟨first, repeated⟩ :: older) :
    Node.Adjoins first second level.alternative := by
  have hparts : level.items.reverse.map (·.node) =
      older.reverse.map (·.node) ++ [first, second] ++ newer.reverse.map (·.node) := by
    simp [h]
  have hseveral : ∀ part, level.items.reverse.map (·.node) ≠ [part] := by
    intro part heq
    have hlength := congrArg List.length (hparts.symm.trans heq)
    simp only [List.length_append, List.length_cons, List.length_nil] at hlength
    omega
  refine ⟨level.items.reverse.map (·.node), ?_, older.reverse.map (·.node), newer.reverse.map (·.node),
    hparts.symm⟩
  unfold Level.alternative ofParts
  split
  · rename_i part heq
    exact absurd heq (hseveral part)
  · exact List.mem_cons_self

/-- They follow each other in the tree of the level. -/
theorem node (h : level.Adjoins first second) : Node.Adjoins first second level.node := by
  rcases h with ⟨newer, older, repeated, hitems⟩ | ⟨parts, hmem, hparts⟩
  · refine (alternative hitems).of_subset fun node hmem => ?_
    exact nodesOfAll_subset_ofOptions _
      (mem_nodesOfAll_iff.mpr ⟨_, List.mem_reverse.mpr List.mem_cons_self, hmem⟩)
  · exact ⟨parts, level.nodes_subset_node hmem, hparts⟩

/-- One more item stands behind them. -/
theorem push (h : level.Adjoins first second) (node : Node) : (level.push node).Adjoins first second := by
  rcases h with ⟨newer, older, repeated, hitems⟩ | ⟨parts, hmem, hparts⟩
  · exact .inl ⟨⟨node, false⟩ :: newer, older, repeated, congrArg _ hitems⟩
  · exact .inr ⟨parts, mem_nodes_push.mpr (.inr hmem), hparts⟩

/-- A tree in which they follow each other is an item now. -/
theorem push_of_node {node : Node} (h : Node.Adjoins first second node) (level : Level) :
    (level.push node).Adjoins first second := by
  obtain ⟨parts, hmem, hparts⟩ := h
  exact .inr ⟨parts, mem_nodes_push.mpr (.inl hmem), hparts⟩

/-- A bar closes the alternative in which they are. -/
theorem behindBar (h : level.Adjoins first second) : level.behindBar.Adjoins first second := by
  right
  rcases h with ⟨newer, older, repeated, hitems⟩ | ⟨parts, hmem, hparts⟩
  · obtain ⟨parts, hmem, hparts⟩ := alternative hitems
    exact ⟨parts, mem_nodes_iff.mpr (.inl ⟨level.alternative, List.mem_cons_self, hmem⟩), hparts⟩
  · refine ⟨parts, mem_nodes_iff.mpr (.inl ?_), hparts⟩
    rcases mem_nodes_iff.mp hmem with ⟨option, hoption, hnode⟩ | ⟨item, hitem, hnode⟩
    · exact ⟨option, List.mem_cons_of_mem _ hoption, hnode⟩
    · exact ⟨level.alternative, List.mem_cons_self, mem_alternative hitem hnode⟩

/-- A quantifier takes an item behind them. -/
theorem repeated (h : level.Adjoins first second) {item : Item} {items : List Item}
    (hitems : level.items = item :: items) (hfresh : item.repeated = false) (q : Quantifier) :
    Level.Adjoins first second ⟨level.options, ⟨quantify q item.node, true⟩ :: items⟩ := by
  rcases h with ⟨newer, older, repeated, heq⟩ | ⟨parts, hmem, hparts⟩
  · rw [hitems] at heq
    cases newer with
    | nil =>
      obtain ⟨rfl, -⟩ := List.cons.inj heq
      cases hfresh
    | cons _ newer =>
      obtain ⟨-, rfl⟩ := List.cons.inj heq
      exact .inl ⟨_ :: newer, older, repeated, rfl⟩
  · refine .inr ⟨parts, ?_, hparts⟩
    simp only [mem_nodes_iff, hitems, List.mem_cons, exists_eq_or_imp] at hmem ⊢
    exact hmem.imp_right (.imp_left fun hnode => nodes_subset_quantify q item.node hnode)

end Level.Adjoins

/-- Two trees follow each other on a level. -/
def Progress.Adjoins (first second : Node) (progress : Progress) : Prop :=
  ∃ level ∈ progress.levels, level.Adjoins first second

/-- Trees that follow each other on a level do so behind a step. -/
theorem Progress.Adjoins.step {progress next : Progress} {token : Token} (h : progress.Adjoins first second)
    (hstep : Step progress token next) : next.Adjoins first second := by
  unfold Adjoins levels at h ⊢
  rw [List.exists_mem_cons_iff] at h ⊢
  cases hstep with
  | @opens opener _ => exact .inr ((List.exists_mem_cons_iff _ _ _).mpr h)
  | @closes g groups _ hgroups =>
    rw [hgroups, List.map_cons, List.exists_mem_cons_iff] at h
    rcases h with hinner | houter | hmore
    · have hgroup : Node.Adjoins first second (g.closed progress.level.node) :=
        hinner.node.of_subset (List.subset_cons_self _ _)
      exact .inl (.push_of_node hgroup _)
    · exact .inl (houter.push _)
    · exact .inr hmore
  | splits _ => exact h.imp_left (·.behindBar)
  | @repeats q item items hkind hitems hfresh hwide => exact h.imp_left (·.repeated hitems hfresh q)
  | @stands t hterminal => exact h.imp_left (·.push _)

/-- They do so behind every run. -/
theorem Progress.Adjoins.run {progress last : Progress} {tokens : List Token}
    (h : progress.Adjoins first second) (hrun : progress.run tokens = .ok last) :
    last.Adjoins first second :=
  @Progress.run_keeps (fun _ progress => progress.Adjoins first second) (fun h hstep => h.step hstep)
    [] _ _ _ h hrun

/-- A token of plain text is an item of its own. -/
theorem Progress.step_of_literal {progress next : Progress} {token : Token}
    (hstep : Step progress token next) (hkind : token.kind = .literal) :
    next = { progress with level := progress.level.push (.terminal (.literal token.raw)) } := by
  have hterminal : progress.terminal? token = some (.literal token.raw) := by simp only [terminal?, hkind]
  have hstep := step_eq_ok_iff.mpr hstep
  rw [step_of_terminal? hterminal] at hstep
  cases hstep
  rfl

/-- In the tree of tokens plain text in front of a repetition stands before it. -/
theorem adjoins_of_run {front back : List Token} {before token mark : Token} {q : Quantifier}
    {last : Progress} (hrun : Progress.start.run (front ++ before :: token :: mark :: back) = .ok last)
    (hgroups : last.groups = []) (hbefore : before.kind = .literal) (htoken : token.kind = .literal)
    (hmark : mark.kind = .quantifier q) :
    Adjoins (terminal (.literal before.raw)) (quantify q (terminal (.literal token.raw)))
      last.level.node := by
  obtain ⟨progress, -, hrun⟩ := Progress.exists_run_of_run_append hrun
  obtain ⟨one, hone, hrun⟩ := Progress.exists_step_of_run_cons hrun
  obtain ⟨two, htwo, hrun⟩ := Progress.exists_step_of_run_cons hrun
  obtain ⟨three, hthree, hrun⟩ := Progress.exists_step_of_run_cons hrun
  obtain rfl := Progress.step_of_literal hone hbefore
  obtain rfl := Progress.step_of_literal htwo htoken
  have hrepeats := Progress.step_eq_ok_iff.mpr hthree
  simp only [Progress.step, hmark, Level.push, isZeroWidth, Terminal.literal, Terminal.literalOf,
    Bool.false_eq_true, if_false] at hrepeats
  cases hrepeats
  have hread {read : Progress} (hitems : read.level.items =
      ⟨quantify q (terminal (.literal token.raw)), true⟩ ::
        ⟨terminal (.literal before.raw), false⟩ :: progress.level.items) :
      read.Adjoins (terminal (.literal before.raw)) (quantify q (terminal (.literal token.raw))) :=
    ⟨read.level, List.mem_cons_self, .inl ⟨[], progress.level.items, false, hitems⟩⟩
  obtain ⟨level, hlevel, hadjoins⟩ := (hread rfl).run hrun
  rw [Progress.levels, hgroups, List.map_nil] at hlevel
  obtain rfl := List.mem_singleton.mp hlevel
  exact hadjoins.node

end Node

namespace Token

/-- Where a quantifier follows a token, trivia apart, it follows it in the pattern. -/
theorem quantifierFollows_of_filter {tokens front back : List Token} {token mark : Token} {q : Quantifier}
    (h : tokens.filter (·.kind != .trivia) = front ++ token :: mark :: back)
    (hmark : mark.kind = .quantifier q) :
    ∃ front back, tokens = front ++ token :: back ∧ QuantifierFollows q back := by
  obtain ⟨before, rest, rfl, -, hrest⟩ := List.filter_eq_append_iff.mp h
  obtain ⟨gap, behind, rfl, -, -, hbehind⟩ := List.filter_eq_cons_iff.mp hrest
  obtain ⟨trivia, more, rfl, htrivia, -, -⟩ := List.filter_eq_cons_iff.mp hbehind
  refine ⟨before ++ gap, trivia ++ mark :: more, by simp, trivia, mark, more, rfl, ?_, hmark⟩
  intro other hmem
  simpa using htrivia other hmem

/-- A quantifier that follows is next, trivia apart. -/
theorem filter_of_quantifierFollows {tokens : List Token} {q : Quantifier} (h : QuantifierFollows q tokens) :
    ∃ mark back, tokens.filter (·.kind != .trivia) = mark :: back ∧ mark.kind = .quantifier q := by
  obtain ⟨gap, mark, back, rfl, hgap, hmark⟩ := h
  refine ⟨mark, back.filter (·.kind != .trivia), ?_, hmark⟩
  have hnone : gap.filter (·.kind != .trivia) = [] := by
    rw [List.filter_eq_nil_iff]
    intro other hmem
    simp [hgap other hmem]
  rw [List.filter_append, hnone, List.nil_append, List.filter_cons_of_pos (by simp [hmark])]

end Token

namespace Node

open Token (QuantifierFollows SplitsRuns)

/-- What a tree repeats of the plain text among its tokens. -/
structure RepeatsOne (tokens : List Token) (node : Node) : Prop where
  /-- Repeated plain text is one character, which is a token with the quantifier behind it. -/
  single : ∀ repetition greedy t, quantified repetition greedy (terminal t) ∈ node.nodes → t.IsPlain →
    ∃ front token back possessive, tokens = front ++ token :: back ∧ token.kind = .literal ∧
      t = .literal token.raw ∧ token.raw.length = 1 ∧
      QuantifierFollows ⟨repetition, greedy, possessive⟩ back
  /-- Plain text directly in front of it is the node before the repetition. -/
  before : ∀ front rest token back q, tokens = front ++ rest :: token :: back → rest.kind = .literal →
    token.kind = .literal → QuantifierFollows q back →
      Adjoins (terminal (.literal rest.raw)) (quantify q (terminal (.literal token.raw))) node

/-- Plain text in front of a quantifier is one character, with blanks and comments between the two or
without; and where a run of plain text is cut in two, it is cut in front of such a character or beside an
opening brace. So the tree of a pattern repeats single characters of plain text, and what is in front of one of
them in its run is the node before the repetition. -/
theorem ofPattern_repeatsOne {pattern : String} {tokens : List Token}
    (htokens : tokenize pattern = .ok tokens) :
    SplitsRuns tokens ∧ ∀ node, ofPattern pattern = .ok node → RepeatsOne tokens node := by
  have hruns : SplitsRuns tokens := (Token.tokensFrom_eq_ok_iff.mp htokens).splitsRuns
  refine ⟨hruns, fun node hnode => ?_⟩
  obtain ⟨_, last, hsame, hrun, hgroups, rfl⟩ := exists_run_of_ofPattern hnode
  obtain rfl := Except.ok.inj (htokens.symm.trans hsame)
  constructor
  · intro repetition greedy t hmem hplain
    obtain ⟨read, token, mark, behind, possessive, progress, hread, hterminal, hmark⟩ :=
      repeatedIn_of_run hrun hmem
    obtain ⟨front, back, rfl, hfollows⟩ := Token.quantifierFollows_of_filter hread hmark
    have hkind := Token.kind_eq_literal_of_isPlain htokens
      (List.mem_append_right _ List.mem_cons_self) hterminal hplain
    simp only [Progress.terminal?, hkind, Option.some_inj] at hterminal
    exact ⟨front, token, back, possessive, rfl, hkind, hterminal.symm,
      hruns.single _ _ _ _ rfl hkind hfollows, hfollows⟩
  · rintro front rest token back q rfl hrest htoken hfollows
    obtain ⟨mark, behind, hbehind, hmark⟩ := Token.filter_of_quantifierFollows hfollows
    have hfiltered : (front ++ rest :: token :: back).filter (·.kind != .trivia) =
        front.filter (·.kind != .trivia) ++ rest :: token :: mark :: behind := by
      rw [List.filter_append, List.filter_cons_of_pos (by simp [hrest]),
        List.filter_cons_of_pos (by simp [htoken]), hbehind]
    rw [hfiltered] at hrun
    exact adjoins_of_run hrun hgroups hrest htoken hmark

/-- Runs of plain text in the extended notation: the comment in front of the quantifier has a plus sign of its
own, and a brace without a repetition stands between two runs. -/
theorem tokenize_plainRuns :
    tokenize "(?x)ab é庫 # +\n\x7b2,3\x7d+x\x7bb" = .ok [⟨.inlineFlags, "(?x)", 0⟩, ⟨.literal, "ab", 4⟩,
      ⟨.trivia, " ", 6⟩, ⟨.literal, "é", 7⟩, ⟨.literal, "庫", 9⟩, ⟨.trivia, " # +\n", 12⟩,
      ⟨.quantifier ⟨.between 2 3, true, true⟩, "\x7b2,3\x7d+", 17⟩, ⟨.literal, "x", 23⟩,
      ⟨.literal, "\x7b", 24⟩, ⟨.literal, "b", 25⟩] := by cbv

/-- One character of such a run is repeated, and the one in front of it is the node before. -/
theorem ofPattern_repeatsOne_plainRuns :
    ∃ node, ofPattern "(?x)ab é庫 # +\n\x7b2,3\x7d+x\x7bb" = .ok node ∧
      Adjoins (terminal (.literal "é"))
        (quantify ⟨.between 2 3, true, true⟩ (terminal (.literal "庫"))) node := by
  have hnode : ∃ node, ofPattern "(?x)ab é庫 # +\n\x7b2,3\x7d+x\x7bb" = .ok node := by
    rw [ofPattern, tokenize_plainRuns]
    exact ⟨_, rfl⟩
  obtain ⟨node, hnode⟩ := hnode
  have hbefore := ((ofPattern_repeatsOne tokenize_plainRuns).2 node hnode).before
  exact ⟨node, hnode, hbefore [⟨.inlineFlags, "(?x)", 0⟩, ⟨.literal, "ab", 4⟩, ⟨.trivia, " ", 6⟩] _ _ _ _ rfl
    rfl rfl ⟨[⟨.trivia, " # +\n", 12⟩], _, _, rfl, by simp, rfl⟩⟩

end Node

end Railroad
