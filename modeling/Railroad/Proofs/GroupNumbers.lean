import Railroad.Proofs.EngineGroups
import Railroad.Proofs.Openings
import Railroad.Proofs.QuantifierText
import Railroad.Proofs.Reports

/-!
# Two numberings of groups

A host numbers the capturing parentheses of a pattern, and the tree numbers the groups that its tokens open. Both
count from one on in the order of opening, so they agree exactly if they count the same parentheses. They do not
where a conditional has parentheses in its condition: the host reads the condition as an expression, and for the
tree it is part of the opener. Every group behind it has a higher number for the host, by as many parentheses as
are hidden in front of it.
-/

namespace Railroad

open TemplatePart (IsNumeral)
open Token (captureOffsets inCondition)

/-- A host numbers the capturing parentheses of a pattern in the order in which they open. The parentheses are given
by their places, and `matched` is what each of them has in a match. -/
structure Host.Numbers {ε μ : Type} (host : Host ε μ) (pattern : String) (matcher : μ) (places : List Nat)
    (matched : Captures → Nat → Option Span) : Prop where
  /-- The parentheses are in order. -/
  increasing : places.Pairwise (· < ·)
  /-- They are characters of the pattern. -/
  parenthesis : ∀ place ∈ places,
    ∃ front back, pattern.toList = front ++ '(' :: back ∧ Text.byteLength front = place
  /-- The groups of a match are what the parentheses have, in their order. -/
  groups_eq : ∀ everywhere text found, host.findMatches matcher everywhere text = .ok found →
    ∀ captures ∈ found, captures.groups = places.map (matched captures)

/-- Outside the conditions of conditionals, the parentheses at some places are those at which tokens open groups
with numbers. -/
def ReadsAlike (tokens : List Token) (places : List Nat) : Prop :=
  ∀ place, inCondition tokens place = false → (place ∈ places ↔ place ∈ captureOffsets tokens)

/-- The number of parentheses in conditions that stand in front of a place. -/
def hiddenBefore (tokens : List Token) (places : List Nat) (place : Nat) : Nat :=
  places.countP fun other => inCondition tokens other && decide (other < place)

/-- The text of a stretch. It is empty where there is no stretch. -/
def Subject.textOf (text : Subject) (span? : Option Span) : List Char :=
  (span?.map fun span => text.between span.start span.stop).getD []

/-- How the numbers of a tree and those of a host differ where only conditions are read in two ways. -/
structure Shifted (tokens : List Token) (places : List Nat) (tree : Node) : Prop where
  /-- The host has as many groups as the tree, and those of conditions besides. -/
  length_eq : places.length = tree.captures.length + places.countP (inCondition tokens)
  /-- The parenthesis of a group of the tree has a higher number for the host, by those that are hidden in front
  of it. -/
  getElem?_iff : ∀ i place, (captureOffsets tokens)[i]? = some place →
    ∀ n, places[n]? = some place ↔ n = i + hiddenBefore tokens places place
  /-- So the same parentheses have the same numbers exactly if none of them is in a condition. -/
  eq_iff : places = captureOffsets tokens ↔ ∀ place ∈ places, inCondition tokens place = false
  /-- It is enough that the conditions have no parentheses, as those that only refer to a group. -/
  eq_of_forall_condition : (∀ token ∈ tokens, token.kind = .groupOpen .conditional →
    ∀ condition, token.condition? = some condition → '(' ∉ condition.toList) → places = captureOffsets tokens

/-- How the numbers of a tree go together with those of a host, which numbers the parentheses at some places. -/
structure Numberings (tokens : List Token) (places : List Nat) (tree : Node) : Prop where
  /-- The capturing groups of the tree are those that tokens open, with the numbers one, two and so on. -/
  heads_eq : (tree.heads.filter fun head => head.kind.isCapturing) =
    (tokens.filter Token.opensCapture).mapIdx Node.captureHead
  /-- There are as many groups on both sides, and each has the same parenthesis on both sides, exactly if the host
  numbers the parentheses at which tokens open groups. -/
  agree_iff : (tree.captures.length = places.length ∧
    ∀ (i place : Nat), (captureOffsets tokens)[i]? = some place → places[i]? = some place) ↔
      places = captureOffsets tokens
  /-- Where they differ in conditions only, the numbers of the host are shifted. -/
  shifted : ReadsAlike tokens places → Shifted tokens places tree

/-- What the report of a match has for the groups of a host and of a tree, where `matched` is what their parentheses
have. -/
structure GroupsReported (tokens : List Token) (places : List Nat) (matched : Nat → Option Span)
    (names : List (String × Nat)) (text : Subject) (captures : Captures) (one : MatchReport) : Prop where
  /-- There is a group for each of the parentheses that the host numbers, besides the whole match. -/
  length_eq : one.groups.length = places.length + 1
  /-- A group is reported with the number that its parenthesis has for the host. -/
  group_eq : ∀ n place, places[n]? = some place →
    one.groups[n + 1]? = some (String.ofList (text.textOf (matched place)))
  /-- A dollar sign with this number inserts it. -/
  expand_eq : ∀ n place, places[n]? = some place → n + 1 < UInt64.size →
    Bytewise.expand (.ofCaptures names text captures) ('$' :: Nat.toDigits 10 (n + 1)) =
      some (text.textOf (matched place))
  /-- So a group of the tree is reported behind the groups that are hidden in front of it. -/
  tree_group_eq : ReadsAlike tokens places → ∀ i place, (captureOffsets tokens)[i]? = some place →
    one.groups[i + hiddenBefore tokens places place + 1]? = some (String.ofList (text.textOf (matched place)))

/-- In a list that increases, an element stands behind as many as are smaller. -/
theorem getElem?_eq_some_iff_countP {list : List Nat} (h : list.Pairwise (· < ·)) {value : Nat}
    (hmem : value ∈ list) (n : Nat) :
    list[n]? = some value ↔ n = list.countP fun other => decide (other < value) := by
  induction list generalizing n with
  | nil => cases hmem
  | cons first list ih =>
    obtain ⟨hfirst, hlist⟩ := List.pairwise_cons.mp h
    rcases List.mem_cons.mp hmem with rfl | hmem
    · have hnone : (value :: list).countP (fun other => decide (other < value)) = 0 := by
        refine List.countP_eq_zero.mpr fun other hother hlt => ?_
        rcases List.mem_cons.mp hother with rfl | hother
        · exact Nat.lt_irrefl _ (of_decide_eq_true hlt)
        · exact Nat.lt_asymm (hfirst other hother) (of_decide_eq_true hlt)
      rw [hnone]
      cases n with
      | zero => simp
      | succ n =>
        simp only [List.getElem?_cons_succ, Nat.add_eq_zero_iff, Nat.one_ne_zero, and_false, iff_false]
        exact fun hn => Nat.lt_irrefl _ (hfirst value (List.mem_of_getElem? hn))
    · have hlt := hfirst value hmem
      have hcount : (first :: list).countP (fun other => decide (other < value)) =
          list.countP (fun other => decide (other < value)) + 1 := List.countP_cons_of_pos (decide_eq_true hlt)
      rw [hcount]
      cases n with
      | zero =>
        simp only [List.getElem?_cons_zero, Option.some.injEq]
        omega
      | succ n => rw [List.getElem?_cons_succ, ih hlist hmem, Nat.add_right_cancel_iff]

/-- Leaving out blanks and comments leaves out no opener. -/
theorem Token.filter_opensCapture_filter (tokens : List Token) :
    (tokens.filter (·.kind != .trivia)).filter Token.opensCapture =
      tokens.filter Token.opensCapture := by
  have hopener : ∀ token : Token, (token.opensCapture && token.kind != .trivia) = token.opensCapture := by
    intro token
    unfold Token.opensCapture
    split
    · rename_i hkind
      rw [hkind]
      exact Bool.and_true _
    · rfl
  rw [List.filter_filter]
  exact List.filter_congr fun token _ => hopener token

/-- The capturing groups of the tree of a pattern are those that its tokens open, numbered from one on. -/
theorem Node.captures_ofPattern {pattern : String} {tree : Node} {tokens : List Token}
    (htree : Node.ofPattern pattern = .ok tree) (htokens : tokenize pattern = .ok tokens) :
    tree.captures.length = (captureOffsets tokens).length ∧
      (tree.heads.filter fun head => head.kind.isCapturing) =
        (tokens.filter Token.opensCapture).mapIdx captureHead := by
  rw [Node.ofPattern, htokens] at htree
  dsimp only at htree
  split at htree
  · cases htree
  · rename_i hofTokens
    cases htree
    obtain ⟨hcaptures, hheads, -⟩ := captures_ofTokens hofTokens
    rw [Token.filter_opensCapture_filter] at hcaptures hheads
    refine ⟨?_, hheads⟩
    rw [hcaptures, List.length_range', captureOffsets, List.length_map]

section ReadsAlike

variable {pattern : String} {tokens : List Token} {places : List Nat}

/-- Without those in conditions, the parentheses are those at which tokens open groups. -/
theorem ReadsAlike.filter_eq (h : ReadsAlike tokens places) (hplaces : places.Pairwise (· < ·))
    (htokens : tokenize pattern = .ok tokens) :
    (places.filter fun place => !inCondition tokens place) = captureOffsets tokens := by
  have hcuts := Token.tokensFrom_eq_ok_iff.mp htokens
  refine (hplaces.filter _).eq_of_mem_iff hcuts.pairwise_captureOffsets fun place => ?_
  rw [List.mem_filter, Bool.not_eq_true']
  constructor
  · rintro ⟨hmem, houtside⟩
    exact (h place houtside).mp hmem
  · intro hmem
    have houtside := hcuts.inCondition_of_mem_captureOffsets hmem
    exact ⟨(h place houtside).mpr hmem, houtside⟩

/-- The parenthesis of a group of the tree stands behind as many as in the tree, and behind those that are hidden in
front of it. -/
theorem ReadsAlike.getElem?_iff (h : ReadsAlike tokens places) (hplaces : places.Pairwise (· < ·))
    (htokens : tokenize pattern = .ok tokens) {i place : Nat} (hplace : (captureOffsets tokens)[i]? = some place)
    (n : Nat) : places[n]? = some place ↔ n = i + hiddenBefore tokens places place := by
  have hmem := List.mem_of_getElem? hplace
  rw [← h.filter_eq hplaces htokens] at hplace hmem
  have hi := (getElem?_eq_some_iff_countP (hplaces.filter _) hmem i).mp hplace
  rw [List.countP_filter] at hi
  rw [getElem?_eq_some_iff_countP hplaces (List.mem_of_mem_filter hmem),
    List.countP_eq_countP_filter_add places _ (inCondition tokens), List.countP_filter, List.countP_filter]
  have hhidden : (places.countP fun other => decide (other < place) && inCondition tokens other) =
      hiddenBefore tokens places place :=
    congrArg (places.countP ·) (funext fun _ => Bool.and_comm _ _)
  rw [hhidden, ← hi, Nat.add_comm]

/-- There are as many parentheses as tokens open groups, and those in conditions besides. -/
theorem ReadsAlike.length_eq (h : ReadsAlike tokens places) (hplaces : places.Pairwise (· < ·))
    (htokens : tokenize pattern = .ok tokens) :
    places.length = (captureOffsets tokens).length + places.countP (inCondition tokens) := by
  rw [List.length_eq_length_filter_add (inCondition tokens), h.filter_eq hplaces htokens,
    List.countP_eq_length_filter, Nat.add_comm]

/-- The parentheses are those at which tokens open groups exactly if none of them is in a condition. -/
theorem ReadsAlike.eq_iff (h : ReadsAlike tokens places) (hplaces : places.Pairwise (· < ·))
    (htokens : tokenize pattern = .ok tokens) :
    places = captureOffsets tokens ↔ ∀ place ∈ places, inCondition tokens place = false := by
  rw [← h.filter_eq hplaces htokens, eq_comm, List.filter_eq_self]
  simp only [Bool.not_eq_true']

end ReadsAlike

/-- Where conditions have no parentheses, no parenthesis of the pattern is in one. -/
theorem inCondition_eq_false {pattern : String} {tokens : List Token} (htokens : tokenize pattern = .ok tokens)
    (hconditions : ∀ token ∈ tokens, token.kind = .groupOpen .conditional →
      ∀ condition, token.condition? = some condition → '(' ∉ condition.toList)
    {front back : List Char} (htext : pattern.toList = front ++ '(' :: back) :
    inCondition tokens (Text.byteLength front) = false := by
  refine Bool.eq_false_iff.mpr fun hhidden => ?_
  rw [← Nat.zero_add (Text.byteLength front)] at hhidden
  obtain ⟨token, htoken, hkind, condition, hcondition, hparenthesis⟩ :=
    (Token.tokensFrom_eq_ok_iff.mp htokens).mem_condition htext hhidden
  exact hconditions token htoken hkind condition hcondition hparenthesis

/-- The numbers of a tree and those of a host that numbers parentheses in the order in which they open. -/
theorem Host.Numbers.numberings {ε μ : Type} {host : Host ε μ} {pattern : String} {tree : Node}
    {tokens : List Token} {matcher : μ} {places : List Nat} {matched : Captures → Nat → Option Span}
    (h : host.Numbers pattern matcher places matched) (htree : Node.ofPattern pattern = .ok tree)
    (htokens : tokenize pattern = .ok tokens) : Numberings tokens places tree := by
  obtain ⟨hlength, hheads⟩ := Node.captures_ofPattern htree htokens
  refine ⟨hheads, ?_, fun halike => ⟨?_, ?_, halike.eq_iff h.increasing htokens, ?_⟩⟩
  · constructor
    · rintro ⟨hcount, hsame⟩
      refine List.ext_getElem (hcount.symm.trans hlength) fun i _ hi => ?_
      exact (List.getElem?_eq_some_iff.mp (hsame i _ (List.getElem?_eq_getElem hi))).2
    · rintro rfl
      exact ⟨hlength, fun _ _ hplace => hplace⟩
  · rw [hlength, halike.length_eq h.increasing htokens]
  · exact fun i place hplace n => halike.getElem?_iff h.increasing htokens hplace n
  · intro hconditions
    refine (halike.eq_iff h.increasing htokens).mpr fun place hmem => ?_
    obtain ⟨front, back, htext, rfl⟩ := h.parenthesis place hmem
    exact inCondition_eq_false htokens hconditions htext

/-- The text of a group from number one on. -/
theorem text_ofCaptures_succ (names : List (String × Nat)) (text : Subject) (captures : Captures) (n : Nat) :
    (GroupTexts.ofCaptures names text captures).text (n + 1) = text.textOf (captures.groups[n]?.join) := by
  rw [GroupTexts.text, GroupTexts.ofCaptures, List.getElem?_cons_succ, List.getElem?_map, Subject.textOf]
  cases captures.groups[n]? <;> rfl

/-- The text of a group is the one that is reported for it. -/
theorem getElem?_groups_ofCaptures {text : Subject} {captures : Captures} {number : Nat}
    (hlt : number < (GroupTexts.ofCaptures [] text captures).texts.length) :
    (MatchReport.ofCaptures text captures).groups[number]? =
      some (String.ofList ((GroupTexts.ofCaptures [] text captures).text number)) := by
  rw [MatchReport.ofCaptures, List.getElem?_map, GroupTexts.text, List.getElem?_eq_getElem hlt]
  rfl

/-- A numeral that fits behind a dollar sign is a reference by number. -/
theorem reference?_of_isNumeral {digits : List Char} (h : IsNumeral digits)
    (hfits : Text.decimalValue digits < UInt64.size) :
    Piece.reference? digits = some (.group (Text.decimalValue digits) ('$' :: digits), digits.length) := by
  have hall : digits.takeWhile Char.isDigit = digits := List.takeWhile_eq_self_iff.mpr h.2
  have hfirst : ∀ c ∈ digits.head?, c.isDigit = true := fun c hc => h.2 c (List.mem_of_mem_head? hc)
  fun_cases Piece.reference? digits with
  | case1 | case2 | case3 | case4 => exact absurd (hfirst _ rfl) (by decide)
  | case5 =>
    rw [Piece.bare?, hall, groupNumber?_eq, if_pos ⟨h, hfits⟩]
    rfl

/-- A dollar sign and the number of a group stand for the text of the group. -/
theorem expand_number {groups : GroupTexts} {number : Nat} (hfits : number < UInt64.size)
    (hlt : number < groups.texts.length) :
    expand ('$' :: Nat.toDigits 10 number) groups = groups.text number := by
  have hnumeral : IsNumeral (Nat.toDigits 10 number) :=
    ⟨Nat.toDigits_ne_nil, fun _ hmem => Nat.isDigit_of_mem_toDigits (by decide) (by decide) hmem⟩
  have hvalue := Text.decimalValue_toDigits number
  rw [expand_found (reference?_of_isNumeral hnumeral (by rwa [hvalue])), hvalue, Piece.fill, if_pos hlt,
    List.drop_length, expand, Piece.ofTemplate, List.flatMap_nil, List.append_nil]

/-- The report of a match has the groups of the match. -/
theorem Bytewise.groups_of_report {subject : List Char} {captures : Captures} {one : MatchReport}
    (h : report subject captures = some one) :
    one.groups = (MatchReport.ofCaptures subject.toArray captures).groups := by
  obtain ⟨before, -, hone⟩ := Option.bind_eq_some_iff.mp h
  rw [← Option.some.inj hone]

/-- Matches are reported one by one, each with its groups. -/
theorem Bytewise.forall₂_groups {subject : List Char} {found : List Captures} {reports : List MatchReport}
    (h : found.mapM (report subject) = some reports) :
    List.Forall₂ (fun captures one => one.groups = (MatchReport.ofCaptures subject.toArray captures).groups)
      found reports := by
  induction found generalizing reports with
  | nil =>
    cases h
    exact .nil
  | cons captures found ih =>
    rw [List.mapM_cons] at h
    obtain ⟨one, hone, hmore⟩ := Option.bind_eq_some_iff.mp h
    obtain ⟨more, hmore, hreports⟩ := Option.bind_eq_some_iff.mp hmore
    rw [← Option.some.inj hreports]
    exact .cons (groups_of_report hone) (ih hmore)

/-- The report of a run has the groups of the matches. -/
theorem Bytewise.forall₂_groups_of_ofCaptures {template : List Char} {names : List (String × Nat)}
    {subject : List Char} {found : List Captures} {report : ProcessReport}
    (h : ofCaptures template names subject found = some report) :
    List.Forall₂ (fun captures one => one.groups = (MatchReport.ofCaptures subject.toArray captures).groups)
      found report.found := by
  obtain ⟨reports, hreports, hreplaced⟩ := Option.bind_eq_some_iff.mp h
  obtain ⟨replaced, -, hmade⟩ := Option.bind_eq_some_iff.mp hreplaced
  rw [← Option.some.inj hmade]
  exact forall₂_groups hreports

/-- What a host numbers is what is reported of a match, and inserted. -/
theorem Host.Numbers.groupsReported {ε μ : Type} {host : Host ε μ} {pattern : String} {tokens : List Token}
    {matcher : μ} {places : List Nat} {matched : Captures → Nat → Option Span}
    (h : host.Numbers pattern matcher places matched) (htokens : tokenize pattern = .ok tokens)
    {everywhere : Bool} {text : Subject} {found : List Captures}
    (hfound : host.findMatches matcher everywhere text = .ok found) {captures : Captures} (hmem : captures ∈ found)
    (names : List (String × Nat)) {one : MatchReport}
    (hone : one.groups = (MatchReport.ofCaptures text captures).groups) :
    GroupsReported tokens places (matched captures) names text captures one := by
  have hgroups := h.groups_eq everywhere text found hfound captures hmem
  have hlength : ∀ names, (GroupTexts.ofCaptures names text captures).texts.length = places.length + 1 := by
    intro names
    rw [GroupTexts.ofCaptures, List.length_cons, List.length_map, hgroups, List.length_map]
  have hlt : ∀ names n place, places[n]? = some place →
      n + 1 < (GroupTexts.ofCaptures names text captures).texts.length := by
    intro names n place hplace
    rw [hlength]
    exact Nat.add_lt_add_right (List.getElem?_eq_some_iff.mp hplace).1 1
  have htext : ∀ names n place, places[n]? = some place →
      (GroupTexts.ofCaptures names text captures).text (n + 1) = text.textOf (matched captures place) := by
    intro names n place hplace
    rw [text_ofCaptures_succ, hgroups, List.getElem?_map, hplace]
    rfl
  have hgroup : ∀ n place, places[n]? = some place →
      one.groups[n + 1]? = some (String.ofList (text.textOf (matched captures place))) := by
    intro n place hplace
    rw [hone, getElem?_groups_ofCaptures (hlt [] n place hplace), htext [] n place hplace]
  refine ⟨?_, hgroup, fun n place hplace hfits => ?_, fun halike i place hplace => ?_⟩
  · rw [hone, MatchReport.ofCaptures, List.length_map, hlength]
  · rw [Bytewise.expand_eq, expand_number hfits (hlt names n place hplace), htext names n place hplace]
  · exact hgroup _ place ((halike.getElem?_iff h.increasing htokens hplace _).mpr rfl)

/-- The tokens of `(?((a))b|c)(d)`, a conditional with a group in its condition and a group behind it. -/
def groupInCondition : List Token :=
  [⟨.groupOpen .conditional, "(?((a))", 0⟩, ⟨.literal, "b", 7⟩, ⟨.alternation, "|", 8⟩,
    ⟨.literal, "c", 9⟩, ⟨.groupClose, ")", 10⟩, ⟨.groupOpen .capturing, "(", 11⟩,
    ⟨.literal, "d", 12⟩, ⟨.groupClose, ")", 13⟩]

/-- The tree of the pattern has one group, the one behind the conditional. -/
theorem captures_groupInCondition :
    tokenize "(?((a))b|c)(d)" = .ok groupInCondition ∧
      ∃ tree, Node.ofPattern "(?((a))b|c)(d)" = .ok tree ∧ tree.captures.length = 1 := by
  have htokens : tokenize "(?((a))b|c)(d)" = .ok groupInCondition := by cbv
  have hkept : groupInCondition.filter (·.kind != .trivia) = groupInCondition := by decide
  obtain ⟨tree, htree⟩ : ∃ tree, Node.ofTokens groupInCondition = .ok tree := ⟨_, rfl⟩
  have hpattern : Node.ofPattern "(?((a))b|c)(d)" = .ok tree := by
    rw [Node.ofPattern, htokens]
    dsimp only
    rw [hkept, htree]
  exact ⟨htokens, tree, hpattern, (Node.captures_ofPattern hpattern htokens).1⟩

/-- What the engine has for the parentheses of the pattern: the one in the condition first, then the one behind
the conditional. -/
def matchedInCondition (captures : Captures) (place : Nat) : Option Span :=
  if place = 3 then captures.groups[0]?.join else captures.groups[1]?.join

/-- The engine numbers both parentheses of the pattern. -/
theorem numbers_groupInCondition {matcher : Regex.Matcher}
    (hmatcher : Regex.host.compile "(?((a))b|c)(d)" = .ok matcher) :
    Regex.host.Numbers "(?((a))b|c)(d)" matcher [3, 11] matchedInCondition where
  increasing := by decide
  parenthesis := by
    have hcondition : ∃ front back, "(?((a))b|c)(d)".toList = front ++ '(' :: back ∧ Text.byteLength front = 3 :=
      ⟨"(?(".toList, "a))b|c)(d)".toList, by decide, by decide⟩
    have hbehind : ∃ front back, "(?((a))b|c)(d)".toList = front ++ '(' :: back ∧ Text.byteLength front = 11 :=
      ⟨"(?((a))b|c)".toList, "d)".toList, by decide, by decide⟩
    exact List.forall_mem_cons.mpr ⟨hcondition, List.forall_mem_singleton.mpr hbehind⟩
  groups_eq := by
    intro everywhere text found hfound captures hmem
    obtain ⟨outline, hread, -, hgroups⟩ := Regex.groups_of_compile hmatcher
    have hnumbers : (Regex.read "(?((a))b|c)(d)").map
        (fun outline => (outline.expr.groups, outline.expr.isHard outline.referenced)) = .ok ([1, 2], true) := by cbv
    rw [hread] at hnumbers
    obtain ⟨hnumbers, hhard⟩ := Prod.mk.inj (Except.ok.inj hnumbers)
    have hlength := (hgroups everywhere text found hfound captures hmem).2 hhard
    rw [hnumbers] at hlength
    obtain ⟨first, second, hpair⟩ := List.length_eq_two.mp hlength
    rw [hpair, List.map_cons, List.map_cons, matchedInCondition, matchedInCondition, hpair]
    rfl

/-- Outside the condition there is one parenthesis, for both. -/
theorem readsAlike_groupInCondition : ReadsAlike groupInCondition [3, 11] := by
  intro place houtside
  have hoffsets : captureOffsets groupInCondition = [11] := by decide
  rw [hoffsets, List.mem_cons]
  refine or_iff_right ?_
  rintro rfl
  exact absurd houtside (by decide)

/-- The engine reports and inserts the group in the condition as the first. -/
theorem process_groupInCondition :
    Bytewise.processWith Regex.host "(?((a))b|c)(d)" "abd" "[$1$2]" ⟨false, false, false⟩ =
      some (.ok ⟨[⟨0, ["abd", "a", "d"]⟩], "[ad]"⟩) := by
  cbv

end Railroad
