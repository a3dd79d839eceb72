import Mathlib.Data.List.SplitBy
import Railroad.Proofs.CharacterNumbers
import Railroad.Proofs.PlainText

/-!
# Patterns for a text as it is

A text becomes a pattern for itself by a backslash in front of each character at which plain text ends. Such a
character is then a token with its backslash, and what stands between two of them is one run of plain text. All
tokens are literals, so the tree is a row of leaves, and their values are the text.
-/

namespace Railroad

namespace Token

/-- The text with a backslash in front of each character at which plain text ends. -/
def shielded (text : List Char) : List Char :=
  text.flatMap fun c => if isSpecial c then ['\\', c] else [c]

/-- The text cut in front of each such character and behind it. -/
def pieces (text : List Char) : List (List Char) :=
  text.splitBy fun c d => isPlain false c && isPlain false d

/-- The characters at which plain text ends are those that are not plain, as long as the extended flag is off. -/
theorem isPlain_false (c : Char) : isPlain false c = !isSpecial c := by
  rw [isPlain, Bool.false_and, Bool.not_false, Bool.and_true]

/-- A text is built from its end by such characters and by runs of plain text in front of them. -/
theorem pieces_induction {motive : List Char → Prop} (nil : motive [])
    (special : ∀ c rest, isSpecial c = true → motive rest → motive (c :: rest))
    (run : ∀ run rest, run ≠ [] → (∀ c ∈ run, isPlain false c = true) →
      (∀ c ∈ rest.head?, isSpecial c = true) → motive rest → motive (run ++ rest))
    (text : List Char) : motive text := by
  induction hn : text.length using Nat.strongRecOn generalizing text with
  | ind n ih =>
    cases text with
    | nil => exact nil
    | cons c rest =>
      cases hc : isSpecial c with
      | true => exact special c rest hc (ih rest.length (hn ▸ Nat.lt_succ_self _) rest rfl)
      | false =>
        have hplain : isPlain false c = true := by rw [isPlain_false, hc, Bool.not_false]
        have hsplit := List.takeWhile_append_dropWhile (p := isPlain false) (l := c :: rest)
        have hrun : (c :: rest).takeWhile (isPlain false) ≠ [] := by
          rw [List.takeWhile_cons_of_pos hplain]
          exact List.cons_ne_nil _ _
        have hpos := List.length_pos_iff.mpr hrun
        have hlength := congrArg List.length hsplit
        rw [List.length_append, hn] at hlength
        rw [← hsplit]
        refine run _ _ hrun (List.all_eq_true.mp List.all_takeWhile) (fun d hd => ?_) (ih _ (by omega) _ rfl)
        have hstop := List.head?_dropWhile_not (isPlain false) (c :: rest)
        rw [Option.mem_def.mp hd] at hstop
        exact (Bool.not_eq_eq_eq_not).mp ((isPlain_false d).symm.trans hstop)

/-- Such a character is a piece by itself. -/
theorem pieces_special {c : Char} (h : isSpecial c = true) (rest : List Char) :
    pieces (c :: rest) = [c] :: pieces rest := by
  have hc : isPlain false c = false := by rw [isPlain_false, h, Bool.not_true]
  refine List.splitBy_append (l := [c]) fun x hx y _ => ?_
  obtain rfl : c = x := Option.some.inj hx
  rw [hc, Bool.false_and]

/-- A run of plain text is a piece as well. -/
theorem pieces_run {run rest : List Char} (hne : run ≠ []) (hrun : ∀ c ∈ run, isPlain false c = true)
    (hrest : ∀ c ∈ rest.head?, isSpecial c = true) : pieces (run ++ rest) = run :: pieces rest := by
  have happend : pieces (run ++ rest) = pieces run ++ pieces rest := by
    refine List.splitBy_append fun x _ y hy => ?_
    rw [isPlain_false y, hrest y hy, Bool.not_true, Bool.and_false]
  have hwhole : pieces run = [run] := by
    refine List.splitBy_of_isChain hne (List.Pairwise.isChain ?_)
    refine List.pairwise_of_forall_mem_list fun c hc d hd => ?_
    rw [hrun c hc, hrun d hd, Bool.and_true]
  rw [happend, hwhole, List.singleton_append]

/-- The pieces put side by side are the text. -/
theorem join_pieces (text : String) : String.join ((pieces text.toList).map String.ofList) = text := by
  have hsame : String.toList ∘ String.ofList = id := funext fun _ => String.toList_ofList
  rw [String.join_eq, List.map_map, hsame, List.map_id, pieces, List.flatten_splitBy, String.ofList_toList]

/-- Nothing stands in front of a plain character. -/
theorem shielded_run {run : List Char} (hrun : ∀ c ∈ run, isPlain false c = true) (rest : List Char) :
    shielded (run ++ rest) = run ++ shielded rest := by
  have hkept : shielded run = run := by
    refine (List.flatMap_congr fun c hmem => ?_).trans (List.flatMap_singleton' run)
    have hc := hrun c hmem
    rw [isPlain_false, Bool.not_eq_true'] at hc
    rw [hc, if_neg Bool.false_ne_true]
  rw [shielded, List.flatMap_append]
  exact congrArg (· ++ shielded rest) hkept

/-- A backslash stands in front of any other. -/
theorem shielded_special {c : Char} (h : isSpecial c = true) (rest : List Char) :
    shielded (c :: rest) = '\\' :: c :: shielded rest := by
  rw [shielded, List.flatMap_cons, if_pos h]
  rfl

/-- Behind a run of plain text either nothing is left or a backslash follows. -/
theorem shielded_cases {rest : List Char} (h : ∀ c ∈ rest.head?, isSpecial c = true) :
    shielded rest = [] ∨ ∃ more, shielded rest = '\\' :: more := by
  cases rest with
  | nil => exact .inl rfl
  | cons c rest => exact .inr ⟨_, shielded_special (h c rfl) rest⟩

/-- The backslash makes an escape without a meaning of its own. -/
theorem escapeOf_special {c : Char} (h : isSpecial c = true) (after : List Char) :
    escapeOf c after = ⟨.escape, 2⟩ := by
  have hall : ∀ c ∈ ['\\', '(', ')', '[', '.', '+', '*', '?', '\x7b', '^', '$', '|'],
      escapeOf c after = ⟨.escape, 2⟩ := by
    simp only [List.forall_mem_cons]
    and_intros
    all_goals first
      | exact List.forall_mem_nil _
      | rfl
  exact hall c (List.contains_iff_mem.mp h)

/-- A run in front of a backslash, or at the end, is kept as a whole. -/
theorem plainLength_run {run tail : List Char} (hrun : ∀ c ∈ run, isPlain false c = true)
    (htail : tail = [] ∨ ∃ more, tail = '\\' :: more) : plainLength false (run ++ tail) = run.length := by
  have hstop : tail.takeWhile (isPlain false) = [] ∧ tail.dropWhile (isPlain false) = tail ∧
      quantifier? tail = none := by
    rcases htail with rfl | ⟨more, rfl⟩
    · exact ⟨rfl, rfl, rfl⟩
    · exact ⟨rfl, rfl, rfl⟩
  obtain ⟨htake, hdrop, hnone⟩ := hstop
  rw [plainLength_eq, List.takeWhile_append_of_pos hrun, List.dropWhile_append_of_pos hrun, htake, hdrop,
    List.append_nil]
  change keptLength (quantifier? tail).isSome run.length = run.length
  rw [hnone]
  rfl

/-- A run of plain text in front of a backslash, or at the end, is one token. -/
theorem Cuts.plain {run tail : List Char} {offset : Nat} {tokens : List Token} (hne : run ≠ [])
    (hrun : ∀ c ∈ run, isPlain false c = true) (htail : tail = [] ∨ ∃ more, tail = '\\' :: more)
    (h : Cuts .initial (offset + (String.ofList run).utf8ByteSize) tail tokens) :
    Cuts .initial offset (run ++ tail) (⟨.literal, String.ofList run, offset⟩ :: tokens) := by
  obtain ⟨c, more, rfl⟩ := List.exists_cons_of_ne_nil hne
  have hscan : scan false c (more ++ tail) = .ok ⟨.literal, (c :: more).length⟩ := by
    rw [scan_of_isPlain (hrun c List.mem_cons_self), ← List.cons_append, plainLength_run hrun htail]
  have hbehind : (c :: (more ++ tail)).drop (c :: more).length = tail := List.drop_left
  have hfirst : ofLexeme ⟨.literal, (c :: more).length⟩ offset (c :: (more ++ tail)) =
      ⟨.literal, String.ofList (c :: more), offset⟩ := by
    rw [ofLexeme, ← List.cons_append, List.take_left]
  rw [List.cons_append, ← hfirst]
  refine .step hscan ?_
  rw [hfirst, hbehind]
  exact h

/-- A backslash and a character at which plain text ends are one token. -/
theorem Cuts.escape {c : Char} {tail : List Char} {offset : Nat} {tokens : List Token}
    (hc : isSpecial c = true) (h : Cuts .initial (offset + (String.ofList ['\\', c]).utf8ByteSize) tail tokens) :
    Cuts .initial offset ('\\' :: c :: tail) (⟨.escape, String.ofList ['\\', c], offset⟩ :: tokens) := by
  have hscan : scan false '\\' (c :: tail) = .ok ⟨.escape, 2⟩ := congrArg Except.ok (escapeOf_special hc tail)
  have hfirst : ofLexeme ⟨.escape, 2⟩ offset ('\\' :: c :: tail) =
      ⟨.escape, String.ofList ['\\', c], offset⟩ := rfl
  rw [← hfirst]
  exact .step hscan h

/-- A token for a piece of the text: a run of plain text, or an escape. -/
inductive StandsFor (token : Token) : List Char → Prop
  /-- Plain text. -/
  | plain {run : List Char} (hkind : token.kind = .literal) (hraw : token.raw = String.ofList run)
      (hrun : ∀ c ∈ run, isPlain false c = true) : StandsFor token run
  /-- An escape. -/
  | escape {c : Char} (hkind : token.kind = .escape) (hraw : token.raw = String.ofList ['\\', c])
      (hc : isSpecial c = true) : StandsFor token [c]

/-- Each piece is one token. -/
theorem exists_cuts_shielded (text : List Char) (offset : Nat) :
    ∃ tokens, Cuts .initial offset (shielded text) tokens ∧ List.Forall₂ StandsFor tokens (pieces text) := by
  induction text using pieces_induction generalizing offset with
  | nil => exact ⟨[], .done, .nil⟩
  | special c rest hc ih =>
    obtain ⟨tokens, hcuts, hpieces⟩ := ih (offset + (String.ofList ['\\', c]).utf8ByteSize)
    rw [shielded_special hc, pieces_special hc]
    exact ⟨_, .escape hc hcuts, .cons (.escape rfl rfl hc) hpieces⟩
  | run run rest hne hrun hrest ih =>
    obtain ⟨tokens, hcuts, hpieces⟩ := ih (offset + (String.ofList run).utf8ByteSize)
    rw [shielded_run hrun, pieces_run hne hrun hrest]
    exact ⟨_, .plain hne hrun (shielded_cases hrest) hcuts, .cons (.plain rfl rfl hrun) hpieces⟩

/-- Such a token is a literal with the piece for its value. -/
theorem StandsFor.terminal?_eq {token : Token} {piece : List Char} (h : StandsFor token piece)
    (progress : Node.Progress) : progress.terminal? token =
      some (.literalOf (String.ofList (shielded piece)) (String.ofList piece)) := by
  cases h with
  | plain hkind hraw hrun =>
    have hsame := shielded_run hrun []
    rw [List.append_nil, show shielded [] = [] from rfl, List.append_nil] at hsame
    rw [hsame, ← hraw]
    simp only [Node.Progress.terminal?, hkind, Terminal.literal]
  | @escape c hkind hraw hc =>
    have hnone : Terminal.decoded? [c] = none := by
      rw [Terminal.decoded?, hexDigits?_single, Option.bind_none]
    have hvalue : Terminal.escapedLiteral token.raw = .literalOf token.raw (String.ofList [c]) := by
      rw [Terminal.escapedLiteral, hraw, String.toList_ofList, List.drop_one, List.tail_cons, hnone]
    simp only [Node.Progress.terminal?, hkind]
    rw [hvalue, hraw, shielded_special hc]
    rfl

/-- Such a token is part of the tree. -/
theorem StandsFor.kind_ne_trivia {token : Token} {piece : List Char} (h : StandsFor token piece) :
    token.kind ≠ .trivia := by
  cases h with
  | plain hkind _ _ => rw [hkind]; exact Kind.noConfusion
  | escape hkind _ _ => rw [hkind]; exact Kind.noConfusion

end Token

namespace Node

open Token (shielded pieces StandsFor)

/-- The leaf for a piece of the text. -/
def leafOf (piece : List Char) : Terminal :=
  .literalOf (String.ofList (shielded piece)) (String.ofList piece)

/-- Tokens for pieces of a text become leaves, one behind the other. -/
theorem run_of_standsFor {tokens : List Token} {texts : List (List Char)}
    (h : List.Forall₂ StandsFor tokens texts) (progress : Progress) :
    progress.run tokens = .ok { progress with level :=
      ⟨progress.level.options,
        (texts.map fun piece => ⟨terminal (leafOf piece), false⟩).reverse ++ progress.level.items⟩ } := by
  induction h generalizing progress with
  | nil => rfl
  | cons hfirst _ ih =>
    rw [Progress.run, Progress.step_of_terminal? (hfirst.terminal?_eq progress)]
    refine (ih _).trans ?_
    rw [List.map_cons, List.reverse_cons, List.append_assoc]
    rfl

/-- The tree of such tokens is the row of these leaves. -/
theorem ofTokens_of_standsFor {tokens : List Token} {texts : List (List Char)}
    (h : List.Forall₂ StandsFor tokens texts) :
    ofTokens tokens = .ok (ofParts (texts.map fun piece => terminal (leafOf piece))) := by
  rw [ofTokens, run_of_standsFor h .start]
  simp [Progress.finish, Progress.start, Level.node, Level.alternative, Level.empty, ofOptions, Function.comp_def]

/-- Every text has a pattern for itself, with a backslash in front of each character at which plain text ends.
The pattern has a tree, which is a row of literals, or one literal. They have the backslashes in their texts and
not in their values, and the values in a row are the text. The row is empty exactly if the text is. -/
theorem ofPattern_shielded (text : String) :
    ∃ leaves : List Terminal,
      ofPattern (String.ofList (shielded text.toList)) = .ok (ofParts (leaves.map terminal)) ∧
        leaves.map (·.kind) = (pieces text.toList).map (fun piece => .literal (String.ofList piece)) ∧
        leaves.map (·.raw) = (pieces text.toList).map (fun piece => String.ofList (shielded piece)) ∧
        String.join ((pieces text.toList).map String.ofList) = text ∧
        (leaves = [] ↔ text = "") := by
  obtain ⟨tokens, hcuts, hpieces⟩ := Token.exists_cuts_shielded text.toList 0
  have htokens : tokenize (String.ofList (shielded text.toList)) = .ok tokens :=
    Token.tokensFrom_eq_ok_iff.mpr (by rwa [String.toList_ofList])
  have hkept : tokens.filter (·.kind != .trivia) = tokens := by
    have hboth := hpieces.imp fun _ _ hstands => And.intro hstands.kind_ne_trivia hstands
    exact List.filter_eq_self.mpr fun token hmem =>
      bne_iff_ne.mpr (((List.forall₂_and_left _ _).mp hboth).1 token hmem)
  refine ⟨(pieces text.toList).map leafOf, ?_, ?_, ?_, Token.join_pieces text, ?_⟩
  · rw [ofPattern, htokens]
    dsimp only
    rw [hkept, ofTokens_of_standsFor hpieces, List.map_map]
    rfl
  · rw [List.map_map]
    rfl
  · rw [List.map_map]
    rfl
  · rw [List.map_eq_nil_iff, pieces, List.splitBy_eq_nil, String.toList_eq_nil_iff]

/-- Parentheses and a dot are leaves by themselves. -/
example : (pieces "f(x) = é.y".toList).map String.ofList = ["f", "(", "x", ")", " = é", ".", "y"] := by decide

end Node

end Railroad
