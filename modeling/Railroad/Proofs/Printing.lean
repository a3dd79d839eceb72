import Railroad.Proofs.Spelling

/-!
# Printing a tree

Written out from left to right, a tree gives back the tokens that it was built from. A token counts as
given back when its symbol is: the raw text of a terminal, an opener with the name, flags or condition that
belong to it, and the three settings of a quantifier. The symbols of tokens and those of groups are spelled out
in two tables, which the parser brings together.
-/

namespace Railroad

/-- A token as far as a tree keeps it. -/
inductive Symbol where
  /-- A terminal, by its text. -/
  | terminal (raw : String)
  /-- The beginning of a group, by its opener with the name, the flags or the condition. -/
  | opens (opener : Opener) (text : String)
  /-- The end of a group. -/
  | closes
  /-- A bar. -/
  | bar
  /-- A quantifier. -/
  | repeats (q : Quantifier)
  deriving DecidableEq, Repr

/-- The symbol of an opener, given the name, the flags and the condition that its token has. -/
def Opener.symbol (name flags condition : Option String) : Opener → Symbol
  | capturing => .opens .capturing ""
  | named => .opens .named (name.getD "")
  | nonCapturing => .opens .nonCapturing ""
  | flagged => .opens .flagged (flags.getD "")
  | atomic => .opens .atomic ""
  | lookAhead => .opens .lookAhead ""
  | negativeLookAhead => .opens .negativeLookAhead ""
  | lookBehind => .opens .lookBehind ""
  | negativeLookBehind => .opens .negativeLookBehind ""
  | conditional => .opens .conditional (condition.getD "")

/-- The symbol of a token. -/
def Token.symbol (token : Token) : Symbol :=
  match token.kind with
  | .groupOpen opener => opener.symbol token.name? token.flags? token.condition?
  | .groupClose => .closes
  | .alternation => .bar
  | .quantifier q => .repeats q
  | _ => .terminal token.raw

/-- The symbol at which a group of a tree opens. -/
def GroupKind.symbol : GroupKind → Symbol
  | capturing => .opens .capturing ""
  | named name => .opens .named name
  | nonCapturing => .opens .nonCapturing ""
  | flagged flags => .opens .flagged flags
  | atomic => .opens .atomic ""
  | lookAhead => .opens .lookAhead ""
  | negativeLookAhead => .opens .negativeLookAhead ""
  | lookBehind => .opens .lookBehind ""
  | negativeLookBehind => .opens .negativeLookBehind ""
  | conditional condition => .opens .conditional condition

/-- The kind of group that the parser makes of an opener has the symbol of the opener. -/
theorem symbol_kindOf (opener : Opener) (token : Token) :
    (Node.Progress.kindOf opener token).symbol =
      opener.symbol token.name? token.flags? token.condition? := by
  cases opener <;> rfl

namespace Node

mutual

/-- A tree written out from left to right. A group that is labelled as possessive has no parentheses: it
is the repetition inside it, whose quantifier is then `possessive`. -/
def written (possessive : Bool) : Node → List Symbol
  | sequence parts => writtenParts parts
  | choice options => writtenOptions options
  | quantified repetition greedy content =>
    content.written false ++ [.repeats ⟨repetition, greedy, possessive⟩]
  | group kind _ label content =>
    if label = possessiveLabel then content.written true
    else kind.symbol :: (content.written false ++ [.closes])
  | terminal t => [.terminal t.raw]

/-- Parts written one behind the other. -/
def writtenParts : List Node → List Symbol
  | [] => []
  | part :: parts => part.written false ++ writtenParts parts

/-- Options written with bars between them. -/
def writtenOptions : List Node → List Symbol
  | [] => []
  | [option] => option.written false
  | option :: options => option.written false ++ .bar :: writtenOptions options

end

/-- A tree written out as a whole. -/
def print (node : Node) : List Symbol := node.written false

/-- A text that begins with another character is another text. -/
theorem ne_of_head? {first second : String} {c : Char} (hfirst : first.toList.head? = some c)
    (hsecond : second.toList.head? ≠ some c) : first ≠ second := by
  rintro rfl
  exact hsecond hfirst

/-- A text keeps its first character when something is put behind it. -/
theorem head?_toList_append {first second : String} {c : Char}
    (hfirst : first.toList.head? = some c) : (first ++ second).toList.head? = some c := by
  rw [String.toList_append, List.head?_append, hfirst]
  rfl

/-- The caption of a condition is not that of a possessive group. -/
theorem conditionLabel_ne_possessiveLabel (condition : String) :
    GroupKind.conditionLabel condition ≠ possessiveLabel := by
  have hlabel : (GroupKind.conditionLabel condition).toList.head? = some 'C' := by
    unfold GroupKind.conditionLabel
    split
    · exact head?_toList_append (head?_toList_append rfl)
    · split <;> exact head?_toList_append (head?_toList_append rfl)
  exact ne_of_head? hlabel (by decide)

/-- No kind of group has the caption of a possessive group. -/
theorem label_ne_possessiveLabel (kind : GroupKind) (index : Option Nat) :
    kind.label index ≠ possessiveLabel := by
  unfold GroupKind.label
  split
  · exact ne_of_head? (head?_toList_append (c := 'C') rfl) (by decide)
  · exact ne_of_head? (head?_toList_append (head?_toList_append (head?_toList_append
      (head?_toList_append (c := 'C') rfl)))) (by decide)
  · decide
  · exact ne_of_head? (head?_toList_append (head?_toList_append (c := 'C') rfl)) (by decide)
  · decide
  · exact ne_of_head? (head?_toList_append (head?_toList_append (c := 'N') rfl)) (by decide)
  · decide
  · decide
  · decide
  · decide
  · decide
  · exact conditionLabel_ne_possessiveLabel _

/-- Parts are written in order. -/
theorem writtenParts_eq (parts : List Node) : writtenParts parts = parts.flatMap print := by
  induction parts with
  | nil => rfl
  | cons part parts ih => rw [writtenParts, ih, List.flatMap_cons, print]

/-- Options are written in order, with one bar between two of them. -/
theorem writtenOptions_eq (options : List Node) :
    writtenOptions options = [Symbol.bar].intercalate (options.map print) := by
  induction options with
  | nil => rfl
  | cons option options ih =>
    cases options with
    | nil => rw [writtenOptions, List.map_singleton, List.intercalate_singleton, print]
    | cons next options =>
      simp only [List.map_cons] at ih ⊢
      rw [writtenOptions, ih, List.intercalate_cons_cons, List.append_assoc, print]
      · rfl
      · exact fun h => List.cons_ne_nil _ _ h

/-- Printing as a spelling. -/
def printing : Spelling Symbol where
  node := print
  bar := [.bar]
  opening := fun kind _ => [kind.symbol]
  closing := [.closes]
  mark := fun q => [.repeats q]
  node_sequence := fun parts => writtenParts_eq parts
  node_choice := fun options => writtenOptions_eq options
  node_closed := fun g content => by
    rw [print, OpenGroup.closed, written, if_neg (label_ne_possessiveLabel g.kind g.index)]
    rfl
  node_quantify := fun q content => by
    obtain ⟨repetition, greedy, possessive⟩ := q
    cases possessive with
    | false => rfl
    | true => simp only [quantify, print, written, if_true]

/-- A terminal from the table keeps the text that it was looked up by, and so does the one that stands
in for it. -/
theorem known?_getD_raw {raw : String} {other : Terminal} (hother : other.raw = raw) :
    ((Terminal.known? raw).getD other).raw = raw := by
  cases hknown : Terminal.known? raw with
  | none => exact hother
  | some t =>
    obtain ⟨_, _, rfl⟩ := Option.map_eq_some_iff.mp hknown
    rfl

/-- A property keeps its text. -/
theorem unicodeProperty_raw (raw : String) (negated : Bool) :
    (Terminal.unicodeProperty raw negated).raw = raw := by
  cases negated <;> rfl

/-- A class keeps its text. -/
theorem bracket_raw (raw : String) : (Terminal.bracket raw).raw = raw := by
  unfold Terminal.bracket
  split
  · rfl
  · split
    · rfl
    · dsimp only
      split <;> rfl

/-- A reference by name keeps its text, whether or not a group has the name. -/
theorem namedBackreference_raw (raw name : String) (number : Option Nat) :
    (Terminal.namedBackreference raw name number).raw = raw := by
  cases number <;> rfl

/-- An escape keeps its text, whatever character it stands for. -/
theorem escapedLiteral_raw (raw : String) : (Terminal.escapedLiteral raw).raw = raw := by
  unfold Terminal.escapedLiteral
  dsimp only
  split <;> rfl

/-- The text of a token is kept by the terminal that it is read as. -/
theorem terminal?_raw {progress : Progress} {token : Token} {t : Terminal}
    (h : progress.terminal? token = some t) : t.raw = token.raw := by
  unfold Progress.terminal? at h
  dsimp only at h
  split at h <;> cases h
  · exact known?_getD_raw rfl
  · exact known?_getD_raw rfl
  · exact known?_getD_raw rfl
  · exact unicodeProperty_raw _ _
  · exact bracket_raw _
  · rfl
  · exact namedBackreference_raw _ _ _
  · exact known?_getD_raw rfl
  · exact escapedLiteral_raw _
  · rfl
  · rfl

/-- A token that is read as a terminal has the symbol of the terminal. -/
theorem symbol_of_terminal? {progress : Progress} {token : Token} {t : Terminal}
    (h : progress.terminal? token = some t) : token.symbol = .terminal t.raw := by
  rw [terminal?_raw h]
  exact Progress.match_kind_of_terminal? h _ _ _ _ _

/-- A token that is read is printed as its symbol. -/
theorem printing_token {progress next : Progress} {token : Token}
    (h : Progress.Step progress token next) : printing.token progress token = [token.symbol] := by
  cases h with
  | @opens opener hkind =>
    simp only [Spelling.token, Token.symbol, hkind]
    exact congrArg ([·]) (symbol_kindOf opener token)
  | closes hkind =>
    simp only [Spelling.token, Token.symbol, hkind]
    rfl
  | splits hkind =>
    simp only [Spelling.token, Token.symbol, hkind]
    rfl
  | repeats hkind =>
    simp only [Spelling.token, Token.symbol, hkind]
    rfl
  | stands hterminal =>
    rw [printing.token_of_terminal? hterminal, symbol_of_terminal? hterminal]
    rfl

/-- What has been read is printed as the symbols of the tokens read. -/
theorem printing_run {tokens : List Token} {progress : Progress}
    (hrun : Progress.start.run tokens = .ok progress) :
    printing.progress progress = tokens.map Token.symbol := by
  refine Progress.run_induction (motive := fun read progress =>
    printing.progress progress = read.map Token.symbol) rfl ?_ hrun
  intro read progress token next hread hstep
  rw [printing.progress_step hstep, hread, printing_token hstep, List.map_append,
    List.map_singleton]

/-- Printing the tree of some tokens gives back the tokens: none is lost, doubled, moved to another
place, or moved across the end of a group or a bar. -/
theorem print_ofTokens {tokens : List Token} {node : Node} (h : ofTokens tokens = .ok node) :
    node.print = tokens.map Token.symbol := by
  obtain ⟨progress, hrun, hgroups, rfl⟩ := ofTokens_eq_ok_iff.mp h
  exact (printing.node_eq_progress hgroups).trans (printing_run hrun)

/-- The tokens of `(?<n>|(?i:a?+b)*?|)(?(n)\d|\k<n>)|`. -/
def emptyAlternatives : List Token :=
  [⟨.groupOpen .named, "(?<n>", 0⟩, ⟨.alternation, "|", 5⟩, ⟨.groupOpen .flagged, "(?i:", 6⟩,
    ⟨.literal, "a", 10⟩, ⟨.quantifier ⟨.zeroOrOne, true, true⟩, "?+", 11⟩, ⟨.literal, "b", 13⟩,
    ⟨.groupClose, ")", 14⟩, ⟨.quantifier ⟨.zeroOrMore, false, false⟩, "*?", 15⟩,
    ⟨.alternation, "|", 17⟩, ⟨.groupClose, ")", 18⟩, ⟨.groupOpen .conditional, "(?(n)", 19⟩,
    ⟨.charClass, "\\d", 24⟩, ⟨.alternation, "|", 26⟩, ⟨.namedBackreference, "\\k<n>", 27⟩,
    ⟨.groupClose, ")", 32⟩, ⟨.alternation, "|", 33⟩]

/-- Alternatives that are empty on either side of a bar, and a possessive quantifier inside a lazy
one. -/
theorem print_ofTokens_emptyAlternatives :
    ∃ node, ofTokens emptyAlternatives = .ok node ∧
      node.print = [.opens .named "n", .bar, .opens .flagged "i", .terminal "a",
        .repeats ⟨.zeroOrOne, true, true⟩, .terminal "b", .closes,
        .repeats ⟨.zeroOrMore, false, false⟩, .bar, .closes, .opens .conditional "n",
        .terminal "\\d", .bar, .terminal "\\k<n>", .closes, .bar] := by
  have htree : ∃ node, ofTokens emptyAlternatives = .ok node := ⟨_, rfl⟩
  obtain ⟨node, h⟩ := htree
  refine ⟨node, h, (print_ofTokens h).trans ?_⟩
  cbv

end Node

end Railroad
