import Railroad.Node.Bytewise
import Railroad.Proofs.Descent
import Railroad.Proofs.StepBytes

/-!
# Cuts in the texts of tokens

The views of a token cut its text wherever it has a beginning, an ending or a delimiter, so they can be made
for any text. The wording of a terminal cuts at fixed bytes from both ends, which only a text with the right
characters there allows. The tokens of a pattern have such texts: a property begins with a backslash and
its letter, and a class stands between two brackets.
-/

namespace Railroad

namespace Text

/-- A character is found behind those that are passed over. -/
theorem find?_eq_head? (p : Char → Bool) (text : List Char) :
    find? p text = (text.dropWhile fun c => !p c).head?.map fun _ =>
      byteLength (text.takeWhile fun c => !p c) := by
  induction text with
  | nil => rfl
  | cons c text ih =>
    by_cases hc : p c = true
    · simp [find?, hc]
    · simp [find?, hc, ih, Function.comp_def, Nat.add_comm]

/-- Behind its last occurrence a mark is not searched for. -/
theorem findLast?_append {mark : Char} (front : List Char) {back : List Char} (h : mark ∉ back) :
    findLast? mark (front ++ back) = findLast? mark front := by
  have hback : findLast? mark back = none := by
    induction back with
    | nil => rfl
    | cons c back ih =>
      rw [List.mem_cons, not_or] at h
      simp [findLast?, ih h.2, Ne.symm h.1]
  induction front with
  | nil => exact hback
  | cons c front ih => rw [List.cons_append, findLast?, ih, findLast?]

/-- A mark at the end is the last one. -/
theorem findLast?_concat (mark : Char) (front : List Char) :
    findLast? mark (front ++ [mark]) = some (byteLength front) := by
  induction front with
  | nil => simp [findLast?]
  | cons c front ih =>
    rw [List.cons_append, findLast?, ih, byteLength_cons, Nat.add_comm]

/-- A mark that is found stands in the text. -/
theorem findLast?_lt {mark : Char} {text : List Char} {n : Nat} (h : findLast? mark text = some n) :
    n < byteLength text := by
  induction text generalizing n with
  | nil => cases h
  | cons c text ih =>
    have hpos := c.utf8Size_pos
    rw [findLast?] at h
    rw [byteLength_cons]
    split at h
    · rename_i m hm
      have hlt := ih hm
      cases h
      omega
    · split at h
      · cases h
        omega
      · cases h

/-- The text in front of the last place of a mark. -/
theorem beforeLast?_append {mark : Char} (front : List Char) {back : List Char} (h : mark ∉ back) :
    beforeLast? mark (front ++ mark :: back) = some front := by
  have hback : ∀ c ∈ back.reverse, (c != mark) = true := by
    intro c hmem
    rw [bne_iff_ne]
    rintro rfl
    exact h (List.mem_reverse.mp hmem)
  have hskip : (front ++ mark :: back).reverse.dropWhile (· != mark) = mark :: front.reverse := by
    rw [List.reverse_append, List.reverse_cons, List.append_assoc, List.dropWhile_append_of_pos hback]
    simp
  rw [beforeLast?, hskip]
  exact congrArg some (List.reverse_reverse front)

/-- Without the mark there is no such text. -/
theorem beforeLast?_eq_none {mark : Char} {text : List Char} (h : mark ∉ text) :
    beforeLast? mark text = none := by
  have hskip : text.reverse.dropWhile (· != mark) = [] := by
    rw [List.dropWhile_eq_nil_iff]
    intro c hmem
    rw [bne_iff_ne]
    rintro rfl
    exact h (List.mem_reverse.mp hmem)
  rw [beforeLast?, hskip]

/-- A text around the last place of a character. -/
theorem exists_append_last {mark : Char} {text : List Char} (h : mark ∈ text) :
    ∃ front back, text = front ++ mark :: back ∧ mark ∉ back := by
  obtain ⟨back, front, heq, hback⟩ := List.eq_append_cons_of_mem (List.mem_reverse.mpr h)
  refine ⟨front.reverse, back.reverse, ?_, by rwa [List.mem_reverse]⟩
  rw [← List.reverse_reverse text, heq]
  simp

end Text

namespace Token.Bytewise

open Text (byteLength)

/-- The text behind some characters and in front of the last place of a mark is a piece of the text. -/
theorem upToLast_append (front rest : List Char) (mark : Char) :
    upToLast (byteLength front) mark (front ++ rest) = some (Text.beforeLast? mark rest) := by
  by_cases hmem : mark ∈ rest
  · obtain ⟨part, back, rfl, hback⟩ := Text.exists_append_last hmem
    have hlast : Text.findLast? mark (front ++ (part ++ mark :: back)) =
        some (byteLength front + byteLength part) := by
      have hconcat := Text.findLast?_concat mark (front ++ part)
      rw [← Text.findLast?_append _ hback] at hconcat
      simpa using hconcat
    rw [upToLast, hlast, Text.beforeLast?_append part hback]
    simp only [Nat.le_add_right, if_true, Text.slice_append]
    rfl
  · rw [upToLast, Text.findLast?_append front hmem, Text.beforeLast?_eq_none hmem]
    cases hlast : Text.findLast? mark front with
    | none => rfl
    | some stop =>
      have hlt := Text.findLast?_lt hlast
      exact if_neg (Nat.not_le_of_lt hlt)

/-- The name of a token is a piece of its text. -/
theorem name_eq (token : Token) : name token = some token.name? := by
  rw [name, Text.stripStart_eq, name?]
  generalize token.raw.toList = raw
  cases Text.after? ['(', '?', 'P', '='] raw with
  | some rest =>
    simp only [Option.bind_eq_bind, Option.bind_some, Text.stripEnd_eq]
    rfl
  | none =>
    have hpassed : (fun c : Char => c != '<' && c != '\'') = fun c => !(c == '<' || c == '\'') := by
      funext c
      rw [Bool.not_or, bne, bne]
    simp only [Option.bind_eq_bind, Option.bind_some, Text.find?_eq_head?, hpassed]
    have hsplit := List.takeWhile_append_dropWhile (p := fun c => !(c == '<' || c == '\'')) (l := raw)
    cases hrest : raw.dropWhile fun c => !(c == '<' || c == '\'') with
    | nil => rfl
    | cons opening rest =>
      have hopening := List.head?_dropWhile_not (fun c => !(c == '<' || c == '\'')) raw
      generalize (raw.takeWhile fun c => !(c == '<' || c == '\'')) = before at *
      rw [hrest] at hsplit hopening
      subst hsplit
      have hone : opening.utf8Size = 1 := by
        simp only [List.head?_cons, Bool.not_eq_false', Bool.or_eq_true, beq_iff_eq] at hopening
        rcases hopening with rfl | rfl <;> decide
      have hname (mark : Char) : upToLast (byteLength before + 1) mark (before ++ opening :: rest) =
          some (Text.beforeLast? mark rest) := by
        have hcut := upToLast_append (before ++ [opening]) rest mark
        simpa [hone] using hcut
      simp only [List.head?_cons, Option.map_some, Text.sliceFrom_append, Option.bind_some, Option.some_inj,
        hname]
      rfl

/-- The condition of a token is a piece of its text. -/
theorem condition_eq (token : Token) : condition token = some token.condition? := by
  rw [condition, Text.stripStart_eq, condition?]
  cases Text.after? ['(', '?', '('] token.raw.toList with
  | none => rfl
  | some condition =>
    simp only [Option.bind_eq_bind, Option.bind_some, Text.stripEnd_eq]
    rfl

/-- The flag letters of a token are a piece of its text. -/
theorem flags_eq (token : Token) : flags token = some token.flags? := by
  rw [flags, Text.stripStart_eq, flags?]
  cases Text.after? ['(', '?'] token.raw.toList with
  | none => rfl
  | some inner =>
    have hbegins : Text.trimEnd (fun c => c == ')' || c == ':') inner <+: inner :=
      List.rdropWhile_prefix _ _
    have hcut := Text.slice_take (Text.trimEnd (fun c => c == ')' || c == ':') inner).length inner
    rw [← List.prefix_iff_eq_take.mp hbegins] at hcut
    simp only [Option.bind_eq_bind, Option.bind_some, hcut]
    rfl

end Token.Bytewise

namespace Token

/-- The kinds of lexemes that only a backslash begins and whose text the wording cuts. -/
def isCutEscapeKind : Kind → Bool
  | .unicodeProperty _ | .escape => true
  | _ => false

/-- Such a lexeme is an escape. -/
theorem scan_cutEscape {extended : Bool} {c : Char} {rest : List Char} {lexeme : Lexeme}
    (h : scan extended c rest = .ok lexeme) (hkind : isCutEscapeKind lexeme.kind = true) :
    c = '\\' ∧ ∃ d after, rest = d :: after ∧ lexeme = escapeOf d after := by
  have hne {kind : Kind} (hno : isCutEscapeKind kind = false) : lexeme.kind ≠ kind := by
    rintro rfl
    rw [hno] at hkind
    cases hkind
  have hplain := scanPlain_of_scan h (hne rfl) fun _ => hne rfl
  rcases scanPlain_cases hplain with hescape | ⟨rfl, rfl⟩ | hbare
  · exact hescape
  · exfalso
    rcases parenthesis_kind rest with hparenthesis | hparenthesis
    · revert hkind hparenthesis
      cases (Token.parenthesis rest).kind <;> simp [isParenthesisKind, isCutEscapeKind]
    · exact hne rfl hparenthesis
  · revert hkind hbare
    cases lexeme.kind <;> simp [isBareKind, isCutEscapeKind]

/-- Only the letters for it make an escape a property, which is longer than its backslash and its letter. -/
theorem escapeOf_unicodeProperty {c : Char} {after : List Char} {negated : Bool}
    (h : (escapeOf c after).kind = .unicodeProperty negated) :
    (c = 'p' ∨ c = 'P') ∧ 2 < (escapeOf c after).length := by
  rcases escapeOf_rules c after with ⟨kind, hmem, heq⟩ | ⟨-, group, heq⟩ | ⟨-, heq⟩ | ⟨hletter, heq⟩ |
    ⟨width, -, heq⟩ | heq
  · obtain rfl : kind = .unicodeProperty negated := by rwa [heq] at h
    simp at hmem
  · rw [heq] at h
    cases h
  · rw [heq] at h
    rcases namedReference_cases after with hname | ⟨n, hname⟩ <;> rw [hname] at h <;> cases h
  · rw [heq] at h ⊢
    rcases property_cases (c == 'P') after with hproperty | ⟨n, hproperty⟩
    · rw [hproperty] at h
      cases h
    · rw [hproperty]
      exact ⟨hletter, by simp⟩
  · rw [heq] at h
    cases h
  · rw [heq] at h
    cases h

/-- A closing bracket is the last of `n` characters. -/
def UpToBracket (n : Nat) (text : List Char) : Prop :=
  ∃ members more, text = members ++ ']' :: more ∧ n = members.length + 1

/-- A count that goes on behind a character is the count behind it and one more. -/
theorem UpToBracket.of_map {found : Option Nat} {text : List Char} {n : Nat} (c : Char)
    (hfound : ∀ m, found = some m → UpToBracket m text) (h : found.map (· + 1) = some n) :
    UpToBracket n (c :: text) := by
  obtain ⟨m, hm, rfl⟩ := Option.map_eq_some_iff.mp h
  obtain ⟨members, more, rfl, rfl⟩ := hfound m hm
  exact ⟨c :: members, more, rfl, rfl⟩

/-- The same characters stand behind others. -/
theorem UpToBracket.of_drop {n k : Nat} {text : List Char} (h : UpToBracket n (text.drop k)) :
    UpToBracket (n + k) text := by
  obtain ⟨members, more, hdrop, rfl⟩ := h
  have hle : k ≤ text.length := by
    have hlength := congrArg List.length hdrop
    simp only [List.length_drop, List.length_append, List.length_cons] at hlength
    omega
  refine ⟨text.take k ++ members, more, ?_, ?_⟩
  · rw [List.append_assoc, ← hdrop, List.take_append_drop]
  · rw [List.length_append, List.length_take_of_le hle]
    omega

/-- A class is counted up to its closing bracket. -/
theorem upToBracket_of_classLength? {skip depth : Nat} {text : List Char} {n : Nat}
    (h : classLength? skip depth text = some n) : UpToBracket n text := by
  fun_induction classLength? skip depth text generalizing n with
  | case1 => cases h
  | case2 _ _ c _ _ ih => exact .of_map c (fun _ => ih) h
  | case3 _ _ c _ _ _ ih => exact .of_map c (fun _ => ih) h
  | case4 _ _ c _ _ _ _ _ _ ih => exact .of_map c (fun _ => ih) h
  | case5 _ _ c _ _ _ _ _ ih => exact .of_map c (fun _ => ih) h
  | case6 _ _ c _ _ _ _ _ ih => exact .of_map c (fun _ => ih) h
  | case7 _ _ c rest _ _ _ hbracket =>
    cases h
    rw [beq_iff_eq] at hbracket
    exact ⟨[], rest, by rw [hbracket]; rfl, rfl⟩
  | case8 _ _ c _ _ _ _ _ _ ih => exact .of_map c (fun _ => ih) h
  | case9 _ _ c _ _ _ _ _ ih => exact .of_map c (fun _ => ih) h

/-- A class begins with a bracket and is counted up to its closing bracket. -/
theorem scan_bracket {extended : Bool} {c : Char} {rest : List Char} {lexeme : Lexeme}
    (h : scan extended c rest = .ok lexeme) (hkind : lexeme.kind = .bracket) :
    c = '[' ∧ ∃ n, lexeme.length = n + 1 ∧ UpToBracket n rest := by
  have hplain := scanPlain_of_scan h (by simp [hkind]) (by simp [hkind])
  rcases scanPlain_rules hplain with ⟨-, d, after, -, rfl⟩ | ⟨-, rfl⟩ | ⟨hc, n, hlength, rfl⟩ |
    ⟨-, rfl⟩ | rfl | ⟨kind, hmem, rfl⟩
  · exact absurd hkind (escapeOf_kind_ne rfl Kind.noConfusion d after)
  · exact absurd hkind (parenthesis_kind_ne rfl Kind.noConfusion rest)
  · obtain ⟨m, hm, rfl⟩ := Option.map_eq_some_iff.mp hlength
    exact ⟨hc, _, rfl, (upToBracket_of_classLength? hm).of_drop⟩
  · cases hkind
  · cases hkind
  · obtain rfl : kind = .bracket := hkind
    exact absurd hmem (by decide)

/-- The text has the characters at which the wording of a terminal cuts it. -/
def FitsWording (token : Token) : Prop :=
  (∀ negated, token.kind = .unicodeProperty negated →
    ∃ d name, token.raw.toList = '\\' :: d :: name ∧ d.utf8Size = 1) ∧
  (token.kind = .escape → ∃ body, token.raw.toList = '\\' :: body) ∧
  (token.kind = .bracket → ∃ members, token.raw.toList = '[' :: (members ++ [']']))

/-- A lexeme at the beginning of a text has such a text. -/
theorem FitsWording.of_scan {extended : Bool} {c : Char} {rest : List Char} {lexeme : Lexeme}
    (h : scan extended c rest = .ok lexeme) (offset : Nat) :
    (ofLexeme lexeme offset (c :: rest)).FitsWording := by
  have hraw : (ofLexeme lexeme offset (c :: rest)).raw.toList = (c :: rest).take lexeme.length :=
    String.toList_ofList
  obtain ⟨n, hn⟩ := Nat.exists_eq_add_of_lt (scan_fits h).1
  rw [Nat.zero_add] at hn
  refine ⟨fun negated hkind => ?_, fun hkind => ?_, fun hkind => ?_⟩
  · have hcut : isCutEscapeKind lexeme.kind = true := by
      rw [show lexeme.kind = .unicodeProperty negated from hkind]
      rfl
    obtain ⟨rfl, d, after, rfl, rfl⟩ := scan_cutEscape h hcut
    obtain ⟨hletter, hlength⟩ := escapeOf_unicodeProperty hkind
    obtain ⟨m, hm⟩ := Nat.exists_eq_add_of_le' (Nat.le_of_lt hlength)
    refine ⟨d, after.take m, ?_, ?_⟩
    · rw [hraw, hm, List.take_succ_cons, List.take_succ_cons]
    · rcases hletter with rfl | rfl <;> decide
  · have hcut : isCutEscapeKind lexeme.kind = true := by
      rw [show lexeme.kind = .escape from hkind]
      rfl
    obtain ⟨rfl, -⟩ := scan_cutEscape h hcut
    exact ⟨rest.take n, by rw [hraw, hn, List.take_succ_cons]⟩
  · obtain ⟨rfl, m, hm, members, more, rfl, rfl⟩ := scan_bracket h hkind
    refine ⟨members, ?_⟩
    rw [hraw, hm, List.take_succ_cons, List.take_length_add_append]
    rfl

/-- The tokens of a pattern have such texts. -/
theorem fitsWording_of_tokenize {pattern : String} {tokens : List Token}
    (h : tokenize pattern = .ok tokens) {token : Token} (hmem : token ∈ tokens) : token.FitsWording := by
  obtain ⟨extended, place, c, rest, lexeme, hscan, rfl⟩ := (tokensFrom_eq_ok_iff.mp h).exists_scan hmem
  exact .of_scan hscan place

end Token

namespace Terminal.Bytewise

open Text (byteLength)

/-- The name of a property is a piece of its text. -/
theorem unicodeProperty_eq {raw : String} {d : Char} {name : List Char} (hd : d.utf8Size = 1)
    (hraw : raw.toList = '\\' :: d :: name) (negated : Bool) :
    unicodeProperty raw negated = some (Terminal.unicodeProperty raw negated) := by
  have hslash : '\\'.utf8Size = 1 := by decide
  have hcut := Text.sliceFrom_append ['\\', d] name
  rw [Text.byteLength_cons, Text.byteLength_cons, hslash, hd, Text.byteLength_nil] at hcut
  have hdrop : Text.dropBytes 2 ('\\' :: d :: name) = name := by
    simp [Text.dropBytes, hslash, hd]
  rw [unicodeProperty, Terminal.unicodeProperty, hraw, hdrop]
  have hcut' : Text.sliceFrom 2 ('\\' :: d :: name) = some name := hcut
  rw [hcut']
  cases negated <;> rfl

/-- The members of a class are a piece of its text. -/
theorem classMembers_eq {raw : String} {members : List Char}
    (hraw : raw.toList = '[' :: (members ++ [']'])) :
    classMembers raw = some (Terminal.classMembers raw) := by
  have hcut (front part : List Char) :
      Text.lowered (byteLength (front ++ (part ++ [']']))) = some (byteLength front + byteLength part) ∧
        Text.slice (byteLength front) (byteLength front + byteLength part) (front ++ (part ++ [']'])) =
          some part := by
    refine ⟨?_, Text.slice_append front part [']']⟩
    rw [← List.append_assoc, Text.byteLength_append, Text.byteLength_append]
    rfl
  rw [classMembers, Terminal.classMembers, hraw]
  by_cases hcaret : ∃ more, members = '^' :: more
  · obtain ⟨more, rfl⟩ := hcaret
    have hbegins : ['[', '^'].isPrefixOf ('[' :: '^' :: (more ++ [']'])) = true := by simp
    have htwo : byteLength ['[', '^'] = 2 := by decide
    have hmembers := hcut ['[', '^'] more
    rw [htwo] at hmembers
    simp only [List.cons_append, List.nil_append] at hmembers ⊢
    simp only [hbegins, if_true, hmembers, Option.bind_eq_bind, Option.bind_some, List.dropLast_concat]
    rfl
  · have hother : ∀ more, members ++ [']'] ≠ '^' :: more := by
      cases members with
      | nil => simp
      | cons c members =>
        rintro more heq
        exact hcaret ⟨members, by rw [(List.cons.inj heq).1]⟩
    have hbegins : ['[', '^'].isPrefixOf ('[' :: (members ++ [']'])) = false :=
      Text.isPrefixOf_eq_false fun more heq => hother more (List.cons.inj heq).2
    have hone : byteLength ['['] = 1 := by decide
    have hmembers := hcut ['['] members
    rw [hone] at hmembers
    simp only [List.cons_append, List.nil_append] at hmembers
    simp only [hbegins, Bool.false_eq_true, if_false, hmembers, Option.bind_eq_bind, Option.bind_some]
    split
    · rename_i more heq
      exact absurd (List.cons.inj heq).2 (hother more)
    · simp

/-- The wording of a class is found as before. -/
theorem bracket_eq {raw : String} {members : List Char}
    (hraw : raw.toList = '[' :: (members ++ [']'])) : bracket raw = some (Terminal.bracket raw) := by
  rw [bracket, Terminal.bracket, classMembers_eq hraw]
  by_cases hlineFeed : raw == "[^\\n]"
  · rw [if_pos hlineFeed, if_pos hlineFeed]
  by_cases hlineBreak : raw == "[^\\r\\n]"
  · rw [if_neg hlineFeed, if_pos hlineBreak, if_neg hlineFeed, if_pos hlineBreak]
  rw [if_neg hlineFeed, if_neg hlineBreak, if_neg hlineFeed, if_neg hlineBreak]
  obtain ⟨negated, text⟩ := Terminal.classMembers raw
  simp only [Option.bind_eq_bind, Option.bind_some]
  cases commonClasses.lookup text with
  | none => cases negated <;> rfl
  | some wording => cases negated <;> rfl

/-- The text behind a backslash is a piece of its text. -/
theorem escapedLiteral_eq {raw : String} {body : List Char} (hraw : raw.toList = '\\' :: body) :
    escapedLiteral raw = some (Terminal.escapedLiteral raw) := by
  have hcut : Text.sliceFrom 1 ('\\' :: body) = some body :=
    Token.Bytewise.sliceFrom_one (by decide) body
  rw [escapedLiteral, Terminal.escapedLiteral, hraw, hcut]
  simp only [Option.bind_eq_bind, Option.bind_some, List.drop_succ_cons, List.drop_zero]
  cases decoded? body <;> rfl

end Terminal.Bytewise

namespace Node

/-- The views that cut the texts of tokens answer every question about the tokens of a pattern. -/
theorem Bytewise.views_agree {tokens : List Token} (h : ∀ token ∈ tokens, token.FitsWording) :
    Bytewise.views.Agrees tokens where
  terminal_eq := by
    intro token hmem hterminal progress
    obtain ⟨hproperty, hescape, hbracket⟩ := h token hmem
    change Bytewise.terminal progress.names token = _
    unfold Bytewise.terminal
    split
    · rename_i negated hkind
      obtain ⟨d, name, hraw, hd⟩ := hproperty negated hkind
      rw [Terminal.Bytewise.unicodeProperty_eq hd hraw]
      simp only [Progress.terminal?, hkind]
    · rename_i hkind
      obtain ⟨members, hraw⟩ := hbracket hkind
      rw [Terminal.Bytewise.bracket_eq hraw]
      simp only [Progress.terminal?, hkind]
    · rename_i hkind
      obtain ⟨body, hraw⟩ := hescape hkind
      rw [Terminal.Bytewise.escapedLiteral_eq hraw]
      simp only [Progress.terminal?, hkind]
    · rename_i hkind
      rw [Token.Bytewise.name_eq]
      simp only [Progress.terminal?, hkind]
      rfl
    · rename_i hkind
      rw [Token.Bytewise.flags_eq]
      simp only [Progress.terminal?, hkind]
      rfl
    · exact Progress.terminal?_eq_of_names rfl token
  kind_eq := by
    intro token hmem opener hkind
    change Bytewise.kind opener token = _
    unfold Bytewise.kind
    split
    · rw [Token.Bytewise.name_eq]
      rfl
    · rw [Token.Bytewise.flags_eq]
      rfl
    · rw [Token.Bytewise.condition_eq]
      rfl
    · rfl

/-- Cutting a pattern byte by byte and building its tree by descent comes to an end with the tree of the
pattern or with its error: each cut is made between two characters in the right order, no count is taken
from zero, and no reader is asked what has no answer. The views of a token can be asked about any token, and
the wording of its terminal about any token of a pattern. -/
theorem ofPattern_bytewise :
    (∀ pattern : String, Bytewise.ofPattern pattern = some (ofPattern pattern)) ∧
      (∀ token : Token, Token.Bytewise.name token = some token.name? ∧
        Token.Bytewise.condition token = some token.condition? ∧
        Token.Bytewise.flags token = some token.flags?) ∧
      ∀ (pattern : String) (tokens : List Token), tokenize pattern = .ok tokens →
        Bytewise.views.Agrees tokens := by
  have hviews : ∀ (pattern : String) (tokens : List Token), tokenize pattern = .ok tokens →
      Bytewise.views.Agrees tokens := fun pattern tokens h =>
    Bytewise.views_agree fun token hmem => Token.fitsWording_of_tokenize h hmem
  refine ⟨fun pattern => ?_, fun token => ?_, hviews⟩
  · rw [Bytewise.ofPattern, ofPattern, Token.Bytewise.tokensFrom_eq_tokenize]
    cases htokens : tokenize pattern with
    | error e => rfl
    | ok tokens =>
      have hfiltered : Bytewise.views.Agrees (tokens.filter (·.kind != .trivia)) :=
        Bytewise.views_agree fun token hmem =>
          Token.fitsWording_of_tokenize htokens (List.mem_of_mem_filter hmem)
      simp only [Option.bind_eq_bind, Option.bind_some, descend_eq_ofTokens hfiltered]
      cases ofTokens (tokens.filter (·.kind != .trivia)) <;> rfl
  · exact ⟨Token.Bytewise.name_eq token, Token.Bytewise.condition_eq token,
      Token.Bytewise.flags_eq token⟩

end Node

end Railroad
