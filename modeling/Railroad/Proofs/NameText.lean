import Railroad.Proofs.Stepping

/-!
# Names in the text of tokens

A reference by name and the opener of a named group hold their name between two delimiters. The step that
cuts such a token looks for the closing delimiter from the left, while the view of the token looks for it
from the right and for the opening one from the left. Both find the same name, because no name has the
closing delimiter in it and nothing in front of the name looks like an opening one.
-/

namespace Railroad.Token

/-- The name stands between an opening text and a closing character that does not occur in it. -/
structure Delimited (opening name : String) (closing : Char) (raw : String) : Prop where
  /-- The text is made of the three. -/
  raw_eq : raw = opening ++ name ++ String.singleton closing
  /-- The name ends at the first closing character. -/
  not_mem : closing ∉ name.toList

/-- The token shows the name that its text delimits in one of the three ways of writing a reference. -/
def RefersTo (token : Token) (name : String) : Prop :=
  token.name? = some name ∧
    (Delimited "\\k<" name '>' token.raw ∨ Delimited "\\k'" name '\'' token.raw ∨
      Delimited "(?P=" name ')' token.raw)

/-- The token shows the name that its text delimits in one of the two ways of opening a named group. -/
def Introduces (token : Token) (name : String) : Prop :=
  token.name? = some name ∧
    (Delimited "(?<" name '>' token.raw ∨ Delimited "(?P<" name '>' token.raw)

/-- A text around the first place of a character. -/
theorem exists_append_of_findIdx? {mark : Char} {text : List Char} {n : Nat}
    (h : text.findIdx? (· == mark) = some n) :
    ∃ name more, text = name ++ mark :: more ∧ name.length = n ∧ mark ∉ name := by
  obtain ⟨hlt, hmark, hbefore⟩ := List.findIdx?_eq_some_iff_getElem.mp h
  rw [beq_iff_eq] at hmark
  refine ⟨text.take n, text.drop (n + 1), ?_, List.length_take_of_le (Nat.le_of_lt hlt), ?_⟩
  · rw [← hmark, List.getElem_cons_drop, List.take_append_drop]
  · intro hmem
    obtain ⟨i, hi, hget⟩ := List.getElem_of_mem hmem
    rw [List.length_take] at hi
    rw [List.getElem_take] at hget
    exact hbefore i (Nat.lt_of_lt_of_le hi (Nat.min_le_left _ _)) (beq_iff_eq.mpr hget)

/-- A text that begins with a name and the character that closes it. -/
theorem exists_name_of_nameLength? {closing : Char} {text : List Char} {n : Nat}
    (h : nameLength? closing text = some n) :
    ∃ name more, text = name ++ closing :: more ∧ name.length = n ∧ ∀ c ∈ name, isNameChar c = true := by
  unfold nameLength? at h
  dsimp only at h
  split at h
  · rename_i hname
    cases h
    rw [Bool.and_eq_true, beq_iff_eq] at hname
    obtain ⟨more, hmore⟩ := List.head?_eq_some_iff.mp hname.2
    refine ⟨text.takeWhile isNameChar, more, ?_, rfl,
      List.all_eq_true.mp (List.all_takeWhile (p := isNameChar) (l := text))⟩
    rw [← hmore]
    exact (List.prefix_iff_eq_append.mp (List.takeWhile_prefix isNameChar)).symm
  · cases h

/-- No name can have the character that closes it. -/
theorem exists_append_of_nameLength? {closing : Char} {text : List Char} {n : Nat}
    (hclosing : isNameChar closing = false) (h : nameLength? closing text = some n) :
    ∃ name more, text = name ++ closing :: more ∧ name.length = n ∧ closing ∉ name := by
  obtain ⟨name, more, rfl, hlength, hname⟩ := exists_name_of_nameLength? h
  refine ⟨name, more, rfl, hlength, fun hmem => ?_⟩
  have hall := hname closing hmem
  rw [hclosing] at hall
  cases hall

/-- What is taken up to and including the closing character. -/
theorem take_delimited (opening name : List Char) (closing : Char) (more : List Char) :
    (opening ++ (name ++ closing :: more)).take (name.length + (opening.length + 1)) =
      opening ++ name ++ [closing] := by
  have hsplit : opening ++ (name ++ closing :: more) = opening ++ name ++ [closing] ++ more := by
    simp only [List.append_assoc, List.singleton_append]
  rw [hsplit, List.take_left']
  simp only [List.length_append, List.length_cons, List.length_nil]
  omega

/-- The token of a lexeme that ends behind the name. -/
theorem delimited_ofLexeme (kind : Kind) (offset : Nat) (opening : List Char) {name : List Char}
    {closing : Char} (more : List Char) (hname : closing ∉ name) :
    Delimited (String.ofList opening) (String.ofList name) closing
      (ofLexeme ⟨kind, name.length + (opening.length + 1)⟩ offset
        (opening ++ (name ++ closing :: more))).raw := by
  refine ⟨?_, by rwa [String.toList_ofList]⟩
  rw [ofLexeme, take_delimited, String.ofList_append, String.ofList_append]
  rfl

/-- The text before the last occurrence of a character, where it ends the text. -/
theorem beforeLast?_concat (mark : Char) (text : List Char) :
    Text.beforeLast? mark (text ++ [mark]) = some text := by
  rw [Text.beforeLast?, List.reverse_append, List.reverse_singleton, List.singleton_append,
    List.dropWhile_cons_of_neg (by simp)]
  exact congrArg some (List.reverse_reverse text)

/-- The text in front of its last character. -/
theorem before?_concat (mark : Char) (text : List Char) :
    Text.before? [mark] (text ++ [mark]) = some text := by
  rw [Text.before?, if_pos (List.isSuffixOf_iff_suffix.mpr (List.suffix_append _ _))]
  simp only [List.length_append, List.length_singleton, Nat.add_sub_cancel, List.take_left']

/-- The view of a token whose text delimits a name, for each opening text: what stands in front of the
name has no quote and no angle bracket before its last character, or is the opening of a reference that
is written with an equals sign. -/
theorem name?_of_delimited {token : Token} {opening name : String} {closing : Char}
    (hopening : (opening, closing) ∈
      [("\\k<", '>'), ("\\k'", '\''), ("(?P=", ')'), ("(?<", '>'), ("(?P<", '>')])
    (h : Delimited opening name closing token.raw) : token.name? = some name := by
  have hraw : token.raw.toList = opening.toList ++ (name.toList ++ [closing]) := by
    rw [h.raw_eq]
    simp only [String.toList_append, String.toList_singleton, List.append_assoc]
  unfold name?
  simp only [hraw]
  simp only [List.mem_cons, Prod.mk.injEq, List.not_mem_nil, or_false] at hopening
  rcases hopening with ⟨rfl, rfl⟩ | ⟨rfl, rfl⟩ | ⟨rfl, rfl⟩ | ⟨rfl, rfl⟩ | ⟨rfl, rfl⟩
  · have hview := beforeLast?_concat '>' name.toList
    simp [Text.after?, List.isPrefixOf, hview]
  · have hview := beforeLast?_concat '\'' name.toList
    simp [Text.after?, List.isPrefixOf, hview]
  · have hview := before?_concat ')' name.toList
    simp [Text.after?, List.isPrefixOf, hview]
  · have hview := beforeLast?_concat '>' name.toList
    simp [Text.after?, List.isPrefixOf, hview]
  · have hview := beforeLast?_concat '>' name.toList
    simp [Text.after?, List.isPrefixOf, hview]

/-- A reference behind the letter of its escape delimits a name by angle brackets or by quotes. -/
theorem namedReference_delimited {after : List Char} (offset : Nat)
    (h : (namedReference after).kind = .namedBackreference) :
    ∃ name, Delimited "\\k<" name '>' (ofLexeme (namedReference after) offset ('\\' :: 'k' :: after)).raw ∨
      Delimited "\\k'" name '\'' (ofLexeme (namedReference after) offset ('\\' :: 'k' :: after)).raw := by
  unfold namedReference at h ⊢
  dsimp only at h ⊢
  split at h
  · split at h
    · rename_i hclose
      obtain ⟨name, more, rfl, rfl, hname⟩ := exists_append_of_findIdx? hclose
      exact ⟨_, .inl (delimited_ofLexeme _ _ ['\\', 'k', '<'] more hname)⟩
    · cases h
  · split at h
    · rename_i hclose
      obtain ⟨name, more, rfl, rfl, hname⟩ := exists_append_of_findIdx? hclose
      exact ⟨_, .inr (delimited_ofLexeme _ _ ['\\', 'k', '\''] more hname)⟩
    · cases h
  · cases h

/-- A reference in parentheses delimits a name by an equals sign and a parenthesis. -/
theorem parenthesizedReference?_delimited {rest : List Char} {lexeme : Lexeme} (offset : Nat)
    (h : parenthesizedReference? rest = some lexeme) :
    ∃ name, Delimited "(?P=" name ')' (ofLexeme lexeme offset ('(' :: rest)).raw := by
  unfold parenthesizedReference? at h
  split at h
  · obtain ⟨n, hn, rfl⟩ := Option.map_eq_some_iff.mp h
    obtain ⟨name, more, rfl, rfl, hname⟩ := exists_append_of_nameLength? (by decide) hn
    exact ⟨_, delimited_ofLexeme _ _ ['(', '?', 'P', '='] more hname⟩
  · cases h

/-- The opener of a named group delimits its name by angle brackets. -/
theorem namedOpener?_delimited {rest : List Char} {lexeme : Lexeme} (offset : Nat)
    (h : namedOpener? rest = some lexeme) :
    ∃ name, Delimited "(?<" name '>' (ofLexeme lexeme offset ('(' :: rest)).raw ∨
      Delimited "(?P<" name '>' (ofLexeme lexeme offset ('(' :: rest)).raw := by
  unfold namedOpener? at h
  split at h
  · obtain ⟨n, hn, rfl⟩ := Option.map_eq_some_iff.mp h
    obtain ⟨name, more, rfl, rfl, hname⟩ := exists_append_of_nameLength? (by decide) hn
    exact ⟨_, .inl (delimited_ofLexeme _ _ ['(', '?', '<'] more hname)⟩
  · obtain ⟨n, hn, rfl⟩ := Option.map_eq_some_iff.mp h
    obtain ⟨name, more, rfl, rfl, hname⟩ := exists_append_of_nameLength? (by decide) hn
    exact ⟨_, .inr (delimited_ofLexeme _ _ ['(', '?', 'P', '<'] more hname)⟩
  · cases h

/-- Every reference by name among the tokens of a pattern shows the name in its text. -/
theorem refersTo_of_tokenize {pattern : String} {tokens : List Token} (h : tokenize pattern = .ok tokens)
    {token : Token} (hmem : token ∈ tokens) (hkind : token.kind = .namedBackreference) :
    ∃ name, token.RefersTo name := by
  obtain ⟨extended, place, c, rest, lexeme, hscan, rfl⟩ :=
    (tokensFrom_eq_ok_iff.mp h).exists_scan hmem
  rcases scan_namedBackreference hscan hkind with ⟨rfl, after, rfl, rfl⟩ | ⟨rfl, hrule⟩
  · obtain ⟨name, hname | hname⟩ := namedReference_delimited place hkind
    · exact ⟨name, name?_of_delimited (by decide) hname, .inl hname⟩
    · exact ⟨name, name?_of_delimited (by decide) hname, .inr (.inl hname)⟩
  · obtain ⟨name, hname⟩ := parenthesizedReference?_delimited place hrule
    exact ⟨name, name?_of_delimited (by decide) hname, .inr (.inr hname)⟩

/-- Every opener of a named group among the tokens of a pattern shows the name in its text. -/
theorem introduces_of_tokenize {pattern : String} {tokens : List Token}
    (h : tokenize pattern = .ok tokens) {token : Token} (hmem : token ∈ tokens)
    (hkind : token.kind = .groupOpen .named) : ∃ name, token.Introduces name := by
  obtain ⟨extended, place, c, rest, lexeme, hscan, rfl⟩ :=
    (tokensFrom_eq_ok_iff.mp h).exists_scan hmem
  obtain ⟨rfl, hrule⟩ := scan_named hscan hkind
  obtain ⟨name, hname | hname⟩ := namedOpener?_delimited place hrule
  · exact ⟨name, name?_of_delimited (by decide) hname, .inl hname⟩
  · exact ⟨name, name?_of_delimited (by decide) hname, .inr hname⟩

end Railroad.Token
