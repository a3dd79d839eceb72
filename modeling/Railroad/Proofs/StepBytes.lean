import Railroad.Proofs.EscapeBytes

/-!
# Both ways of cutting a pattern agree

What one step of the byte for byte way finds is what is found by counting characters, measured in bytes. So
all of its cuts can be made, its counts stay above zero and its loops come to an end, and it cuts every
pattern into the same tokens.
-/

namespace Railroad.Token.Bytewise

open Text (byteLength byteLength_append byteLength_cons byteLength_nil)

/-- A name behind the text that opens it is measured as before. -/
theorem delimitedName_append (kind : Kind) (opening : List Char) {close : Char}
    (hclose : close.utf8Size = 1) (rest : List Char) :
    delimitedName kind opening close (opening ++ rest) =
      some ((nameLength? close rest).map fun n =>
        Lexeme.inBytes (opening ++ rest) ⟨kind, n + (opening.length + 1)⟩) := by
  simp only [delimitedName, Text.stripStart_eq, Text.after?_append, Option.bind_eq_bind, Option.bind_some,
    Text.leading_eq, Text.sliceFrom_takeWhile, Text.byteLength_eq_zero_iff, nameLength?,
    Bool.and_eq_true, Bool.not_eq_true', List.isEmpty_eq_false_iff, beq_iff_eq]
  by_cases hname : rest.takeWhile isNameChar = []
  · rw [if_pos hname, if_neg fun h => h.1 hname]
    rfl
  by_cases hhead : (rest.drop (rest.takeWhile isNameChar).length).head? = some close
  · have hsize := inBytes_append kind opening hclose hhead
    rw [Text.take_takeWhile] at hsize
    rw [if_neg hname, if_pos hhead, if_pos ⟨hname, hhead⟩, Option.map_some, hsize]
    rfl
  · rw [if_neg hname, if_neg hhead, if_neg fun h => hhead h.2]
    rfl

/-- Where the text that opens it is missing, there is no name. -/
theorem delimitedName_none (kind : Kind) (opening : List Char) (close : Char) {rest : List Char}
    (h : ∀ more, rest ≠ opening ++ more) :
    delimitedName kind ('(' :: opening) close ('(' :: rest) = some none := by
  have hnone : Text.after? ('(' :: opening) ('(' :: rest) = none :=
    Text.after?_eq_none fun more heq => h more (List.cons.inj heq).2
  rw [delimitedName, Text.stripStart_eq, hnone]
  rfl

/-- The closing parenthesis is found as before. -/
theorem closingParen_eq (place depth : Nat) (text : List Char) :
    closingParen place depth text =
      some ((closingParen? depth text).map fun n => place + byteLength (text.take n)) := by
  have hone (found : Option Nat) (place : Nat) (c : Char) (rest : List Char) :
      (found.map fun n => place + c.utf8Size + byteLength (rest.take n)) =
        (found.map (· + 1)).map fun n => place + byteLength ((c :: rest).take n) :=
    Text.map_byteLength_append found place [c] rest
  fun_induction closingParen place depth text with
  | case1 => rfl
  | case2 => rfl
  | case3 place depth c rest ih =>
    have htwo := Text.map_byteLength_append (closingParen? depth rest) place ['\\', c] rest
    have hsize : place + byteLength ['\\', c] = place + 1 + c.utf8Size := by
      simp [Char.utf8Size, Nat.add_assoc]
    rw [hsize] at htwo
    rw [ih, htwo, closingParen?]
    rfl
  | case4 place depth c rest hlast hpair hopen ih =>
    rw [beq_iff_eq] at hopen
    subst hopen
    rw [ih, hone, closingParen?_cons (by decide)]
    rfl
  | case5 place depth c rest hlast hpair hopen hclose hdepth =>
    rw [beq_iff_eq] at hclose hdepth
    subst hclose hdepth
    rfl
  | case6 place depth c rest hlast hpair hopen hclose hdepth ih =>
    rw [beq_iff_eq] at hclose
    subst hclose
    cases depth with
    | zero => exact absurd rfl hdepth
    | succ depth =>
      rw [Text.lowered, Option.bind_some, ih, hone, closingParen?_cons (by decide)]
      rfl
  | case7 place depth c rest hlast hpair hopen hclose ih =>
    have hc : c ≠ '\\' := fun hslash => by
      cases rest with
      | nil => exact hlast hslash rfl
      | cons d more => exact hpair d more hslash rfl
    rw [ih, hone, closingParen?_cons hc, if_neg hopen, if_neg hclose]

/-- The opener of a conditional is found as before. -/
theorem conditional_eq (rest : List Char) :
    conditional ('(' :: rest) = some ((conditionalOpener? rest).map (·.inBytes ('(' :: rest))) := by
  by_cases hbegins : ∃ more, rest = '?' :: '(' :: more
  · obtain ⟨more, rfl⟩ := hbegins
    have hcut : Text.sliceFrom 3 ('(' :: '?' :: '(' :: more) = some more :=
      Text.sliceFrom_append ['(', '?', '('] more
    have hopener : ['(', '?', '('].isPrefixOf ('(' :: '?' :: '(' :: more) = true := by simp
    rw [conditional, if_pos hopener, hcut, conditionalOpener?]
    simp only [Option.bind_eq_bind, Option.bind_some, closingParen_eq, Option.map_map]
    cases hclose : closingParen? 0 more with
    | none => rfl
    | some n =>
      have hone : ')'.utf8Size = 1 := by decide
      have hsize := inBytes_append (.groupOpen .conditional) ['(', '?', '('] hone
        (head?_drop_of_closingParen? hclose)
      have hopening : byteLength ['(', '?', '('] = 3 := by decide
      rw [hopening] at hsize
      simp only [Option.map_some, Function.comp_apply, Nat.zero_add]
      exact congrArg (fun found => some (some found)) hsize.symm
  · have hnone : conditionalOpener? rest = none := by
      unfold conditionalOpener?
      split
      · exact absurd ⟨_, rfl⟩ hbegins
      · rfl
    have hopener : ['(', '?', '('].isPrefixOf ('(' :: rest) = false :=
      Text.isPrefixOf_eq_false fun more heq => hbegins ⟨more, (List.cons.inj heq).2⟩
    rw [conditional, hopener, hnone]
    rfl

/-- Flag letters are measured as before. -/
theorem flagged_eq (rest : List Char) :
    flagged ('(' :: rest) = some ((flagged? rest).map (·.inBytes ('(' :: rest))) := by
  by_cases hbegins : ∃ more, rest = '?' :: more
  · obtain ⟨more, rfl⟩ := hbegins
    have hafter : Text.after? ['(', '?'] ('(' :: '?' :: more) = some more :=
      Text.after?_append ['(', '?'] more
    simp only [flagged, Text.stripStart_eq, hafter, Option.bind_eq_bind, Option.bind_some,
      Text.leading_eq, Text.sliceFrom_takeWhile, Text.byteLength_eq_zero_iff, flagged?, List.isEmpty_iff]
    generalize (fun c : Char => c.isAlpha || c == '-') = p
    have hsize (kind : Kind) {mark : Char} (hone : mark.utf8Size = 1)
        (hmark : (more.drop (more.takeWhile p).length).head? = some mark) :
        (⟨kind, 2 + byteLength (more.takeWhile p) + 1⟩ : Find) =
          Lexeme.inBytes ('(' :: '?' :: more) ⟨kind, (more.takeWhile p).length + 3⟩ := by
      have hopening : byteLength ['(', '?'] = 2 := by decide
      have hbytes := inBytes_append kind ['(', '?'] hone hmark
      rw [Text.take_takeWhile, hopening] at hbytes
      exact hbytes.symm
    by_cases hnone : more.takeWhile p = []
    · rw [if_pos hnone, if_pos hnone]
      rfl
    rw [if_neg hnone, if_neg hnone]
    by_cases hparenthesis : (more.drop (more.takeWhile p).length).head? = some ')'
    · rw [if_pos hparenthesis, hparenthesis, hsize _ (by decide) hparenthesis]
      rfl
    by_cases hcolon : (more.drop (more.takeWhile p).length).head? = some ':'
    · rw [if_neg hparenthesis, if_pos hcolon, hcolon, hsize _ (by decide) hcolon]
      rfl
    · rw [if_neg hparenthesis, if_neg hcolon]
      split
      · exact absurd ‹_› hparenthesis
      · exact absurd ‹_› hcolon
      · rfl
  · have hnone : flagged? rest = none := by
      unfold flagged?
      split
      · exact absurd ⟨_, rfl⟩ hbegins
      · rfl
    have hafter : Text.after? ['(', '?'] ('(' :: rest) = none :=
      Text.after?_eq_none fun more heq => hbegins ⟨more, (List.cons.inj heq).2⟩
    rw [flagged, Text.stripStart_eq, hafter, hnone]
    rfl

/-- Two rules that have an outcome are tried one behind the other. -/
theorem orElse_some (first second : Option Find) :
    orElse (some first) (some second) = some (first <|> second) := by
  cases first <;> rfl

/-- The openers with a fixed spelling are of one byte for each character. -/
theorem fixedOpener?_eq (rest : List Char) :
    ((fixedOpener? rest).map fun lexeme => (⟨lexeme.kind, lexeme.length⟩ : Find)) =
      (fixedOpener? rest).map (·.inBytes ('(' :: rest)) := by
  unfold fixedOpener?
  split <;> rfl

/-- A reference by name in parentheses is measured as before. -/
theorem reference_eq (rest : List Char) :
    delimitedName .namedBackreference ['(', '?', 'P', '='] ')' ('(' :: rest) =
      some ((parenthesizedReference? rest).map (·.inBytes ('(' :: rest))) := by
  have hone : ')'.utf8Size = 1 := by decide
  by_cases hbegins : ∃ more, rest = '?' :: 'P' :: '=' :: more
  · obtain ⟨more, rfl⟩ := hbegins
    rw [parenthesizedReference?, Option.map_map]
    exact delimitedName_append .namedBackreference ['(', '?', 'P', '='] hone more
  · have hnone : parenthesizedReference? rest = none := by
      unfold parenthesizedReference?
      split
      · exact absurd ⟨_, rfl⟩ hbegins
      · rfl
    rw [hnone]
    exact delimitedName_none _ ['?', 'P', '='] _ fun more hrest => hbegins ⟨more, hrest⟩

/-- The opener of a named group is measured as before, whichever way it is written. -/
theorem named_eq (rest : List Char) :
    ∃ first second,
      delimitedName (.groupOpen .named) ['(', '?', '<'] '>' ('(' :: rest) = some first ∧
        delimitedName (.groupOpen .named) ['(', '?', 'P', '<'] '>' ('(' :: rest) = some second ∧
        (first <|> second) = (namedOpener? rest).map (·.inBytes ('(' :: rest)) := by
  have hone : '>'.utf8Size = 1 := by decide
  by_cases hshort : ∃ more, rest = '?' :: '<' :: more
  · obtain ⟨more, rfl⟩ := hshort
    have hother : ∀ behind, '?' :: '<' :: more ≠ ['?', 'P', '<'] ++ behind := by simp
    refine ⟨_, _, delimitedName_append _ ['(', '?', '<'] hone more,
      delimitedName_none _ ['?', 'P', '<'] _ hother, ?_⟩
    rw [namedOpener?, Option.map_map, Option.orElse_eq_orElse, Option.orElse_eq_or, Option.or_none]
    rfl
  by_cases hlong : ∃ more, rest = '?' :: 'P' :: '<' :: more
  · obtain ⟨more, rfl⟩ := hlong
    have hother : ∀ behind, '?' :: 'P' :: '<' :: more ≠ ['?', '<'] ++ behind := by simp
    refine ⟨_, _, delimitedName_none _ ['?', '<'] _ hother,
      delimitedName_append _ ['(', '?', 'P', '<'] hone more, ?_⟩
    rw [namedOpener?, Option.map_map]
    rfl
  · have hnone : namedOpener? rest = none := by
      unfold namedOpener?
      split
      · exact absurd ⟨_, rfl⟩ hshort
      · exact absurd ⟨_, rfl⟩ hlong
      · rfl
    refine ⟨none, none, delimitedName_none _ ['?', '<'] _ fun more hrest => hshort ⟨more, hrest⟩,
      delimitedName_none _ ['?', 'P', '<'] _ fun more hrest => hlong ⟨more, hrest⟩, ?_⟩
    rw [hnone]
    rfl

/-- What a parenthesis begins is found as before. -/
theorem parenthesis_eq (rest : List Char) :
    parenthesis ('(' :: rest) = some ((Token.parenthesis rest).inBytes ('(' :: rest)) := by
  obtain ⟨first, second, hfirst, hsecond, hnamed⟩ := named_eq rest
  have hbytes (rule other : Option Lexeme) :
      (rule.map (·.inBytes ('(' :: rest)) <|> other.map (·.inBytes ('(' :: rest))) =
        (rule <|> other).map (·.inBytes ('(' :: rest)) := by
    cases rule <;> rfl
  have hassoc (other : Option Find) : (first <|> second <|> other) = ((first <|> second) <|> other) := by
    cases first <;> rfl
  rw [parenthesis, List.drop_one, List.tail_cons, fixedOpener?_eq, reference_eq, conditional_eq,
    flagged_eq, hfirst, hsecond]
  simp only [orElse_some, hassoc, hnamed, hbytes, Option.bind_eq_bind, Option.bind_some]
  unfold Token.parenthesis
  cases (fixedOpener? rest <|> parenthesizedReference? rest <|> conditionalOpener? rest <|>
    namedOpener? rest <|> flagged? rest) <;> rfl

/-- A mark of one byte is passed as before. -/
theorem past_take {mark : Char} (hmark : mark.utf8Size = 1) (n : Nat) (text : List Char) :
    past mark text (byteLength (text.take n)) =
      byteLength (text.take (n + markLength mark (text.drop n))) := by
  rw [past, markLength]
  cases hrest : text.drop n with
  | nil =>
    have hle : text.length ≤ n := List.drop_eq_nil_iff.mp hrest
    have hnone : (Text.bytes text)[byteLength (text.take n)]? = none :=
      List.getElem?_eq_none (by rw [length_bytes, List.take_of_length_le hle])
    rw [hnone]
    simp
  | cons c rest =>
    obtain ⟨byte, hbyte, hchar⟩ := exists_first_byte (text.take n) rest c
    rw [← hrest, List.take_append_drop] at hbyte
    simp only [hbyte, Option.some_inj, hchar mark hmark, List.head?_cons]
    split
    · rename_i hc
      rw [Text.byteLength_take_succ hrest, hc, hmark]
    · rfl

/-- A class is measured as before. -/
theorem bracket_eq (extended : Bool) (rest : List Char) :
    bracket ('[' :: rest) = some ((scanPlain extended '[' rest).map (·.inBytes ('[' :: rest))) := by
  have hcaret : past '^' ('[' :: rest) 1 =
      byteLength (('[' :: rest).take (1 + markLength '^' rest)) :=
    past_take (by decide) 1 ('[' :: rest)
  have hclass (n : Nat) : classEnd ('[' :: rest) (byteLength (('[' :: rest).take n)) 0 =
      some ((classLength? 0 0 (('[' :: rest).drop n)).map fun m =>
        byteLength (('[' :: rest).take (n + m))) := by
    have hend := classEnd_eq (('[' :: rest).take n) (('[' :: rest).drop n) 0
    rw [List.take_append_drop] at hend
    simpa only [← byteLength_append, ← List.take_add] using hend
  have hdrop (n : Nat) : ('[' :: rest).drop (1 + n) = rest.drop n := by
    rw [Nat.add_comm, List.drop_succ_cons]
  rw [bracket, hcaret, past_take (by decide), hclass]
  simp only [hdrop, scanPlain, bracketLength?, Nat.add_assoc 1]
  generalize markLength '^' rest + markLength ']' (rest.drop (markLength '^' rest)) = marks
  cases classLength? 0 0 (rest.drop marks) with
  | none => rfl
  | some n =>
    have hlength : n + marks + 1 = 1 + (marks + n) := by omega
    simp only [Option.map_some, Option.bind_eq_bind, Option.bind_some, Except.map, Lexeme.inBytes, hlength]
    rfl

/-- A run leaves its last character to a quantifier as before. -/
theorem inBytes_kept (followed : Bool) (p : Char → Bool) (text : List Char) :
    Lexeme.inBytes text ⟨.literal, keptLength followed (text.takeWhile p).length⟩ =
      if followed ∧ 0 < byteLength (text.takeWhile p).dropLast then
        ⟨.literal, byteLength (text.takeWhile p).dropLast⟩
      else ⟨.literal, byteLength (text.takeWhile p)⟩ := by
  have hlast : (text.takeWhile p).dropLast = text.take ((text.takeWhile p).length - 1) := by
    conv_lhs => rw [← Text.take_takeWhile, List.dropLast_eq_take, List.take_take, Text.take_takeWhile]
    rw [Nat.min_eq_left (Nat.sub_le _ _)]
  have hseveral : 0 < byteLength (text.takeWhile p).dropLast ↔ 1 < (text.takeWhile p).length := by
    rw [Nat.pos_iff_ne_zero, Ne, Text.byteLength_eq_zero_iff, ← List.length_eq_zero_iff,
      List.length_dropLast]
    omega
  simp only [hseveral, keptLength, Bool.and_eq_true, decide_eq_true_eq]
  split
  · rw [hlast]
    rfl
  · rw [Lexeme.inBytes, Text.take_takeWhile]

/-- Plain text is measured as before. -/
theorem literal_eq (extended : Bool) (text : List Char) :
    literal extended text = some (Lexeme.inBytes text ⟨.literal, plainLength extended text⟩) := by
  have hstop : (Text.find? (fun c => !isPlain extended c) text).getD (byteLength text) =
      byteLength (text.takeWhile (isPlain extended)) := Text.leading_eq _ text
  simp only [literal, hstop, Text.sliceFrom_takeWhile, Text.slice_takeWhile, Option.bind_eq_bind,
    Option.bind_some, triviaSize_eq, Text.sliceFrom_take, quantifier_eq, Option.isSome_map, plainLength,
    drop_triviaCount, inBytes_kept]
  generalize (quantifier? _).isSome = followed
  cases followed with
  | false => rfl
  | true =>
    simp only [if_true, true_and]
    split <;> rfl

/-- A token that begins with neither trivia nor a quantifier is found as before. -/
theorem plain_eq (extended : Bool) (c : Char) (rest : List Char) :
    plain extended c (c :: rest) = some ((scanPlain extended c rest).map (·.inBytes (c :: rest))) := by
  unfold plain
  split
  · exact escape_eq extended rest
  · rfl
  · rfl
  · rfl
  · rfl
  · rfl
  · rw [parenthesis_eq]
    rfl
  · exact bracket_eq extended rest
  · rfl
  · rw [literal_eq]
    unfold scanPlain
    split
    all_goals first | contradiction | rfl

/-- What a step finds is found as before, and it fails on the same flaws. -/
theorem step_eq (extended : Bool) (c : Char) (rest : List Char) :
    step extended c (c :: rest) = some ((scan extended c rest).map (·.inBytes (c :: rest))) := by
  have hcount : (if extended then triviaLength false (c :: rest) else 0) =
      triviaCount extended (c :: rest) := rfl
  rw [step, triviaSize_eq, scan]
  simp only [Option.bind_eq_bind, Option.bind_some, quantifier_eq, plain_eq, hcount]
  cases htrivia : triviaCount extended (c :: rest) with
  | zero =>
    cases quantifier? (c :: rest) <;> rfl
  | succ n =>
    have hpos : 0 < byteLength ((c :: rest).take (n + 1)) := by
      rw [List.take_succ_cons, byteLength_cons]
      exact Nat.add_pos_left c.utf8Size_pos _
    rw [if_pos hpos]
    rfl

/-- What a step finds has at least one byte. -/
theorem size_inBytes_pos {extended : Bool} {c : Char} {rest : List Char} {lexeme : Lexeme}
    (h : scan extended c rest = .ok lexeme) : 0 < (lexeme.inBytes (c :: rest)).size := by
  obtain ⟨n, hn⟩ := Nat.exists_eq_add_of_lt (scan_fits h).1
  have hpos := c.utf8Size_pos
  simp only [Lexeme.inBytes, hn, Nat.zero_add, List.take_succ_cons, byteLength_cons]
  omega

/-- The text of a token has the bytes of its lexeme. -/
theorem utf8ByteSize_ofLexeme (lexeme : Lexeme) (offset : Nat) (text : List Char) :
    (ofLexeme lexeme offset text).raw.utf8ByteSize = (lexeme.inBytes text).size := by
  rw [ofLexeme, String.utf8ByteSize_ofList, Lexeme.inBytes, Text.byteLength_eq]

/-- The text of a token is a piece of the pattern. -/
theorem slice_inBytes (lexeme : Lexeme) (front text : List Char) :
    Text.slice (byteLength front) (byteLength front + (lexeme.inBytes text).size) (front ++ text) =
      some (text.take lexeme.length) := by
  have hcut := Text.slice_append front (text.take lexeme.length) (text.drop lexeme.length)
  rwa [List.take_append_drop] at hcut

/-- The tokens behind some characters of a pattern are cut as before. -/
theorem tokensFrom_eq (scope : Scope) (front text : List Char) :
    tokensFrom (front ++ text) scope (byteLength front) =
      some (Token.tokensFrom scope (byteLength front) text) := by
  induction hn : text.length using Nat.strongRecOn generalizing scope front text with
  | ind n ih =>
    rw [tokensFrom, Text.sliceFrom_append]
    cases text with
    | nil => rw [tokensFrom_nil]
    | cons c rest =>
      simp only [Option.bind_eq_bind, Option.bind_some, step_eq]
      cases hscan : scan scope.extended c rest with
      | error flaw =>
        rw [tokensFrom_of_scan_error _ hscan]
        rfl
      | ok lexeme =>
        let token := ofLexeme lexeme (byteLength front) (c :: rest)
        have hbehind := ih _ (hn ▸ length_drop_lt hscan) (scope.after token)
          (front ++ (c :: rest).take lexeme.length) ((c :: rest).drop lexeme.length) rfl
        rw [List.append_assoc, List.take_append_drop, byteLength_append] at hbehind
        rw [tokensFrom_of_scan_ok _ hscan, utf8ByteSize_ofLexeme]
        simp only [Except.map]
        rw [dif_pos (size_inBytes_pos hscan), slice_inBytes]
        exact congrArg (Option.bind · _) hbehind

/-- A pattern is cut into the same tokens, or missed for the same flaw. -/
theorem tokensFrom_eq_tokenize (pattern : String) :
    tokensFrom pattern.toList .initial 0 = some (tokenize pattern) :=
  tokensFrom_eq .initial [] pattern.toList

end Railroad.Token.Bytewise
