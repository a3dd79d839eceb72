import Railroad.Proofs.ClassBytes
import Railroad.Proofs.NameText

/-!
# Quantifiers, blanks and escapes byte by byte

What the byte for byte rules find is what is found by counting characters, measured in bytes. Digits and
letters have one byte each, and so have all delimiters; anything else is cut where a search by characters
has stopped.
-/

namespace Railroad.Token

open Text (byteLength byteLength_append byteLength_cons byteLength_nil)

/-- The lexeme at the beginning of a text, measured in bytes. -/
def Lexeme.inBytes (text : List Char) (lexeme : Lexeme) : Bytewise.Find :=
  ⟨lexeme.kind, byteLength (text.take lexeme.length)⟩

namespace Bytewise

/-- A character up to some ASCII character has one byte. -/
theorem utf8Size_of_le {c : Char} (last : Char) (h : c ≤ last) (hlast : last.val.toNat ≤ 127) :
    c.utf8Size = 1 := by
  have hle : c.val.toNat ≤ last.val.toNat := h
  exact Char.utf8Size_eq_one_iff.mpr (UInt32.le_iff_toNat_le.mpr (Nat.le_trans hle hlast))

/-- A decimal digit has one byte. -/
theorem utf8Size_of_isDigit {c : Char} (h : c.isDigit = true) : c.utf8Size = 1 := by
  simp only [Char.isDigit, Bool.and_eq_true, decide_eq_true_eq] at h
  exact utf8Size_of_le '9' h.2 (by decide)

/-- A hexadecimal digit has one byte. -/
theorem utf8Size_of_isHexDigit {c : Char} (h : Unicode.isHexDigit c = true) : c.utf8Size = 1 := by
  simp only [Unicode.isHexDigit, Bool.or_eq_true, Bool.and_eq_true, decide_eq_true_eq] at h
  rcases h with (h | h) | h
  · exact utf8Size_of_isDigit h
  · exact utf8Size_of_le 'f' h.2 (by decide)
  · exact utf8Size_of_le 'F' h.2 (by decide)

/-- A letter of ASCII has one byte. -/
theorem utf8Size_of_isAlpha {c : Char} (h : c.isAlpha = true) : c.utf8Size = 1 := by
  simp only [Char.isAlpha, Char.isUpper, Char.isLower, Bool.or_eq_true, Bool.and_eq_true,
    decide_eq_true_eq] at h
  rcases h with h | h
  · exact utf8Size_of_le 'Z' h.2 (by decide)
  · exact utf8Size_of_le 'z' h.2 (by decide)

/-- A lexeme that goes on behind its opening up to a mark of one byte. -/
theorem inBytes_append (kind : Kind) (opening : List Char) {rest : List Char} {n : Nat} {mark : Char}
    (hone : mark.utf8Size = 1) (hmark : (rest.drop n).head? = some mark) :
    Lexeme.inBytes (opening ++ rest) ⟨kind, n + (opening.length + 1)⟩ =
      ⟨kind, byteLength opening + byteLength (rest.take n) + 1⟩ := by
  obtain ⟨more, hmore⟩ := List.head?_eq_some_iff.mp hmark
  have hlength : n + (opening.length + 1) = opening.length + (n + 1) := by omega
  rw [Lexeme.inBytes, hlength, List.take_length_add_append, byteLength_append,
    Text.byteLength_take_succ hmore, hone, Nat.add_assoc]

/-- A mark that is found stands behind the characters in front of it. -/
theorem head?_drop_of_findIdx? {mark : Char} {text : List Char} {n : Nat}
    (h : text.findIdx? (· == mark) = some n) : (text.drop n).head? = some mark := by
  obtain ⟨front, more, rfl, rfl, -⟩ := exists_append_of_findIdx? h
  rw [List.drop_left, List.head?_cons]

/-- A mark that is found takes its bytes. -/
theorem byteLength_take_of_findIdx? {mark : Char} {text : List Char} {n : Nat}
    (h : text.findIdx? (· == mark) = some n) :
    byteLength (text.take (n + 1)) = byteLength (text.take n) + mark.utf8Size := by
  obtain ⟨more, hmore⟩ := List.head?_eq_some_iff.mp (head?_drop_of_findIdx? h)
  exact Text.byteLength_take_succ hmore

/-- The text between braces is cut, and what it stands for is found as before. -/
theorem braces_eq (rest : List Char) :
    braces ('\x7b' :: rest) =
      some ((repetition? ('\x7b' :: rest)).map fun found =>
        (found.1, byteLength (('\x7b' :: rest).take found.2))) := by
  rw [braces, Text.find?_eq, List.findIdx?_cons]
  cases hclose : rest.findIdx? (· == '\x7d') with
  | none => simp [repetition?, hclose]
  | some close =>
    obtain ⟨body, more, rfl, rfl, -⟩ := exists_append_of_findIdx? hclose
    have hcut : Text.slice 1 (1 + byteLength body) ('\x7b' :: (body ++ '\x7d' :: more)) = some body :=
      Text.slice_append ['\x7b'] body ('\x7d' :: more)
    have hsize := byteLength_take_of_findIdx? hclose
    rw [List.take_left] at hsize
    simp [repetition?, hclose, hcut, hsize, Function.comp_def, Char.utf8Size, Nat.add_assoc]

/-- The repetition at the beginning of a text is found as before. -/
theorem repetition_eq (text : List Char) :
    repetition text =
      some ((repetition? text).map fun found => (found.1, byteLength (text.take found.2))) := by
  cases text with
  | nil => rfl
  | cons c rest =>
    by_cases hbrace : c = '\x7b'
    · subst hbrace
      exact braces_eq rest
    by_cases hstar : c = '*'
    · subst hstar
      rfl
    by_cases hplus : c = '+'
    · subst hplus
      rfl
    by_cases hquestion : c = '?'
    · subst hquestion
      rfl
    · simp [repetition, repetition?, hbrace, hstar, hplus, hquestion]

/-- The quantifier at the beginning of a text is found as before. -/
theorem quantifier_eq (text : List Char) :
    quantifier text =
      some ((quantifier? text).map fun found => (found.1, byteLength (text.take found.2))) := by
  rw [quantifier, repetition_eq, quantifier?]
  cases hr : repetition? text with
  | none => rfl
  | some found =>
    obtain ⟨repetition, n⟩ := found
    simp only [Option.map_some, Option.bind_eq_bind, Option.bind_some, Text.sliceFrom_take]
    cases hrest : text.drop n with
    | nil => rfl
    | cons c more =>
      have hsize := Text.byteLength_take_succ hrest
      by_cases hquestion : c = '?'
      · subst hquestion
        simp [hsize, Char.utf8Size]
      by_cases hplus : c = '+'
      · subst hplus
        simp [hsize, Char.utf8Size]
      · simp [hquestion, hplus]

/-- Blanks in front of a text are skipped. -/
theorem triviaLength_blanks {run : List Char} (hrun : ∀ c ∈ run, Unicode.isBlank c = true)
    (rest : List Char) : triviaLength false (run ++ rest) = run.length + triviaLength false rest := by
  induction run with
  | nil => simp
  | cons c run ih =>
    have hblank := hrun c List.mem_cons_self
    have hsign : c ≠ '#' := by
      rintro rfl
      exact absurd hblank (by decide)
    have hbehind := ih fun d hmem => hrun d (List.mem_cons_of_mem _ hmem)
    simp only [List.cons_append, triviaLength, Bool.false_eq_true, if_false, beq_iff_eq, hsign, hblank,
      if_true, hbehind, List.length_cons]
    omega

/-- The loop over blanks and comments goes on behind one piece of them. -/
theorem triviaFrom_append (front rest : List Char) :
    triviaFrom (front ++ rest) (byteLength front) =
      if triviaStep rest = 0 then some (byteLength front)
      else triviaFrom (front ++ rest) (byteLength front + triviaStep rest) := by
  rw [triviaFrom, Text.sliceFrom_append]
  rfl

/-- Each piece is skipped as a whole. -/
theorem exists_triviaStep (rest : List Char) :
    ∃ part more, rest = part ++ more ∧ triviaStep rest = byteLength part ∧
      (part = [] → triviaLength false rest = 0) ∧
      triviaLength false rest = part.length + triviaLength false more := by
  by_cases hsign : rest.head? = some '#'
  · obtain ⟨text, rfl⟩ := List.head?_eq_some_iff.mp hsign
    have hlength : triviaLength false ('#' :: text) = triviaLength true text + 1 := rfl
    by_cases hline : '\n' ∈ text
    · obtain ⟨note, more, rfl, hnote⟩ := List.eq_append_cons_of_mem hline
      have hcomment : '\n' ∉ '#' :: note := by simp [hnote]
      have hfind := Text.find?_append_cons hcomment more
      refine ⟨'#' :: (note ++ ['\n']), more, by simp, ?_, by simp, ?_⟩
      · rw [triviaStep, if_pos hsign, ← List.cons_append, hfind]
        simp [Char.utf8Size, Nat.add_assoc]
      · rw [hlength, triviaLength_comment hnote]
        simp
        omega
    · have hcomment : '\n' ∉ '#' :: text := by simp [hline]
      have hfind := Text.find?_eq_none hcomment
      refine ⟨'#' :: text, [], by simp, ?_, by simp, ?_⟩
      · rw [triviaStep, if_pos hsign, hfind]
        rfl
      · rw [hlength, triviaLength_last hline]
        rfl
  · have hall : ∀ c ∈ rest.takeWhile Unicode.isBlank, Unicode.isBlank c = true := fun c hmem =>
      List.all_eq_true.mp List.all_takeWhile c hmem
    have hblanks := triviaLength_blanks hall (rest.dropWhile Unicode.isBlank)
    rw [List.takeWhile_append_dropWhile] at hblanks
    refine ⟨rest.takeWhile Unicode.isBlank, rest.dropWhile Unicode.isBlank, by simp, ?_, ?_, hblanks⟩
    · rw [triviaStep, if_neg hsign, Text.leading_eq]
    · intro hnone
      cases rest with
      | nil => rfl
      | cons c rest =>
        have hc : c ≠ '#' := fun hc => hsign (by rw [hc]; rfl)
        have hblank : ¬ Unicode.isBlank c = true := fun hblank => by
          rw [List.takeWhile_cons_of_pos hblank] at hnone
          cases hnone
        simp [triviaLength, hc, hblank]

/-- Blanks and comments are measured piece by piece. -/
theorem triviaFrom_eq (front rest : List Char) :
    triviaFrom (front ++ rest) (byteLength front) =
      some (byteLength front + byteLength (rest.take (triviaLength false rest))) := by
  induction hn : rest.length using Nat.strongRecOn generalizing front rest with
  | ind n ih =>
    obtain ⟨part, more, hsplit, hstep, hnone, hlength⟩ := exists_triviaStep rest
    rw [triviaFrom_append]
    by_cases hpart : part = []
    · rw [if_pos (by rw [hstep, hpart, byteLength_nil]), hnone hpart]
      rfl
    · have hpos : triviaStep rest ≠ 0 := by
        rw [hstep, Ne, Text.byteLength_eq_zero_iff]
        exact hpart
      have hless : more.length < n := by
        have hpos := List.length_pos_of_ne_nil hpart
        rw [← hn, hsplit, List.length_append]
        omega
      have hbehind := ih _ hless (front ++ part) more rfl
      rw [if_neg hpos, hstep, hlength, hsplit, ← byteLength_append, ← List.append_assoc, hbehind,
        List.take_length_add_append]
      simp [Nat.add_assoc]

/-- The number of characters of blanks and comments at the beginning of a text, if there can be any. -/
def triviaCount (extended : Bool) (text : List Char) : Nat :=
  if extended then triviaLength false text else 0

/-- Blanks and comments are measured as before. -/
theorem triviaSize_eq (extended : Bool) (text : List Char) :
    triviaSize extended text = some (byteLength (text.take (triviaCount extended text))) := by
  cases extended with
  | false => rfl
  | true =>
    have htrivia := triviaFrom_eq [] text
    rwa [List.nil_append, byteLength_nil, Nat.zero_add] at htrivia

/-- Blanks and comments are skipped as before. -/
theorem drop_triviaCount (extended : Bool) (text : List Char) :
    text.drop (triviaCount extended text) =
      if extended then text.drop (triviaLength false text) else text := by
  cases extended <;> rfl

/-- The hexadecimal part of an escape is measured as before. -/
theorem hexSize_eq (digits : Nat) (after : List Char) :
    hexSize digits after = byteLength (after.take (hexLength digits after)) := by
  have hone : ∀ c ∈ after.takeWhile Unicode.isHexDigit, c.utf8Size = 1 := fun c hmem =>
    utf8Size_of_isHexDigit (List.all_eq_true.mp List.all_takeWhile c hmem)
  by_cases hbrace : after.head? = some '\x7b'
  · obtain ⟨text, rfl⟩ := List.head?_eq_some_iff.mp hbrace
    rw [hexSize, if_pos hbrace, Text.find?_eq, hexLength]
    cases hclose : ('\x7b' :: text).findIdx? (· == '\x7d') with
    | none => rfl
    | some close =>
      exact (byteLength_take_of_findIdx? hclose).symm
  · have hlength : hexLength digits after =
        if digits ≤ (after.takeWhile Unicode.isHexDigit).length then digits else 0 := by
      unfold hexLength
      split
      · exact absurd rfl hbrace
      · rfl
    rw [hexSize, if_neg hbrace, Text.leading_eq, Text.byteLength_eq_length hone, hlength]
    split
    · rename_i hle
      have hbegins : after.take digits = (after.takeWhile Unicode.isHexDigit).take digits := by
        conv_lhs => rw [← List.takeWhile_append_dropWhile (p := Unicode.isHexDigit) (l := after)]
        exact List.take_append_of_le_length hle
      rw [hbegins, Text.byteLength_eq_length fun c hmem => hone c (List.mem_of_mem_take hmem),
        List.length_take, Nat.min_eq_left hle]
    · rfl

/-- What follows a character of one byte is a piece of the text. -/
theorem sliceFrom_one {c : Char} (hc : c.utf8Size = 1) (rest : List Char) :
    Text.sliceFrom 1 (c :: rest) = some rest := by
  have hcut := Text.sliceFrom_append [c] rest
  rwa [byteLength_cons, hc, byteLength_nil] at hcut

/-- An escape of a backslash and one more character has the bytes of that character. -/
theorem inBytes_two (kind : Kind) (c : Char) (after : List Char) :
    Lexeme.inBytes ('\\' :: c :: after) ⟨kind, 2⟩ = ⟨kind, 1 + c.utf8Size⟩ := by
  simp [Lexeme.inBytes, Char.utf8Size]

/-- A reference by name is measured as before. -/
theorem namedReference_eq (after : List Char) :
    namedReference after = some ((Token.namedReference after).inBytes ('\\' :: 'k' :: after)) := by
  have hescape : (⟨.escape, 2⟩ : Find) = Lexeme.inBytes ('\\' :: 'k' :: after) ⟨.escape, 2⟩ := by
    rw [inBytes_two]
    rfl
  cases after with
  | nil => rfl
  | cons d rest =>
    have hname (close : Char) (hopening : d.utf8Size = 1) (hone : close.utf8Size = 1) {stop : Nat}
        (hclose : rest.findIdx? (· == close) = some stop) :
        (⟨.namedBackreference, 2 + byteLength (rest.take stop) + 2⟩ : Find) =
          Lexeme.inBytes ('\\' :: 'k' :: d :: rest) ⟨.namedBackreference, stop + 4⟩ := by
      have hsize := inBytes_append .namedBackreference ['\\', 'k', d] hone (head?_drop_of_findIdx? hclose)
      have hdelimited : byteLength ['\\', 'k', d] = 3 := by
        rw [byteLength_cons, byteLength_cons, byteLength_cons, hopening]
        rfl
      rw [hdelimited] at hsize
      refine Eq.trans ?_ hsize.symm
      rw [Find.mk.injEq]
      exact ⟨rfl, by omega⟩
    by_cases hangle : d = '<'
    · subst hangle
      simp only [namedReference, Token.namedReference, List.head?_cons, true_or, if_true,
        sliceFrom_one (by decide : '<'.utf8Size = 1), Option.bind_eq_bind, Option.bind_some, Text.find?_eq]
      cases hclose : rest.findIdx? (· == '>') with
      | none => exact congrArg some hescape
      | some stop => exact congrArg some (hname '>' (by decide) (by decide) hclose)
    by_cases hquote : d = '\''
    · subst hquote
      simp only [namedReference, Token.namedReference, List.head?_cons, or_true, if_true, hangle, if_false,
        sliceFrom_one (by decide : '\''.utf8Size = 1), Option.bind_eq_bind, Option.bind_some, Text.find?_eq,
        Option.some_inj]
      cases hclose : rest.findIdx? (· == '\'') with
      | none => exact congrArg some hescape
      | some stop => exact congrArg some (hname '\'' (by decide) (by decide) hclose)
    · have hother : Token.namedReference (d :: rest) = ⟨.escape, 2⟩ := by
        simp [Token.namedReference, hangle, hquote]
      rw [namedReference, if_neg (by simp [hangle, hquote]), hother, hescape]

/-- A property is measured as before. -/
theorem property_eq {c : Char} (hc : c.utf8Size = 1) (negated : Bool) (after : List Char) :
    property negated after = (Token.property negated after).inBytes ('\\' :: c :: after) := by
  have htwo : (⟨.escape, 2⟩ : Find) = Lexeme.inBytes ('\\' :: c :: after) ⟨.escape, 2⟩ := by
    rw [inBytes_two, hc]
  cases after with
  | nil => exact htwo
  | cons d rest =>
    have hslash : '\\'.utf8Size = 1 := by decide
    by_cases hbrace : d = '\x7b'
    · subst hbrace
      cases hclose : ('\x7b' :: rest).findIdx? (· == '\x7d') with
      | none => simpa [property, Token.property, Text.find?_eq, hclose] using htwo
      | some close =>
        have hsize := byteLength_take_of_findIdx? hclose
        have hend : '\x7d'.utf8Size = 1 := by decide
        rw [hend] at hsize
        simp only [property, Token.property, List.head?_cons, if_true, Text.find?_eq, hclose,
          Option.map_some, Lexeme.inBytes, Find.mk.injEq, true_and, List.take_succ_cons, byteLength_cons,
          hslash, hc] at hsize ⊢
        omega
    · by_cases hletter : d.isAlpha = true
      · have hd := utf8Size_of_isAlpha hletter
        simp [property, Token.property, hbrace, hletter, Lexeme.inBytes, hslash, hc, hd]
      · simpa [property, Token.property, hbrace, hletter] using htwo

/-- A character among some of one byte each has one byte. -/
theorem utf8Size_of_contains {c : Char} {letters : List Char} (h : letters.contains c = true)
    (hletters : letters.all (fun d => d.utf8Size == 1) = true) : c.utf8Size = 1 :=
  beq_iff_eq.mp (List.all_eq_true.mp hletters c (List.contains_iff_mem.mp h))

/-- The digits behind a backslash are cut. -/
theorem slice_digits {c : Char} (hc : c.isDigit = true) (after : List Char) :
    Text.slice 1 (1 + (1 + Text.leading Char.isDigit after)) ('\\' :: c :: after) =
      some (c :: after.takeWhile Char.isDigit) := by
  have hcut := Text.slice_append ['\\'] (c :: after.takeWhile Char.isDigit)
    (after.dropWhile Char.isDigit)
  have hslash : '\\'.utf8Size = 1 := by decide
  simpa [hslash, utf8Size_of_isDigit hc, Text.leading_eq] using hcut

/-- A number behind a backslash is found as before. -/
theorem inBytes_digits {c : Char} (hc : c.isDigit = true) (kind : Kind) (after : List Char) :
    Lexeme.inBytes ('\\' :: c :: after) ⟨kind, (after.takeWhile Char.isDigit).length + 2⟩ =
      ⟨kind, 1 + (1 + Text.leading Char.isDigit after)⟩ := by
  have hslash : '\\'.utf8Size = 1 := by decide
  simp [Lexeme.inBytes, hslash, utf8Size_of_isDigit hc, Text.leading_eq, Text.take_takeWhile]

/-- An escape is measured as before. -/
theorem escapeOf_eq (c : Char) (after : List Char) :
    escapeOf ('\\' :: c :: after) c after =
      some ((Token.escapeOf c after).inBytes ('\\' :: c :: after)) := by
  have htwo (kind : Kind) (hc : c.utf8Size = 1) :
      (⟨kind, 2⟩ : Find) = Lexeme.inBytes ('\\' :: c :: after) ⟨kind, 2⟩ := by
    rw [inBytes_two, hc]
  have hhex (digits : Nat) (hc : c.utf8Size = 1) : (⟨.escape, 2 + hexSize digits after⟩ : Find) =
      Lexeme.inBytes ('\\' :: c :: after) ⟨.escape, hexLength digits after + 2⟩ := by
    have hslash : '\\'.utf8Size = 1 := by decide
    simp only [hexSize_eq, Lexeme.inBytes, List.take_succ_cons, byteLength_cons, hslash, hc,
      Find.mk.injEq, true_and]
    omega
  have hletter {letter : Char} (hc : (c == letter) = true) (hone : letter.utf8Size = 1) :
      c.utf8Size = 1 := by
    rwa [beq_iff_eq.mp hc]
  unfold escapeOf Token.escapeOf
  by_cases hclass : ['d', 'D', 'w', 'W', 's', 'S', 'h', 'H'].contains c = true
  · rw [if_pos hclass, if_pos hclass, htwo _ (utf8Size_of_contains hclass rfl)]
  rw [if_neg hclass, if_neg hclass]
  by_cases hanchor : ['b', 'B', 'A', 'z', 'Z', 'G', '<', '>'].contains c = true
  · rw [if_pos hanchor, if_pos hanchor, htwo _ (utf8Size_of_contains hanchor rfl)]
  rw [if_neg hanchor, if_neg hanchor]
  by_cases hcontrol : ['n', 'r', 't', 'f', 'v', 'e', 'a'].contains c = true
  · rw [if_pos hcontrol, if_pos hcontrol, htwo _ (utf8Size_of_contains hcontrol rfl)]
  rw [if_neg hcontrol, if_neg hcontrol]
  by_cases hkeep : (c == 'K') = true
  · rw [if_pos hkeep, if_pos hkeep, htwo _ (hletter hkeep (by decide))]
  rw [if_neg hkeep, if_neg hkeep]
  by_cases hnumber : (c.isDigit && c != '0') = true
  · rw [if_pos hnumber, if_pos hnumber]
    rw [Bool.and_eq_true] at hnumber
    simp only [slice_digits hnumber.1, Option.bind_eq_bind, Option.bind_some]
    by_cases hlimit : Text.decimalValue (c :: after.takeWhile Char.isDigit) < groupLimit
    · rw [if_pos hlimit, if_pos hlimit, inBytes_digits hnumber.1]
      rfl
    · rw [if_neg hlimit, if_neg hlimit, ← htwo _ (utf8Size_of_isDigit hnumber.1)]
      rfl
  rw [if_neg hnumber, if_neg hnumber]
  by_cases hname : (c == 'k') = true
  · rw [if_pos hname, if_pos hname, namedReference_eq, beq_iff_eq.mp hname]
  rw [if_neg hname, if_neg hname]
  by_cases hproperty : (c == 'p' || c == 'P') = true
  · have hone : c.utf8Size = 1 := by
      rw [Bool.or_eq_true] at hproperty
      rcases hproperty with hc | hc <;> exact hletter hc (by decide)
    rw [if_pos hproperty, if_pos hproperty, property_eq hone]
  rw [if_neg hproperty, if_neg hproperty]
  by_cases htwoDigits : (c == 'x') = true
  · rw [if_pos htwoDigits, if_pos htwoDigits, hhex _ (hletter htwoDigits (by decide))]
  rw [if_neg htwoDigits, if_neg htwoDigits]
  by_cases hfourDigits : (c == 'u') = true
  · rw [if_pos hfourDigits, if_pos hfourDigits, hhex _ (hletter hfourDigits (by decide))]
  rw [if_neg hfourDigits, if_neg hfourDigits]
  by_cases heightDigits : (c == 'U') = true
  · rw [if_pos heightDigits, if_pos heightDigits, hhex _ (hletter heightDigits (by decide))]
  · rw [if_neg heightDigits, if_neg heightDigits, inBytes_two]

/-- The escape at the beginning of a text is found as before, or missed for the same flaw. -/
theorem escape_eq (extended : Bool) (rest : List Char) :
    escape ('\\' :: rest) =
      some ((scanPlain extended '\\' rest).map (·.inBytes ('\\' :: rest))) := by
  cases rest with
  | nil => rfl
  | cons c after =>
    have hbehind : Text.sliceFrom 1 ('\\' :: c :: after) = some (c :: after) :=
      sliceFrom_one (by decide) _
    have hafter : Text.sliceFrom (1 + c.utf8Size) ('\\' :: c :: after) = some after :=
      Text.sliceFrom_append ['\\', c] after
    rw [escape, hbehind]
    simp only [Option.bind_eq_bind, Option.bind_some, hafter, escapeOf_eq]
    rfl

end Bytewise

end Railroad.Token
