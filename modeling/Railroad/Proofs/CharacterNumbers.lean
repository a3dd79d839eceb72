import Mathlib.Data.List.TakeWhile
import Railroad.Proofs.Slices

/-!
# Characters by their numbers

An escape gives a character by its number in base sixteen: with as many digits as its letter asks for, or
with any number of digits in braces. The tokenizer takes everything up to the closing brace along, and the
wording takes the digits out of that again. It passes over more opening braces and over a plus sign in front of
them, so a few escapes are read as numbers that are none; any other is the text behind its backslash.
-/

namespace Railroad.Token

/-- A text of hexadecimal digits and nothing else. -/
def IsHexNumeral (text : List Char) : Prop := text ≠ [] ∧ ∀ c ∈ text, Unicode.isHexDigit c = true

/-- What is passed over in front of the digits: opening braces, and then one plus sign at most. -/
def IsPadding (text : List Char) : Prop :=
  ∃ n sign, text = List.replicate n '\x7b' ++ sign ∧ (sign = [] ∨ sign = ['+'])

/-- The text behind a backslash gives a character by its number, which has these digits; `padded` says that
something may stand between the opening brace and the digits. -/
inductive Numbered (padded : Prop) : List Char → List Char → Prop
  /-- As many digits as the letter asks for. -/
  | bare {letter : Char} {digits : List Char} (hwidth : hexWidth? letter = some digits.length)
      (hdigits : IsHexNumeral digits) : Numbered padded (letter :: digits) digits
  /-- Any number of digits in braces. -/
  | braced {letter : Char} {padding digits : List Char} (hletter : (hexWidth? letter).isSome)
      (hpadding : IsPadding padding) (hpadded : padding ≠ [] → padded) (hdigits : IsHexNumeral digits) :
      Numbered padded (letter :: '\x7b' :: (padding ++ digits ++ ['\x7d'])) digits

/-- What the text behind a backslash stands for: the character whose number it gives, if there is one with that
number, and else itself. -/
inductive ReadAs (padded : Prop) (body : List Char) : String → Prop
  /-- A character by its number. -/
  | character {digits : List Char} {c : Char} (hnumbered : Numbered padded body digits)
      (hcode : c.toNat = Text.hexadecimalValue digits) : ReadAs padded body (String.singleton c)
  /-- The text as it is. -/
  | text (hnone : ∀ digits (c : Char), Numbered padded body digits → c.toNat ≠ Text.hexadecimalValue digits) :
      ReadAs padded body (String.ofList body)

/-- What stands behind the backslash of an escape without a meaning of its own: one character, or a letter with
its digits or with a text in braces. -/
inductive EscapeBody : List Char → Prop
  /-- One character. -/
  | single (c : Char) : EscapeBody [c]
  /-- As many digits as the letter asks for. -/
  | digits {letter : Char} {digits : List Char} (hwidth : hexWidth? letter = some digits.length)
      (hdigits : IsHexNumeral digits) : EscapeBody (letter :: digits)
  /-- Everything up to the first closing brace. -/
  | braces {letter : Char} {inside : List Char} (hletter : (hexWidth? letter).isSome) (hfirst : '\x7d' ∉ inside) :
      EscapeBody (letter :: '\x7b' :: (inside ++ ['\x7d']))

/-- An escape without a meaning of its own is a backslash and a character, or has the hexadecimal part that its
letter asks for. -/
theorem escapeOf_length_of_escape {d : Char} {after : List Char} (h : (escapeOf d after).kind = .escape) :
    (escapeOf d after).length = 2 ∨
      ∃ width, hexWidth? d = some width ∧ (escapeOf d after).length = hexLength width after + 2 := by
  rcases escapeOf_rules d after with ⟨kind, -, heq⟩ | ⟨-, group, heq⟩ | ⟨-, heq⟩ | ⟨-, heq⟩ |
    ⟨width, hwidth, heq⟩ | heq
  · exact .inl (by rw [heq])
  · rw [heq] at h
    cases h
  · rw [heq] at h ⊢
    rcases namedReference_cases after with hname | ⟨n, hname⟩
    · exact .inl (by rw [hname])
    · rw [hname] at h
      cases h
  · rw [heq] at h ⊢
    rcases property_cases (d == 'P') after with hproperty | ⟨n, hproperty⟩
    · exact .inl (by rw [hproperty])
    · rw [hproperty] at h
      cases h
  · exact .inr ⟨width, hwidth, by rw [heq]⟩
  · exact .inl (by rw [heq])

/-- Every letter asks for a digit at least. -/
theorem hexWidth?_pos {letter : Char} {width : Nat} (h : hexWidth? letter = some width) : 0 < width := by
  unfold hexWidth? at h
  split at h <;> cases h <;> decide

/-- What stands behind the backslash of an escape by number, as far as the escape goes. -/
theorem escapeBody_hexLength {letter : Char} {width : Nat} (hwidth : hexWidth? letter = some width)
    (after : List Char) : EscapeBody (letter :: after.take (hexLength width after)) := by
  unfold hexLength
  split
  · rename_i rest
    split
    · -- everything up to the first closing brace
      rename_i close hclose
      obtain ⟨front, more, hsplit, rfl, hfirst⟩ := exists_append_of_findIdx? hclose
      obtain ⟨inside, rfl⟩ : ∃ inside, front = '\x7b' :: inside := by
        cases front with
        | nil => exact absurd (List.cons.inj hsplit).1 (by decide)
        | cons c inside => exact ⟨inside, by rw [(List.cons.inj hsplit).1]⟩
      have htake : ('\x7b' :: rest).take (('\x7b' :: inside).length + 1) =
          '\x7b' :: (inside ++ ['\x7d']) := by
        rw [hsplit, List.take_length_add_append]
        rfl
      rw [htake]
      exact .braces (by rw [hwidth]; rfl) fun hmem => hfirst (List.mem_cons_of_mem _ hmem)
    · exact .single letter
  · split
    · -- the digits that are asked for
      rename_i hle
      have hlength : (after.take width).length = width :=
        List.length_take_of_le (hle.trans (List.takeWhile_prefix _).length_le)
      have hhex : ∀ c ∈ after.take width, Unicode.isHexDigit c = true := by
        intro c hmem
        have hrun := List.take_subset_take_left after hle hmem
        rw [← List.prefix_iff_eq_take.mp (List.takeWhile_prefix Unicode.isHexDigit)] at hrun
        exact List.all_eq_true.mp List.all_takeWhile c hrun
      have hpos := hexWidth?_pos hwidth
      have hne : after.take width ≠ [] := List.ne_nil_of_length_pos (by omega)
      exact .digits (hwidth.trans (congrArg some hlength.symm)) ⟨hne, hhex⟩
    · exact .single letter

/-- What stands behind the backslash of an escape without a meaning of its own. -/
theorem escapeBody_of_tokenize {pattern : String} {tokens : List Token} {token : Token}
    (h : tokenize pattern = .ok tokens) (hmem : token ∈ tokens) (hkind : token.kind = .escape) :
    ∃ body, token.raw.toList = '\\' :: body ∧ EscapeBody body := by
  obtain ⟨extended, place, c, rest, lexeme, hscan, rfl⟩ := (tokensFrom_eq_ok_iff.mp h).exists_scan hmem
  have hlexeme : lexeme.kind = .escape := hkind
  obtain ⟨rfl, d, after, rfl, rfl⟩ := scan_cutEscape hscan (by rw [hlexeme]; rfl)
  rw [ofLexeme, String.toList_ofList]
  rcases escapeOf_length_of_escape hlexeme with hlength | ⟨width, hwidth, hlength⟩
  · rw [hlength]
    exact ⟨[d], rfl, .single d⟩
  · rw [hlength]
    exact ⟨d :: after.take (hexLength width after), rfl, escapeBody_hexLength hwidth after⟩

end Railroad.Token

namespace Railroad.Text

/-- A hexadecimal numeral is read as the number of its digits, and nothing else is read. -/
theorem hexadecimal?_eq_some_iff {text : List Char} {n : Nat} :
    hexadecimal? text = some n ↔ Token.IsHexNumeral text ∧ n = hexadecimalValue text := by
  unfold hexadecimal? Token.IsHexNumeral
  split
  · rename_i hno
    rw [Bool.or_eq_true, List.isEmpty_iff, Bool.not_eq_true', ← Bool.not_eq_true, List.all_eq_true] at hno
    refine iff_of_false nofun fun h => ?_
    rcases hno with hnil | hall
    · exact h.1.1 hnil
    · exact hall h.1.2
  · rename_i hyes
    rw [Bool.or_eq_true, List.isEmpty_iff, Bool.not_eq_true', ← Bool.not_eq_true, List.all_eq_true, not_or,
      not_not] at hyes
    rw [Option.some_inj, and_iff_right hyes, eq_comm]

/-- The character with a code point is the one that has it. -/
theorem character?_eq_some_iff {code : Nat} {c : Char} : character? code = some c ↔ c.toNat = code := by
  unfold character?
  split
  · rename_i hvalid
    rw [Option.some_inj, ← Char.toNat_inj, Char.toNat_ofNatAux, eq_comm]
  · rename_i hinvalid
    refine iff_of_false nofun ?_
    rintro rfl
    exact hinvalid c.valid

/-- In front of the rest stands a plus sign, or nothing. -/
theorem exists_sign (text : List Char) :
    ∃ sign, text = sign ++ withoutPlus text ∧ (sign = [] ∨ sign = ['+']) := by
  unfold withoutPlus
  split
  · exact ⟨['+'], rfl, .inr rfl⟩
  · exact ⟨[], rfl, .inl rfl⟩

end Railroad.Text

namespace Railroad.Token

open Terminal (hexDigits? decoded? escapedLiteral)

/-- No character of a hexadecimal numeral is anything but a digit. -/
theorem IsHexNumeral.ne_of_mem {text : List Char} (h : IsHexNumeral text) {c mark : Char} (hmem : c ∈ text)
    (hmark : Unicode.isHexDigit mark = false) : c ≠ mark := by
  rintro rfl
  rw [h.2 c hmem] at hmark
  cases hmark

/-- A hexadecimal numeral does not begin with anything but a digit. -/
theorem IsHexNumeral.head?_ne {text : List Char} (h : IsHexNumeral text) {mark : Char}
    (hmark : Unicode.isHexDigit mark = false) : text.head? ≠ some mark :=
  fun hhead => h.ne_of_mem (List.mem_of_mem_head? hhead) hmark rfl

/-- A sign in front of a hexadecimal numeral is left out. -/
theorem IsHexNumeral.withoutPlus_append {digits sign : List Char} (h : IsHexNumeral digits)
    (hsign : sign = [] ∨ sign = ['+']) : Text.withoutPlus (sign ++ digits) = digits := by
  rcases hsign with rfl | rfl
  · unfold Text.withoutPlus
    split
    · rename_i hcons
      have hhead : digits.head? = some '+' := congrArg List.head? hcons
      exact absurd hhead (h.head?_ne (by decide))
    · rfl
  · rfl

/-- The digits of an escape are what is left between the braces, if there are any. -/
theorem hexDigits?_of_letter {letter : Char} (h : (hexWidth? letter).isSome) {rest digits : List Char}
    (hrest : Text.trimEnd (· == '\x7d') (rest.dropWhile (· == '\x7b')) = digits) :
    hexDigits? (letter :: rest) = if digits.isEmpty then none else some digits := by
  subst hrest
  unfold hexWidth? at h
  split at h
  · rfl
  · rfl
  · rfl
  · cases h

/-- One character has no digits. -/
theorem hexDigits?_single (c : Char) : hexDigits? [c] = none := by
  unfold hexDigits?
  split
  · rename_i hcons
    cases hcons
    rfl
  · rename_i hcons
    cases hcons
    rfl
  · rename_i hcons
    cases hcons
    rfl
  · rfl

/-- A text is some opening braces and a text that does not begin with one. -/
theorem exists_braces (text : List Char) :
    ∃ n inside, text = List.replicate n '\x7b' ++ inside ∧ inside.head? ≠ some '\x7b' := by
  have hbraces : text.takeWhile (· == '\x7b') = List.replicate _ '\x7b' :=
    List.eq_replicate_iff.mpr ⟨rfl, fun c hmem =>
      beq_iff_eq.mp (List.all_eq_true.mp List.all_takeWhile c hmem)⟩
  refine ⟨(text.takeWhile (· == '\x7b')).length, text.dropWhile (· == '\x7b'), ?_, fun hhead => ?_⟩
  · rw [← hbraces, List.takeWhile_append_dropWhile]
  · have hstop := List.head?_dropWhile_not (· == '\x7b') text
    rw [hhead] at hstop
    cases hstop

/-- More opening braces are passed over, and a closing brace at the end. -/
theorem trimEnd_dropWhile_braces (n : Nat) {inside back : List Char} (hopen : inside.head? ≠ some '\x7b')
    (hclose : '\x7d' ∉ inside) (hback : back = [] ∨ back = ['\x7d']) :
    Text.trimEnd (· == '\x7d')
      ((List.replicate n '\x7b' ++ (inside ++ back)).dropWhile (· == '\x7b')) = inside := by
  have hbraces : ∀ c ∈ List.replicate n '\x7b', (c == '\x7b') = true := fun c hmem =>
    beq_iff_eq.mpr (List.eq_of_mem_replicate hmem)
  have hdrop : (inside ++ back).dropWhile (· == '\x7b') = inside ++ back := by
    cases inside with
    | nil => rcases hback with rfl | rfl <;> rfl
    | cons c rest =>
      have hc : c ≠ '\x7b' := fun heq => hopen (congrArg some heq)
      exact List.dropWhile_cons_of_neg (by simp [hc])
  have hkept : ∀ c ∈ inside, (c == '\x7d') = false := fun c hmem =>
    beq_eq_false_iff_ne.mpr fun heq => hclose (heq ▸ hmem)
  have htrimmed : ∀ c ∈ back, (c == '\x7d') = true := by
    rcases hback with rfl | rfl
    · exact List.forall_mem_nil _
    · exact List.forall_mem_singleton.mpr rfl
  rw [List.dropWhile_append_of_pos hbraces, hdrop, Text.trimEnd_append hkept htrimmed]

/-- An escape is decoded as the character whose number its digits are read as, where a sign in front of them is
left out. -/
theorem decoded?_eq_some_iff {body : List Char} {c : Char} :
    decoded? body = some c ↔ ∃ text, hexDigits? body = some text ∧ IsHexNumeral (Text.withoutPlus text) ∧
      c.toNat = Text.hexadecimalValue (Text.withoutPlus text) := by
  have hread : decoded? body = some c ↔
      ((hexDigits? body).bind fun text => Text.hexadecimal? (Text.withoutPlus text)) = some c.toNat := by
    unfold decoded?
    split
    · rename_i code hcode
      rw [hcode, Option.some_inj]
      split
      · rw [Text.character?_eq_some_iff, eq_comm]
      · rename_i hlimit
        refine iff_of_false (Option.some_ne_none c).symm ?_
        rintro rfl
        exact hlimit c.val.toNat_lt
    · rename_i hnone
      rw [hnone]
      exact iff_of_false (Option.some_ne_none c).symm (Option.some_ne_none c.toNat).symm
  simp only [hread, Option.bind_eq_some_iff, Text.hexadecimal?_eq_some_iff]

/-- The digits by which an escape gives a character are those that it is read by, whatever is passed over in
front of them. -/
theorem Numbered.hexDigits?_eq {padded : Prop} {body digits : List Char} (h : Numbered padded body digits) :
    IsHexNumeral digits ∧ ∃ text, hexDigits? body = some text ∧ Text.withoutPlus text = digits := by
  cases h with
  | bare hwidth hdigits =>
    have hclose : '\x7d' ∉ digits := fun hmem => hdigits.ne_of_mem hmem (by decide) rfl
    have htrim := trimEnd_dropWhile_braces 0 (hdigits.head?_ne (by decide)) hclose (.inl rfl)
    rw [List.replicate_zero, List.nil_append, List.append_nil] at htrim
    have hread := hexDigits?_of_letter (by rw [hwidth]; rfl) htrim
    rw [if_neg (mt List.isEmpty_iff.mp hdigits.1)] at hread
    exact ⟨hdigits, digits, hread, hdigits.withoutPlus_append (.inl rfl)⟩
  | @braced letter padding _ hletter hpadding _ hdigits =>
    obtain ⟨n, sign, rfl, hsign⟩ := hpadding
    have hopen : (sign ++ digits).head? ≠ some '\x7b' := by
      rcases hsign with rfl | rfl
      · exact hdigits.head?_ne (by decide)
      · exact fun heq => absurd (Option.some.inj heq) (by decide)
    have hclose : '\x7d' ∉ sign ++ digits := by
      rw [List.mem_append, not_or]
      refine ⟨?_, fun hmem => hdigits.ne_of_mem hmem (by decide) rfl⟩
      rcases hsign with rfl | rfl <;> decide
    have htrim := trimEnd_dropWhile_braces (n + 1) hopen hclose (.inr rfl)
    rw [List.replicate_succ, List.cons_append, ← List.append_assoc, ← List.append_assoc] at htrim
    have hread := hexDigits?_of_letter hletter htrim
    rw [if_neg (mt List.isEmpty_iff.mp (List.append_ne_nil_of_right_ne_nil sign hdigits.1))] at hread
    exact ⟨hdigits, sign ++ digits, hread, hdigits.withoutPlus_append hsign⟩

/-- The digits are the same however they are found. -/
theorem Numbered.unique {padded other : Prop} {body digits digits' : List Char} (h : Numbered padded body digits)
    (h' : Numbered other body digits') : digits = digits' := by
  obtain ⟨-, text, htext, hdigits⟩ := h.hexDigits?_eq
  obtain ⟨-, text', htext', hdigits'⟩ := h'.hexDigits?_eq
  cases htext.symm.trans htext'
  exact hdigits.symm.trans hdigits'

/-- An escape whose digits can be read gives a character by its number, once something may stand in front of
them. -/
theorem EscapeBody.numbered {body text : List Char} (h : EscapeBody body) (htext : hexDigits? body = some text)
    (hnumeral : IsHexNumeral (Text.withoutPlus text)) : Numbered True body (Text.withoutPlus text) := by
  cases h with
  | single c =>
    rw [hexDigits?_single] at htext
    cases htext
  | @digits letter digits hwidth hdigits =>
    have hbare : Numbered True (letter :: digits) digits := .bare hwidth hdigits
    obtain ⟨-, other, hother, hsame⟩ := hbare.hexDigits?_eq
    cases htext.symm.trans hother
    rwa [hsame]
  | @braces letter inside hletter hfirst =>
    obtain ⟨n, core, rfl, hopen⟩ := exists_braces inside
    have hclose : '\x7d' ∉ core := fun hmem => hfirst (List.mem_append_right _ hmem)
    have htrim := trimEnd_dropWhile_braces (n + 1) hopen hclose (.inr rfl)
    rw [List.replicate_succ, List.cons_append, ← List.append_assoc] at htrim
    rw [hexDigits?_of_letter hletter htrim] at htext
    split at htext
    · cases htext
    · cases htext
      obtain ⟨sign, hsplit, hsign⟩ := Text.exists_sign text
      have hinside : List.replicate n '\x7b' ++ text =
          List.replicate n '\x7b' ++ sign ++ Text.withoutPlus text := by
        rw [List.append_assoc, ← hsplit]
      rw [hinside]
      exact .braced hletter ⟨n, sign, rfl, hsign⟩ (fun _ => trivial) hnumeral

/-- What may have nothing in front of its digits may have something there. -/
theorem Numbered.mono {padded : Prop} {body digits : List Char} (h : Numbered padded body digits) :
    Numbered True body digits := by
  cases h with
  | bare hwidth hdigits => exact .bare hwidth hdigits
  | braced hletter hpadding _ hdigits => exact .braced hletter hpadding (fun _ => trivial) hdigits

/-- An escape is decoded as the character whose number it gives. -/
theorem EscapeBody.decoded?_eq_some_iff {body : List Char} (h : EscapeBody body) {c : Char} :
    decoded? body = some c ↔ ∃ digits, Numbered True body digits ∧ c.toNat = Text.hexadecimalValue digits := by
  rw [Token.decoded?_eq_some_iff]
  constructor
  · rintro ⟨text, htext, hnumeral, hcode⟩
    exact ⟨_, h.numbered htext hnumeral, hcode⟩
  · rintro ⟨digits, hnumbered, hcode⟩
    obtain ⟨hnumeral, text, htext, rfl⟩ := hnumbered.hexDigits?_eq
    exact ⟨text, htext, hnumeral, hcode⟩

/-- The value of an escape is what it is read as, once something may stand in front of the digits. -/
theorem EscapeBody.exists_value {raw : String} {body : List Char} (h : EscapeBody body)
    (hraw : raw.toList = '\\' :: body) :
    ∃ value, (escapedLiteral raw).kind = .literal value ∧ ReadAs True body value := by
  unfold escapedLiteral
  rw [hraw, List.drop_one, List.tail_cons]
  dsimp only
  split
  · rename_i c hdecoded
    obtain ⟨digits, hnumbered, hcode⟩ := h.decoded?_eq_some_iff.mp hdecoded
    exact ⟨_, rfl, .character hnumbered hcode⟩
  · rename_i hnone
    refine ⟨_, rfl, .text fun digits c hnumbered hcode => ?_⟩
    rw [h.decoded?_eq_some_iff.mpr ⟨digits, hnumbered, hcode⟩] at hnone
    cases hnone

/-- The text that gives a character by its number is no character by itself. -/
theorem Numbered.ofList_ne_singleton {padded : Prop} {body digits : List Char} (h : Numbered padded body digits)
    (c : Char) : String.ofList body ≠ String.singleton c := by
  intro heq
  rw [String.singleton_eq_ofList, String.ofList_inj] at heq
  cases h with
  | bare _ hdigits => exact hdigits.1 (List.cons.inj heq).2
  | braced => exact List.cons_ne_nil _ _ (List.cons.inj heq).2

/-- Where nothing may stand in front of the digits, an escape is read in the same way exactly if nothing stands
there or the number is that of no character. -/
theorem readAs_false_iff {body : List Char} {value : String} (h : ReadAs True body value) :
    ReadAs False body value ↔ ∀ digits (c : Char), Numbered True body digits →
      c.toNat = Text.hexadecimalValue digits → Numbered False body digits := by
  constructor
  · intro hread digits c hnumbered hcode
    cases h with
    | character hfound _ =>
      generalize hvalue : String.singleton _ = value at hread
      cases hread with
      | character hbare _ => exact hnumbered.unique hbare ▸ hbare
      | text _ => exact absurd hvalue.symm (hfound.ofList_ne_singleton _)
    | text hnone => exact absurd hcode (hnone digits c hnumbered)
  · intro hall
    cases h with
    | character hnumbered hcode => exact .character (hall _ _ hnumbered hcode) hcode
    | text hnone => exact .text fun digits c hnumbered => hnone digits c hnumbered.mono

/-- Every escape of a pattern that has no other meaning is a literal. Its value is the character whose number it
gives, or what stands behind the backslash if it gives no number of a character. To this end the digits are all
that the letter asks for, or stand in braces, where more opening braces and a plus sign in front of them are
passed over. The value is the same with nothing passed over exactly if no character is found in this way. -/
theorem kind_escapedLiteral {pattern : String} {tokens : List Token} {token : Token}
    (h : tokenize pattern = .ok tokens) (hmem : token ∈ tokens) (hkind : token.kind = .escape) :
    ∃ body value, token.raw.toList = '\\' :: body ∧ (escapedLiteral token.raw).kind = .literal value ∧
      ReadAs True body value ∧
      (ReadAs False body value ↔ ∀ digits (c : Char), Numbered True body digits →
        c.toNat = Text.hexadecimalValue digits → Numbered False body digits) := by
  obtain ⟨body, hraw, hbody⟩ := escapeBody_of_tokenize h hmem hkind
  obtain ⟨value, hvalue, hread⟩ := hbody.exists_value hraw
  exact ⟨body, value, hraw, hvalue, hread, readAs_false_iff hread⟩

/-- A letter, an escape with another brace, a plus sign and zeros in front of its digits, and an escaped dot. -/
theorem tokenize_padded :
    tokenize "é\\u\x7b\x7b+0041\x7d\\." =
      .ok [⟨.literal, "é", 0⟩, ⟨.escape, "\\u\x7b\x7b+0041\x7d", 2⟩, ⟨.escape, "\\.", 12⟩] := by cbv

/-- This escape is a literal, and what its value is with nothing passed over is told by its digits. -/
theorem kind_escapedLiteral_padded :
    ∃ tokens token, tokenize "é\\u\x7b\x7b+0041\x7d\\." = .ok tokens ∧ token ∈ tokens ∧
      token.kind = .escape ∧ token.raw = "\\u\x7b\x7b+0041\x7d" ∧
      ∃ body value, token.raw.toList = '\\' :: body ∧ (escapedLiteral token.raw).kind = .literal value ∧
        ReadAs True body value ∧
        (ReadAs False body value ↔ ∀ digits (c : Char), Numbered True body digits →
          c.toNat = Text.hexadecimalValue digits → Numbered False body digits) :=
  ⟨_, ⟨.escape, "\\u\x7b\x7b+0041\x7d", 2⟩, tokenize_padded, by decide, rfl, rfl,
    kind_escapedLiteral tokenize_padded (by decide) rfl⟩

/-- Not every escape is what it is with nothing passed over: with a plus sign in front of them, digits are read
that give no number. -/
theorem not_forall_readAs :
    ¬ ∀ pattern tokens token body value, tokenize pattern = .ok tokens → token ∈ tokens → token.kind = .escape →
      token.raw.toList = '\\' :: body → (escapedLiteral token.raw).kind = .literal value →
      ReadAs False body value := by
  intro hall
  have htokens : tokenize "\\x\x7b+41\x7d" = .ok [⟨.escape, "\\x\x7b+41\x7d", 0⟩] := by cbv
  have hdigits : IsHexNumeral ['4', '1'] :=
    ⟨List.cons_ne_nil _ _, List.forall_mem_cons.mpr ⟨rfl, List.forall_mem_singleton.mpr rfl⟩⟩
  have hsigned : Numbered True "x\x7b+41\x7d".toList ['4', '1'] :=
    .braced rfl ⟨0, ['+'], rfl, .inr rfl⟩ (fun _ => trivial) hdigits
  have hcode : 'A'.toNat = Text.hexadecimalValue ['4', '1'] := rfl
  have hvalue : (escapedLiteral "\\x\x7b+41\x7d").kind = .literal (String.singleton 'A') := by decide
  have hread := hall _ _ _ _ _ htokens List.mem_cons_self rfl rfl hvalue
  have hbare := (readAs_false_iff (.character hsigned hcode)).mp hread ['4', '1'] 'A' hsigned hcode
  generalize hbody : "x\x7b+41\x7d".toList = body at hbare
  cases hbare with
  | bare => simp at hbody
  | @braced letter padding _ _ _ hpadded _ =>
    obtain rfl : padding = [] := not_not.mp hpadded
    simp at hbody

end Railroad.Token
