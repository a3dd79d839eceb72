import Mathlib
import Railroad.Proofs.NameText

/-!
# The text of quantifiers

A repetition is written with its bounds as decimal numerals, and a mark may stand behind it. What is written
in this way is read back as the same repetition with the same mark, whatever follows. In the other direction
the text of every quantifier is what is written for it, but for zeros in front of its numerals, because a
numeral with zeros in front denotes the same number.
-/

namespace Railroad

namespace Text

/-- The text without the zeros in front of its numerals: a zero is left out where a numeral begins with it and
goes on with another digit. A numeral that has begun is `inNumeral`. -/
def withoutLeadingZeros (inNumeral : Bool) : List Char → List Char
  | [] => []
  | c :: text =>
    if !inNumeral && c == '0' && text.head?.any Char.isDigit then withoutLeadingZeros false text
    else c :: withoutLeadingZeros c.isDigit text

/-- A digit is the one that stands for its distance from zero. -/
theorem digitChar_of_isDigit {c : Char} (h : c.isDigit = true) :
    c.toNat - 48 < 10 ∧ (c.toNat - 48).digitChar = c := by
  simp only [Char.isDigit, Bool.and_eq_true, decide_eq_true_eq] at h
  have hlow : 48 ≤ c.toNat := h.1
  have hhigh : c.toNat ≤ 57 := h.2
  have hlt : c.toNat - 48 < 10 := by omega
  refine ⟨hlt, Char.toNat_inj.mp ?_⟩
  rw [Nat.toNat_digitChar_of_lt_ten hlt]
  omega

/-- The number that is written as `n` is `n`. -/
theorem decimalValue_toDigits (n : Nat) : decimalValue (Nat.toDigits 10 n) = n :=
  Nat.ofDigitChars_ten_toDigits

/-- Digits behind a number other than zero go on with how it is written. -/
theorem toDigits_foldl {digits : List Char} (h : ∀ c ∈ digits, c.isDigit = true) {n : Nat} (hn : 0 < n) :
    Nat.toDigits 10 (digits.foldl (fun value c => 10 * value + (c.toNat - 48)) n) =
      Nat.toDigits 10 n ++ digits := by
  induction digits generalizing n with
  | nil => exact (List.append_nil _).symm
  | cons d digits ih =>
    obtain ⟨hd, hdigits⟩ := List.forall_mem_cons.mp h
    obtain ⟨hlt, hchar⟩ := digitChar_of_isDigit hd
    rw [List.foldl_cons, ih hdigits (by omega), ← Nat.toDigits_append_toDigits (by decide) hn hlt,
      Nat.toDigits_of_lt_base hlt, hchar, List.append_assoc, List.singleton_append]

/-- A numeral that does not begin with a zero is how its number is written. -/
theorem toDigits_decimalValue {d : Char} {digits : List Char} (hd : d.isDigit = true) (hzero : d ≠ '0')
    (h : ∀ c ∈ digits, c.isDigit = true) :
    Nat.toDigits 10 (decimalValue (d :: digits)) = d :: digits := by
  obtain ⟨hlt, hchar⟩ := digitChar_of_isDigit hd
  have hpos : 0 < d.toNat - 48 := by
    refine Nat.pos_of_ne_zero fun hnone => hzero ?_
    rw [← hchar, hnone]
    rfl
  have hfirst : 10 * 0 + (d.toNat - 48) = d.toNat - 48 := Nat.zero_add _
  rw [decimalValue, List.foldl_cons, hfirst, toDigits_foldl h hpos, Nat.toDigits_of_lt_base hlt, hchar,
    List.singleton_append]

/-- A numeral that has begun is kept. -/
theorem withoutLeadingZeros_inNumeral {digits : List Char} (h : ∀ c ∈ digits, c.isDigit = true)
    (text : List Char) :
    withoutLeadingZeros true (digits ++ text) = digits ++ withoutLeadingZeros true text := by
  induction digits with
  | nil => rfl
  | cons d digits ih =>
    obtain ⟨hd, hdigits⟩ := List.forall_mem_cons.mp h
    rw [List.cons_append, withoutLeadingZeros, hd, ih hdigits]
    rfl

/-- In front of a text that does not go on with a digit, a numeral becomes how its number is written. -/
theorem withoutLeadingZeros_numeral {digits text : List Char} (hne : digits ≠ [])
    (h : ∀ c ∈ digits, c.isDigit = true) (htext : ∀ c, text.head? = some c → c.isDigit = false) :
    withoutLeadingZeros false (digits ++ text) =
      Nat.toDigits 10 (decimalValue digits) ++ withoutLeadingZeros true text := by
  induction digits with
  | nil => exact absurd rfl hne
  | cons d more ih =>
    obtain ⟨hd, hmore⟩ := List.forall_mem_cons.mp h
    by_cases hzero : d = '0'
    · subst hzero
      cases more with
      | nil =>
        have hno : text.head?.any Char.isDigit = false := by
          cases hhead : text.head? with
          | none => rfl
          | some c => exact htext c hhead
        rw [List.singleton_append, withoutLeadingZeros, hno]
        rfl
      | cons e more =>
        have he : e.isDigit = true := hmore e List.mem_cons_self
        have hvalue : decimalValue ('0' :: e :: more) = decimalValue (e :: more) := rfl
        rw [List.cons_append, withoutLeadingZeros, List.cons_append, List.head?_cons, Option.any_some,
          he, hvalue, ← ih (List.cons_ne_nil _ _) hmore]
        rfl
    · have hkept : (!false && d == '0' && (more ++ text).head?.any Char.isDigit) = false := by
        rw [beq_eq_false_iff_ne.mpr hzero]
        rfl
      rw [List.cons_append, withoutLeadingZeros, hkept, toDigits_decimalValue hd hzero hmore, hd,
        if_neg Bool.false_ne_true, withoutLeadingZeros_inNumeral hmore, List.cons_append]

/-- A character that is no digit is kept, and no numeral has begun behind it. -/
theorem withoutLeadingZeros_cons {c : Char} (hc : c.isDigit = false) (inNumeral : Bool)
    (text : List Char) :
    withoutLeadingZeros inNumeral (c :: text) = c :: withoutLeadingZeros false text := by
  have hzero : c ≠ '0' := by
    rintro rfl
    cases hc
  rw [withoutLeadingZeros, beq_eq_false_iff_ne.mpr hzero, hc, Bool.and_false, Bool.false_and]
  rfl

end Text

/-- The numbers in a repetition. -/
def Repetition.bounds : Repetition → List Nat
  | zeroOrMore | oneOrMore | zeroOrOne => []
  | exactly n | atLeast n => [n]
  | between n m => [n, m]

/-- What may stand behind a repetition. -/
inductive Quantifier.Mark where
  /-- Nothing. -/
  | plain
  /-- A question mark. -/
  | lazy
  /-- A plus sign. -/
  | possessive
  deriving DecidableEq, Repr

namespace Quantifier.Mark

/-- The mark as it is written. -/
def text : Mark → String
  | plain => ""
  | lazy => "?"
  | possessive => "+"

/-- The quantifier with a repetition and the mark: it is greedy unless the mark is the question mark, and
possessive only if the mark is the plus sign. -/
def quantifier : Mark → Repetition → Quantifier
  | plain, r => ⟨r, true, false⟩
  | lazy, r => ⟨r, false, false⟩
  | possessive, r => ⟨r, true, true⟩

/-- The repetition of the quantifier is the one that the mark stands behind. -/
theorem repetition_quantifier (mark : Mark) (r : Repetition) : (mark.quantifier r).repetition = r := by
  cases mark <;> rfl

/-- A mark has no numerals. -/
theorem withoutLeadingZeros_text (mark : Mark) :
    Text.withoutLeadingZeros false mark.text.toList = mark.text.toList := by
  cases mark <;> rfl

end Quantifier.Mark

namespace Token

/-- A numeral, perhaps with zeros in front, of a number that a bound can be. -/
structure Numeral (digits : List Char) (n : Nat) : Prop where
  /-- There is a digit. -/
  ne_nil : digits ≠ []
  /-- There are digits only. -/
  isDigit : ∀ c ∈ digits, c.isDigit = true
  /-- They denote the number. -/
  value_eq : Text.decimalValue digits = n
  /-- The number is below the limit. -/
  lt_limit : n < countLimit

/-- The bounds that are read are the numerals. -/
theorem count?_eq_some_iff {digits : List Char} {n : Nat} :
    count? digits = some n ↔ Numeral digits n := by
  unfold count? Text.decimal?
  constructor
  · intro h
    split at h
    · rename_i value hvalue
      split at hvalue
      · cases hvalue
      · rename_i hdigits
        simp only [Bool.or_eq_true, not_or, Bool.not_eq_true, Bool.not_eq_false', List.isEmpty_eq_false_iff,
          List.all_eq_true] at hdigits
        cases hvalue
        split at h
        · rename_i hlt
          cases h
          exact ⟨hdigits.1, hdigits.2, rfl, hlt⟩
        · cases h
    · cases h
  · rintro ⟨hne, hdigits, rfl, hlt⟩
    have hempty : digits.isEmpty = false := List.isEmpty_eq_false_iff.mpr hne
    have hall : digits.all Char.isDigit = true := List.all_eq_true.mpr hdigits
    simp only [hempty, hall, Bool.not_true, Bool.or_self, Bool.false_eq_true, if_false, hlt, if_true]

/-- A number below the limit is written as a numeral. -/
theorem numeral_toDigits {n : Nat} (h : n < countLimit) : Numeral (Nat.toDigits 10 n) n where
  ne_nil := Nat.toDigits_ne_nil
  isDigit := fun _ hmem => Nat.isDigit_of_mem_toDigits (by decide) (by decide) hmem
  value_eq := Text.decimalValue_toDigits n
  lt_limit := h

namespace Numeral

variable {digits : List Char} {n : Nat}

/-- A numeral has none of the characters that stand around it. -/
theorem ne_of_mem (h : Numeral digits n) {c mark : Char} (hmem : c ∈ digits)
    (hmark : mark.isDigit = false) : c ≠ mark := by
  rintro rfl
  have hdigit := h.isDigit c hmem
  rw [hmark] at hdigit
  cases hdigit

/-- In front of a character that is no digit, a numeral without leading zeros is how its number is
written. -/
theorem withoutLeadingZeros (h : Numeral digits n) {mark : Char} (hmark : mark.isDigit = false)
    (text : List Char) :
    Text.withoutLeadingZeros false (digits ++ mark :: text) =
      Nat.toDigits 10 n ++ mark :: Text.withoutLeadingZeros false text := by
  have hhead : ∀ c, (mark :: text).head? = some c → c.isDigit = false := by
    rintro c hc
    cases hc
    exact hmark
  rw [Text.withoutLeadingZeros_numeral h.ne_nil h.isDigit hhead, h.value_eq,
    Text.withoutLeadingZeros_cons hmark]

/-- A numeral is cut off in front of a comma. -/
theorem split_comma (h : Numeral digits n) (text : List Char) :
    (digits ++ ',' :: text).takeWhile (· != ',') = digits ∧
      (digits ++ ',' :: text).dropWhile (· != ',') = ',' :: text := by
  have hall : ∀ c ∈ digits, (c != ',') = true := fun c hmem => bne_iff_ne.mpr (h.ne_of_mem hmem rfl)
  constructor
  · rw [List.takeWhile_append_of_pos hall]
    exact List.append_nil digits
  · rw [List.dropWhile_append_of_pos hall]
    rfl

/-- A numeral that stands alone has no comma behind it. -/
theorem split_alone (h : Numeral digits n) :
    digits.takeWhile (· != ',') = digits ∧ digits.dropWhile (· != ',') = [] := by
  have hall : ∀ c ∈ digits, (c != ',') = true := fun c hmem => bne_iff_ne.mpr (h.ne_of_mem hmem rfl)
  have htake : (digits ++ []).takeWhile (· != ',') = digits ++ [] := List.takeWhile_append_of_pos hall
  have hdrop : (digits ++ []).dropWhile (· != ',') = [] := List.dropWhile_append_of_pos hall
  rw [List.append_nil] at htake hdrop
  exact ⟨htake, hdrop⟩

end Numeral

/-- The texts between the braces of a repetition. -/
inductive BoundsText : Repetition → List Char → Prop
  /-- One number. -/
  | exactly {digits : List Char} {n : Nat} (count : Numeral digits n) : BoundsText (.exactly n) digits
  /-- A number and a comma. -/
  | atLeast {digits : List Char} {n : Nat} (low : Numeral digits n) :
      BoundsText (.atLeast n) (digits ++ [','])
  /-- Two numbers with a comma between them. -/
  | between {lowDigits highDigits : List Char} {n m : Nat} (low : Numeral lowDigits n)
      (high : Numeral highDigits m) : BoundsText (.between n m) (lowDigits ++ ',' :: highDigits)

/-- The texts between braces that are read are these. -/
theorem bounds?_eq_some_iff {body : List Char} {r : Repetition} :
    bounds? body = some r ↔ BoundsText r body := by
  constructor
  · intro h
    have hsplit := List.takeWhile_append_dropWhile (p := (· != ',')) (l := body)
    have hcomma {c : Char} {more : List Char} (hdrop : body.dropWhile (· != ',') = c :: more) :
        c = ',' := by
      have hhead := List.head?_dropWhile_not (· != ',') body
      rw [hdrop] at hhead
      simpa using hhead
    unfold bounds? at h
    dsimp only at h
    rw [← hsplit]
    split at h
    · rename_i hdrop
      obtain ⟨n, hlow, rfl⟩ := Option.map_eq_some_iff.mp h
      rw [hdrop, List.append_nil]
      exact .exactly (count?_eq_some_iff.mp hlow)
    · rename_i hdrop
      obtain ⟨n, hlow, rfl⟩ := Option.map_eq_some_iff.mp h
      rw [hdrop, hcomma hdrop]
      exact .atLeast (count?_eq_some_iff.mp hlow)
    · rename_i hdrop
      split at h
      · rename_i hlow hhigh
        cases h
        rw [hdrop, hcomma hdrop]
        exact .between (count?_eq_some_iff.mp hlow) (count?_eq_some_iff.mp hhigh)
      · cases h
  · intro h
    unfold bounds?
    cases h with
    | exactly hcount =>
      simp only [hcount.split_alone, count?_eq_some_iff.mpr hcount, Option.map_some]
    | atLeast hlow =>
      simp only [hlow.split_comma, count?_eq_some_iff.mpr hlow, Option.map_some]
    | between hlow hhigh =>
      obtain ⟨d, digits, rfl⟩ := List.exists_cons_of_ne_nil hhigh.ne_nil
      simp only [hlow.split_comma, count?_eq_some_iff.mpr hlow, count?_eq_some_iff.mpr hhigh]

/-- No brace stands between the braces. -/
theorem BoundsText.brace_not_mem {body : List Char} {r : Repetition} (h : BoundsText r body) :
    '\x7d' ∉ body := by
  have hnumeral {digits : List Char} {n : Nat} (hdigits : Numeral digits n) : '\x7d' ∉ digits :=
    fun hmem => hdigits.ne_of_mem hmem rfl rfl
  cases h with
  | exactly hcount => exact hnumeral hcount
  | atLeast hlow => simp [hnumeral hlow]
  | between hlow hhigh => simp [hnumeral hlow, hnumeral hhigh]

/-- The texts of a repetition: as it is written, but for zeros in front of numerals. -/
inductive RepetitionText : Repetition → List Char → Prop
  /-- Any number of times. -/
  | zeroOrMore : RepetitionText .zeroOrMore ['*']
  /-- At least once. -/
  | oneOrMore : RepetitionText .oneOrMore ['+']
  /-- At most once. -/
  | zeroOrOne : RepetitionText .zeroOrOne ['?']
  /-- Bounds in braces. -/
  | braced {r : Repetition} {body : List Char} (bounds : BoundsText r body) :
      RepetitionText r ('\x7b' :: (body ++ ['\x7d']))

/-- A repetition that is found at the beginning of a text is the text of one. -/
theorem repetitionText_of_repetition? {text : List Char} {r : Repetition} {n : Nat}
    (h : repetition? text = some (r, n)) :
    ∃ front back, text = front ++ back ∧ front.length = n ∧ RepetitionText r front := by
  unfold repetition? at h
  split at h
  · cases h
    exact ⟨['*'], _, rfl, rfl, .zeroOrMore⟩
  · cases h
    exact ⟨['+'], _, rfl, rfl, .oneOrMore⟩
  · cases h
    exact ⟨['?'], _, rfl, rfl, .zeroOrOne⟩
  · split at h
    · rename_i rest _ close hclose
      obtain ⟨body, back, rfl, rfl, -⟩ := exists_append_of_findIdx? hclose
      rw [List.take_left' rfl] at h
      obtain ⟨bounds, hbounds, heq⟩ := Option.map_eq_some_iff.mp h
      obtain ⟨rfl, rfl⟩ := Prod.mk.inj heq
      refine ⟨'\x7b' :: (body ++ ['\x7d']), back, ?_, ?_, .braced (bounds?_eq_some_iff.mp hbounds)⟩
      · simp only [List.cons_append, List.append_assoc, List.nil_append]
      · simp only [List.length_cons, List.length_append, List.length_nil]
    · cases h
  · cases h

namespace RepetitionText

variable {r : Repetition} {front : List Char}

/-- The text of a repetition is found at the beginning of every text that begins with it. -/
theorem repetition?_append (h : RepetitionText r front) (back : List Char) :
    repetition? (front ++ back) = some (r, front.length) := by
  cases h with
  | zeroOrMore => rfl
  | oneOrMore => rfl
  | zeroOrOne => rfl
  | @braced _ body hbounds =>
    have hfind : (body ++ '\x7d' :: back).findIdx? (· == '\x7d') = some body.length := by
      refine List.findIdx?_eq_some_iff_getElem.mpr ⟨by simp, by simp, fun i hi => ?_⟩
      rw [List.getElem_append_left hi, beq_iff_eq]
      exact fun heq => hbounds.brace_not_mem (heq ▸ List.getElem_mem hi)
    have hlength : ('\x7b' :: (body ++ ['\x7d'])).length = body.length + 2 := by simp
    simp only [List.cons_append, List.append_assoc, List.nil_append, repetition?, hfind,
      List.take_left', bounds?_eq_some_iff.mpr hbounds, Option.map_some, hlength]

/-- Without leading zeros, the text of a repetition is how the repetition is written. -/
theorem withoutLeadingZeros (h : RepetitionText r front) (back : List Char) :
    Text.withoutLeadingZeros false (front ++ back) =
      r.render.toList ++ Text.withoutLeadingZeros false back := by
  have hclose : ('\x7d').isDigit = false := rfl
  have hcomma : (',').isDigit = false := rfl
  have hnumber (n : Nat) : (toString n).toList = Nat.toDigits 10 n := Nat.toList_repr
  cases h with
  | zeroOrMore => exact Text.withoutLeadingZeros_cons rfl false back
  | oneOrMore => exact Text.withoutLeadingZeros_cons rfl false back
  | zeroOrOne => exact Text.withoutLeadingZeros_cons rfl false back
  | braced hbounds =>
    rw [List.cons_append, Text.withoutLeadingZeros_cons rfl]
    cases hbounds with
    | exactly hcount =>
      simp only [List.append_assoc, List.cons_append, List.nil_append, hcount.withoutLeadingZeros hclose,
        Repetition.render, String.toList_append, hnumber]
      rfl
    | atLeast hlow =>
      simp only [List.append_assoc, List.cons_append, List.nil_append, hlow.withoutLeadingZeros hcomma,
        Text.withoutLeadingZeros_cons hclose, Repetition.render, String.toList_append, hnumber]
      rfl
    | between hlow hhigh =>
      simp only [List.append_assoc, List.cons_append, List.nil_append, hlow.withoutLeadingZeros hcomma,
        hhigh.withoutLeadingZeros hclose, Repetition.render, String.toList_append, hnumber]
      rfl

end RepetitionText

/-- What is written for a repetition whose bounds are below the limit is a text of it. -/
theorem repetitionText_render {r : Repetition} (h : ∀ bound ∈ r.bounds, bound < countLimit) :
    RepetitionText r r.render.toList := by
  have hnumeral {n : Nat} (hn : n ∈ r.bounds) : Numeral (toString n).toList n := by
    have hwritten : (toString n).toList = Nat.toDigits 10 n := Nat.toList_repr
    exact hwritten ▸ numeral_toDigits (h n hn)
  cases r with
  | zeroOrMore => exact .zeroOrMore
  | oneOrMore => exact .oneOrMore
  | zeroOrOne => exact .zeroOrOne
  | exactly n =>
    have hcount := BoundsText.exactly (hnumeral List.mem_cons_self)
    simpa [Repetition.render, String.toList_append] using RepetitionText.braced hcount
  | atLeast n =>
    have hlow := BoundsText.atLeast (hnumeral List.mem_cons_self)
    simpa [Repetition.render, String.toList_append] using RepetitionText.braced hlow
  | between n m =>
    have hbounds := BoundsText.between (hnumeral List.mem_cons_self)
      (hnumeral (List.mem_cons_of_mem n List.mem_cons_self))
    simpa [Repetition.render, String.toList_append] using RepetitionText.braced hbounds

/-- The text begins with a character that is a mark behind a repetition. -/
def beginsWithMark (text : List Char) : Prop := text.head? = some '?' ∨ text.head? = some '+'

/-- A repetition with a mark is found at the beginning of every text that begins with them, unless there is
no mark and the text behind the repetition begins with one. -/
theorem RepetitionText.quantifier?_append {r : Repetition} {front : List Char} (h : RepetitionText r front)
    (mark : Quantifier.Mark) {text : List Char} (hplain : mark = .plain → ¬beginsWithMark text) :
    quantifier? (front ++ mark.text.toList ++ text) =
      some (mark.quantifier r, (front ++ mark.text.toList).length) := by
  unfold quantifier?
  simp only [List.append_assoc, h.repetition?_append, List.drop_left']
  cases mark with
  | plain =>
    have hnone := hplain rfl
    simp only [Quantifier.Mark.text, Quantifier.Mark.quantifier, String.toList_empty, List.nil_append,
      List.append_nil]
    split
    · exact absurd (.inl rfl) hnone
    · exact absurd (.inr rfl) hnone
    · rfl
  | lazy => simp [Quantifier.Mark.text, Quantifier.Mark.quantifier]
  | possessive => simp [Quantifier.Mark.text, Quantifier.Mark.quantifier]

/-- A quantifier that is found at the beginning of a text is a repetition with a mark. -/
theorem exists_of_quantifier? {text : List Char} {q : Quantifier} {n : Nat}
    (h : quantifier? text = some (q, n)) :
    ∃ r front, ∃ mark : Quantifier.Mark, RepetitionText r front ∧ q = mark.quantifier r ∧
      text.take n = front ++ mark.text.toList := by
  unfold quantifier? at h
  split at h
  · cases h
  · rename_i r length hrepetition
    obtain ⟨front, back, rfl, rfl, hfront⟩ := repetitionText_of_repetition? hrepetition
    rw [List.drop_left] at h
    split at h
    · cases h
      exact ⟨r, front, .lazy, hfront, rfl, List.take_length_add_append 1⟩
    · cases h
      exact ⟨r, front, .possessive, hfront, rfl, List.take_length_add_append 1⟩
    · cases h
      exact ⟨r, front, .plain, hfront, rfl, List.take_length_add_append 0⟩

/-- The token as it is a number of bytes further on. -/
def moved (bytes : Nat) (token : Token) : Token := { token with offset := token.offset + bytes }

/-- The tokens of a text that stands further on are the same tokens further on. -/
theorem Cuts.moved {scope : Scope} {offset : Nat} {text : List Char} {tokens : List Token}
    (h : Cuts scope offset text tokens) (bytes : Nat) :
    Cuts scope (offset + bytes) text (tokens.map (moved bytes)) := by
  induction h with
  | done => exact .done
  | step hscan _ ih =>
    rw [Nat.add_right_comm] at ih
    exact .step hscan ih

/-- A quantifier that is found at the beginning of a text is its first token, and the other tokens are those
of the text behind it: no rule looks back, and a quantifier opens and closes nothing. -/
theorem Cuts.quantifier {scope : Scope} {front text : List Char} {q : Quantifier} {tokens : List Token}
    (hextended : scope.extended = false) (hfront : quantifier? (front ++ text) = some (q, front.length))
    (h : Cuts scope 0 text tokens) :
    Cuts scope 0 (front ++ text)
      (⟨.quantifier q, String.ofList front, 0⟩ ::
        tokens.map (Token.moved (String.ofList front).utf8ByteSize)) := by
  obtain ⟨c, rest, hcons⟩ : ∃ c rest, front ++ text = c :: rest := by
    refine List.exists_cons_of_ne_nil fun hnil => ?_
    rw [hnil] at hfront
    cases hfront
  have hscan : scan scope.extended c rest = .ok ⟨.quantifier q, front.length⟩ := by
    rw [hcons] at hfront
    unfold scan
    rw [hextended, hfront]
    rfl
  have htoken : ofLexeme ⟨.quantifier q, front.length⟩ 0 (c :: rest) =
      ⟨.quantifier q, String.ofList front, 0⟩ := by
    rw [← hcons]
    simp only [ofLexeme, List.take_left']
  have hbehind := h.moved (String.ofList front).utf8ByteSize
  rw [hcons, ← htoken]
  refine .step hscan ?_
  rw [htoken, ← hcons, List.drop_left' rfl]
  exact Nat.zero_add _ ▸ hbehind

end Token

open Token in
/-- What is written for a repetition with bounds below the limit and a mark is cut off a pattern as one token:
a quantifier with just that repetition, greedy unless the mark is the question mark, possessive only if it is
the plus sign, and with just that text. The tokens of the text behind it follow. Without a mark, the text
behind must not begin with one. In the other direction, the text of every quantifier of a pattern is what is
written for its repetition, followed by its mark, but for zeros in front of the numerals. -/
theorem tokenize_written_quantifier :
    (∀ (r : Repetition) (mark : Quantifier.Mark) (text : String) (behind : List Token),
      (∀ bound ∈ r.bounds, bound < countLimit) → (mark = .plain → ¬beginsWithMark text.toList) →
      tokenize text = .ok behind →
      tokenize (r.render ++ mark.text ++ text) =
        .ok (⟨.quantifier (mark.quantifier r), r.render ++ mark.text, 0⟩ ::
          behind.map (moved (r.render ++ mark.text).utf8ByteSize))) ∧
    ∀ (pattern : String) (tokens : List Token), tokenize pattern = .ok tokens →
      ∀ token ∈ tokens, ∀ q, token.kind = .quantifier q →
        ∃ mark : Quantifier.Mark, q = mark.quantifier q.repetition ∧
          Text.withoutLeadingZeros false token.raw.toList = (q.repetition.render ++ mark.text).toList := by
  constructor
  · intro r mark text behind hbounds hplain hbehind
    have hquantifier := (repetitionText_render hbounds).quantifier?_append mark hplain
    have hcuts := tokensFrom_eq_ok_iff.mp hbehind
    have hall := Cuts.quantifier rfl hquantifier hcuts
    rw [← String.toList_append, String.ofList_toList, ← String.toList_append] at hall
    exact tokensFrom_eq_ok_iff.mpr hall
  · intro pattern tokens h token hmem q hkind
    obtain ⟨extended, place, c, rest, lexeme, hscan, rfl⟩ := (tokensFrom_eq_ok_iff.mp h).exists_scan hmem
    obtain ⟨r, front, mark, hfront, rfl, htake⟩ := exists_of_quantifier? (scan_quantifier hscan hkind)
    have hraw : (ofLexeme lexeme place (c :: rest)).raw.toList = front ++ mark.text.toList := by
      rw [← htake]
      exact String.toList_ofList
    refine ⟨mark, by rw [mark.repetition_quantifier], ?_⟩
    rw [hraw, hfront.withoutLeadingZeros, mark.withoutLeadingZeros_text, mark.repetition_quantifier,
      String.toList_append]

open Token in
/-- So it is for the largest bound in front of a brace and a comma, and for a bound with zeros in front. -/
theorem tokenize_written_quantifier_largest :
    (∃ behind, tokenize "\x7d,\x7b2\x7d" = .ok behind ∧
      tokenize "\x7b0,4294967295\x7d+\x7d,\x7b2\x7d" =
        .ok (⟨.quantifier ⟨.between 0 4294967295, true, true⟩, "\x7b0,4294967295\x7d+", 0⟩ ::
          behind.map (moved 15))) ∧
    ∃ token, tokenize "a\x7b007,\x7d?" = .ok [⟨.literal, "a", 0⟩, token] ∧
      Text.withoutLeadingZeros false token.raw.toList = "\x7b7,\x7d?".toList := by
  constructor
  · have hbehind : tokenize "\x7d,\x7b2\x7d" =
        .ok [⟨.literal, "\x7d", 0⟩, ⟨.literal, ",", 1⟩,
          ⟨.quantifier ⟨.exactly 2, true, false⟩, "\x7b2\x7d", 2⟩] := by cbv
    have hbounds : ∀ bound ∈ (Repetition.between 0 4294967295).bounds, bound < countLimit := by decide
    have hplain : Quantifier.Mark.possessive = .plain → ¬beginsWithMark "\x7d,\x7b2\x7d".toList :=
      fun h => absurd h (by decide)
    exact ⟨_, hbehind, tokenize_written_quantifier.1 _ .possessive _ _ hbounds hplain hbehind⟩
  · have htokens : tokenize "a\x7b007,\x7d?" =
        .ok [⟨.literal, "a", 0⟩, ⟨.quantifier ⟨.atLeast 7, false, false⟩, "\x7b007,\x7d?", 1⟩] := by cbv
    obtain ⟨mark, hmark, htext⟩ := tokenize_written_quantifier.2 _ _ htokens _
      (List.mem_cons_of_mem _ List.mem_cons_self) _ rfl
    refine ⟨_, htokens, ?_⟩
    cases mark with
    | plain => cases hmark
    | lazy => exact htext
    | possessive => cases hmark

end Railroad
