import Railroad.Proofs.Grouping
import Railroad.Proofs.Naming
import Railroad.Proofs.Slices

/-!
# Characters that a diagram shows

The wording of a diagram has printable characters of ASCII only. Any other character of its texts is traced
back here to the tokens of the pattern: each token contributes those of its own text, or the one that it
stands for.
-/

namespace Railroad

namespace Text

/-- The characters of a text that are not among those allowed. -/
def outside (allowed : Char → Bool) (text : List Char) : List Char := text.filter fun c => !allowed c

section

variable {allowed : Char → Bool}

/-- A text without such characters. -/
theorem outside_eq_nil_iff {text : List Char} :
    outside allowed text = [] ↔ ∀ c ∈ text, allowed c = true := by
  simp only [outside, List.filter_eq_nil_iff, Bool.not_eq_true', Bool.not_eq_false]

/-- The characters in question. -/
theorem mem_outside {text : List Char} {c : Char} :
    c ∈ outside allowed text ↔ c ∈ text ∧ allowed c = false := by
  rw [outside, List.mem_filter, Bool.not_eq_true']

/-- Those of two texts stand one behind the other. -/
theorem outside_append (first second : List Char) :
    outside allowed (first ++ second) = outside allowed first ++ outside allowed second :=
  List.filter_append first second

/-- An allowed character in front of a text. -/
theorem outside_cons {c : Char} (hc : allowed c = true) (text : List Char) :
    outside allowed (c :: text) = outside allowed text := List.filter_cons_of_neg (by simp [hc])

/-- Allowed characters at the beginning of a text can be left out. -/
theorem outside_dropWhile {p : Char → Bool} (hp : ∀ c, p c = true → allowed c = true)
    (text : List Char) : outside allowed (text.dropWhile p) = outside allowed text := by
  have hrun : outside allowed (text.takeWhile p) = [] := outside_eq_nil_iff.mpr fun c hmem =>
    hp c (List.all_eq_true.mp List.all_takeWhile c hmem)
  have hsplit := congrArg (outside allowed) (List.takeWhile_append_dropWhile (p := p) (l := text))
  rwa [outside_append, hrun, List.nil_append] at hsplit

/-- Allowed characters at the end of a text can be left out. -/
theorem outside_trimEnd {p : Char → Bool} (hp : ∀ c, p c = true → allowed c = true)
    (text : List Char) : outside allowed (trimEnd p text) = outside allowed text := by
  have hreverse : ∀ text : List Char, outside allowed text.reverse = (outside allowed text).reverse :=
    fun text => List.filter_reverse
  rw [trimEnd, hreverse, outside_dropWhile hp, hreverse, List.reverse_reverse]

/-- A text that is given by its characters. -/
theorem outside_ofList {text : List Char} (h : outside allowed text = []) :
    outside allowed (String.ofList text).toList = [] := by
  rwa [String.toList_ofList]

/-- Wording in front of a text. -/
theorem outside_behind {front : String} (hfront : outside allowed front.toList = []) (text : String) :
    outside allowed (front ++ text).toList = outside allowed text.toList := by
  rw [String.toList_append, outside_append, hfront, List.nil_append]

/-- Wording around a text. -/
theorem outside_between {front back : String} (hfront : outside allowed front.toList = [])
    (hback : outside allowed back.toList = []) (text : String) :
    outside allowed (front ++ text ++ back).toList = outside allowed text.toList := by
  rw [String.toList_append, outside_append, outside_behind hfront, hback, List.append_nil]

end

/-- Whether a character is a printable one of ASCII, the blank included. -/
def isPrintable (c : Char) : Bool := ' ' ≤ c && c ≤ '~'

/-- A character between two printable ones is printable. -/
theorem isPrintable_of_le (first last : Char) {c : Char} (hfirst : first ≤ c) (hlast : c ≤ last)
    (hbounds : ' ' ≤ first ∧ last ≤ '~') : isPrintable c = true := by
  simp only [isPrintable, Bool.and_eq_true, decide_eq_true_eq]
  exact ⟨Char.le_trans hbounds.1 hfirst, Char.le_trans hlast hbounds.2⟩

/-- A digit is printable. -/
theorem isPrintable_of_isDigit {c : Char} (h : c.isDigit = true) : isPrintable c = true := by
  simp only [Char.isDigit, Bool.and_eq_true, decide_eq_true_eq] at h
  exact isPrintable_of_le '0' '9' h.1 h.2 (by decide)

/-- A small letter is printable. -/
theorem isPrintable_toLower {c : Char} (h : isPrintable c = true) : isPrintable c.toLower = true := by
  unfold Char.toLower
  split
  · rename_i hcapital
    have hlow : 65 ≤ c.val.toNat := hcapital.1
    have hhigh : c.val.toNat ≤ 90 := hcapital.2
    have hsum : (c.val + ('a'.val - 'A'.val)).toNat = c.val.toNat + 32 := by
      have hstep : ('a'.val - 'A'.val).toNat = 32 := by decide
      rw [UInt32.toNat_add, hstep, Nat.mod_eq_of_lt (by omega)]
    have hfirst : ('a'.val).toNat = 97 ∧ ('z'.val).toNat = 122 := by decide
    refine isPrintable_of_le 'a' 'z' ?_ ?_ (by decide)
    · exact UInt32.le_iff_toNat_le.mpr (by rw [hsum, hfirst.1]; omega)
    · exact UInt32.le_iff_toNat_le.mpr (by rw [hsum, hfirst.2]; omega)
  · exact h

/-- A number is written in printable characters. -/
theorem outside_toString (n : Nat) : outside isPrintable (toString n).toList = [] := by
  refine outside_eq_nil_iff.mpr fun c hmem => isPrintable_of_isDigit ?_
  rw [show (toString n).toList = Nat.toDigits 10 n from Nat.toList_repr] at hmem
  exact Nat.isDigit_of_mem_toDigits (by decide) (by decide) hmem

end Text

namespace Token

/-- The characters of a token that a diagram shows: its text, or the character that it stands for. Blanks
and comments are not shown. -/
def shown (token : Token) : List Char :=
  match token.kind with
  | .trivia => []
  | .escape =>
    match Terminal.decoded? (token.raw.toList.drop 1) with
    | some c => [c]
    | none => token.raw.toList
  | _ => token.raw.toList

end Token

open Text (outside isPrintable outside_append outside_cons outside_ofList outside_behind outside_between
  outside_toString outside_eq_nil_iff outside_dropWhile outside_trimEnd isPrintable_of_isDigit)

namespace Terminal

/-- The characters of the texts of a terminal that are not printable. -/
def unusual (t : Terminal) : List Char :=
  outside isPrintable t.label.toList ++ outside isPrintable (t.detail.getD "").toList ++
    outside isPrintable t.description.toList

/-- The caption and the sentence of a terminal show one text, each with words around it. -/
theorem mem_unusual_mk (kind : TerminalKind) (raw text : String) {label description : String}
    (hlabel : outside isPrintable label.toList = outside isPrintable text.toList)
    (hdescription : outside isPrintable description.toList = outside isPrintable text.toList) (c : Char) :
    c ∈ (Terminal.mk kind raw label description none).unusual ↔
      c ∈ outside isPrintable text.toList := by
  have hnone : outside isPrintable ((none : Option String).getD "").toList = [] := rfl
  rw [unusual, hlabel, hdescription, hnone, List.append_nil, List.mem_append, or_self_iff]

/-- The table of escapes and anchors has printable characters only. -/
theorem unusual_knownTable : ∀ entry ∈ knownTable, outside isPrintable entry.1.toList = [] ∧
    outside isPrintable entry.2.2.1.toList = [] ∧ outside isPrintable entry.2.2.2.toList = [] := by
  simp only [knownTable, List.forall_mem_cons]
  and_intros
  all_goals first
    | exact outside_ofList rfl
    | exact List.forall_mem_nil _

/-- The table of common classes has printable characters only. -/
theorem unusual_commonClasses : ∀ entry ∈ commonClasses, outside isPrintable entry.1.toList = [] ∧
    outside isPrintable entry.2.1.toList = [] ∧ outside isPrintable entry.2.2.toList = [] := by
  simp only [commonClasses, List.forall_mem_cons]
  and_intros
  all_goals first
    | exact outside_ofList rfl
    | exact List.forall_mem_nil _

/-- A terminal from the table shows nothing of the kind, and its text has nothing of the kind. Where
another one stands in for it, the other one decides. -/
theorem mem_unusual_known? {raw : String} {other : Terminal} {c : Char}
    (hother : c ∈ other.unusual ↔ c ∈ outside isPrintable raw.toList) :
    c ∈ ((known? raw).getD other).unusual ↔ c ∈ outside isPrintable raw.toList := by
  cases hknown : known? raw with
  | none => exact hother
  | some t =>
    obtain ⟨⟨kind, label, description⟩, hlookup, rfl⟩ := Option.map_eq_some_iff.mp hknown
    obtain ⟨hraw, hlabel, hdescription⟩ := of_lookup unusual_knownTable hlookup
    exact mem_unusual_mk kind raw raw (hlabel.trans hraw.symm) (hdescription.trans hraw.symm) c

/-- A plain text is shown in the caption and in the sentence. -/
theorem mem_unusual_literalOf (raw value : String) (c : Char) :
    c ∈ (literalOf raw value).unusual ↔ c ∈ outside isPrintable value.toList := by
  have hfront (noun : String) (hnoun : outside isPrintable noun.toList = []) :
      outside isPrintable ("Matches the literal " ++ noun ++ " \"").toList = [] :=
    (outside_between (by decide) (by decide) noun).trans hnoun
  refine mem_unusual_mk _ raw value rfl (outside_between (hfront _ ?_) (by decide) value) c
  split <;> decide

/-- The name of a property is its text without the letter and the braces. -/
theorem mem_unusual_unicodeProperty {raw : String} {d : Char} {name : List Char}
    (hd : d = 'p' ∨ d = 'P') (hraw : raw.toList = '\\' :: d :: name) (negated : Bool) (c : Char) :
    c ∈ (unicodeProperty raw negated).unusual ↔ c ∈ outside isPrintable raw.toList := by
  have hletter : isPrintable d = true ∧ d.utf8Size = 1 := by
    rcases hd with rfl | rfl <;> decide
  have hdrop : Text.dropBytes 2 raw.toList = name := by
    have hslash : '\\'.utf8Size = 1 := by decide
    simp [hraw, Text.dropBytes, hslash, hletter.2]
  obtain ⟨inner, hinner⟩ : ∃ inner, inner = String.ofList (Text.trimEnd (· == '\x7d')
    ((Text.dropBytes 2 raw.toList).dropWhile (· == '\x7b'))) := ⟨_, rfl⟩
  have hname : outside isPrintable inner.toList = outside isPrintable raw.toList := by
    have hbraces : ∀ mark : Char, (mark == '\x7b') = true ∨ (mark == '\x7d') = true →
        isPrintable mark = true := by
      rintro mark (hmark | hmark) <;> rw [beq_iff_eq.mp hmark] <;> rfl
    rw [hinner, String.toList_ofList, outside_trimEnd fun mark hmark => hbraces mark (.inr hmark),
      outside_dropWhile fun mark hmark => hbraces mark (.inl hmark), hdrop, hraw,
      outside_cons (by decide), outside_cons hletter.1]
  rw [unicodeProperty, ← hinner]
  cases negated with
  | false =>
    exact mem_unusual_mk .charClass raw raw hname
      ((outside_between (by decide) (by decide) inner).trans hname) c
  | true =>
    exact mem_unusual_mk .charClass raw raw ((outside_behind (by decide) inner).trans hname)
      ((outside_between (by decide) (by decide) inner).trans hname) c

/-- The members of a class are its text without the brackets and the caret. -/
theorem unusual_classMembers {raw : String} {members : List Char}
    (hraw : raw.toList = '[' :: (members ++ [']'])) :
    outside isPrintable (classMembers raw).2.toList = outside isPrintable raw.toList := by
  have hends : outside isPrintable raw.toList = outside isPrintable members := by
    have hclose : outside isPrintable [']'] = [] := rfl
    rw [hraw, outside_cons (by decide), outside_append, hclose, List.append_nil]
  rw [hends, classMembers, hraw]
  by_cases hcaret : ∃ more, members = '^' :: more
  · obtain ⟨more, rfl⟩ := hcaret
    simp only [List.cons_append, String.toList_ofList, List.dropLast_concat]
    exact (outside_cons (by decide) more).symm
  · split
    · rename_i more heq
      cases members with
      | nil => cases heq
      | cons d members =>
        obtain ⟨rfl, -⟩ := List.cons.inj (List.cons.inj heq).2
        exact absurd ⟨members, rfl⟩ hcaret
    · simp only [List.drop_succ_cons, List.drop_zero, List.dropLast_concat, String.toList_ofList]

/-- A sentence of printable characters keeps having them with a small first letter. -/
theorem unusual_lowercaseFirst {text : String} (h : outside isPrintable text.toList = []) :
    outside isPrintable (lowercaseFirst text).toList = [] := by
  unfold lowercaseFirst
  split
  · decide
  · rename_i c rest htext
    rw [htext] at h
    have hprintable := outside_eq_nil_iff.mp h
    have hlower : isPrintable c.toLower = true :=
      Text.isPrintable_toLower (hprintable c List.mem_cons_self)
    refine outside_ofList (outside_eq_nil_iff.mpr fun d hmem => ?_)
    rcases List.mem_cons.mp hmem with rfl | hrest
    · exact hlower
    · exact hprintable d (List.mem_cons_of_mem c hrest)

/-- A class shows its members, or words in their place where they have none of the kind. -/
theorem mem_unusual_bracket {raw : String} {members : List Char}
    (hraw : raw.toList = '[' :: (members ++ [']'])) (c : Char) :
    c ∈ (bracket raw).unusual ↔ c ∈ outside isPrintable raw.toList := by
  unfold bracket
  split
  · rename_i hspecial
    rw [beq_iff_eq.mp hspecial]
    exact mem_unusual_mk .charClass _ _ (by decide) (by decide) c
  split
  · rename_i hspecial
    rw [beq_iff_eq.mp hspecial]
    exact mem_unusual_mk .charClass _ _ (by decide) (by decide) c
  rw [← unusual_classMembers hraw]
  obtain ⟨negated, inside⟩ := classMembers raw
  dsimp only
  cases hlookup : commonClasses.lookup inside with
  | none =>
    have hshown (label front : String) (hlabel : outside isPrintable label.toList = [])
        (hfront : outside isPrintable front.toList = []) :
        c ∈ (Terminal.mk .charClass raw label (front ++ inside) (some inside)).unusual ↔
          c ∈ outside isPrintable inside.toList := by
      rw [unusual, hlabel, outside_behind hfront, List.nil_append, List.mem_append]
      exact or_self_iff
    cases negated with
    | false => exact hshown "one of" "Matches one of: " (by decide) (by decide)
    | true => exact hshown "none of" "Matches none of: " (by decide) (by decide)
  | some wording =>
    obtain ⟨label, description⟩ := wording
    obtain ⟨hinside, hlabel, hdescription⟩ := of_lookup unusual_commonClasses hlookup
    cases negated with
    | false =>
      exact mem_unusual_mk .charClass raw inside (hlabel.trans hinside.symm)
        (hdescription.trans hinside.symm) c
    | true =>
      have hnot : outside isPrintable ("not: " ++ label).toList = [] :=
        (outside_behind (by decide) label).trans hlabel
      have hsentence : outside isPrintable ("Does not match: " ++ lowercaseFirst description).toList = [] :=
        (outside_behind (by decide) _).trans (unusual_lowercaseFirst hdescription)
      exact mem_unusual_mk .charClass raw inside (hnot.trans hinside.symm) (hsentence.trans hinside.symm) c

/-- A reference by number shows the number only. -/
theorem unusual_backreference (raw : String) (group : Nat) : (backreference raw group).unusual = [] := by
  have hnumber := outside_toString group
  have hlabel : outside isPrintable ("back-reference #" ++ toString group).toList = [] :=
    (outside_behind (by decide) _).trans hnumber
  have hdescription : outside isPrintable ("Matches the same text as capturing group #" ++ toString group ++
      ".").toList = [] := (outside_between (by decide) (by decide) _).trans hnumber
  refine List.eq_nil_iff_forall_not_mem.mpr fun c hmem => ?_
  have hshown := (mem_unusual_mk (.backreference group) raw "" hlabel hdescription c).mp hmem
  exact List.not_mem_nil hshown

/-- A token that is only named shows its text. -/
theorem mem_unusual_unknown (raw : String) {description : String}
    (hdescription : outside isPrintable description.toList = []) (c : Char) :
    c ∈ (unknown raw description).unusual ↔ c ∈ outside isPrintable raw.toList := by
  have hnone : outside isPrintable ((none : Option String).getD "").toList = [] := rfl
  rw [unknown, unusual, hdescription, hnone, List.append_nil, List.append_nil]

/-- A reference by name shows the name, whether or not a group has it. Where none has it, the text of the
reference is shown as well, which has the name in it. -/
theorem mem_unusual_namedBackreference {raw name : String}
    (hraw : outside isPrintable raw.toList = outside isPrintable name.toList) (group : Option Nat)
    (c : Char) :
    c ∈ (namedBackreference raw name group).unusual ↔ c ∈ outside isPrintable raw.toList := by
  cases group with
  | none =>
    have hdescription : outside isPrintable ("Refers to a group named " ++ name ++
        " that is not defined before it.").toList = outside isPrintable raw.toList :=
      (outside_between (by decide) (by decide) name).trans hraw.symm
    exact mem_unusual_mk .unknown raw raw rfl hdescription c
  | some group =>
    have hnumber := outside_toString group
    have hlabelFront : outside isPrintable ("back-reference #" ++ toString group ++ " <").toList = [] :=
      (outside_between (by decide) (by decide) _).trans hnumber
    have hdescriptionFront : outside isPrintable ("Matches the same text as capturing group #" ++
        toString group ++ " (").toList = [] :=
      (outside_between (by decide) (by decide) _).trans hnumber
    rw [hraw]
    exact mem_unusual_mk (.backreference group) raw name (outside_between hlabelFront (by decide) name)
      (outside_between hdescriptionFront (by decide) name) c

/-- A switch shows its flag letters. -/
theorem mem_unusual_modifier (raw flags : String) (c : Char) :
    c ∈ (modifier raw flags).unusual ↔ c ∈ outside isPrintable flags.toList :=
  mem_unusual_mk .modifier raw flags (outside_behind (by decide) flags)
    (outside_between (by decide) (by decide) flags) c

/-- The digits of a number in base sixteen are sixteen characters. -/
theorem exists_of_mem_toDigits (n : Nat) :
    ∀ c ∈ Nat.toDigits 16 n, ∃ digit < 16, c = Nat.digitChar digit := by
  induction n using Nat.strongRecOn with
  | ind n ih =>
    rw [Nat.toDigits_eq_if (by decide)]
    split
    · rename_i hlt
      exact fun c hmem => ⟨n, hlt, List.mem_singleton.mp hmem⟩
    · rename_i hle
      intro c hmem
      rcases List.mem_append.mp hmem with hfront | hlast
      · exact ih (n / 16) (by omega) c hfront
      · exact ⟨n % 16, Nat.mod_lt n (by decide), List.mem_singleton.mp hlast⟩

/-- A number in base sixteen has none. -/
theorem unusual_capitalHex (width n : Nat) : outside isPrintable (Text.capitalHex width n).toList = [] := by
  have hdigits : ∀ digit < 16, isPrintable
      (Text.capitalHexDigit (Text.hexValue (Nat.digitChar digit))) = true := by decide
  rw [Text.capitalHex, String.toList_ofList, outside_eq_nil_iff]
  intro c hmem
  rcases List.mem_append.mp hmem with hzero | hdigit
  · rw [List.eq_of_mem_replicate hzero]
    decide
  · obtain ⟨d, hd, rfl⟩ := List.mem_map.mp hdigit
    obtain ⟨digit, hlt, rfl⟩ := exists_of_mem_toDigits n d hd
    exact hdigits digit hlt

/-- An escape shows the character that it stands for. One that stands for none shows its text without the
backslash. -/
theorem mem_unusual_escapedLiteral {token : Token} {body : List Char} (hkind : token.kind = .escape)
    (hraw : token.raw.toList = '\\' :: body) (c : Char) :
    c ∈ (escapedLiteral token.raw).unusual ↔ c ∈ outside isPrintable token.shown := by
  have hbody : token.raw.toList.drop 1 = body := by rw [hraw, List.drop_succ_cons, List.drop_zero]
  simp only [escapedLiteral, Token.shown, hkind, hbody]
  cases decoded? body with
  | none =>
    rw [mem_unusual_literalOf, String.toList_ofList, hraw, outside_cons (by decide)]
  | some d =>
    have hnumber : outside isPrintable ("Matches the character U+" ++ Text.capitalHex 4 d.toNat ++
        " (\"").toList = [] :=
      (outside_between (by decide) (by decide) _).trans (unusual_capitalHex 4 d.toNat)
    have hdescription : outside isPrintable ("Matches the character U+" ++ Text.capitalHex 4 d.toNat ++
        " (\"" ++ String.singleton d ++ "\").").toList = outside isPrintable (String.singleton d).toList :=
      outside_between hnumber (by decide) _
    have hshown := mem_unusual_mk (.literal (String.singleton d)) token.raw (String.singleton d) rfl
      hdescription c
    rwa [String.toList_singleton] at hshown

end Terminal

/-- A repetition is described in printable characters. -/
theorem Repetition.outside_describe (r : Repetition) : outside isPrintable r.describe.toList = [] := by
  unfold Repetition.describe
  split
  · decide
  · decide
  · decide
  · split
    · decide
    · exact (outside_between (by decide) (by decide) _).trans (outside_toString _)
  · rename_i low
    rw [String.toList_append, outside_append, outside_toString]
    decide
  · rename_i low high
    have hfront : outside isPrintable ("between " ++ toString low ++ " and ").toList = [] :=
      (outside_between (by decide) (by decide) _).trans (outside_toString low)
    exact (outside_between hfront (by decide) _).trans (outside_toString high)

namespace GroupKind

/-- The text that a kind of group brings along: its name, its flags or its condition. -/
def text : GroupKind → String
  | named name => name
  | flagged flags => flags
  | conditional condition => condition
  | _ => ""

/-- The caption of a condition has words around it. -/
theorem unusual_conditionLabel (condition : String) :
    outside isPrintable (conditionLabel condition).toList = outside isPrintable condition.toList := by
  unfold conditionLabel
  split
  · exact outside_between (by decide) (by decide) condition
  split
  · exact outside_between (by decide) (by decide) condition
  · exact outside_between (by decide) (by decide) condition
  · exact outside_between (by decide) (by decide) condition
  · exact outside_between (by decide) (by decide) condition

/-- The caption of a group shows that text and its number. -/
theorem unusual_label (kind : GroupKind) (index : Option Nat) :
    outside isPrintable (kind.label index).toList = outside isPrintable kind.text.toList := by
  unfold label
  split
  · rename_i i
    exact (outside_behind (by decide) (toString i)).trans (outside_toString i)
  · rename_i name i
    have hfront : outside isPrintable ("Capturing group #" ++ toString i ++ " <").toList = [] :=
      (outside_between (by decide) (by decide) (toString i)).trans (outside_toString i)
    exact outside_between hfront (by decide) name
  · decide
  · exact outside_between (by decide) (by decide) _
  · decide
  · exact outside_between (by decide) (by decide) _
  · decide
  · decide
  · decide
  · decide
  · decide
  · exact unusual_conditionLabel _

end GroupKind

namespace Token

/-- The characters of a quantifier are printable. -/
theorem unusual_of_quantifier? {text : List Char} {q : Quantifier} {n : Nat}
    (h : quantifier? text = some (q, n)) : outside isPrintable (text.take n) = [] := by
  refine outside_eq_nil_iff.mpr fun c hmem => ?_
  have hchar := isQuantifierChar_of_quantifier? h c hmem
  have hmarks : ∀ c ∈ ['*', '+', '?', '\x7b', ',', '\x7d'], isPrintable c = true := by
    simp only [List.forall_mem_cons]
    and_intros
    all_goals first
      | exact List.forall_mem_nil _
      | rfl
  rw [isQuantifierChar, Bool.or_eq_true, List.contains_iff_mem] at hchar
  exact hchar.elim isPrintable_of_isDigit (hmarks c)

/-- The text between two delimiters that are printable. -/
theorem Delimited.unusual_eq {opening name raw : String} {closing : Char}
    (h : Delimited opening name closing raw) (hopening : outside isPrintable opening.toList = [])
    (hclosing : isPrintable closing = true) :
    outside isPrintable raw.toList = outside isPrintable name.toList := by
  have hlast : outside isPrintable (String.singleton closing).toList = [] := by
    rw [String.toList_singleton, outside_cons hclosing]
    rfl
  rw [h.raw_eq]
  exact outside_between hopening hlast name

/-- The condition is the text in front of the parenthesis that is found. -/
theorem condition?_of_closingParen? {text : List Char} {n : Nat} (hn : closingParen? 0 text = some n)
    (offset : Nat) :
    (ofLexeme ⟨.groupOpen .conditional, n + 4⟩ offset ('(' :: '?' :: '(' :: text)).condition? =
        some (String.ofList (text.take n)) ∧
      (ofLexeme ⟨.groupOpen .conditional, n + 4⟩ offset ('(' :: '?' :: '(' :: text)).raw.toList =
        '(' :: '?' :: '(' :: (text.take n ++ [')']) := by
  obtain ⟨more, hmore⟩ := List.head?_eq_some_iff.mp (head?_drop_of_closingParen? hn)
  have htake : text.take (n + 1) = text.take n ++ [')'] := by
    rw [List.take_add, hmore, List.take_succ_cons, List.take_zero]
  have hraw : (ofLexeme ⟨.groupOpen .conditional, n + 4⟩ offset ('(' :: '?' :: '(' :: text)).raw.toList =
      '(' :: '?' :: '(' :: (text.take n ++ [')']) := by
    rw [ofLexeme, String.toList_ofList, ← htake]
    rfl
  refine ⟨?_, hraw⟩
  have hafter : Text.after? ['(', '?', '('] ('(' :: '?' :: '(' :: (text.take n ++ [')'])) =
      some (text.take n ++ [')']) := by simp [Text.after?]
  rw [condition?, hraw, hafter]
  exact congrArg (Option.map String.ofList) (before?_concat ')' (text.take n))

/-- The opener of a conditional has its condition between its parentheses. -/
theorem condition?_of_rule {rest : List Char} {lexeme : Lexeme} (offset : Nat)
    (h : conditionalOpener? rest = some lexeme) :
    ∃ condition, (ofLexeme lexeme offset ('(' :: rest)).condition? = some (String.ofList condition) ∧
      (ofLexeme lexeme offset ('(' :: rest)).raw.toList = '(' :: '?' :: '(' :: (condition ++ [')']) := by
  unfold conditionalOpener? at h
  split at h
  · rename_i text
    obtain ⟨n, hn, rfl⟩ := Option.map_eq_some_iff.mp h
    exact ⟨text.take n, condition?_of_closingParen? hn offset⟩
  · cases h

/-- The fixed openers are the parenthesis with a question mark and one or two marks more. -/
theorem unusual_of_fixedOpener? {rest : List Char} {lexeme : Lexeme}
    (h : fixedOpener? rest = some lexeme) :
    outside isPrintable (('(' :: rest).take lexeme.length) = [] := by
  unfold fixedOpener? at h
  split at h <;> cases h <;> rfl

/-- The flags in a token are all that it has of other characters. -/
theorem unusual_flags {letters : List Char} {mark : Char} (hmark : mark = ')' ∨ mark = ':') :
    outside isPrintable ('(' :: '?' :: (letters ++ [mark])) = outside isPrintable letters := by
  have hend : outside isPrintable [mark] = [] := by
    rcases hmark with rfl | rfl <;> rfl
  rw [outside_cons (by decide), outside_cons (by decide), outside_append, hend, List.append_nil]

/-- The opener of a group has printable characters around the text that its kind brings along. -/
theorem unusual_kindOf {extended : Bool} {c : Char} {rest : List Char} {lexeme : Lexeme} {opener : Opener}
    (hscan : scan extended c rest = .ok lexeme) (hkind : lexeme.kind = .groupOpen opener) (offset : Nat) :
    outside isPrintable (Node.Progress.kindOf opener (ofLexeme lexeme offset (c :: rest))).text.toList =
      outside isPrintable (ofLexeme lexeme offset (c :: rest)).raw.toList := by
  obtain ⟨rfl, rfl⟩ := scan_parenthesis hscan (by rw [hkind]; rfl)
  have hopener {other : Opener} (hother : (parenthesis rest).kind = .groupOpen other) :
      opener = other := Kind.groupOpen.inj (hkind.symm.trans hother)
  have hraw : (ofLexeme (parenthesis rest) offset ('(' :: rest)).raw.toList =
      ('(' :: rest).take (parenthesis rest).length := String.toList_ofList
  rcases parenthesis_cases rest with hrule | hrule | hrule | hrule | hrule | hrule
  · obtain ⟨other, hopens, hmem⟩ := fixedOpener?_kind hrule
    obtain rfl := hopener hopens
    have htext : ∀ token : Token, (Node.Progress.kindOf opener token).text = "" := by
      intro token
      revert hmem
      cases opener <;> simp [Node.Progress.kindOf, GroupKind.text]
    rw [hraw, unusual_of_fixedOpener? hrule, htext]
    rfl
  · exact absurd (hkind.symm.trans (parenthesizedReference?_kind hrule)) Kind.noConfusion
  · obtain rfl := hopener (conditionalOpener?_kind hrule)
    obtain ⟨condition, hcondition, htext⟩ := condition?_of_rule offset hrule
    have hend : outside isPrintable [')'] = [] := rfl
    rw [htext, outside_cons (by decide), outside_cons (by decide), outside_cons (by decide),
      outside_append, hend, List.append_nil, Node.Progress.kindOf, GroupKind.text, hcondition,
      Option.getD_some, String.toList_ofList]
  · obtain rfl := hopener (namedOpener?_kind hrule)
    obtain ⟨name, hname | hname⟩ := namedOpener?_delimited offset hrule
    · rw [hname.unusual_eq (by decide) (by decide), Node.Progress.kindOf, GroupKind.text,
        name?_of_delimited (by decide) hname, Option.getD_some]
    · rw [hname.unusual_eq (by decide) (by decide), Node.Progress.kindOf, GroupKind.text,
        name?_of_delimited (by decide) hname, Option.getD_some]
  · rcases flagged?_kind hrule with hflags | hflags
    · exact absurd (hkind.symm.trans hflags) Kind.noConfusion
    · obtain rfl := hopener hflags
      obtain ⟨letters, mark, htake, hletters, hmark⟩ := flagged?_text hrule
      rw [hraw, htake, unusual_flags hmark, Node.Progress.kindOf, GroupKind.text,
        flags?_of_text (hraw.trans htake) hletters hmark, Option.getD_some, String.toList_ofList]
  · have hplain := congrArg Lexeme.kind hrule
    obtain rfl := hopener hplain
    rw [hraw, hrule]
    rfl

/-- A bar and a close are a character each. -/
theorem unusual_of_separator {extended : Bool} {c : Char} {rest : List Char} {lexeme : Lexeme}
    (h : scan extended c rest = .ok lexeme)
    (hkind : lexeme.kind = .alternation ∨ lexeme.kind = .groupClose) :
    outside isPrintable ((c :: rest).take lexeme.length) = [] := by
  have hplain : scanPlain extended c rest = .ok lexeme :=
    scanPlain_of_scan h (by rcases hkind with hkind | hkind <;> simp [hkind])
      (by rcases hkind with hkind | hkind <;> simp [hkind])
  have hne {kind : Kind} (hbar : kind ≠ .alternation) (hclose : kind ≠ .groupClose) :
      lexeme.kind ≠ kind := by
    rintro rfl
    exact hkind.elim hbar hclose
  unfold scanPlain at hplain
  split at hplain
  · split at hplain
    · cases hplain
    · rename_i d after
      cases hplain
      rcases hkind with hkind | hkind <;>
        exact absurd hkind (escapeOf_kind_ne rfl Kind.noConfusion d after)
  · cases hplain
    exact absurd rfl (hne Kind.noConfusion Kind.noConfusion)
  · cases hplain
    exact absurd rfl (hne Kind.noConfusion Kind.noConfusion)
  · cases hplain
    exact absurd rfl (hne Kind.noConfusion Kind.noConfusion)
  · cases hplain
    rfl
  · cases hplain
    rfl
  · cases hplain
    rcases hkind with hkind | hkind <;>
      exact absurd hkind (parenthesis_kind_ne rfl Kind.noConfusion rest)
  · split at hplain
    · cases hplain
      exact absurd rfl (hne Kind.noConfusion Kind.noConfusion)
    · cases hplain
  · cases hplain
    exact absurd rfl (hne Kind.noConfusion Kind.noConfusion)
  · cases hplain
    exact absurd rfl (hne Kind.noConfusion Kind.noConfusion)

/-- A token that is neither trivia nor an escape shows its text. -/
theorem shown_eq_raw {token : Token} {kind : Kind} (hkind : token.kind = kind) (htrivia : kind ≠ .trivia)
    (hescape : kind ≠ .escape) : token.shown = token.raw.toList := by
  unfold shown
  split
  · rename_i hother
    exact absurd (hkind.symm.trans hother) htrivia
  · rename_i hother
    exact absurd (hkind.symm.trans hother) hescape
  · rfl

/-- A property is a backslash, its letter and a name. -/
theorem scan_unicodeProperty {extended : Bool} {c : Char} {rest : List Char} {lexeme : Lexeme}
    {negated : Bool} (h : scan extended c rest = .ok lexeme)
    (hkind : lexeme.kind = .unicodeProperty negated) :
    ∃ d name, (c :: rest).take lexeme.length = '\\' :: d :: name ∧ (d = 'p' ∨ d = 'P') := by
  obtain ⟨rfl, d, after, rfl, rfl⟩ := scan_cutEscape h (by rw [hkind]; rfl)
  obtain ⟨hletter, hlength⟩ := escapeOf_unicodeProperty hkind
  obtain ⟨n, hn⟩ := Nat.exists_eq_add_of_le' (Nat.le_of_lt hlength)
  refine ⟨d, after.take n, ?_, hletter⟩
  rw [hn, List.take_succ_cons, List.take_succ_cons]

/-- What the terminal of a token shows, the token shows. -/
theorem mem_unusual_terminal? {pattern : String} {tokens : List Token}
    (htokens : tokenize pattern = .ok tokens) {token : Token} (hmem : token ∈ tokens)
    {progress : Node.Progress} {t : Terminal} (h : progress.terminal? token = some t) (c : Char) :
    c ∈ t.unusual ↔ c ∈ outside isPrintable token.shown := by
  obtain ⟨-, hescape, hbracket⟩ := fitsWording_of_tokenize htokens hmem
  obtain ⟨extended, place, first, rest, lexeme, hscan, htoken⟩ :=
    (tokensFrom_eq_ok_iff.mp htokens).exists_scan hmem
  have hraw : token.raw.toList = (first :: rest).take lexeme.length := by
    rw [htoken]
    exact String.toList_ofList
  have hlexeme : token.kind = lexeme.kind := by rw [htoken]; rfl
  have hknown (other : Terminal) (hother : c ∈ other.unusual ↔ c ∈ outside isPrintable token.raw.toList)
      (hwhole : token.shown = token.raw.toList) :
      c ∈ ((Terminal.known? token.raw).getD other).unusual ↔ c ∈ outside isPrintable token.shown := by
    rw [hwhole]
    exact Terminal.mem_unusual_known? hother
  have hliteral := Terminal.mem_unusual_literalOf token.raw token.raw c
  unfold Node.Progress.terminal? at h
  dsimp only at h
  split at h <;> cases h
  all_goals rename_i hkind
  · exact hknown _ hliteral (shown_eq_raw hkind Kind.noConfusion Kind.noConfusion)
  · exact hknown _ hliteral (shown_eq_raw hkind Kind.noConfusion Kind.noConfusion)
  · exact hknown _ hliteral (shown_eq_raw hkind Kind.noConfusion Kind.noConfusion)
  · obtain ⟨d, name, htake, hletter⟩ := scan_unicodeProperty hscan (hlexeme.symm.trans hkind)
    rw [shown_eq_raw hkind Kind.noConfusion Kind.noConfusion]
    exact Terminal.mem_unusual_unicodeProperty hletter (hraw.trans htake) _ c
  · obtain ⟨members, hmembers⟩ := hbracket hkind
    rw [shown_eq_raw hkind Kind.noConfusion Kind.noConfusion]
    exact Terminal.mem_unusual_bracket hmembers c
  · obtain ⟨digits, htake, hdigits⟩ := scan_backreference hscan (hlexeme.symm.trans hkind)
    have hnone : outside isPrintable digits = [] :=
      outside_eq_nil_iff.mpr fun d hd => isPrintable_of_isDigit (hdigits d hd)
    rw [shown_eq_raw hkind Kind.noConfusion Kind.noConfusion, Terminal.unusual_backreference, hraw,
      htake,
      outside_cons (by decide), hnone]
  · obtain ⟨name, hname, hdelimited⟩ := refersTo_of_tokenize htokens hmem hkind
    have hunusual : outside isPrintable token.raw.toList = outside isPrintable name.toList := by
      rcases hdelimited with hangle | hquote | hequals
      · exact hangle.unusual_eq (by decide) (by decide)
      · exact hquote.unusual_eq (by decide) (by decide)
      · exact hequals.unusual_eq (by decide) (by decide)
    rw [shown_eq_raw hkind Kind.noConfusion Kind.noConfusion, hname, Option.getD_some]
    exact Terminal.mem_unusual_namedBackreference hunusual _ c
  · exact hknown _ (Terminal.mem_unusual_unknown _ (by decide) c)
      (shown_eq_raw hkind Kind.noConfusion Kind.noConfusion)
  · obtain ⟨body, hbody⟩ := hescape hkind
    exact Terminal.mem_unusual_escapedLiteral hkind hbody c
  · obtain ⟨rfl, hrule⟩ := scan_flagged hscan (.inr (hlexeme.symm.trans hkind))
    obtain ⟨letters, mark, htake, hletters, hmark⟩ := flagged?_text hrule
    rw [shown_eq_raw hkind Kind.noConfusion Kind.noConfusion,
      flags?_of_text (hraw.trans htake) hletters hmark, Option.getD_some,
      Terminal.mem_unusual_modifier, String.toList_ofList, hraw, htake, unusual_flags hmark]
  · rw [shown_eq_raw hkind Kind.noConfusion Kind.noConfusion]
    exact hliteral

end Token

namespace Node

mutual

/-- The characters of the texts of a tree that are not printable. -/
def unusual : Node → List Char
  | sequence parts => unusualOfAll parts
  | choice options => unusualOfAll options
  | quantified _ _ content => content.unusual
  | group _ _ label content => outside isPrintable label.toList ++ content.unusual
  | terminal t => t.unusual

/-- The characters of the texts of a list of trees that are not printable. -/
def unusualOfAll : List Node → List Char
  | [] => []
  | node :: nodes => node.unusual ++ unusualOfAll nodes

end

/-- Trees in a row show their texts in a row. -/
theorem unusualOfAll_eq (nodes : List Node) : unusualOfAll nodes = nodes.flatMap unusual := by
  induction nodes with
  | nil => rfl
  | cons node nodes ih => rw [unusualOfAll, ih, List.flatMap_cons]

/-- These characters, as a spelling. The caption of a possessive quantifier has none. -/
def showing : Spelling Char where
  node := unusual
  bar := []
  opening := fun kind index => outside isPrintable (kind.label index).toList
  closing := []
  mark := fun _ => []
  node_sequence := fun parts => unusualOfAll_eq parts
  node_choice := fun options => by
    rw [intercalate_nil_eq, ← List.flatMap_def]
    exact unusualOfAll_eq options
  node_closed := fun g content => by
    rw [OpenGroup.closed, unusual, List.append_nil]
  node_quantify := fun q content => by
    have hpossessive : outside isPrintable possessiveLabel.toList = [] := by decide
    rw [List.append_nil, quantify]
    split
    · rw [unusual, hpossessive, List.nil_append, unusual]
    · rw [unusual]

/-- What a token adds to a tree, the token shows. -/
theorem mem_showing_token {pattern : String} {tokens : List Token}
    (htokens : tokenize pattern = .ok tokens) {token : Token} (hmem : token ∈ tokens)
    {progress next : Progress} (hstep : Progress.Step progress token next) (c : Char) :
    c ∈ showing.token progress token ↔ c ∈ outside isPrintable token.shown := by
  obtain ⟨extended, place, first, rest, lexeme, hscan, htoken⟩ :=
    (Token.tokensFrom_eq_ok_iff.mp htokens).exists_scan hmem
  have hraw : token.raw.toList = (first :: rest).take lexeme.length := by
    rw [htoken]
    exact String.toList_ofList
  have hlexeme : token.kind = lexeme.kind := by rw [htoken]; rfl
  cases hstep with
  | @opens opener hkind =>
    have hkindOf := Token.unusual_kindOf hscan (hlexeme.symm.trans hkind) place
    rw [← htoken] at hkindOf
    rw [Token.shown_eq_raw hkind Token.Kind.noConfusion Token.Kind.noConfusion, ← hkindOf]
    simp only [Spelling.token, hkind]
    exact iff_of_eq (congrArg (c ∈ ·) (GroupKind.unusual_label _ _))
  | closes hkind =>
    have hnone := Token.unusual_of_separator hscan (.inr (hlexeme.symm.trans hkind))
    rw [Token.shown_eq_raw hkind Token.Kind.noConfusion Token.Kind.noConfusion, hraw, hnone]
    simp only [Spelling.token, hkind]
    exact Iff.rfl
  | splits hkind =>
    have hnone := Token.unusual_of_separator hscan (.inl (hlexeme.symm.trans hkind))
    rw [Token.shown_eq_raw hkind Token.Kind.noConfusion Token.Kind.noConfusion, hraw, hnone]
    simp only [Spelling.token, hkind]
    exact Iff.rfl
  | repeats hkind =>
    have hquantifier := Token.scan_quantifier hscan (hlexeme.symm.trans hkind)
    have hnone := Token.unusual_of_quantifier? hquantifier
    rw [Token.shown_eq_raw hkind Token.Kind.noConfusion Token.Kind.noConfusion, hraw, hnone]
    simp only [Spelling.token, hkind]
    exact Iff.rfl
  | stands hterminal =>
    rw [showing.token_of_terminal? hterminal]
    exact Token.mem_unusual_terminal? htokens hmem hterminal c

/-- What has been read shows what the tokens read show. -/
theorem mem_showing_run {pattern : String} {tokens : List Token}
    (htokens : tokenize pattern = .ok tokens) {read : List Token} {progress : Progress}
    (hread : ∀ token ∈ read, token ∈ tokens) (hrun : Progress.start.run read = .ok progress)
    (c : Char) :
    c ∈ showing.progress progress ↔ ∃ token ∈ read, c ∈ outside isPrintable token.shown := by
  revert hread
  refine Progress.run_induction (motive := fun read progress => (∀ token ∈ read, token ∈ tokens) →
    (c ∈ showing.progress progress ↔
      ∃ token ∈ read, c ∈ outside isPrintable token.shown)) ?_ ?_ hrun
  · intro _
    have hnone : showing.progress Progress.start = [] := rfl
    simp [hnone]
  · intro read progress token next ih hstep hread
    have hfront := ih fun other hmem => hread other (List.mem_append_left _ hmem)
    have hlast := mem_showing_token htokens
      (hread token (List.mem_append_right _ List.mem_cons_self)) hstep c
    rw [showing.progress_step hstep, List.mem_append, hfront, hlast]
    simp only [List.mem_append, List.mem_singleton, or_and_right, exists_or, exists_eq_left]

/-- The tree of a pattern shows what the tokens of the pattern show. -/
theorem mem_unusual_ofPattern {pattern : String} {node : Node} (h : ofPattern pattern = .ok node) :
    ∃ tokens, tokenize pattern = .ok tokens ∧
      ∀ c, c ∈ node.unusual ↔ ∃ token ∈ tokens, c ∈ outside isPrintable token.shown := by
  obtain ⟨tokens, last, htokens, hrun, hgroups, rfl⟩ := exists_run_of_ofPattern h
  refine ⟨tokens, htokens, fun c => ?_⟩
  have hread := mem_showing_run htokens (fun token hmem => (List.mem_filter.mp hmem).1) hrun c
  rw [← showing.node_eq_progress hgroups] at hread
  refine hread.trans ⟨?_, ?_⟩
  · rintro ⟨token, hmem, hc⟩
    exact ⟨token, (List.mem_filter.mp hmem).1, hc⟩
  · rintro ⟨token, hmem, hc⟩
    refine ⟨token, List.mem_filter.mpr ⟨hmem, ?_⟩, hc⟩
    rw [bne_iff_ne]
    intro htrivia
    rw [Token.shown, htrivia] at hc
    exact List.not_mem_nil hc

end Node

end Railroad
