import Mathlib
import Railroad.Proofs.Cutting
import Railroad.Proofs.Lookahead

/-!
# Bracketed classes

A class is what stands between two brackets, other classes among it. The search for its end counts brackets
and skips POSIX items, and it takes every bracket with a colon behind it for the beginning of an item. So a
class is one token whatever follows it, as long as no class inside it begins with a colon.
-/

namespace Railroad.Token

/-- The members of a class, one behind the other; `colons` says that a class among them may begin with a
colon. -/
inductive Members (colons : Prop) : List Char → Prop
  /-- No members. -/
  | nil : Members colons []
  /-- A backslash with the character behind it. -/
  | escaped (c : Char) {more : List Char} (behind : Members colons more) : Members colons ('\\' :: c :: more)
  /-- A POSIX item. -/
  | item {letters more : List Char} (hletters : ∀ c ∈ letters, c.isAlpha = true)
      (behind : Members colons more) : Members colons ('[' :: ':' :: (letters ++ ':' :: ']' :: more))
  /-- A class among the members. -/
  | nested {inner more : List Char} (inside : Members colons inner) (hcolon : inner.head? = some ':' → colons)
      (behind : Members colons more) : Members colons ('[' :: (inner ++ ']' :: more))
  /-- Any other character. -/
  | plain {c : Char} {more : List Char} (hslash : c ≠ '\\') (hopen : c ≠ '[') (hclose : c ≠ ']')
      (behind : Members colons more) : Members colons (c :: more)

/-- What stands between the opening bracket of a class and the other members: a caret, if there is one, and a
closing bracket, if it is the first member. -/
structure Marks (caret first members : List Char) : Prop where
  /-- A caret in front of all members is none of them. -/
  caret : caret = ['^'] ∨ caret = [] ∧ (first ++ members).head? ≠ some '^'
  /-- A closing bracket in front of all others is a member. -/
  first : first = [']'] ∨ first = [] ∧ members.head? ≠ some ']'

/-- A class from its opening to its closing bracket. -/
def IsClass (colons : Prop) (text : List Char) : Prop :=
  ∃ caret first members, text = '[' :: (caret ++ (first ++ (members ++ [']']))) ∧
    Marks caret first members ∧ first ++ members ≠ [] ∧ Members colons members

/-- A POSIX item has its first end behind its letters. -/
theorem posixEnd?_letters {letters : List Char} (h : ∀ c ∈ letters, c.isAlpha = true) (rest : List Char) :
    posixEnd? (letters ++ ':' :: ']' :: rest) = some letters.length := by
  induction letters with
  | nil => rfl
  | cons c letters ih =>
    rw [List.forall_mem_cons] at h
    have hc : c ≠ ':' := by
      rintro rfl
      exact absurd h.1 (by decide)
    rw [List.cons_append, posixEnd?_cons fun hcolon => absurd hcolon hc, ih h.2]
    rfl

/-- The members are passed over at every depth, whatever follows, if no class among them begins with a
colon. -/
theorem Members.classLength? {members : List Char} (h : Members False members) (depth : Nat)
    (rest : List Char) :
    classLength? 0 depth (members ++ rest) =
      (Token.classLength? 0 depth rest).map (· + members.length) := by
  have htwice (found : Option Nat) (m n : Nat) :
      (found.map (· + m)).map (· + n) = found.map (· + (m + n)) := by
    cases found <;> simp [Nat.add_assoc]
  induction h generalizing depth rest with
  | nil => simp
  | @escaped c more _ ih =>
    rw [List.cons_append, List.cons_append, classLength?_backslash, classLength?_skip Nat.one_pos, ih,
      htwice, htwice]
    rfl
  | @item letters more hletters _ ih =>
    have hitem := posixEnd?_letters hletters (more ++ rest)
    have hskip := classLength?_skip_all (':' :: (letters ++ [':', ']'])) (more ++ rest) depth
    simp only [List.length_cons, List.length_append, List.length_nil, List.cons_append, List.append_assoc,
      List.nil_append] at hskip ⊢
    rw [classLength?_item hitem, hskip, ih, htwice, htwice]
    congr 2
    funext n
    omega
  | @nested inner more _ hcolon _ ihinside ihbehind =>
    have hfirst : ∀ item, inner ++ ']' :: (more ++ rest) ≠ ':' :: item := by
      intro item heq
      cases inner with
      | nil => cases heq
      | cons c inner =>
        obtain ⟨rfl, -⟩ := List.cons.inj heq
        exact hcolon rfl
    have hdeep : ¬ (depth + 1 == 0) = true := by simp
    simp only [List.length_cons, List.length_append, List.cons_append, List.append_assoc]
    rw [classLength?_nested hfirst, ihinside, classLength?_bracket, if_neg hdeep, Nat.add_sub_cancel,
      ihbehind, htwice, htwice, htwice]
    congr 2
    funext n
    omega
  | @plain c more hslash hopen hclose _ ih =>
    rw [List.cons_append, classLength?_member hslash hopen hclose, ih, htwice]
    rfl

/-- There is no mark where a text that is not empty begins otherwise. -/
theorem markLength_append_of_ne {mark : Char} {text : List Char} (hne : text ≠ [])
    (hmark : text.head? ≠ some mark) (rest : List Char) : markLength mark (text ++ rest) = 0 := by
  cases text with
  | nil => exact absurd rfl hne
  | cons c text => exact if_neg hmark

/-- The marks behind the opening bracket are passed over, and the search for the end begins behind them. -/
theorem Marks.bracketLength?_eq {caret first members : List Char} (h : Marks caret first members)
    (hmembers : first ++ members ≠ []) (rest : List Char) :
    bracketLength? (caret ++ (first ++ (members ++ rest))) =
      (classLength? 0 0 (members ++ rest)).map (· + (caret.length + first.length)) := by
  have hcaret : markLength '^' (caret ++ (first ++ (members ++ rest))) = caret.length := by
    rcases h.caret with rfl | ⟨rfl, hmark⟩
    · rfl
    · rw [List.nil_append, ← List.append_assoc]
      exact markLength_append_of_ne hmembers hmark rest
  have hfirst : markLength ']' (first ++ (members ++ rest)) = first.length := by
    rcases h.first with rfl | ⟨rfl, hmark⟩
    · rfl
    · exact markLength_append_of_ne hmembers hmark rest
  unfold bracketLength?
  dsimp only
  rw [hcaret, List.drop_left, hfirst, ← List.length_append, ← List.append_assoc, List.drop_left]

/-- The first token is a class, and its text is this one. -/
def BeginsWithClass (text : List Char) (tokens : List Token) : Prop :=
  ∃ first behind, tokens = first :: behind ∧ first.kind = .bracket ∧ first.raw = String.ofList text

/-- A class whose end is found is the first token. -/
theorem beginsWithClass_of_bracketLength? {text rest : List Char} {tokens : List Token}
    (hlength : bracketLength? (text ++ rest) = some text.length)
    (h : tokenize (String.ofList ('[' :: (text ++ rest))) = .ok tokens) :
    BeginsWithClass ('[' :: text) tokens := by
  have hcuts := tokensFrom_eq_ok_iff.mp h
  rw [String.toList_ofList] at hcuts
  have hscan : scan Scope.initial.extended '[' (text ++ rest) = .ok ⟨.bracket, text.length + 1⟩ := by
    change scanPlain false '[' (text ++ rest) = _
    simp only [scanPlain, hlength]
  cases hcuts with
  | @step _ _ _ _ lexeme behind hfound _ =>
    obtain rfl : ⟨.bracket, text.length + 1⟩ = lexeme := Except.ok.inj (hscan.symm.trans hfound)
    refine ⟨_, behind, rfl, rfl, ?_⟩
    rw [ofLexeme, List.take_succ_cons, List.take_left]

/-- A class is one token whatever follows it, as long as no class inside it begins with a colon: a closing bracket
in front of all members does not end it, nor does an escaped one or one that ends a class among the members. Where
a class inside it does begin with a colon, and nothing behind that one looks like the end of a POSIX item, the
token ends already with the class inside. -/
theorem beginsWithClass_of_isClass {text rest : List Char} {tokens : List Token}
    (h : tokenize (String.ofList (text ++ rest)) = .ok tokens) :
    (IsClass False text → BeginsWithClass text tokens) ∧
      ∀ caret first before inner behind : List Char,
        text = '[' :: (caret ++ (first ++ (before ++ '[' :: ':' :: (inner ++ ']' :: behind)))) →
        Marks caret first (before ++ ['[']) → Members False before → Members False inner →
        posixEnd? (inner ++ ']' :: (behind ++ rest)) = none →
        BeginsWithClass ('[' :: (caret ++ (first ++ (before ++ '[' :: ':' :: (inner ++ [']']))))) tokens := by
  constructor
  · rintro ⟨caret, first, members, rfl, hmarks, hne, hmembers⟩
    have hlength : bracketLength? (caret ++ (first ++ (members ++ ']' :: rest))) =
        some (caret ++ (first ++ (members ++ [']']))).length := by
      rw [hmarks.bracketLength?_eq hne, hmembers.classLength?, classLength?_bracket]
      simp
      omega
    refine @beginsWithClass_of_bracketLength? _ rest _ ?_ ?_
    · simpa using hlength
    · simpa using h
  · rintro caret first before inner behind rfl hmarks hbefore hinner hnone
    have hmembers : first ++ (before ++ ['[']) ≠ [] := by simp
    have hmarked := hmarks.bracketLength?_eq hmembers (':' :: (inner ++ ']' :: (behind ++ rest)))
    have hlength : bracketLength?
        (caret ++ (first ++ (before ++ '[' :: ':' :: (inner ++ ']' :: (behind ++ rest))))) =
          some (caret ++ (first ++ (before ++ '[' :: ':' :: (inner ++ [']'])))).length := by
      rw [List.append_assoc, List.singleton_append] at hmarked
      rw [hmarked, hbefore.classLength?, classLength?_no_item hnone,
        classLength?_member (by decide) (by decide) (by decide), hinner.classLength?, classLength?_bracket]
      simp
      omega
    refine @beginsWithClass_of_bracketLength? _ (behind ++ rest) _ ?_ ?_
    · simpa using hlength
    · simpa using h

/-- A negated class with a closing bracket in front, a POSIX item, an escaped closing bracket, and two classes
inside of which one is empty. -/
theorem isClass_mixed : IsClass False "[^]a[[:alpha:]\\][]b]&&c]".toList := by
  refine ⟨['^'], [']'], "a[[:alpha:]\\][]b]&&c".toList, rfl, ⟨.inl rfl, .inl rfl⟩, by simp, ?_⟩
  have hletters : ∀ c ∈ "alpha".toList, c.isAlpha = true := List.all_eq_true.mp rfl
  have hplain {c : Char} {more : List Char} (hc : (c != '\\' && c != '[' && c != ']') = true)
      (behind : Members False more) : Members False (c :: more) := by
    simp only [Bool.and_eq_true, bne_iff_ne] at hc
    exact .plain hc.1.1 hc.1.2 hc.2 behind
  have hempty : Members False ['[', ']', 'b'] :=
    .nested .nil (fun hcolon => by cases hcolon) (hplain rfl .nil)
  have hinside : Members False "[:alpha:]\\][]b".toList := .item hletters (.escaped ']' hempty)
  have hbehind : Members False ['&', '&', 'c'] := hplain rfl (hplain rfl (hplain rfl .nil))
  exact hplain rfl (.nested hinside (fun hcolon => by cases hcolon) hbehind)

/-- What looks like the end of a POSIX item behind that class does not matter. A class inside of another one that
begins with a colon ends the token. -/
theorem beginsWithClass_mixed :
    (∃ tokens, tokenize (String.ofList ("[^]a[[:alpha:]\\][]b]&&c]".toList ++ ":]]x".toList)) = .ok tokens ∧
      BeginsWithClass "[^]a[[:alpha:]\\][]b]&&c]".toList tokens) ∧
    ∃ tokens, tokenize (String.ofList ("[x[:a]b]".toList ++ [])) = .ok tokens ∧
      BeginsWithClass "[x[:a]".toList tokens := by
  constructor
  · have htokens : ∃ tokens,
        tokenize (String.ofList ("[^]a[[:alpha:]\\][]b]&&c]".toList ++ ":]]x".toList)) = .ok tokens :=
      ⟨[⟨.bracket, "[^]a[[:alpha:]\\][]b]&&c]", 0⟩, ⟨.literal, ":]]x", 24⟩], by cbv⟩
    obtain ⟨tokens, htokens⟩ := htokens
    exact ⟨tokens, htokens, (beginsWithClass_of_isClass htokens).1 isClass_mixed⟩
  · have htokens : ∃ tokens, tokenize (String.ofList ("[x[:a]b]".toList ++ [])) = .ok tokens :=
      ⟨[⟨.bracket, "[x[:a]", 0⟩, ⟨.literal, "b]", 6⟩], by cbv⟩
    obtain ⟨tokens, htokens⟩ := htokens
    refine ⟨tokens, htokens, (beginsWithClass_of_isClass htokens).2 [] [] ['x'] ['a'] ['b', ']'] rfl
      ⟨.inr ⟨rfl, by simp⟩, .inr ⟨rfl, by simp⟩⟩ ?_ ?_ rfl⟩
    · exact .plain (by decide) (by decide) (by decide) .nil
    · exact .plain (by decide) (by decide) (by decide) .nil

/-- Such a class is cut in two. -/
theorem not_forall_beginsWithClass :
    ¬ ∀ (text rest : List Char) (tokens : List Token), IsClass True text →
      tokenize (String.ofList (text ++ rest)) = .ok tokens → BeginsWithClass text tokens := by
  intro h
  have hinside : Members True [':', 'a'] :=
    .plain (by decide) (by decide) (by decide) (.plain (by decide) (by decide) (by decide) .nil)
  have htext : IsClass True "[[:a]]".toList :=
    ⟨[], [], "[:a]".toList, rfl, ⟨.inr ⟨rfl, by simp⟩, .inr ⟨rfl, by simp⟩⟩, by simp,
      .nested hinside (fun _ => trivial) .nil⟩
  have htokens : tokenize (String.ofList ("[[:a]]".toList ++ [])) =
      .ok [⟨.bracket, "[[:a]", 0⟩, ⟨.literal, "]", 5⟩] := by cbv
  obtain ⟨first, behind, hfirst, -, hraw⟩ := h _ _ _ htext htokens
  obtain ⟨rfl, -⟩ := List.cons.inj hfirst
  exact absurd hraw (by decide)

end Railroad.Token
