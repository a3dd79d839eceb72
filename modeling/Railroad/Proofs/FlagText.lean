import Mathlib.Data.List.TakeWhile
import Railroad.Proofs.Stepping

/-!
# Flag letters in the text of tokens

A switch of flags, whether it stands alone or opens a group, holds its letters between a question mark and
its last character. The view of the token trims the text at its end instead, which finds the same letters,
because no letter looks like the end of a switch.
-/

namespace Railroad.Token

/-- The setting of the extended flag that flag letters ask for: a letter behind the first minus sign asks
for off, and any other letter for on. -/
inductive Asks (letters : List Char) : Bool → Prop
  /-- The letter stands behind the first minus sign. -/
  | off {before after : List Char} (split : letters = before ++ '-' :: after) (first : '-' ∉ before)
      (mem : 'x' ∈ after) : Asks letters false
  /-- The letter stands somewhere, and not behind the first minus sign. -/
  | on (mem : 'x' ∈ letters)
      (not_off : ∀ before after, letters = before ++ '-' :: after → '-' ∉ before → 'x' ∉ after) :
      Asks letters true

/-- The setting that a switch asks for, by the letters between its question mark and its last
character. -/
def Switches (token : Token) (on : Bool) : Prop :=
  ∃ letters mark, token.raw.toList = '(' :: '?' :: (letters ++ [mark]) ∧ Asks letters on

/-- The view of a switch reads the setting that its letters ask for. -/
def ShowsSetting (token : Token) : Prop :=
  token.kind = .groupOpen .flagged ∨ token.kind = .inlineFlags →
    ∀ on, token.flags?.bind extendedSetting? = some on ↔ token.Switches on

/-- The letters cannot ask for both settings. -/
theorem Asks.unique {letters : List Char} {on other : Bool} (h : Asks letters on)
    (hother : Asks letters other) : on = other := by
  cases h with
  | off hsplit hfirst hmem =>
    cases hother with
    | off => rfl
    | on _ hnot => exact absurd hmem (hnot _ _ hsplit hfirst)
  | on hmem hnot =>
    cases hother with
    | off hsplit hfirst hmem => exact absurd hmem (hnot _ _ hsplit hfirst)
    | on => rfl

/-- A switch cannot ask for both settings. -/
theorem Switches.unique {token : Token} {on other : Bool} (h : token.Switches on)
    (hother : token.Switches other) : on = other := by
  obtain ⟨letters, mark, hraw, hasks⟩ := h
  obtain ⟨letters', mark', hraw', hasks'⟩ := hother
  rw [hraw] at hraw'
  simp only [List.cons.injEq, true_and] at hraw'
  obtain ⟨rfl, -⟩ := List.append_inj' hraw' rfl
  exact hasks.unique hasks'

/-- The part of the letters in front of the first minus sign and the part behind it. -/
theorem takeWhile_dropWhile_minus {before : List Char} (h : '-' ∉ before) (after : List Char) :
    (before ++ '-' :: after).takeWhile (· != '-') = before ∧
      (before ++ '-' :: after).dropWhile (· != '-') = '-' :: after := by
  have hall : ∀ c ∈ before, (c != '-') = true := fun c hmem => by
    simp only [bne_iff_ne]
    rintro rfl
    exact h hmem
  rw [List.takeWhile_append_of_pos hall, List.dropWhile_append_of_pos hall]
  simp

/-- Without a minus sign a letter anywhere asks for on. -/
theorem extendedSetting?_of_no_minus {letters : List Char} (hminus : '-' ∉ letters) (on : Bool) :
    extendedSetting? (String.ofList letters) = some on ↔ Asks letters on := by
  have hall : ∀ c ∈ letters, (c != '-') = true := fun c hmem => by
    simp only [bne_iff_ne]
    rintro rfl
    exact hminus hmem
  have htake : letters.takeWhile (· != '-') = letters :=
    List.takeWhile_eq_self_iff.mpr hall
  have hdrop : letters.dropWhile (· != '-') = [] :=
    List.dropWhile_eq_nil_iff.mpr hall
  have hnever : ∀ before after, letters ≠ before ++ '-' :: after := by
    rintro before after rfl
    exact hminus (by simp)
  simp only [extendedSetting?, String.toList_ofList, htake, hdrop]
  by_cases hx : 'x' ∈ letters
  · have hasks : Asks letters true := .on hx fun _ _ hsplit => absurd hsplit (hnever _ _)
    have hon : on = true ↔ Asks letters on :=
      ⟨fun h => h ▸ hasks, fun h => h.unique hasks⟩
    simpa [hx, eq_comm] using hon
  · have hnone : ¬ Asks letters on := by
      rintro (⟨hsplit, -, -⟩ | ⟨hmem, -⟩)
      · exact hnever _ _ hsplit
      · exact hx hmem
    simpa [hx] using hnone

/-- With a minus sign it matters on which side of it the letter stands. -/
theorem extendedSetting?_of_minus {before after : List Char} (hfirst : '-' ∉ before) (on : Bool) :
    extendedSetting? (String.ofList (before ++ '-' :: after)) = some on ↔
      Asks (before ++ '-' :: after) on := by
  obtain ⟨htake, hdrop⟩ := takeWhile_dropWhile_minus hfirst after
  simp only [extendedSetting?, String.toList_ofList, htake, hdrop, List.drop_succ_cons, List.drop_zero]
  by_cases hoff : 'x' ∈ after
  · have hasks : Asks (before ++ '-' :: after) false := .off rfl hfirst hoff
    have hon : on = false ↔ Asks (before ++ '-' :: after) on :=
      ⟨fun h => h ▸ hasks, fun h => h.unique hasks⟩
    simpa [hoff, eq_comm] using hon
  · have hnot : ∀ front back, before ++ '-' :: after = front ++ '-' :: back → '-' ∉ front →
        'x' ∉ back := by
      intro front back hsplit hfront
      obtain ⟨-, hback⟩ := takeWhile_dropWhile_minus hfront back
      rw [← hsplit, hdrop] at hback
      rwa [← (List.cons.inj hback).2]
    by_cases hx : 'x' ∈ before
    · have hasks : Asks (before ++ '-' :: after) true := .on (List.mem_append_left _ hx) hnot
      have hon : on = true ↔ Asks (before ++ '-' :: after) on :=
        ⟨fun h => h ▸ hasks, fun h => h.unique hasks⟩
      simpa [hoff, hx, eq_comm] using hon
    · have hnone : ¬ Asks (before ++ '-' :: after) on := by
        rintro (⟨hsplit, hfront, hmem⟩ | ⟨hmem, -⟩)
        · exact hnot _ _ hsplit hfront hmem
        · simp [hoff, hx] at hmem
      simpa [hoff, hx] using hnone

/-- The view reads the letters as they are meant. -/
theorem extendedSetting?_eq_some_iff (letters : List Char) (on : Bool) :
    extendedSetting? (String.ofList letters) = some on ↔ Asks letters on := by
  by_cases hminus : '-' ∈ letters
  · obtain ⟨before, after, rfl, hfirst⟩ := List.eq_append_cons_of_mem hminus
    exact extendedSetting?_of_minus hfirst on
  · exact extendedSetting?_of_no_minus hminus on

/-- The rule for flag letters takes the letters and the mark behind them, which tells a switch from an
opener. -/
theorem flagged?_mark {rest : List Char} {lexeme : Lexeme} (h : flagged? rest = some lexeme) :
    ∃ letters mark, ('(' :: rest).take lexeme.length = '(' :: '?' :: (letters ++ [mark]) ∧
      (∀ c ∈ letters, (c.isAlpha || c == '-') = true) ∧
      (mark = ')' ∧ lexeme.kind = .inlineFlags ∨ mark = ':' ∧ lexeme.kind = .groupOpen .flagged) := by
  unfold flagged? at h
  split at h
  · rename_i text
    dsimp only at h
    generalize hletters : text.takeWhile (fun c => c.isAlpha || c == '-') = letters at h
    have hall : ∀ c ∈ letters, (c.isAlpha || c == '-') = true := fun c hmem => by
      rw [← hletters] at hmem
      exact List.all_eq_true.mp List.all_takeWhile c hmem
    have hprefix : letters ++ text.drop letters.length = text := by
      rw [← hletters]
      exact List.prefix_iff_eq_append.mp (List.takeWhile_prefix _)
    have htake : ∀ mark, (text.drop letters.length).head? = some mark →
        ('(' :: '?' :: text).take (letters.length + 3) = '(' :: '?' :: (letters ++ [mark]) := by
      intro mark hmark
      obtain ⟨after, hafter⟩ := List.head?_eq_some_iff.mp hmark
      rw [hafter] at hprefix
      simp [← hprefix, List.take_append, List.take_of_length_le]
    split at h
    · cases h
    · split at h <;> cases h
      · rename_i hmark
        exact ⟨letters, _, htake _ hmark, hall, .inl ⟨rfl, rfl⟩⟩
      · rename_i hmark
        exact ⟨letters, _, htake _ hmark, hall, .inr ⟨rfl, rfl⟩⟩
  · cases h

/-- The mark is a parenthesis or a colon. -/
theorem flagged?_text {rest : List Char} {lexeme : Lexeme} (h : flagged? rest = some lexeme) :
    ∃ letters mark, ('(' :: rest).take lexeme.length = '(' :: '?' :: (letters ++ [mark]) ∧
      (∀ c ∈ letters, (c.isAlpha || c == '-') = true) ∧ (mark = ')' ∨ mark = ':') := by
  obtain ⟨letters, mark, htake, hletters, hmark⟩ := flagged?_mark h
  exact ⟨letters, mark, htake, hletters, hmark.imp And.left And.left⟩

/-- The view of a switch trims the mark away and nothing else. -/
theorem flags?_of_text {token : Token} {letters : List Char} {mark : Char}
    (hraw : token.raw.toList = '(' :: '?' :: (letters ++ [mark]))
    (hletters : ∀ c ∈ letters, (c.isAlpha || c == '-') = true) (hmark : mark = ')' ∨ mark = ':') :
    token.flags? = some (String.ofList letters) := by
  have hafter : Text.after? ['(', '?'] ('(' :: '?' :: (letters ++ [mark])) = some (letters ++ [mark]) := by
    simp [Text.after?]
  have hlast : (mark == ')' || mark == ':') = true := by
    rcases hmark with rfl | rfl <;> rfl
  have hstop : ∀ c ∈ letters, (c == ')' || c == ':') = false := fun c hmem => by
    rw [Bool.or_eq_false_iff, beq_eq_false_iff_ne, beq_eq_false_iff_ne]
    have hletter := hletters c hmem
    constructor <;> rintro rfl <;> revert hletter <;> decide
  rw [flags?, hraw, hafter, Option.map_some, Text.trimEnd_append hstop (List.forall_mem_singleton.mpr hlast)]

/-- Every switch that the rules find shows the setting that its letters ask for. -/
theorem ShowsSetting.of_scan {extended : Bool} {c : Char} {rest : List Char} {lexeme : Lexeme}
    (h : scan extended c rest = .ok lexeme) (offset : Nat) :
    (ofLexeme lexeme offset (c :: rest)).ShowsSetting := by
  intro hkind on
  obtain ⟨rfl, hrule⟩ := scan_flagged h hkind
  obtain ⟨letters, mark, htake, hletters, hmark⟩ := flagged?_text hrule
  have hraw : (ofLexeme lexeme offset ('(' :: rest)).raw.toList = '(' :: '?' :: (letters ++ [mark]) := by
    rw [ofLexeme, String.toList_ofList, htake]
  rw [flags?_of_text hraw hletters hmark, Option.bind_some, extendedSetting?_eq_some_iff]
  constructor
  · exact fun hasks => ⟨letters, mark, hraw, hasks⟩
  · rintro ⟨letters', mark', hraw', hasks⟩
    rw [hraw] at hraw'
    simp only [List.cons.injEq, true_and] at hraw'
    obtain ⟨hsame, -⟩ := List.append_inj' hraw' rfl
    rwa [hsame]

end Railroad.Token
