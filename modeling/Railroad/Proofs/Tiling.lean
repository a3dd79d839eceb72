import Mathlib
import Railroad.Proofs.Cutting

/-!
# Tokens tile their pattern

Put side by side, the texts of the tokens are the pattern, and each token stands at the byte where the
ones before it end. Nothing is skipped, nothing is read twice, and no token is empty.
-/

namespace Railroad.Token

/-- The tokens lie side by side and cover a text that stands at a byte of the pattern. -/
structure Tiles (offset : Nat) (text : String) (tokens : List Token) : Prop where
  /-- No token is empty. -/
  raw_ne_empty : ∀ token ∈ tokens, token.raw ≠ ""
  /-- A token begins behind the bytes of those in front of it. -/
  offset_eq : ∀ before token after, tokens = before ++ token :: after →
    token.offset = offset + (before.map fun t => t.raw.utf8ByteSize).sum
  /-- Together the tokens are the text. -/
  join_eq : String.join (tokens.map fun t => t.raw) = text

/-- A lexeme that fits makes a token that is not empty. -/
theorem ofLexeme_raw_ne_empty {lexeme : Lexeme} {text : List Char} (offset : Nat)
    (hfits : lexeme.Fits text.length) : (ofLexeme lexeme offset text).raw ≠ "" := by
  intro hempty
  have hnil : text.take lexeme.length = [] := String.ofList_eq_empty_iff.mp hempty
  have hlength := congrArg List.length hnil
  rw [List.length_take, Nat.min_eq_left hfits.2, List.length_nil] at hlength
  exact Nat.lt_irrefl 0 (hlength ▸ hfits.1)

/-- The token of a step and the text left behind it are the text in front of the step. -/
theorem ofLexeme_raw_append (lexeme : Lexeme) (offset : Nat) (text : List Char) :
    (ofLexeme lexeme offset text).raw ++ String.ofList (text.drop lexeme.length) =
      String.ofList text := by
  rw [ofLexeme, ← String.ofList_append, List.take_append_drop]

/-- No tokens tile the empty text. -/
theorem Tiles.nil (offset : Nat) : Tiles offset "" [] where
  raw_ne_empty := fun _ hmem => absurd hmem List.not_mem_nil
  offset_eq := fun before token after hsplit => by
    have hlength := congrArg List.length hsplit
    simp only [List.length_nil, List.length_append, List.length_cons] at hlength
    omega
  join_eq := rfl

/-- A token in front of a tiling extends it to the left. -/
theorem Tiles.cons {token : Token} {text : String} {tokens : List Token} (hraw : token.raw ≠ "")
    (htail : Tiles (token.offset + token.raw.utf8ByteSize) text tokens) :
    Tiles token.offset (token.raw ++ text) (token :: tokens) where
  raw_ne_empty := List.forall_mem_cons.mpr ⟨hraw, htail.raw_ne_empty⟩
  offset_eq := fun before t after hsplit => by
    cases before with
    | nil =>
      cases hsplit
      rfl
    | cons first before =>
      obtain ⟨hfirst, hrest⟩ := List.cons.inj hsplit
      have heq := htail.offset_eq before t after hrest
      rw [List.map_cons, List.sum_cons, ← hfirst, heq, Nat.add_assoc]
  join_eq := by rw [List.map_cons, String.join_cons, htail.join_eq]

/-- A run cuts its text into tokens that tile it. -/
theorem Cuts.tiles {scope : Scope} {offset : Nat} {text : List Char} {tokens : List Token}
    (h : Cuts scope offset text tokens) : Tiles offset (String.ofList text) tokens := by
  induction h with
  | done => exact Tiles.nil _
  | @step scope offset c rest lexeme tokens hscan _ ih =>
    rw [← ofLexeme_raw_append lexeme offset (c :: rest)]
    exact Tiles.cons (ofLexeme_raw_ne_empty offset (scan_fits hscan)) ih

/-- Every step takes at least one character and none beyond the end, so the run is over after as many
steps as the pattern has characters. If it returns tokens, they tile the pattern. -/
theorem tokenize_tiles (pattern : String) :
    (∀ extended c rest lexeme, scan extended c rest = .ok lexeme →
      0 < lexeme.length ∧ lexeme.length ≤ (c :: rest).length) ∧
    tokensWithin pattern.length .initial 0 pattern.toList = some (tokenize pattern) ∧
    ∀ tokens, tokenize pattern = .ok tokens → Tiles 0 pattern tokens := by
  refine ⟨fun _ _ _ _ hscan => scan_fits hscan, ?_, ?_⟩
  · exact tokensWithin_eq .initial 0 (Nat.le_of_eq String.length_toList)
  · intro tokens htokens
    have hcuts := tokensFrom_eq_ok_iff.mp htokens
    have htiles := hcuts.tiles
    rwa [String.ofList_toList] at htiles

/-- The tokens of a pattern with characters of two bytes, a class that begins with its closing bracket,
and blanks and a comment of the extended notation. -/
def mixedTokens : List Token :=
  [⟨.inlineFlags, "(?x)", 0⟩, ⟨.trivia, " ", 4⟩, ⟨.literal, "é", 5⟩,
    ⟨.quantifier ⟨.atLeast 2, false, false⟩, "\x7b2,\x7d?", 7⟩, ⟨.trivia, " ", 12⟩,
    ⟨.bracket, "[^]é&&[\\é]]", 13⟩, ⟨.trivia, " # c\n", 26⟩, ⟨.escape, "\\x\x7b41\x7d", 31⟩,
    ⟨.namedBackreference, "\\k<n>", 37⟩]

/-- The tokens of such a pattern tile it. -/
theorem tokenize_tiles_mixedTokens :
    tokenize "(?x) é\x7b2,\x7d? [^]é&&[\\é]] # c\n\\x\x7b41\x7d\\k<n>" = .ok mixedTokens ∧
      Tiles 0 "(?x) é\x7b2,\x7d? [^]é&&[\\é]] # c\n\\x\x7b41\x7d\\k<n>" mixedTokens := by
  have htokens : tokenize "(?x) é\x7b2,\x7d? [^]é&&[\\é]] # c\n\\x\x7b41\x7d\\k<n>" =
      .ok mixedTokens := by cbv
  exact ⟨htokens, (tokenize_tiles _).2.2 _ htokens⟩

end Railroad.Token
