import Railroad.Token.Lexer

/-!
# Runs of the tokenizer

A run that comes to its end is a chain of steps, one for each token. The chain is a relation of its
own, so that a property of all tokens is an induction over it. A second version of the run counts its
steps; it never needs more of them than the text has characters.
-/

namespace Railroad.Token

/-- The text, which stands at a byte of the pattern, is cut into the tokens by steps that begin in the
scope. -/
inductive Cuts : Scope → Nat → List Char → List Token → Prop
  /-- Nothing is left. -/
  | done {scope : Scope} {offset : Nat} : Cuts scope offset [] []
  /-- A step finds a lexeme, and the run goes on behind it. -/
  | step {scope : Scope} {offset : Nat} {c : Char} {rest : List Char} {lexeme : Lexeme}
      {tokens : List Token} (hscan : scan scope.extended c rest = .ok lexeme)
      (behind : Cuts (scope.after (ofLexeme lexeme offset (c :: rest)))
        (offset + (ofLexeme lexeme offset (c :: rest)).raw.utf8ByteSize)
        ((c :: rest).drop lexeme.length) tokens) :
      Cuts scope offset (c :: rest) (ofLexeme lexeme offset (c :: rest) :: tokens)

/-- The tokens of an empty text. -/
theorem tokensFrom_nil (scope : Scope) (offset : Nat) : tokensFrom scope offset [] = .ok [] := by
  rw [tokensFrom]

/-- A step that fails ends the run. -/
theorem tokensFrom_of_scan_error {scope : Scope} (offset : Nat) {c : Char} {rest : List Char}
    {flaw : Flaw} (hscan : scan scope.extended c rest = .error flaw) :
    tokensFrom scope offset (c :: rest) = .error (flaw.at offset) := by
  rw [tokensFrom]
  split
  · rename_i hflaw
    rw [hscan] at hflaw
    cases hflaw
    rfl
  · rename_i hlexeme
    rw [hscan] at hlexeme
    cases hlexeme

/-- A step that finds a lexeme puts its token in front of those behind it. -/
theorem tokensFrom_of_scan_ok {scope : Scope} (offset : Nat) {c : Char} {rest : List Char}
    {lexeme : Lexeme} (hscan : scan scope.extended c rest = .ok lexeme) :
    tokensFrom scope offset (c :: rest) =
      (tokensFrom (scope.after (ofLexeme lexeme offset (c :: rest)))
        (offset + (ofLexeme lexeme offset (c :: rest)).raw.utf8ByteSize)
        ((c :: rest).drop lexeme.length)).map (ofLexeme lexeme offset (c :: rest) :: ·) := by
  rw [tokensFrom]
  split
  · rename_i hflaw
    rw [hscan] at hflaw
    cases hflaw
  · rename_i hlexeme
    rw [hscan] at hlexeme
    cases hlexeme
    dsimp only
    split
    · rename_i herror
      rw [herror]
      rfl
    · rename_i hok
      rw [hok]
      rfl

/-- A run returns tokens exactly when steps lead through the whole text. -/
theorem tokensFrom_eq_ok_iff {scope : Scope} {offset : Nat} {text : List Char} {tokens : List Token} :
    tokensFrom scope offset text = .ok tokens ↔ Cuts scope offset text tokens := by
  constructor
  · intro h
    induction hn : text.length using Nat.strongRecOn generalizing scope offset text tokens with
    | ind n ih =>
      cases text with
      | nil =>
        rw [tokensFrom_nil] at h
        cases h
        exact .done
      | cons c rest =>
        cases hscan : scan scope.extended c rest with
        | error flaw =>
          rw [tokensFrom_of_scan_error offset hscan] at h
          cases h
        | ok lexeme =>
          have hlt := length_drop_lt hscan
          rw [tokensFrom_of_scan_ok offset hscan] at h
          cases hbehind : tokensFrom (scope.after (ofLexeme lexeme offset (c :: rest)))
              (offset + (ofLexeme lexeme offset (c :: rest)).raw.utf8ByteSize)
              ((c :: rest).drop lexeme.length) with
          | error e =>
            rw [hbehind] at h
            cases h
          | ok behind =>
            rw [hbehind] at h
            cases h
            exact .step hscan (ih _ (hn ▸ hlt) hbehind rfl)
  · intro h
    induction h with
    | done => exact tokensFrom_nil _ _
    | step hscan _ ih =>
      rw [tokensFrom_of_scan_ok _ hscan, ih]
      rfl

/-- The run with at most `steps` steps. There is no result if text is left after them. -/
def tokensWithin : Nat → Scope → Nat → List Char → Option (Except TokenizeError (List Token))
  | _, _, _, [] => some (.ok [])
  | 0, _, _, _ :: _ => none
  | steps + 1, scope, offset, c :: rest =>
    match scan scope.extended c rest with
    | .error flaw => some (.error (flaw.at offset))
    | .ok lexeme =>
      let token := ofLexeme lexeme offset (c :: rest)
      (tokensWithin steps (scope.after token) (offset + token.raw.utf8ByteSize)
        ((c :: rest).drop lexeme.length)).map (Except.map (token :: ·))

/-- As many steps as there are characters are enough for the run to end, whether it returns tokens or
fails. -/
theorem tokensWithin_eq {steps : Nat} (scope : Scope) (offset : Nat) {text : List Char}
    (h : text.length ≤ steps) :
    tokensWithin steps scope offset text = some (tokensFrom scope offset text) := by
  induction steps generalizing scope offset text with
  | zero =>
    cases List.eq_nil_of_length_eq_zero (Nat.le_zero.mp h)
    rw [tokensFrom_nil]
    rfl
  | succ steps ih =>
    cases text with
    | nil =>
      rw [tokensFrom_nil]
      rfl
    | cons c rest =>
      cases hscan : scan scope.extended c rest with
      | error flaw => simp only [tokensWithin, hscan, tokensFrom_of_scan_error offset hscan]
      | ok lexeme =>
        have hlt := length_drop_lt hscan
        simp only [tokensWithin, hscan, tokensFrom_of_scan_ok offset hscan]
        rw [ih _ _ (Nat.le_of_lt_succ (Nat.lt_of_lt_of_le hlt h))]
        rfl

end Railroad.Token
