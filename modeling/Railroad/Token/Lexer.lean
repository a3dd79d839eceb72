import Railroad.Token.Extent

/-!
# Cutting a pattern into tokens

The steps follow each other through the pattern, each at the byte where the one before it ended. They
share the extended flag, which the flag letters of groups and switches set and the end of a group sets
back.
-/

namespace Railroad

/-- Why a pattern cannot be cut into tokens. -/
inductive TokenizeError where
  /-- A bracketed class that begins at this byte has no end. -/
  | unterminatedClass (offset : Nat)
  /-- Nothing follows the backslash at this byte. -/
  | trailingBackslash (offset : Nat)
  deriving DecidableEq, Repr

/-- The wording of the error. -/
def TokenizeError.message : TokenizeError → String
  | unterminatedClass offset => s!"unterminated character class starting at position {offset}"
  | trailingBackslash offset => s!"trailing backslash at position {offset}"

namespace Token

/-- The error for a flaw found at a byte of the pattern. -/
def Flaw.at (offset : Nat) : Flaw → TokenizeError
  | openClass => .unterminatedClass offset
  | openEscape => .trailingBackslash offset

/-- The setting of the extended flag that flag letters ask for: off if the letter stands behind the
first minus sign, else on if it stands in front of it. -/
def extendedSetting? (flags : String) : Option Bool :=
  let on := flags.toList.takeWhile (· != '-')
  let off := (flags.toList.dropWhile (· != '-')).drop 1
  if off.contains 'x' then some false
  else if on.contains 'x' then some true
  else none

/-- Where the extended flag stands: its setting now, and its settings outside the open groups. -/
structure Scope where
  /-- Whether the flag is on. -/
  extended : Bool
  /-- The settings to go back to, the innermost group first. -/
  outer : List Bool
  deriving DecidableEq, Repr

namespace Scope

/-- The scope at the beginning of a pattern. -/
def initial : Scope := ⟨false, []⟩

/-- The scope with the setting that a token's flag letters ask for. -/
def switched (scope : Scope) (token : Token) : Scope :=
  match token.flags?.bind extendedSetting? with
  | some setting => ⟨setting, scope.outer⟩
  | none => scope

/-- The scope behind a token. -/
def after (scope : Scope) (token : Token) : Scope :=
  match token.kind with
  | .groupOpen opener =>
    let inner : Scope := ⟨scope.extended, scope.extended :: scope.outer⟩
    if opener = .flagged then inner.switched token else inner
  | .groupClose =>
    match scope.outer with
    | [] => scope
    | setting :: outer => ⟨setting, outer⟩
  | .inlineFlags => scope.switched token
  | _ => scope

end Scope

/-- The token that a lexeme stands for at the beginning of a text. -/
def ofLexeme (lexeme : Lexeme) (offset : Nat) (text : List Char) : Token :=
  ⟨lexeme.kind, String.ofList (text.take lexeme.length), offset⟩

/-- The tokens of a text that stands at a byte of the pattern. -/
def tokensFrom (scope : Scope) (offset : Nat) (text : List Char) :
    Except TokenizeError (List Token) :=
  match text with
  | [] => .ok []
  | c :: rest =>
    match _hscan : scan scope.extended c rest with
    | .error flaw => .error (flaw.at offset)
    | .ok lexeme =>
      let token := ofLexeme lexeme offset (c :: rest)
      match tokensFrom (scope.after token) (offset + token.raw.utf8ByteSize)
          ((c :: rest).drop lexeme.length) with
      | .error e => .error e
      | .ok tokens => .ok (token :: tokens)
termination_by text.length
decreasing_by exact length_drop_lt _hscan

end Token

/-- The tokens of a pattern. -/
def tokenize (pattern : String) : Except TokenizeError (List Token) :=
  Token.tokensFrom .initial 0 pattern.toList

end Railroad
