import Railroad.Repetition
import Railroad.Text.Piece

/-!
# Tokens

The pieces that a pattern is cut into: each has a kind, its own text and the byte at which it stands.
Three views read a name, a condition or flag letters off the text of a token.
-/

namespace Railroad

/-- A quantifier: how often, and in which order the counts are tried. -/
structure Quantifier where
  /-- The counts that are allowed. -/
  repetition : Repetition
  /-- Whether high counts are tried first. -/
  greedy : Bool
  /-- Whether a count, once found, is kept. -/
  possessive : Bool
  deriving DecidableEq, Repr

/-- What kind of group an opening parenthesis begins. -/
inductive Opener where
  /-- A numbered group. -/
  | capturing
  /-- A numbered group with a name. -/
  | named
  /-- A group for precedence only. -/
  | nonCapturing
  /-- A group with flags of its own. -/
  | flagged
  /-- A group that gives nothing back once it has matched. -/
  | atomic
  /-- A positive lookahead. -/
  | lookAhead
  /-- A negative lookahead. -/
  | negativeLookAhead
  /-- A positive lookbehind. -/
  | lookBehind
  /-- A negative lookbehind. -/
  | negativeLookBehind
  /-- A conditional, whose opener holds the whole condition. -/
  | conditional
  deriving DecidableEq, Repr

/-- Whether the group gets a number. -/
def Opener.isCapturing : Opener → Bool
  | capturing | named => true
  | _ => false

namespace Token

/-- The kind of a token. -/
inductive Kind where
  /-- A class escape such as the one for digits, or the dot. -/
  | charClass
  /-- A Unicode property, or the lack of one. -/
  | unicodeProperty (negated : Bool)
  /-- A position: start, end, word boundary and the like. -/
  | anchor
  /-- An escape for a control character. -/
  | controlChar
  /-- A reference back to a group by number. -/
  | backreference (group : Nat)
  /-- A reference back to a group by name. -/
  | namedBackreference
  /-- An escape that a diagram only names. -/
  | complex
  /-- A quantifier. -/
  | quantifier (q : Quantifier)
  /-- The beginning of a group. -/
  | groupOpen (opener : Opener)
  /-- The end of a group. -/
  | groupClose
  /-- The bar between two alternatives. -/
  | alternation
  /-- A bracketed class. -/
  | bracket
  /-- Any other escape. -/
  | escape
  /-- A switch of flags that stands alone. -/
  | inlineFlags
  /-- Blanks and comments where the extended flag is on. -/
  | trivia
  /-- Plain text. -/
  | literal
  deriving DecidableEq, Repr

end Token

/-- A piece of a pattern. -/
structure Token where
  /-- What kind of piece it is. -/
  kind : Token.Kind
  /-- Its text. -/
  raw : String
  /-- The byte of the pattern at which it begins. -/
  offset : Nat
  deriving DecidableEq, Repr

namespace Token

/-- The name in the text of a token: between an equals sign and the closing parenthesis, or between
the first angle bracket or quote and the last character that closes it. -/
def name? (token : Token) : Option String :=
  let raw := token.raw.toList
  match Text.after? ['(', '?', 'P', '='] raw with
  | some rest => (Text.before? [')'] rest).map String.ofList
  | none =>
    match raw.dropWhile fun c => c != '<' && c != '\'' with
    | [] => none
    | opening :: rest =>
      (Text.beforeLast? (if opening = '\'' then '\'' else '>') rest).map String.ofList

/-- The text of the condition, for the opener of a conditional. -/
def condition? (token : Token) : Option String :=
  match Text.after? ['(', '?', '('] token.raw.toList with
  | some rest => (Text.before? [')'] rest).map String.ofList
  | none => none

/-- The flag letters of a switch of flags or of the opener of a group with flags. -/
def flags? (token : Token) : Option String :=
  (Text.after? ['(', '?'] token.raw.toList).map fun rest =>
    String.ofList (Text.trimEnd (fun c => c == ')' || c == ':') rest)

end Token

end Railroad
