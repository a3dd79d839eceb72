import Railroad.Node.Descent
import Railroad.Token.Bytewise

/-!
# Building the tree byte by byte

The descent with views that cut the texts of tokens by bytes: names, conditions and flag letters, the name of
a property, the members of a class and the text behind a backslash. Whether these cuts can be made is a
matter of what the tokens of a pattern look like.
-/

namespace Railroad

namespace Token.Bytewise

open Text (Attempt sliceFrom slice lowered find? findLast? byteLength)

/-- The text from a byte on up to the last place of a mark, unless the mark stands in front of it. -/
def upToLast (start : Nat) (mark : Char) (text : List Char) : Attempt (Option (List Char)) :=
  match findLast? mark text with
  | none => some none
  | some stop => if start ≤ stop then (slice start stop text).map some else some none

/-- The name in the text of a token. -/
def name (token : Token) : Attempt (Option String) := do
  match ← Text.stripStart ['(', '?', 'P', '='] token.raw.toList with
  | some name => return (← Text.stripEnd [')'] name).map String.ofList
  | none =>
    match find? (fun c => c == '<' || c == '\'') token.raw.toList with
    | none => return none
    | some opening =>
      let delimited ← sliceFrom opening token.raw.toList
      let mark := if delimited.head? = some '\'' then '\'' else '>'
      return (← upToLast (opening + 1) mark token.raw.toList).map String.ofList

/-- The condition in the text of a token. -/
def condition (token : Token) : Attempt (Option String) := do
  match ← Text.stripStart ['(', '?', '('] token.raw.toList with
  | some condition => return (← Text.stripEnd [')'] condition).map String.ofList
  | none => return none

/-- The flag letters in the text of a token. -/
def flags (token : Token) : Attempt (Option String) := do
  match ← Text.stripStart ['(', '?'] token.raw.toList with
  | some inner =>
    let letters := Text.trimEnd (fun c => c == ')' || c == ':') inner
    return some (String.ofList (← slice 0 (byteLength letters) inner))
  | none => return none

end Token.Bytewise

namespace Terminal.Bytewise

open Text (Attempt sliceFrom slice lowered byteLength)

/-- The terminal for a Unicode property. -/
def unicodeProperty (raw : String) (negated : Bool) : Attempt Terminal := do
  let text ← sliceFrom 2 raw.toList
  let name := String.ofList (Text.trimEnd (· == '\x7d') (text.dropWhile (· == '\x7b')))
  if negated then
    return ⟨.charClass, raw, s!"not {name}",
      s!"Matches any character without the Unicode property {name}.", none⟩
  else
    return ⟨.charClass, raw, name, s!"Matches any character with the Unicode property {name}.", none⟩

/-- The members of a bracketed class, and whether a caret excludes them. -/
def classMembers (raw : String) : Attempt (Bool × String) := do
  let text := raw.toList
  let negated := ['[', '^'].isPrefixOf text
  let last ← lowered (byteLength text)
  let members ← slice (if negated then 2 else 1) last text
  return (negated, String.ofList members)

/-- The terminal for a bracketed class. -/
def bracket (raw : String) : Attempt Terminal :=
  if raw == "[^\\n]" then
    some ⟨.charClass, raw, "non-line-feed", "Matches any character except a line feed.", none⟩
  else if raw == "[^\\r\\n]" then
    some ⟨.charClass, raw, "non-line-break",
      "Matches any character except a line feed or carriage return.", none⟩
  else do
    let (negated, members) ← classMembers raw
    match commonClasses.lookup members, negated with
    | some (label, description), false => return ⟨.charClass, raw, label, description, none⟩
    | some (label, description), true =>
      return ⟨.charClass, raw, s!"not: {label}", s!"Does not match: {lowercaseFirst description}", none⟩
    | none, false => return ⟨.charClass, raw, "one of", s!"Matches one of: {members}", some members⟩
    | none, true => return ⟨.charClass, raw, "none of", s!"Matches none of: {members}", some members⟩

/-- The terminal for an escape that stands for a character. -/
def escapedLiteral (raw : String) : Attempt Terminal := do
  let body ← sliceFrom 1 raw.toList
  match decoded? body with
  | some c =>
    let value := String.singleton c
    return ⟨.literal value, raw, value,
      s!"Matches the character U+{Text.capitalHex 4 c.toNat} (\"{value}\").", none⟩
  | none => return literalOf raw (String.ofList body)

end Terminal.Bytewise

namespace Node.Bytewise

open Text (Attempt)

/-- The terminal for a token, given the known names. -/
def terminal (names : List (String × Nat)) (token : Token) : Attempt Terminal :=
  match token.kind with
  | .unicodeProperty negated => Terminal.Bytewise.unicodeProperty token.raw negated
  | .bracket => Terminal.Bytewise.bracket token.raw
  | .escape => Terminal.Bytewise.escapedLiteral token.raw
  | .namedBackreference => do
    let name := (← Token.Bytewise.name token).getD ""
    return .namedBackreference token.raw name (names.lookup name)
  | .inlineFlags => do
    return .modifier token.raw ((← Token.Bytewise.flags token).getD "")
  | _ => ({ Progress.start with names := names } : Progress).terminal? token

/-- The kind of the group that a token opens. -/
def kind (opener : Opener) (token : Token) : Attempt GroupKind :=
  match opener with
  | .named => do return .named ((← Token.Bytewise.name token).getD "")
  | .flagged => do return .flagged ((← Token.Bytewise.flags token).getD "")
  | .conditional => do return .conditional ((← Token.Bytewise.condition token).getD "")
  | _ => some (Progress.kindOf opener token)

/-- The views that cut the texts of tokens by bytes. -/
def views : Views where
  terminal := terminal
  kind := kind
  astray
    | some token => .unexpectedToken token.raw
    | none => .unexpectedToken "end of pattern"

/-- The tree of a pattern. -/
def ofPattern (pattern : String) : Attempt (Except PatternError Node) := do
  match ← Token.Bytewise.tokensFrom pattern.toList .initial 0 with
  | .error e => return .error (.tokens e)
  | .ok tokens =>
    match ← descend views (tokens.filter (·.kind != .trivia)) with
    | .error e => return .error (.tree e)
    | .ok node => return .ok node

end Node.Bytewise

end Railroad
