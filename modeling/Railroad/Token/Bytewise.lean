import Railroad.Text.Bytes
import Railroad.Token.Lexer

/-!
# Cutting a pattern byte by byte

A second way of cutting a pattern, in which every place is a byte of the pattern, every piece of text is a
checked cut and every loop goes on until it decides to stop. The loop over the members of a class looks at
single bytes and passes two of them at a backslash, whether or not a character ends there.
-/

namespace Railroad.Token.Bytewise

open Text (Attempt sliceFrom slice lowered find? findPart? leading byteLength bytes)

/-- What one step finds: the kind of a token and the number of its bytes. -/
structure Find where
  /-- The kind of the token. -/
  kind : Kind
  /-- How many bytes belong to the token. -/
  size : Nat
  deriving DecidableEq, Repr

/-- The repetition at the beginning of a text that begins with a brace, and the number of its bytes. -/
def braces (text : List Char) : Attempt (Option (Repetition × Nat)) :=
  match find? (· == '\x7d') text with
  | none => some none
  | some close => do
    let body ← slice 1 close text
    return (bounds? body).map (·, close + 1)

/-- The repetition at the beginning of a text, and the number of its bytes. -/
def repetition (text : List Char) : Attempt (Option (Repetition × Nat)) :=
  match text.head? with
  | some '*' => some (some (.zeroOrMore, 1))
  | some '+' => some (some (.oneOrMore, 1))
  | some '?' => some (some (.zeroOrOne, 1))
  | some '\x7b' => braces text
  | _ => some none

/-- The quantifier at the beginning of a text, and the number of its bytes. -/
def quantifier (text : List Char) : Attempt (Option (Quantifier × Nat)) := do
  match ← repetition text with
  | none => return none
  | some (repetition, size) =>
    let rest ← sliceFrom size text
    if rest.head? = some '?' then return some (⟨repetition, false, false⟩, size + 1)
    else if rest.head? = some '+' then return some (⟨repetition, true, true⟩, size + 1)
    else return some (⟨repetition, true, false⟩, size)

/-- The number of bytes of one comment, or of the blanks, at the beginning of a text. -/
def triviaStep (text : List Char) : Nat :=
  if text.head? = some '#' then ((find? (· == '\n') text).map (· + 1)).getD (byteLength text)
  else leading Unicode.isBlank text

/-- The number of bytes of blanks and comments at the beginning of a text, where `size` bytes of them are
known. -/
def triviaFrom (text : List Char) (size : Nat) : Attempt Nat :=
  match _hrest : sliceFrom size text with
  | none => none
  | some rest =>
    if _hstep : triviaStep rest = 0 then some size else triviaFrom text (size + triviaStep rest)
termination_by byteLength text - size
decreasing_by
  have hlt := Text.lt_byteLength_of_sliceFrom _hrest fun hnil => _hstep (by rw [hnil]; rfl)
  omega

/-- The number of bytes of blanks and comments at the beginning of a text, if there can be any. -/
def triviaSize (extended : Bool) (text : List Char) : Attempt Nat :=
  if extended then triviaFrom text 0 else some 0

/-- The number of bytes of the hexadecimal part of an escape. -/
def hexSize (digits : Nat) (after : List Char) : Nat :=
  if after.head? = some '\x7b' then ((find? (· == '\x7d') after).map (· + 1)).getD 0
  else if digits ≤ leading Unicode.isHexDigit after then digits else 0

/-- A reference to a group by name, behind the letter of its escape. -/
def namedReference (after : List Char) : Attempt Find :=
  if after.head? = some '<' ∨ after.head? = some '\'' then do
    let close := if after.head? = some '<' then '>' else '\''
    let name ← sliceFrom 1 after
    match find? (· == close) name with
    | some stop => return ⟨.namedBackreference, 2 + stop + 2⟩
    | none => return ⟨.escape, 2⟩
  else some ⟨.escape, 2⟩

/-- A Unicode property, behind the letter of its escape. -/
def property (negated : Bool) (after : List Char) : Find :=
  if after.head? = some '\x7b' then
    match find? (· == '\x7d') after with
    | some close => ⟨.unicodeProperty negated, 2 + close + 1⟩
    | none => ⟨.escape, 2⟩
  else if after.head?.any Char.isAlpha then ⟨.unicodeProperty negated, 3⟩
  else ⟨.escape, 2⟩

/-- The escape at the beginning of a text, given the character behind its backslash and what follows. -/
def escapeOf (text : List Char) (c : Char) (after : List Char) : Attempt Find :=
  if ['d', 'D', 'w', 'W', 's', 'S', 'h', 'H'].contains c then some ⟨.charClass, 2⟩
  else if ['b', 'B', 'A', 'z', 'Z', 'G', '<', '>'].contains c then some ⟨.anchor, 2⟩
  else if ['n', 'r', 't', 'f', 'v', 'e', 'a'].contains c then some ⟨.controlChar, 2⟩
  else if c == 'K' then some ⟨.complex, 2⟩
  else if c.isDigit && c != '0' then do
    let digits := 1 + leading Char.isDigit after
    let numeral ← slice 1 (1 + digits) text
    let group := Text.decimalValue numeral
    if group < groupLimit then return ⟨.backreference group, 1 + digits⟩ else return ⟨.escape, 2⟩
  else if c == 'k' then namedReference after
  else if c == 'p' || c == 'P' then some (property (c == 'P') after)
  else if c == 'x' then some ⟨.escape, 2 + hexSize 2 after⟩
  else if c == 'u' then some ⟨.escape, 2 + hexSize 4 after⟩
  else if c == 'U' then some ⟨.escape, 2 + hexSize 8 after⟩
  else some ⟨.escape, 1 + c.utf8Size⟩

/-- The escape at the beginning of a text. -/
def escape (text : List Char) : Attempt (Except Flaw Find) := do
  let behind ← sliceFrom 1 text
  match behind with
  | [] => return .error .openEscape
  | c :: _ =>
    let after ← sliceFrom (1 + c.utf8Size) text
    let found ← escapeOf text c after
    return .ok found

/-- A group name with its closing character, behind the text that opens it. -/
def delimitedName (kind : Kind) (opening : List Char) (close : Char) (text : List Char) :
    Attempt (Option Find) := do
  match ← Text.stripStart opening text with
  | none => return none
  | some after =>
    let size := leading isNameChar after
    if size = 0 then return none
    else
      let behind ← sliceFrom size after
      if behind.head? = some close then return some ⟨kind, byteLength opening + size + 1⟩ else return none

/-- The byte of the parenthesis that closes a group which has begun, from the byte `place` on. -/
def closingParen (place depth : Nat) : List Char → Attempt (Option Nat)
  | [] => some none
  | ['\\'] => some none
  | '\\' :: c :: rest => closingParen (place + 1 + c.utf8Size) depth rest
  | c :: rest =>
    if c == '(' then closingParen (place + c.utf8Size) (depth + 1) rest
    else if c == ')' then
      if depth == 0 then some (some place)
      else (lowered depth).bind fun depth => closingParen (place + c.utf8Size) depth rest
    else closingParen (place + c.utf8Size) depth rest

/-- The opener of a conditional. -/
def conditional (text : List Char) : Attempt (Option Find) :=
  if ['(', '?', '('].isPrefixOf text then do
    let condition ← sliceFrom 3 text
    let close ← closingParen 0 0 condition
    return close.map fun close => ⟨.groupOpen .conditional, 3 + close + 1⟩
  else some none

/-- Flag letters: either a switch that stands alone, or the opener of a group with flags. -/
def flagged (text : List Char) : Attempt (Option Find) := do
  match ← Text.stripStart ['(', '?'] text with
  | none => return none
  | some after =>
    let size := leading (fun c => c.isAlpha || c == '-') after
    if size = 0 then return none
    else
      let behind ← sliceFrom size after
      if behind.head? = some ')' then return some ⟨.inlineFlags, 2 + size + 1⟩
      else if behind.head? = some ':' then return some ⟨.groupOpen .flagged, 2 + size + 1⟩
      else return none

/-- What the first of two rules finds, or else the second. -/
def orElse (first second : Attempt (Option Find)) : Attempt (Option Find) := do
  match ← first with
  | some found => return some found
  | none => second

/-- What an opening parenthesis at the beginning of a text begins. The openers with a fixed spelling are all
of one byte for each character. -/
def parenthesis (text : List Char) : Attempt Find := do
  let fixed := (fixedOpener? (text.drop 1)).map fun lexeme => ⟨lexeme.kind, lexeme.length⟩
  let found ← orElse (some fixed) <|
    orElse (delimitedName .namedBackreference ['(', '?', 'P', '='] ')' text) <|
    orElse (conditional text) <|
    orElse (delimitedName (.groupOpen .named) ['(', '?', '<'] '>' text) <|
    orElse (delimitedName (.groupOpen .named) ['(', '?', 'P', '<'] '>' text) (flagged text)
  return found.getD ⟨.groupOpen .capturing, 1⟩

/-- The byte behind the bracket that closes a class, from the byte `place` on. Only the bytes of ASCII
characters are told apart. -/
def classEnd (text : List Char) (place depth : Nat) : Attempt (Option Nat) :=
  match _hbyte : (bytes text)[place]? with
  | none => some none
  | some byte =>
    if byte = '\\'.val.toUInt8 then classEnd text (place + 2) depth
    else if byte = '['.val.toUInt8 then
      if (bytes text)[place + 1]? = some ':'.val.toUInt8 then
        (sliceFrom (place + 2) text).bind fun item =>
          match findPart? [':', ']'] item with
          | some stop => classEnd text (place + 2 + stop + 2) depth
          | none => classEnd text (place + 1) depth
      else classEnd text (place + 1) (depth + 1)
    else if byte = ']'.val.toUInt8 then
      if depth = 0 then some (some (place + 1))
      else (lowered depth).bind fun depth => classEnd text (place + 1) depth
    else classEnd text (place + 1) depth
termination_by (bytes text).length - place
decreasing_by
  all_goals
    have hlt := (List.getElem?_eq_some_iff.mp _hbyte).1
    omega

/-- One byte further if the byte is that of an ASCII character. -/
def past (mark : Char) (text : List Char) (place : Nat) : Nat :=
  if (bytes text)[place]? = some mark.val.toUInt8 then place + 1 else place

/-- The bracketed class at the beginning of a text. -/
def bracket (text : List Char) : Attempt (Except Flaw Find) := do
  match ← classEnd text (past ']' text (past '^' text 1)) 0 with
  | some size => return .ok ⟨.bracket, size⟩
  | none => return .error .openClass

/-- The plain text at the beginning of a text. -/
def literal (extended : Bool) (text : List Char) : Attempt Find := do
  let stop := (find? (fun c => !isPlain extended c) text).getD (byteLength text)
  let rest ← sliceFrom stop text
  let tail ← sliceFrom (← triviaSize extended rest) rest
  let follower ← quantifier tail
  if follower.isSome then
    let run ← slice 0 stop text
    let last := byteLength run.dropLast
    return ⟨.literal, if 0 < last then last else stop⟩
  else return ⟨.literal, stop⟩

/-- The token at the beginning of a text, given its first character, which begins neither trivia nor a
quantifier. -/
def plain (extended : Bool) (c : Char) (text : List Char) : Attempt (Except Flaw Find) :=
  match c with
  | '\\' => escape text
  | '.' => some (.ok ⟨.charClass, 1⟩)
  | '^' | '$' => some (.ok ⟨.anchor, 1⟩)
  | '|' => some (.ok ⟨.alternation, 1⟩)
  | ')' => some (.ok ⟨.groupClose, 1⟩)
  | '(' => (parenthesis text).map .ok
  | '[' => bracket text
  | '\x7b' => some (.ok ⟨.literal, 1⟩)
  | _ => (literal extended text).map .ok

/-- The token at the beginning of a text, given its first character. -/
def step (extended : Bool) (c : Char) (text : List Char) : Attempt (Except Flaw Find) := do
  let trivia ← triviaSize extended text
  if 0 < trivia then return .ok ⟨.trivia, trivia⟩
  else
    match ← quantifier text with
    | some (q, size) => return .ok ⟨.quantifier q, size⟩
    | none => plain extended c text

/-- The tokens of a pattern from a byte on. A step that takes no byte would be repeated without end. -/
def tokensFrom (pattern : List Char) (scope : Scope) (place : Nat) :
    Attempt (Except TokenizeError (List Token)) :=
  match _hrest : sliceFrom place pattern with
  | none => none
  | some [] => some (.ok [])
  | some (c :: rest) => do
    match ← step scope.extended c (c :: rest) with
    | .error flaw => return .error (flaw.at place)
    | .ok found =>
      if _hsize : 0 < found.size then
        let raw ← slice place (place + found.size) pattern
        let token : Token := ⟨found.kind, String.ofList raw, place⟩
        let behind ← tokensFrom pattern (scope.after token) (place + found.size)
        return behind.map (token :: ·)
      else none
termination_by byteLength pattern - place
decreasing_by
  have hlt := Text.lt_byteLength_of_sliceFrom _hrest (List.cons_ne_nil _ _)
  omega

end Railroad.Token.Bytewise
