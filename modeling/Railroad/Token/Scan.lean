import Railroad.Text.Numeral
import Railroad.Token

/-!
# One step of cutting a pattern

A step looks at the text that is left and decides the kind of the next token and how many characters it
takes. Every branch counts its own characters. Two texts cannot be cut: one that ends in a backslash,
and one that ends inside a bracketed class.
-/

namespace Railroad.Token

/-- What one step finds: the kind of a token and the number of its characters. -/
structure Lexeme where
  /-- The kind of the token. -/
  kind : Kind
  /-- How many characters belong to the token. -/
  length : Nat
  deriving DecidableEq, Repr

/-- The characters at which plain text ends. -/
def isSpecial (c : Char) : Bool :=
  ['\\', '(', ')', '[', '.', '+', '*', '?', '\x7b', '^', '$', '|'].contains c

/-- One more than the largest repetition count that a token can hold. -/
def countLimit : Nat := UInt32.size

/-- One more than the largest group number that a token can hold. -/
def groupLimit : Nat := UInt64.size

/-- A repetition count: a decimal numeral below the limit. -/
def count? (digits : List Char) : Option Nat :=
  match Text.decimal? digits with
  | some n => if n < countLimit then some n else none
  | none => none

/-- The repetition that the text between two braces stands for. -/
def bounds? (body : List Char) : Option Repetition :=
  let low := body.takeWhile (· != ',')
  match body.dropWhile (· != ',') with
  | [] => (count? low).map .exactly
  | [_] => (count? low).map .atLeast
  | _ :: high =>
    match count? low, count? high with
    | some n, some m => some (.between n m)
    | _, _ => none

/-- The repetition at the beginning of a text, and the number of its characters. -/
def repetition? : List Char → Option (Repetition × Nat)
  | '*' :: _ => some (.zeroOrMore, 1)
  | '+' :: _ => some (.oneOrMore, 1)
  | '?' :: _ => some (.zeroOrOne, 1)
  | '\x7b' :: rest =>
    match rest.findIdx? (· == '\x7d') with
    | some close => (bounds? (rest.take close)).map (·, close + 2)
    | none => none
  | _ => none

/-- The quantifier at the beginning of a text, and the number of its characters. A question mark behind
the repetition makes it lazy, a plus sign possessive. -/
def quantifier? (text : List Char) : Option (Quantifier × Nat) :=
  match repetition? text with
  | none => none
  | some (repetition, length) =>
    match text.drop length with
    | '?' :: _ => some (⟨repetition, false, false⟩, length + 1)
    | '+' :: _ => some (⟨repetition, true, true⟩, length + 1)
    | _ => some (⟨repetition, true, false⟩, length)

/-- The number of characters of blanks and comments at the beginning of a text. A comment begins with
a number sign and goes on to the end of its line; `inComment` says that one has begun. -/
def triviaLength (inComment : Bool) : List Char → Nat
  | [] => 0
  | c :: rest =>
    if inComment then triviaLength (c != '\n') rest + 1
    else if c == '#' then triviaLength true rest + 1
    else if Unicode.isBlank c then triviaLength false rest + 1
    else 0

/-- The number of characters of the hexadecimal part of an escape: everything up to a closing brace,
or a fixed number of digits. -/
def hexLength (digits : Nat) (after : List Char) : Nat :=
  match after with
  | '\x7b' :: _ =>
    match after.findIdx? (· == '\x7d') with
    | some close => close + 1
    | none => 0
  | _ => if digits ≤ (after.takeWhile Unicode.isHexDigit).length then digits else 0

/-- A reference to a group by name, behind the letter of its escape. -/
def namedReference (after : List Char) : Lexeme :=
  let within (close : Char) (rest : List Char) : Lexeme :=
    match rest.findIdx? (· == close) with
    | some n => ⟨.namedBackreference, n + 4⟩
    | none => ⟨.escape, 2⟩
  match after with
  | '<' :: rest => within '>' rest
  | '\'' :: rest => within '\'' rest
  | _ => ⟨.escape, 2⟩

/-- A Unicode property, behind the letter of its escape: a name in braces, or a single letter. -/
def property (negated : Bool) (after : List Char) : Lexeme :=
  match after with
  | '\x7b' :: _ =>
    match after.findIdx? (· == '\x7d') with
    | some close => ⟨.unicodeProperty negated, close + 3⟩
    | none => ⟨.escape, 2⟩
  | c :: _ => if c.isAlpha then ⟨.unicodeProperty negated, 3⟩ else ⟨.escape, 2⟩
  | [] => ⟨.escape, 2⟩

/-- The escape that begins with a backslash and the character `c`. -/
def escapeOf (c : Char) (after : List Char) : Lexeme :=
  if ['d', 'D', 'w', 'W', 's', 'S', 'h', 'H'].contains c then ⟨.charClass, 2⟩
  else if ['b', 'B', 'A', 'z', 'Z', 'G', '<', '>'].contains c then ⟨.anchor, 2⟩
  else if ['n', 'r', 't', 'f', 'v', 'e', 'a'].contains c then ⟨.controlChar, 2⟩
  else if c == 'K' then ⟨.complex, 2⟩
  else if c.isDigit && c != '0' then
    let more := after.takeWhile Char.isDigit
    let group := Text.decimalValue (c :: more)
    if group < groupLimit then ⟨.backreference group, more.length + 2⟩ else ⟨.escape, 2⟩
  else if c == 'k' then namedReference after
  else if c == 'p' || c == 'P' then property (c == 'P') after
  else if c == 'x' then ⟨.escape, hexLength 2 after + 2⟩
  else if c == 'u' then ⟨.escape, hexLength 4 after + 2⟩
  else if c == 'U' then ⟨.escape, hexLength 8 after + 2⟩
  else ⟨.escape, 2⟩

/-- A character of a group name. -/
def isNameChar (c : Char) : Bool := Unicode.isAlphanumeric c || c == '_'

/-- The length of the group name at the beginning of a text, if the name is not empty and `close`
follows it. -/
def nameLength? (close : Char) (text : List Char) : Option Nat :=
  let name := text.takeWhile isNameChar
  if !name.isEmpty && (text.drop name.length).head? == some close then some name.length else none

/-- The number of characters in front of the parenthesis that closes a group which has begun. A
backslash takes the character after it along. -/
def closingParen? (depth : Nat) : List Char → Option Nat
  | [] => none
  | ['\\'] => none
  | '\\' :: _ :: rest => (closingParen? depth rest).map (· + 2)
  | c :: rest =>
    if c == '(' then (closingParen? (depth + 1) rest).map (· + 1)
    else if c == ')' then
      if depth == 0 then some 0 else (closingParen? (depth - 1) rest).map (· + 1)
    else (closingParen? depth rest).map (· + 1)

/-- The openers with a fixed spelling, behind the parenthesis. -/
def fixedOpener? : List Char → Option Lexeme
  | '?' :: ':' :: _ => some ⟨.groupOpen .nonCapturing, 3⟩
  | '?' :: '=' :: _ => some ⟨.groupOpen .lookAhead, 3⟩
  | '?' :: '!' :: _ => some ⟨.groupOpen .negativeLookAhead, 3⟩
  | '?' :: '<' :: '=' :: _ => some ⟨.groupOpen .lookBehind, 4⟩
  | '?' :: '<' :: '!' :: _ => some ⟨.groupOpen .negativeLookBehind, 4⟩
  | '?' :: '>' :: _ => some ⟨.groupOpen .atomic, 3⟩
  | _ => none

/-- A reference to a group by name that is written with a parenthesis. -/
def parenthesizedReference? : List Char → Option Lexeme
  | '?' :: 'P' :: '=' :: rest => (nameLength? ')' rest).map (⟨.namedBackreference, · + 5⟩)
  | _ => none

/-- The opener of a conditional, which goes on to the end of the condition. -/
def conditionalOpener? : List Char → Option Lexeme
  | '?' :: '(' :: rest => (closingParen? 0 rest).map (⟨.groupOpen .conditional, · + 4⟩)
  | _ => none

/-- The opener of a named group, in either of its two spellings. -/
def namedOpener? : List Char → Option Lexeme
  | '?' :: '<' :: rest => (nameLength? '>' rest).map (⟨.groupOpen .named, · + 4⟩)
  | '?' :: 'P' :: '<' :: rest => (nameLength? '>' rest).map (⟨.groupOpen .named, · + 5⟩)
  | _ => none

/-- Flag letters: either a switch that stands alone, or the opener of a group with flags. -/
def flagged? : List Char → Option Lexeme
  | '?' :: rest =>
    let letters := rest.takeWhile fun c => c.isAlpha || c == '-'
    if letters.isEmpty then none
    else match (rest.drop letters.length).head? with
      | some ')' => some ⟨.inlineFlags, letters.length + 3⟩
      | some ':' => some ⟨.groupOpen .flagged, letters.length + 3⟩
      | _ => none
  | _ => none

/-- What an opening parenthesis begins, given the text behind it. -/
def parenthesis (rest : List Char) : Lexeme :=
  (fixedOpener? rest <|> parenthesizedReference? rest <|> conditionalOpener? rest <|>
    namedOpener? rest <|> flagged? rest).getD ⟨.groupOpen .capturing, 1⟩

/-- The number of characters in front of the first end of a POSIX item. -/
def posixEnd? : List Char → Option Nat
  | ':' :: ']' :: _ => some 0
  | _ :: rest => (posixEnd? rest).map (· + 1)
  | [] => none

/-- The number of characters up to and including the bracket that closes a class whose members have
begun. Nested classes are counted in `depth`; the next `skip` characters are members whatever they
are, which is how an escaped character and the inside of a POSIX item are passed. -/
def classLength? (skip depth : Nat) : List Char → Option Nat
  | [] => none
  | c :: rest =>
    if 0 < skip then (classLength? (skip - 1) depth rest).map (· + 1)
    else if c == '\\' then (classLength? 1 depth rest).map (· + 1)
    else if c == '[' then
      match rest with
      | ':' :: item =>
        match posixEnd? item with
        | some n => (classLength? (n + 3) depth rest).map (· + 1)
        | none => (classLength? 0 depth rest).map (· + 1)
      | _ => (classLength? 0 (depth + 1) rest).map (· + 1)
    else if c == ']' then
      if depth == 0 then some 1 else (classLength? 0 (depth - 1) rest).map (· + 1)
    else (classLength? 0 depth rest).map (· + 1)

/-- The number of characters, one or none, by which a text begins with a mark. -/
def markLength (mark : Char) (text : List Char) : Nat :=
  if text.head? = some mark then 1 else 0

/-- The number of characters of a class behind its opening bracket. A caret may come first, and a
closing bracket in front of all members is a member. -/
def bracketLength? (rest : List Char) : Option Nat :=
  let caret := markLength '^' rest
  let first := markLength ']' (rest.drop caret)
  (classLength? 0 0 (rest.drop (caret + first))).map (· + (caret + first))

/-- A character that plain text goes on with. Where the extended flag is on, blanks and comments end
the text. -/
def isPlain (extended : Bool) (c : Char) : Bool :=
  !isSpecial c && !(extended && (c == '#' || Unicode.isBlank c))

/-- What a run of `n` characters keeps for itself: all of them, or all but the last of several where a
quantifier follows that the last one is left for. -/
def keptLength (followed : Bool) (n : Nat) : Nat :=
  if followed && 1 < n then n - 1 else n

/-- The number of plain characters at the beginning of a text that are one token. -/
def plainLength (extended : Bool) (text : List Char) : Nat :=
  let run := text.takeWhile (isPlain extended)
  let tail := text.drop run.length
  let tail := if extended then tail.drop (triviaLength false tail) else tail
  keptLength (quantifier? tail).isSome run.length

/-- What a step can fail on. -/
inductive Flaw where
  /-- A class without end. -/
  | openClass
  /-- A backslash at the end. -/
  | openEscape
  deriving DecidableEq, Repr

/-- The token that begins with the character `c` where `c` begins neither trivia nor a quantifier. -/
def scanPlain (extended : Bool) (c : Char) (rest : List Char) : Except Flaw Lexeme :=
  match c with
  | '\\' =>
    match rest with
    | [] => .error .openEscape
    | d :: after => .ok (escapeOf d after)
  | '.' => .ok ⟨.charClass, 1⟩
  | '^' | '$' => .ok ⟨.anchor, 1⟩
  | '|' => .ok ⟨.alternation, 1⟩
  | ')' => .ok ⟨.groupClose, 1⟩
  | '(' => .ok (parenthesis rest)
  | '[' =>
    match bracketLength? rest with
    | some inner => .ok ⟨.bracket, inner + 1⟩
    | none => .error .openClass
  | '\x7b' => .ok ⟨.literal, 1⟩
  | _ => .ok ⟨.literal, plainLength extended (c :: rest)⟩

/-- The token at the beginning of the text `c :: rest`. -/
def scan (extended : Bool) (c : Char) (rest : List Char) : Except Flaw Lexeme :=
  match if extended then triviaLength false (c :: rest) else 0 with
  | length + 1 => .ok ⟨.trivia, length + 1⟩
  | 0 =>
    match quantifier? (c :: rest) with
    | some (q, length) => .ok ⟨.quantifier q, length⟩
    | none => scanPlain extended c rest

end Railroad.Token
