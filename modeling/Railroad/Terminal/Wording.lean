import Railroad.Node
import Railroad.Text.Numeral
import Railroad.Text.Piece

/-!
# The wording of terminals

Captions and sentences for the leaves of a tree. Escapes and anchors are looked up in a table; classes,
references and literals are described from their text.
-/

namespace Railroad.Terminal

/-- The escapes, anchors and the dot: text, kind, caption and sentence. -/
def knownTable : List (String × TerminalKind × String × String) := [
  ("\\d", .charClass, "digit", "Matches any digit (0-9)."),
  ("\\D", .charClass, "non-digit", "Matches any character that is not a digit."),
  ("\\w", .charClass, "word character",
    "Matches any word character (letters, digits and underscore)."),
  ("\\W", .charClass, "non-word character",
    "Matches any character that is not a word character."),
  ("\\s", .charClass, "whitespace", "Matches any whitespace character."),
  ("\\S", .charClass, "non-whitespace", "Matches any character that is not whitespace."),
  ("\\h", .charClass, "hex digit", "Matches any hexadecimal digit (0-9, a-f, A-F)."),
  ("\\H", .charClass, "non-hex digit",
    "Matches any character that is not a hexadecimal digit."),
  (".", .charClass, "any character", "Matches any character except a line break."),
  ("^", .anchor, "start", "Matches the start of the string (or line in multiline mode)."),
  ("$", .anchor, "end", "Matches the end of the string (or line in multiline mode)."),
  ("\\b", .anchor, "word boundary", "Matches a word boundary."),
  ("\\B", .anchor, "non-word boundary", "Matches a position that is not a word boundary."),
  ("\\A", .anchor, "start of text", "Matches only at the very start of the text."),
  ("\\z", .anchor, "end of text", "Matches only at the very end of the text."),
  ("\\Z", .anchor, "end of text",
    "Matches at the end of the text or before a final line break."),
  ("\\G", .anchor, "end of previous match", "Matches where the previous match ended."),
  ("\\<", .anchor, "start of word", "Matches at the start of a word."),
  ("\\>", .anchor, "end of word", "Matches at the end of a word."),
  ("\\n", .controlChar, "line feed", "Matches a line feed character."),
  ("\\r", .controlChar, "carriage return", "Matches a carriage return character."),
  ("\\t", .controlChar, "tab", "Matches a tab character."),
  ("\\f", .controlChar, "form feed", "Matches a form feed character."),
  ("\\v", .controlChar, "vertical tab", "Matches a vertical tab character."),
  ("\\e", .controlChar, "escape", "Matches the escape character (U+001B)."),
  ("\\a", .controlChar, "bell", "Matches the bell character (U+0007)."),
  ("\\K", .unknown, "keep out",
    "Complex token: drops the text matched so far from the reported match.")]

/-- The insides of classes that have a caption of their own: text, caption and sentence. -/
def commonClasses : List (String × String × String) := [
  ("a-z", "lowercase letter", "Matches any lowercase letter from a to z."),
  ("A-Z", "uppercase letter", "Matches any uppercase letter from A to Z."),
  ("0-9", "digit", "Matches any digit from 0 to 9."),
  ("a-zA-Z", "letter", "Matches any ASCII letter."),
  ("A-Za-z", "letter", "Matches any ASCII letter."),
  ("a-zA-Z0-9", "letter or digit", "Matches any ASCII letter or digit."),
  ("A-Za-z0-9", "letter or digit", "Matches any ASCII letter or digit."),
  ("a-zA-Z0-9_", "word character",
    "Matches any word character (letters, digits and underscore)."),
  ("\\w\\W", "any character", "Matches any character, line breaks included."),
  ("\\s\\S", "any character", "Matches any character, line breaks included."),
  ("\\d\\D", "any character", "Matches any character, line breaks included."),
  ("\\w", "word character", "Matches any word character (letters, digits and underscore)."),
  ("\\W", "non-word character", "Matches any character that is not a word character."),
  ("\\d", "digit", "Matches any digit (0-9)."),
  ("\\D", "non-digit", "Matches any character that is not a digit."),
  ("\\s", "whitespace", "Matches any whitespace character."),
  ("\\S", "non-whitespace", "Matches any character that is not whitespace."),
  ("\\W_", "symbol",
    "Matches a non-word character or an underscore (anything but a letter or digit).")]

/-- The terminal for a text that the table has. -/
def known? (raw : String) : Option Terminal :=
  (knownTable.lookup raw).map fun (kind, label, description) =>
    ⟨kind, raw, label, description, none⟩

/-- What holds of every entry of a table holds of what is looked up in it. -/
theorem of_lookup {β : Type} {table : List (String × β)} {motive : String × β → Prop}
    (h : ∀ entry ∈ table, motive entry) {key : String} {value : β}
    (hlookup : table.lookup key = some value) : motive (key, value) := by
  obtain ⟨front, back, rfl, -⟩ := List.lookup_eq_some_iff.mp hlookup
  exact h _ (List.mem_append_right _ List.mem_cons_self)

/-- The terminal for a Unicode property. Braces around its name are left out of the wording. -/
def unicodeProperty (raw : String) (negated : Bool) : Terminal :=
  let name := String.ofList <| Text.trimEnd (· == '\x7d') <|
    (Text.dropBytes 2 raw.toList).dropWhile (· == '\x7b')
  if negated then
    ⟨.charClass, raw, s!"not {name}",
      s!"Matches any character without the Unicode property {name}.", none⟩
  else
    ⟨.charClass, raw, name, s!"Matches any character with the Unicode property {name}.", none⟩

/-- The text with its first letter made small. -/
def lowercaseFirst (text : String) : String :=
  match text.toList with
  | [] => ""
  | c :: rest => String.ofList (c.toLower :: rest)

/-- The members of a bracketed class, and whether a caret excludes them. -/
def classMembers (raw : String) : Bool × String :=
  match raw.toList with
  | '[' :: '^' :: rest => (true, String.ofList rest.dropLast)
  | text => (false, String.ofList (text.drop 1).dropLast)

/-- The terminal for a bracketed class. A class without a caption of its own shows its members as
detail. -/
def bracket (raw : String) : Terminal :=
  if raw == "[^\\n]" then
    ⟨.charClass, raw, "non-line-feed", "Matches any character except a line feed.", none⟩
  else if raw == "[^\\r\\n]" then
    ⟨.charClass, raw, "non-line-break",
      "Matches any character except a line feed or carriage return.", none⟩
  else
    let (negated, members) := classMembers raw
    match commonClasses.lookup members, negated with
    | some (label, description), false => ⟨.charClass, raw, label, description, none⟩
    | some (label, description), true =>
      ⟨.charClass, raw, s!"not: {label}", s!"Does not match: {lowercaseFirst description}", none⟩
    | none, false => ⟨.charClass, raw, "one of", s!"Matches one of: {members}", some members⟩
    | none, true => ⟨.charClass, raw, "none of", s!"Matches none of: {members}", some members⟩

/-- A property is a class of characters. -/
theorem unicodeProperty_kind (raw : String) (negated : Bool) :
    (unicodeProperty raw negated).kind = .charClass := by
  cases negated <;> rfl

/-- A bracketed class is one as well. -/
theorem bracket_kind (raw : String) : (bracket raw).kind = .charClass := by
  unfold bracket
  split
  · rfl
  split
  · rfl
  · dsimp only
    split <;> rfl

/-- A terminal that is only named. -/
def unknown (raw description : String) : Terminal :=
  ⟨.unknown, raw, raw, description, none⟩

/-- The terminal for a reference back by number. -/
def backreference (raw : String) (group : Nat) : Terminal :=
  ⟨.backreference group, raw, s!"back-reference #{group}",
    s!"Matches the same text as capturing group #{group}.", none⟩

/-- The terminal for a reference back by name, given the number of the group if one has the name. -/
def namedBackreference (raw name : String) (group : Option Nat) : Terminal :=
  match group with
  | some group =>
    ⟨.backreference group, raw, s!"back-reference #{group} <{name}>",
      s!"Matches the same text as capturing group #{group} ({name}).", none⟩
  | none => unknown raw s!"Refers to a group named {name} that is not defined before it."

/-- The terminal for a text whose value is a plain text. -/
def literalOf (raw value : String) : Terminal :=
  let noun := if value.length == 1 then "character" else "text"
  ⟨.literal value, raw, value, s!"Matches the literal {noun} \"{value}\".", none⟩

/-- The terminal for plain text. -/
def literal (raw : String) : Terminal := literalOf raw raw

/-- The digits of a hexadecimal escape, given the text behind the backslash. -/
def hexDigits? : List Char → Option (List Char)
  | 'x' :: rest | 'u' :: rest | 'U' :: rest =>
    let digits := Text.trimEnd (· == '\x7d') (rest.dropWhile (· == '\x7b'))
    if digits.isEmpty then none else some digits
  | _ => none

/-- The character that a hexadecimal escape stands for. A plus sign may stand in front of the digits,
and the number has at most 32 bits. -/
def decoded? (body : List Char) : Option Char :=
  match (hexDigits? body).bind fun digits => Text.hexadecimal? (Text.withoutPlus digits) with
  | some code => if code < UInt32.size then Text.character? code else none
  | none => none

/-- The terminal for an escape that stands for a character: a hexadecimal escape, or a backslash in
front of a text that has no other meaning. -/
def escapedLiteral (raw : String) : Terminal :=
  let body := raw.toList.drop 1
  match decoded? body with
  | some c =>
    let value := String.singleton c
    ⟨.literal value, raw, value,
      s!"Matches the character U+{Text.capitalHex 4 c.toNat} (\"{value}\").", none⟩
  | none => literalOf raw (String.ofList body)

/-- An escape is a literal, whatever it stands for. -/
theorem escapedLiteral_kind (raw : String) : ∃ value, (escapedLiteral raw).kind = .literal value := by
  unfold escapedLiteral
  dsimp only
  split <;> exact ⟨_, rfl⟩

/-- The terminal for a switch of flags. -/
def modifier (raw flags : String) : Terminal :=
  ⟨.modifier, raw, s!"flags: {flags}",
    s!"Switches the flags \"{flags}\" for the rest of the enclosing group.", none⟩

end Railroad.Terminal
