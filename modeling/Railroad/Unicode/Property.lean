import Railroad.Unicode.Character
import Railroad.Unicode.ScriptExtensions

/-!
# Properties by name

A property of characters is asked for by name: a general category or a group of them, a script, or one
of a few binary properties. Names are compared loosely.
-/

namespace Railroad.Unicode

/-- The loose form of a name: small letters, nothing between the words, no leading "is". -/
def looseName (name : List Char) : String :=
  let letters := (name.filter fun c => c.toNat < 128 && c != ' ' && c != '_' && c != '-').map
    Char.toLower
  let bare := match name.map Char.toLower with
    | 'i' :: 's' :: _ => letters.drop 2
    | _ => letters
  String.ofList (if bare == ['c'] && letters.length == 3 then letters else bare)

/-- A property that a pattern can ask for. -/
inductive Property where
  /-- One of these general categories. -/
  | categories (among : List Category)
  /-- In one of these spans. -/
  | within (table : List (Nat × Nat))
  /-- Written in the script of this loose name, whose own spans are these. -/
  | writtenIn (script : List String) (table : List (Nat × Nat))
  /-- In the spans or of one of the categories. -/
  | either (among : List Category) (table : List (Nat × Nat))
  /-- Alphabetic. -/
  | alphabetic
  /-- Any character. -/
  | any
  deriving DecidableEq, Repr

namespace Property

/-- Whether a character has the property. -/
def holds : Property → Char → Bool
  | categories among, c => among.contains (category c)
  | within table, c => inSpans c.toNat table
  | writtenIn script table, c =>
    match sharedSpans.find? fun (span, _) => inSpans c.toNat [span] with
    | some (_, scripts) => scripts.any script.contains
    | none => inSpans c.toNat table
  | either among table, c => among.contains (category c) || inSpans c.toNat table
  | alphabetic, c => isAlphabetic c
  | any, _ => true

/-- The binary property with this loose name. -/
def binary? (name : String) : Option Property :=
  match name with
  | "alphabetic" | "alpha" => some .alphabetic
  | "lowercase" | "lower" => some (.either [.ll] otherLowercaseSpans)
  | "uppercase" | "upper" => some (.either [.lu] otherUppercaseSpans)
  | "cased" => some (.either [.ll, .lu, .lt] (otherLowercaseSpans ++ otherUppercaseSpans))
  | "whitespace" | "wspace" | "space" => some (.within blankSpans)
  | "asciihexdigit" | "ahex" => some (.within [(0x30, 0x39), (0x41, 0x46), (0x61, 0x66)])
  | "hexdigit" | "hex" => some (.within hexDigitSpans)
  | "joincontrol" | "joinc" => some (.within [(0x200C, 0x200D)])
  | "graphemeextend" | "grext" => some (.within extendingSpans)
  | "dash" => some (.within dashSpans)
  | "math" => some (.within mathSpans)
  | "ideographic" | "ideo" => some (.within ideographicSpans)
  | "emoji" => some (.within emojiSpans)
  | _ => none

/-- The general category, or group of categories, with this loose name. -/
def category? (name : String) : Option Property :=
  match name with
  | "any" => some .any
  | "ascii" => some (.within [(0, 0x7F)])
  | "assigned" =>
    some (.categories (Category.letters ++ Category.marks ++ Category.numbers ++
      Category.punctuation ++ Category.symbols ++ Category.separators ++ [.cc, .cf, .cs, .co]))
  | _ => (Category.named.find? (·.1.contains name)).map fun entry => .categories entry.2

/-- The script with this loose name. -/
def script? (name : String) : Option Property :=
  (scriptSpans? name).map .within

/-- The script extensions with this loose name. -/
def scriptExtensions? (name : String) : Option Property :=
  ((scriptsFirst ++ scriptsSecond).find? (·.1.contains name)).map fun entry =>
    .writtenIn entry.1 entry.2

/-- The property that a name alone asks for: a binary property, a category, or a script. Three short
names are categories before they are anything else. -/
def named? (name : String) : Option Property :=
  if ["cf", "sc", "lc"].contains name then category? name <|> script? name
  else binary? name <|> category? name <|> script? name

/-- The property that the text between the braces of an escape asks for, and whether the text itself
negates it: a name, or a kind of property and a value joined by an unequal sign, a colon or an equals
sign. -/
def ofText? (text : List Char) : Option (Property × Bool) :=
  let valued (kind value : List Char) : Option Property :=
    match looseName kind with
    | "gc" | "generalcategory" => category? (looseName value)
    | "sc" | "script" => script? (looseName value)
    | "scx" | "scriptextensions" => scriptExtensions? (looseName value)
    | _ => none
  let splitAt (mark : Char) : List Char × List Char :=
    (text.takeWhile (· != mark), (text.dropWhile (· != mark)).drop 1)
  if text.contains '!' && (splitAt '!').2.head? == some '=' then
    (valued (splitAt '!').1 ((splitAt '!').2.drop 1)).map (·, true)
  else if text.contains ':' then (valued (splitAt ':').1 (splitAt ':').2).map (·, false)
  else if text.contains '=' then (valued (splitAt '=').1 (splitAt '=').2).map (·, false)
  else (named? (looseName text)).map (·, false)

end Property

end Railroad.Unicode
