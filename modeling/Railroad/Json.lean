/-!
# Structured text

Values of the JSON notation and their layout over several lines: two blanks for each level, one item on
a line, and the fields of an object in the order in which they are given.
-/

namespace Railroad

/-- A value of the notation. -/
inductive Json where
  /-- The absent value. -/
  | null
  /-- A truth value. -/
  | bool (value : Bool)
  /-- A number, by its numeral. -/
  | number (numeral : String)
  /-- A text. -/
  | string (value : String)
  /-- Values in a row. -/
  | array (items : List Json)
  /-- Values by name. -/
  | object (fields : List (String × Json))
  deriving Repr

namespace Json

/-- A whole number. -/
def nat (n : Nat) : Json := .number (toString n)

/-- A value that may be absent. -/
def ofOption {α : Type} (encode : α → Json) : Option α → Json
  | none => .null
  | some a => encode a

/-- The escape for a control character that has no letter of its own. -/
def controlEscape (c : Char) : List Char :=
  let digits := Nat.toDigits 16 c.toNat
  '\\' :: 'u' :: (List.replicate (4 - digits.length) '0' ++ digits)

/-- A character as it is written inside quotes. -/
def quoteChar (c : Char) : List Char :=
  match c with
  | '"' => ['\\', '"']
  | '\\' => ['\\', '\\']
  | '\n' => ['\\', 'n']
  | '\r' => ['\\', 'r']
  | '\t' => ['\\', 't']
  | '\x08' => ['\\', 'b']
  | '\x0c' => ['\\', 'f']
  | _ => if c.toNat < 32 then controlEscape c else [c]

/-- A text in quotes. -/
def quote (text : String) : String :=
  "\"" ++ String.ofList (text.toList.flatMap quoteChar) ++ "\""

/-- The indentation of a line. -/
def indentation (depth : Nat) : String := String.ofList (List.replicate (2 * depth) ' ')

mutual

/-- The value laid out over several lines, the first of which has been indented already. -/
def render (depth : Nat) : Json → String
  | null => "null"
  | bool true => "true"
  | bool false => "false"
  | number numeral => numeral
  | string value => quote value
  | array [] => "[]"
  | array (item :: items) =>
    "[\n" ++ indentation (depth + 1) ++ item.render (depth + 1) ++ renderItems (depth + 1) items ++
      "\n" ++ indentation depth ++ "]"
  | object [] => "\x7b\x7d"
  | object ((name, value) :: fields) =>
    "\x7b\n" ++ indentation (depth + 1) ++ quote name ++ ": " ++ value.render (depth + 1) ++
      renderFields (depth + 1) fields ++ "\n" ++ indentation depth ++ "\x7d"

/-- Further items of an array. -/
def renderItems (depth : Nat) : List Json → String
  | [] => ""
  | item :: items =>
    ",\n" ++ indentation depth ++ item.render depth ++ renderItems depth items

/-- Further fields of an object. -/
def renderFields (depth : Nat) : List (String × Json) → String
  | [] => ""
  | (name, value) :: fields =>
    ",\n" ++ indentation depth ++ quote name ++ ": " ++ value.render depth ++
      renderFields depth fields

end

end Json

end Railroad
