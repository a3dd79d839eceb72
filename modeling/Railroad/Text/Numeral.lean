import Railroad.Unicode.Character

/-!
# Numerals

Reading of unsigned numerals in base ten and sixteen. A numeral is a non-empty run of digits and
nothing else; a sign is allowed only where a function says so.
-/

namespace Railroad.Text

/-- The value of a hexadecimal digit of either case. -/
def hexValue (c : Char) : Nat :=
  if c.isDigit then c.toNat - 48
  else if c.toNat < 97 then c.toNat - 55
  else c.toNat - 87

/-- The number that a run of decimal digits denotes. -/
def decimalValue (digits : List Char) : Nat :=
  digits.foldl (fun value c => 10 * value + (c.toNat - 48)) 0

/-- The number that a run of hexadecimal digits denotes. -/
def hexadecimalValue (digits : List Char) : Nat :=
  digits.foldl (fun value c => 16 * value + hexValue c) 0

/-- Reads a decimal numeral. -/
def decimal? (text : List Char) : Option Nat :=
  if text.isEmpty || !text.all Char.isDigit then none else some (decimalValue text)

/-- Reads a hexadecimal numeral. -/
def hexadecimal? (text : List Char) : Option Nat :=
  if text.isEmpty || !text.all Unicode.isHexDigit then none else some (hexadecimalValue text)

/-- Drops one leading plus sign. -/
def withoutPlus : List Char → List Char
  | '+' :: text => text
  | text => text

/-- The digit of base sixteen that stands for `n`, as a capital letter from ten on. -/
def capitalHexDigit (n : Nat) : Char :=
  Char.ofNat (if n < 10 then 48 + n else 55 + n)

/-- At least `width` hexadecimal digits of a number, with capital letters. -/
def capitalHex (width n : Nat) : String :=
  let digits := (Nat.toDigits 16 n).map fun c => capitalHexDigit (hexValue c)
  String.ofList (List.replicate (width - digits.length) '0' ++ digits)

/-- The character with this code point, unless it is a surrogate or out of range. -/
def character? (code : Nat) : Option Char :=
  if h : code.isValidChar then some (Char.ofNatAux code h) else none

end Railroad.Text
