/-!
# The reference sheet

The notation of patterns in sections, and a catalogue of patterns for common tasks.
-/

namespace Railroad.Reference

/-- A line of the sheet. -/
structure Entry where
  /-- The notation, or what a pattern is for. -/
  key : String
  /-- Its meaning, or the pattern. -/
  value : String
  deriving DecidableEq, Repr

/-- Lines under a title. -/
structure Section where
  /-- The title. -/
  title : String
  /-- The lines. -/
  entries : List Entry
  deriving DecidableEq, Repr

/-- The notation of patterns. -/
def notations : List Section := [
  ⟨"Character classes", [
    ⟨".", "Any single character except a line break."⟩,
    ⟨"\\d", "Any digit, same as [0-9]."⟩,
    ⟨"\\D", "Any non-digit, same as [^0-9]."⟩,
    ⟨"\\w", "Any word character: letters, digits and underscore (Unicode aware)."⟩,
    ⟨"\\W", "Any non-word character."⟩,
    ⟨"\\s", "Any whitespace: space, tab, form feed, line breaks."⟩,
    ⟨"\\S", "Any non-whitespace character."⟩]⟩,
  ⟨"Anchors", [
    ⟨"^", "Start of the string, or of a line in multiline mode."⟩,
    ⟨"$", "End of the string, or of a line in multiline mode."⟩,
    ⟨"\\b", "Word boundary (Unicode aware)."⟩,
    ⟨"\\B", "Not a word boundary."⟩]⟩,
  ⟨"Quantifiers", [
    ⟨"*", "The previous element zero or more times."⟩,
    ⟨"+", "The previous element one or more times."⟩,
    ⟨"?", "The previous element zero or one time."⟩,
    ⟨"\x7bn\x7d", "The previous element exactly n times."⟩,
    ⟨"\x7bn,\x7d", "The previous element at least n times."⟩,
    ⟨"\x7bn,m\x7d", "The previous element between n and m times."⟩,
    ⟨"*? +? ?? \x7bn,m\x7d?", "Lazy forms: match as few repetitions as possible."⟩]⟩,
  ⟨"Groups and sets", [
    ⟨"(pattern)", "Capturing group, referenced as $1, $2, ... in replacements."⟩,
    ⟨"(?:pattern)", "Non-capturing group."⟩,
    ⟨"(?<name>pattern)", "Named capturing group, also numbered."⟩,
    ⟨"[abc]", "One of a, b or c."⟩,
    ⟨"[^abc]", "Any character except a, b or c."⟩,
    ⟨"[a-z]", "Any character in the range a to z."⟩]⟩,
  ⟨"Assertions (zero width)", [
    ⟨"(?=pattern)", "Positive lookahead: pattern matches to the right."⟩,
    ⟨"(?!pattern)", "Negative lookahead: pattern does not match to the right."⟩,
    ⟨"(?<=pattern)", "Positive lookbehind: pattern matches to the left."⟩,
    ⟨"(?<!pattern)", "Negative lookbehind: pattern does not match to the left."⟩,
    ⟨"(?>pattern)", "Atomic group: no backtracking into the group."⟩]⟩]

/-- Patterns for common tasks. -/
def catalogue : List Section := [
  ⟨"Numbers", [
    ⟨"Digits", "[0-9]*"⟩,
    ⟨"Zero or a number not starting with zero", "(0|[1-9][0-9]*)"⟩,
    ⟨"Number with up to two decimals", "([1-9][0-9]*)+(\\.[0-9]\x7b1,2\x7d)?"⟩,
    ⟨"Signed number with one or two decimals", "(-)?\\d+(\\.\\d\x7b1,2\x7d)?"⟩,
    ⟨"Positive, negative or decimal number", "(-|\\+)?\\d+(\\.\\d+)?"⟩,
    ⟨"Positive real with two decimals", "[0-9]+(\\.[0-9]\x7b2\x7d)?"⟩,
    ⟨"Positive real with one to three decimals", "[0-9]+(\\.[0-9]\x7b1,3\x7d)?"⟩,
    ⟨"Non-zero positive integer", "[1-9]\\d*"⟩,
    ⟨"Non-zero negative integer", "-[1-9]\\d*"⟩,
    ⟨"Non-negative integer", "\\d+"⟩,
    ⟨"Non-positive integer", "-[1-9]\\d*|0"⟩,
    ⟨"Non-negative float", "\\d+(\\.\\d+)?"⟩,
    ⟨"Non-positive float", "((-\\d+(\\.\\d+)?)|(0+(\\.0+)?))"⟩,
    ⟨"Float", "(-?\\d+)(\\.\\d+)?"⟩]⟩,
  ⟨"Strings", [
    ⟨"Anything", "[\\w\\W]+"⟩,
    ⟨"Letters and digits", "[A-Za-z0-9]+"⟩,
    ⟨"Any 3 to 20 characters", ".\x7b3,20\x7d"⟩,
    ⟨"Letters", "[A-Za-z]+"⟩,
    ⟨"Uppercase letters", "[A-Z]+"⟩,
    ⟨"Lowercase letters", "[a-z]+"⟩,
    ⟨"Word characters", "\\w+"⟩,
    ⟨"CJK, letters, digits and underscore", "[\\u4E00-\\u9FA5A-Za-z0-9_]+"⟩,
    ⟨"No tilde", "[^~]+"⟩,
    ⟨"Double-byte characters", "[^\\x00-\\xff]"⟩]⟩,
  ⟨"Time", [
    ⟨"Date (loose)", "\\d\x7b4\x7d-\\d\x7b1,2\x7d-\\d\x7b1,2\x7d"⟩,
    ⟨"Month 01-09 or 1-12", "(0?[1-9]|1[0-2])"⟩,
    ⟨"Day of month 01-31", "((0?[1-9])|((1|2)[0-9])|30|31)"⟩,
    ⟨"24-hour time HH:mm:ss", "^(?:[01]\\d|2[0-3]):[0-5]\\d:[0-5]\\d$"⟩,
    ⟨"12-hour time hh:mm:ss", "^(?:1[0-2]|0?[1-9]):[0-5]\\d:[0-5]\\d$"⟩]⟩,
  ⟨"Network", [
    ⟨"URL", "(https?|ftp|file)://[-A-Za-z0-9+&@#/%?=~_|!:,.;]+[-A-Za-z0-9+&@#/%=~_|]"⟩,
    ⟨"IPv4 (loose)", "\\d+\\.\\d+\\.\\d+\\.\\d+"⟩]⟩,
  ⟨"Other", [
    ⟨"Email address", "\\w+([-+.]\\w+)*@\\w+([-.]\\w+)*\\.\\w+([-.]\\w+)*"⟩,
    ⟨"15 or 18 digit id", "\\d\x7b15\x7d|\\d\x7b18\x7d"⟩,
    ⟨"Account name", "[a-zA-Z][a-zA-Z0-9_]\x7b4,15\x7d"⟩,
    ⟨"Password starting with a letter", "[a-zA-Z]\\w\x7b5,17\x7d"⟩,
    ⟨"Postal code", "[1-9]\\d\x7b5\x7d(?!\\d)"⟩,
    ⟨"Four or five digits not after a stock label", "((?<!stock)\\b\\d\x7b4,5\x7d)"⟩]⟩]

/-- A text filled up with blanks to a width. -/
def padded (width : Nat) (text : String) : String :=
  text ++ String.ofList (List.replicate (width - text.length) ' ')

/-- The lines of a section under a heading, with a blank line behind them. -/
def renderSection (heading : String) (width : Nat) (s : Section) : String :=
  heading ++ "\n" ++
    String.join (s.entries.map fun entry => "  " ++ padded width entry.key ++ " " ++ entry.value ++
      "\n") ++
    "\n"

/-- The sheet, with the catalogue behind it if it is asked for. -/
def render (withCatalogue : Bool) : String :=
  String.join (notations.map fun s => renderSection s.title 18 s) ++
    if withCatalogue then
      String.join (catalogue.map fun s => renderSection (s.title ++ " patterns") 44 s)
    else ""

end Railroad.Reference
