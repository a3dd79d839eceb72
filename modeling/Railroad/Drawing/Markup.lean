/-!
# Markup

A small tree of elements and its text. Four characters have a meaning of their own in markup and are
written as entities wherever text stands.
-/

namespace Railroad

/-- An element with its attributes in order. -/
inductive Markup where
  /-- An element without content. -/
  | empty (name : String) (attributes : List (String × String))
  /-- An element that holds a text. -/
  | holding (name : String) (attributes : List (String × String)) (content : String)
  /-- An element that holds elements, each on lines of its own. -/
  | enclosing (name : String) (attributes : List (String × String)) (content : List Markup)
  deriving Repr

namespace Markup

/-- A character as it is written inside a text or an attribute. -/
def escapeChar : Char → List Char
  | '&' => ['&', 'a', 'm', 'p', ';']
  | '<' => ['&', 'l', 't', ';']
  | '>' => ['&', 'g', 't', ';']
  | '"' => ['&', 'q', 'u', 'o', 't', ';']
  | c => [c]

/-- A text as it is written between tags and inside attributes. -/
def escape (text : String) : String := String.ofList (text.toList.flatMap escapeChar)

/-- An attribute behind the name of its element. -/
def renderAttribute (pair : String × String) : String :=
  " " ++ pair.1 ++ "=\"" ++ escape pair.2 ++ "\""

/-- The inside of an opening tag. -/
def renderHead (name : String) (attributes : List (String × String)) : String :=
  name ++ String.join (attributes.map renderAttribute)

mutual

/-- The text of an element, with the end of its last line. -/
def render : Markup → String
  | empty name attributes => "<" ++ renderHead name attributes ++ "/>\n"
  | holding name attributes content =>
    "<" ++ renderHead name attributes ++ ">" ++ escape content ++ "</" ++ name ++ ">\n"
  | enclosing name attributes content =>
    "<" ++ renderHead name attributes ++ ">\n" ++ renderAll content ++ "</" ++ name ++ ">\n"

/-- The text of elements one behind the other. -/
def renderAll : List Markup → String
  | [] => ""
  | element :: rest => element.render ++ renderAll rest

end

end Markup

end Railroad
