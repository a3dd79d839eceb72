import Railroad.Regex.Error
import Railroad.Regex.Expr

/-!
# Analysis of expressions

Three facts decide how an expression is matched: the least length of its matches, whether all of them
have that length, and whether it needs a search that can go back. References back are checked on the
way: a group must have been opened before anything refers to it.
-/

namespace Railroad.Regex.Expr

mutual

/-- The least number of characters that the expression takes. -/
def minLength : Expr → Nat
  | any _ | literal _ _ | shorthand _ _ _ | bracket _ _ => 1
  | empty | assertion _ | look _ _ | backreference _ | groupMatched _ | keepOut | searchStart => 0
  | concat parts => sumLength parts
  | alternatives options => leastLength options
  | group _ content => content.minLength
  | atomic content => content.minLength
  | conditional condition ifTrue ifFalse =>
    condition.minLength + min ifTrue.minLength ifFalse.minLength
  | repeated low _ _ content => content.minLength * low

/-- The least lengths of several expressions together. -/
def sumLength : List Expr → Nat
  | [] => 0
  | e :: es => e.minLength + sumLength es

/-- The least of the least lengths of several expressions. -/
def leastLength : List Expr → Nat
  | [] => 0
  | [e] => e.minLength
  | e :: es => min e.minLength (leastLength es)

end

mutual

/-- Whether all matches have the least length. -/
def isFixed : Expr → Bool
  | any _ | literal _ _ | shorthand _ _ _ | bracket _ _ => true
  | empty | assertion _ | look _ _ | groupMatched _ | keepOut | searchStart => true
  | backreference _ => false
  | concat parts => allFixed parts
  | alternatives [] => true
  | alternatives (e :: es) => e.isFixed && allFixedAt e.minLength es
  | group _ content => content.isFixed
  | atomic content => content.isFixed
  | conditional condition ifTrue ifFalse =>
    condition.isFixed && ifTrue.isFixed && ifFalse.isFixed &&
      condition.minLength + ifTrue.minLength == ifFalse.minLength
  | repeated low high _ content => content.isFixed && high == some low

/-- Whether all matches of each of several expressions have its least length. -/
def allFixed : List Expr → Bool
  | [] => true
  | e :: es => e.isFixed && allFixed es

/-- Whether all matches of several expressions have the same given length. -/
def allFixedAt (length : Nat) : List Expr → Bool
  | [] => true
  | e :: es => e.isFixed && e.minLength == length && allFixedAt length es

end

mutual

/-- Whether matching needs a search that can go back: because of a reference back, of a group that is
referred to, or of a condition on anything but the ends of lines and texts. -/
def isHard (referenced : List Nat) : Expr → Bool
  | empty | any _ | literal _ _ | shorthand _ _ _ | bracket _ _ => false
  | assertion a => a.isAboutWords
  | look _ _ | atomic _ | backreference _ | groupMatched _ | keepOut | searchStart
  | conditional _ _ _ => true
  | concat parts => anyHard referenced parts
  | alternatives options => anyHard referenced options
  | group number content => content.isHard referenced || referenced.contains number
  | repeated _ _ _ content => content.isHard referenced

/-- Whether matching one of several expressions needs a search that can go back. -/
def anyHard (referenced : List Nat) : List Expr → Bool
  | [] => false
  | e :: es => e.isHard referenced || anyHard referenced es

end

mutual

/-- Checks the references back in an expression, in reading order. Groups below `opened` have been
opened before; the answer is the number that are open behind the expression. -/
def checkReferences (opened : Nat) : Expr → Except Error Nat
  | backreference n | groupMatched n =>
    if n < opened then .ok opened else .error (.compiling .backReference)
  | concat parts => checkAll opened parts
  | alternatives options => checkAll opened options
  | group _ content => content.checkReferences (opened + 1)
  | look _ content => content.checkReferences opened
  | atomic content => content.checkReferences opened
  | repeated _ _ _ content => content.checkReferences opened
  | conditional condition ifTrue ifFalse => do
    let opened ← condition.checkReferences opened
    let opened ← ifTrue.checkReferences opened
    ifFalse.checkReferences opened
  | empty | any _ | literal _ _ | shorthand _ _ _ | bracket _ _ | assertion _ | keepOut
  | searchStart => .ok opened

/-- Checks the references back in several expressions. -/
def checkAll (opened : Nat) : List Expr → Except Error Nat
  | [] => .ok opened
  | e :: es => do
    let opened ← e.checkReferences opened
    checkAll opened es

end

end Railroad.Regex.Expr
