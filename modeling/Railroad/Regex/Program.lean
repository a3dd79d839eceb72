import Railroad.Regex.Linear

/-!
# Programs

An expression that refers to what it has matched becomes a program for a machine that can go back. Parts
of it that refer to nothing are left to linear code where that changes no answer: a beginning and an end
of fixed length, and everything inside a group that gives nothing back.
-/

namespace Railroad.Regex

/-- An instruction of the machine. Targets are relative to the instruction. -/
inductive Instruction where
  /-- Takes a character that passes a test. -/
  | take (test : CharTest)
  /-- Goes on at the first place, and at the second one if that fails. -/
  | split (first second : Int)
  /-- Goes on elsewhere. -/
  | jump (target : Int)
  /-- Notes the position. -/
  | save (slot : Nat)
  /-- Goes on if a condition holds. -/
  | check (a : Assertion)
  /-- Sets a register to zero. -/
  | clear (register : Nat)
  /-- Counts an occurrence and enters it, or goes on at `exit`. -/
  | count (low : Nat) (high : Option Nat) (greedy : Bool) (register : Nat) (exit : Int)
  /-- Counts an occurrence that can be empty. A second register holds where it began. -/
  | countEmpty (low : Nat) (greedy : Bool) (register : Nat) (exit : Int)
  /-- Goes back by characters. -/
  | goBack (length : Nat)
  /-- Notes the position in a register. -/
  | keep (register : Nat)
  /-- Goes back to the position in a register. -/
  | restore (register : Nat)
  /-- Fails, and gives up the ways that were opened since the look around began. -/
  | failLook
  /-- Begins a part that gives nothing back. -/
  | beginAtomic
  /-- Ends that part. -/
  | endAtomic
  /-- Takes the text of a group again. -/
  | backreference (number : Nat)
  /-- Goes on if a group has begun to match. -/
  | groupMatched (number : Nat)
  /-- Goes on if the search began here. -/
  | searchStart
  /-- Matches linear code here, which sets these groups. -/
  | linear (code : Array Linear.Inst) (groups : List Nat)

namespace Instruction

/-- Two ways to go on, where a greedy repetition prefers the first. -/
def prefer (greedy : Bool) (inward outward : Int) : Instruction :=
  if greedy then .split inward outward else .split outward inward

end Instruction

/-- Code of the machine. -/
abbrev Code := List Instruction

namespace Code

/-- Code for a choice between codes, the first ones preferred. -/
def choice : List Code → Code
  | [] => []
  | [code] => code
  | code :: codes =>
    let others := choice codes
    .split 1 (code.length + 2) :: code ++ .jump (others.length + 1) :: others

/-- Code for a repetition whose content is this code. The registers from `register` on are free. -/
def repetition (low : Nat) (high : Option Nat) (greedy nullable : Bool) (register : Nat)
    (code : Code) : Code :=
  let back : Instruction := .jump (-(code.length + 1 : Nat))
  if low = 0 ∧ high = some 1 then .prefer greedy 1 (code.length + 1) :: code
  else if high = none ∧ nullable then
    .clear register :: .countEmpty low greedy register (code.length + 2) :: code ++ [back]
  else if low = 0 ∧ high = none then .prefer greedy 1 (code.length + 2) :: code ++ [back]
  else if low = 1 ∧ high = none then code ++ [.prefer greedy (-code.length) 1]
  else .clear register :: .count low high greedy register (code.length + 2) :: code ++ [back]

/-- Code for a look around whose inside is this code. -/
def look (positive : Bool) (register : Nat) (code : Code) : Code :=
  if positive then .keep register :: code ++ [.restore register]
  else .split 1 (code.length + 2) :: code ++ [.failLook]

/-- Code for a conditional. The condition takes text, and once it has matched the other branch is given
up. -/
def conditional (condition ifTrue ifFalse : Code) : Code :=
  .beginAtomic :: .split 1 (condition.length + ifTrue.length + 3) :: condition ++
    .endAtomic :: ifTrue ++ .jump (ifFalse.length + 1) :: ifFalse

end Code

namespace Look

/-- Whether what is looked at has to match. -/
def isPositive : Look → Bool
  | ahead | behind => true
  | aheadNot | behindNot => false

/-- Whether the look goes to the text before the position. -/
def isBehind : Look → Bool
  | behind | behindNot => true
  | ahead | aheadNot => false

end Look

namespace Expr

/-- Whether the expression can be left to linear code at the edge of a sequence. -/
def isEdge (referenced : List Nat) (e : Expr) : Bool := e.isFixed && !e.isHard referenced

/-- Code that leaves expressions in a row to linear code. A test of one character needs none. -/
def delegated (parts : List Expr) : Except Error Code :=
  match parts with
  | [] => .ok []
  | _ :: _ =>
    match parts.mapM fun e => e.charTest?.join with
    | some tests => .ok (tests.map .take)
    | none => do
      let code ← (Expr.concat parts).linearCode?
      return [.linear code.toArray (groupsOfAll parts)]

/-- The code of a sequence, given its parts and the codes they have as parts of a search that can go
back. The longest fixed beginning is left to linear code, and so is the longest end: of any length if
nothing follows the sequence that could send the search back into it, else of fixed length. -/
def sequenceCode (referenced : List Nat) (hard : Bool) (parts : List Expr)
    (codes : List (Except Error Code)) : Except Error Code := do
  let first := (parts.takeWhile (·.isEdge referenced)).length
  let isEnd (e : Expr) : Bool := if hard then e.isEdge referenced else !e.isHard referenced
  let last := ((parts.drop first).reverse.takeWhile isEnd).length
  let middle := parts.length - first - last
  let beginning ← delegated (parts.take first)
  let inner ← ((codes.drop first).take middle).mapM id
  let ending ← delegated (parts.drop (first + middle))
  return beginning ++ inner.flatten ++ ending

/-- Code for a look at a content of the given code. A look back goes back by the length of the content,
which has to be fixed. -/
def lookCode (kind : Look) (depth : Nat) (content : Expr) (code : Except Error Code) :
    Except Error Code := do
  if kind.isBehind then
    if content.isFixed then
      return .look kind.isPositive (2 * depth) (.goBack content.minLength :: (← code))
    else throw (.compiling .lookBehindLength)
  else return .look kind.isPositive (2 * depth) (← code)

/-- Codes for looks at alternatives, one by one. -/
def lookCodes (kind : Look) (depth : Nat) (options : List Expr)
    (codes : List (Except Error Code)) : Except Error (List Code) :=
  (options.zip codes).mapM fun (option, code) => lookCode kind depth option code

/-- The code of an expression where it stands. Unless the search can be sent back into the expression,
an expression that refers to nothing is left to linear code; any other has the given code. -/
def inPlace (referenced : List Nat) (hard : Bool) (e : Expr) (code : Except Error Code) :
    Except Error Code :=
  if !hard && !e.isHard referenced then delegated [e] else code

mutual

/-- The code of an expression for a search that can go back. What follows can send the search back into
the expression if `hard` holds. Registers below twice the depth, the second argument, are in use. -/
def code (referenced : List Nat) : Expr → Nat → Bool → Except Error Code
  | empty, _, _ => .ok []
  | any lineFeed, _, _ => delegated [any lineFeed]
  | literal c ignoreCase, _, _ => delegated [literal c ignoreCase]
  | shorthand s negated ignoreCase, _, _ => delegated [shorthand s negated ignoreCase]
  | bracket atoms ignoreCase, _, _ => delegated [bracket atoms ignoreCase]
  | concat parts, depth, hard => sequenceCode referenced hard parts (codes referenced parts depth true)
  | alternatives options, depth, hard => do
    return .choice (← (codes referenced options depth hard).mapM id)
  | group number content, depth, hard => do
    let inner ← inPlace referenced hard content (content.code referenced depth hard)
    return .save (2 * number) :: inner ++ [.save (2 * number + 1)]
  | repeated low high greedy content, depth, hard => do
    let isOptional := low == 0 && high == some 1
    let hard := hard || (!isOptional && content.isHard referenced)
    let inner ← inPlace referenced hard content (content.code referenced (depth + 1) hard)
    return .repetition low high greedy (content.minLength == 0) (2 * depth) inner
  | look kind (alternatives options), depth, _ =>
    let content := alternatives options
    let inner := codes referenced options (depth + 1) false
    if kind.isBehind && !content.isFixed then do
      let looks ← lookCodes kind depth options inner
      return if kind.isPositive then .choice looks else looks.flatten
    else lookCode kind depth content (inPlace referenced false content (do
      return .choice (← inner.mapM id)))
  | look kind content, depth, _ =>
    lookCode kind depth content
      (inPlace referenced false content (content.code referenced (depth + 1) false))
  | atomic content, depth, _ => do
    let inner ← inPlace referenced false content (content.code referenced depth false)
    return .beginAtomic :: inner ++ [.endAtomic]
  | backreference number, _, _ => .ok [.backreference number]
  | groupMatched number, _, _ => .ok [.groupMatched number]
  | assertion a, _, _ => .ok [.check a]
  | keepOut, _, _ => .ok [.save 0]
  | searchStart, _, _ => .ok [.searchStart]
  | conditional condition ifTrue ifFalse, depth, hard => do
    let condition ← inPlace referenced hard condition (condition.code referenced depth hard)
    let ifTrue ← inPlace referenced hard ifTrue (ifTrue.code referenced depth hard)
    let ifFalse ← inPlace referenced hard ifFalse (ifFalse.code referenced depth hard)
    return .conditional condition ifTrue ifFalse

/-- The codes of several expressions where they stand. -/
def codes (referenced : List Nat) : List Expr → Nat → Bool → List (Except Error Code)
  | [], _, _ => []
  | e :: es, depth, hard =>
    inPlace referenced hard e (e.code referenced depth hard) :: codes referenced es depth hard

end

end Expr

/-- The program that searches for an expression: it moves on through the text as long as nothing
matches, and notes where the match begins and ends. -/
def Expr.program (referenced : List Nat) (e : Expr) : Except Error (Array Instruction) := do
  let code ← e.code referenced 0 true
  let lead : Code := [.split 3 1, .take .any, .jump (-2), .save 0]
  let ending : Code := [.save 1]
  return (lead ++ code ++ ending).toArray

mutual

/-- The number of loops and looks around that stand in each other. -/
def Expr.nesting : Expr → Nat
  | .concat parts => Expr.nestingOfAll parts
  | .alternatives options => Expr.nestingOfAll options
  | .group _ content => content.nesting
  | .look _ content => content.nesting + 1
  | .atomic content => content.nesting
  | .conditional condition ifTrue ifFalse =>
    max condition.nesting (max ifTrue.nesting ifFalse.nesting)
  | .repeated _ _ _ content => content.nesting + 1
  | _ => 0

/-- The greatest nesting of several expressions. -/
def Expr.nestingOfAll : List Expr → Nat
  | [] => 0
  | e :: es => max e.nesting (Expr.nestingOfAll es)

end

end Railroad.Regex
