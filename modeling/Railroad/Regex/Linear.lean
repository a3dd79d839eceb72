import Railroad.Regex.Analysis
import Railroad.Regex.Subject
import Std.Data.HashSet.Basic

/-!
# Matching without going back

An expression that refers to nothing it has matched becomes a list of instructions. They are tried in
order of preference, and no instruction is tried twice at one position, so the work is bounded by the
product of both lengths. The first way that is found to the end is the preferred one.
-/

namespace Railroad.Regex

namespace Linear

/-- An instruction. Targets are relative to the instruction, so that code can stand anywhere. -/
inductive Inst where
  /-- Takes a character that passes a test. -/
  | take (test : CharTest)
  /-- Goes on at two places, the first one preferred. -/
  | split (first second : Int)
  /-- Goes on elsewhere. -/
  | jump (target : Int)
  /-- Notes the position. -/
  | save (slot : Nat)
  /-- Goes on if a condition holds. -/
  | check (a : Assertion)
  deriving Repr

/-- Two ways to go on, where a greedy repetition prefers the first. -/
def Inst.prefer (greedy : Bool) (inward outward : Int) : Inst :=
  if greedy then .split inward outward else .split outward inward

/-- Code for a content that may be left out. -/
def optional (greedy : Bool) (code : List Inst) : List Inst :=
  .prefer greedy 1 (code.length + 1) :: code

/-- Code for a content once or more often. -/
def oneOrMore (greedy : Bool) (code : List Inst) : List Inst :=
  code ++ [.prefer greedy (-code.length) 1]

/-- Code for a content any number of times. A content that can be empty is tried once before the choice
to repeat it, which keeps the order of preference. -/
def zeroOrMore (greedy nullable : Bool) (code : List Inst) : List Inst :=
  if nullable then optional greedy (oneOrMore greedy code)
  else .prefer greedy 1 (code.length + 2) :: code ++ [.jump (-(code.length + 1 : Nat))]

/-- Code for a content at most `n` times. Leaving out one occurrence leaves out the rest. -/
def atMost (greedy : Bool) (code : List Inst) : Nat → List Inst
  | 0 => []
  | n + 1 =>
    .prefer greedy 1 ((n + 1) * (code.length + 1) : Nat) :: code ++ atMost greedy code n

/-- Code for a content several times. -/
def copies (n : Nat) (code : List Inst) : List Inst := (List.replicate n code).flatten

/-- Code for a content as often as two bounds say. -/
def repeated (low : Nat) (high : Option Nat) (greedy nullable : Bool) (code : List Inst) :
    List Inst :=
  match high with
  | some high => copies low code ++ atMost greedy code (high - low)
  | none =>
    match low with
    | 0 => zeroOrMore greedy nullable code
    | low + 1 => copies low code ++ oneOrMore greedy code

/-- Code for a choice between two codes. -/
def choice (first second : List Inst) : List Inst :=
  .split 1 (first.length + 2) :: first ++ .jump (second.length + 1) :: second

end Linear

/-- One more than the greatest count that a repetition may have. -/
def repetitionLimit : Nat := UInt32.size

/-- The number of instructions that an expression may take. It stands for a limit of another kind: the engines
that are in use bound the bytes of their compiled code, which a count of instructions does not give. A pattern
that repeats often, such as `a{130000}`, may be refused here alone. -/
def linearLimit : Nat := 1 <<< 18

/-- Whether the bounds of a repetition are in order and not too large. -/
def boundsAreValid (low : Nat) (high : Option Nat) : Bool :=
  low < repetitionLimit &&
    match high with
    | none => true
    | some high => low ≤ high && high < repetitionLimit

namespace Expr

mutual

/-- The greatest number of instructions that the code of an expression has. -/
def linearSize : Expr → Nat
  | concat parts => linearSizeOfAll parts
  | alternatives options => linearSizeOfAll options
  | group _ content => content.linearSize + 2
  | repeated low high _ content => (content.linearSize + 2) * (max low (high.getD (low + 1)))
  | _ => 2

/-- The greatest number of instructions for several expressions. -/
def linearSizeOfAll : List Expr → Nat
  | [] => 0
  | e :: es => e.linearSize + 2 + linearSizeOfAll es

end

mutual

/-- Whether every bound and every class in an expression is valid. -/
def isSound : Expr → Bool
  | concat parts => allSound parts
  | alternatives options => allSound options
  | group _ content => content.isSound
  | repeated low high _ content => boundsAreValid low high && content.isSound
  | e => e.charTest? != some none

/-- Whether every bound and every class in several expressions is valid. -/
def allSound : List Expr → Bool
  | [] => true
  | e :: es => e.isSound && allSound es

end

mutual

/-- The code of an expression that refers to nothing it has matched. -/
def linearCode : Expr → List Linear.Inst
  | concat parts => concatCode parts
  | alternatives options => choiceCode options
  | group number content => .save (2 * number) :: content.linearCode ++ [.save (2 * number + 1)]
  | repeated low high greedy content =>
    Linear.repeated low high greedy (content.minLength == 0) content.linearCode
  | assertion a => [.check a]
  | e =>
    match e.charTest? with
    | some (some test) => [.take test]
    | _ => []

/-- The code of expressions one behind the other. -/
def concatCode : List Expr → List Linear.Inst
  | [] => []
  | e :: es => e.linearCode ++ concatCode es

/-- The code of alternatives. -/
def choiceCode : List Expr → List Linear.Inst
  | [] => []
  | [e] => e.linearCode
  | e :: es => Linear.choice e.linearCode (choiceCode es)

end

/-- The code of an expression, unless a bound or a class in it is not valid or it is too large. -/
def linearCode? (e : Expr) : Except Error (List Linear.Inst) :=
  if !e.isSound then .error (.compiling .innerPattern)
  else if linearLimit < e.linearSize then .error (.compiling .innerSize)
  else .ok e.linearCode

end Expr

namespace Linear

/-- A way that is being tried. -/
structure Thread where
  /-- The instruction that comes next. -/
  next : Nat
  /-- The position in the text. -/
  place : Nat
  /-- The positions that have been noted. -/
  slots : Array (Option Nat)

/-- The ways on from a thread, the preferred one first. -/
def follow (text : Subject) (thread : Thread) : Inst → List Thread
  | .take test =>
    match text[thread.place]? with
    | some c => if test.passes c then [⟨thread.next + 1, thread.place + 1, thread.slots⟩] else []
    | none => []
  | .split first second =>
    [{ thread with next := (thread.next + first).toNat },
      { thread with next := (thread.next + second).toNat }]
  | .jump target => [{ thread with next := (thread.next + target).toNat }]
  | .save slot =>
    [⟨thread.next + 1, thread.place, thread.slots.setIfInBounds slot (some thread.place)⟩]
  | .check a => if a.holds text thread.place then [{ thread with next := thread.next + 1 }] else []

/-- Tries the threads in order until one comes to the end of the code. An instruction that has been
tried at a position is not tried there again. Every turn ends a thread or tries an instruction anew, so
that twice the number of such pairs is enough `fuel`. -/
def explore (code : Array Inst) (text : Subject) :
    Nat → List Thread → Std.HashSet Nat → Option Thread × Std.HashSet Nat
  | 0, _, tried => (none, tried)
  | _, [], tried => (none, tried)
  | fuel + 1, thread :: threads, tried =>
    match code[thread.next]? with
    | none => (some thread, tried)
    | some inst =>
      let key := thread.next * (text.size + 1) + thread.place
      if tried.contains key then explore code text fuel threads tried
      else explore code text fuel (follow text thread inst ++ threads) (tried.insert key)

/-- Enough fuel for a search. -/
def enough (code : Array Inst) (text : Subject) : Nat := 2 * (code.size * (text.size + 1)) + 2

/-- The match that begins at a position: its end, and the positions noted on the way. -/
def matchAt (code : Array Inst) (text : Subject) (slots start : Nat) (tried : Std.HashSet Nat) :
    Option Thread × Std.HashSet Nat :=
  explore code text (enough code text) [⟨0, start, Array.replicate slots none⟩] tried

/-- The first match that begins at `start` or at one of the next `count` positions, with its
beginning. -/
def searchFrom (code : Array Inst) (text : Subject) (slots : Nat) :
    Nat → Nat → Std.HashSet Nat → Option (Nat × Thread)
  | 0, _, _ => none
  | count + 1, start, tried =>
    match matchAt code text slots start tried with
    | (some thread, _) => some (start, thread)
    | (none, tried) => searchFrom code text slots count (start + 1) tried

end Linear

end Railroad.Regex
