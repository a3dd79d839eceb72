import Railroad.Regex.Program

/-!
# The machine

The machine runs a program on a text. It follows one way and keeps the others that are open, the latest
first. When the way fails it goes back to the latest open one, which it may do a limited number of times
in a search.
-/

namespace Railroad.Regex

namespace Machine

/-- A way through the program. -/
structure Way where
  /-- The instruction that comes next. -/
  next : Nat
  /-- The position in the text. -/
  place : Nat
  /-- The positions that have been noted: the bounds of the groups. -/
  slots : Array (Option Nat)
  /-- The registers for counts and positions. -/
  registers : Array Nat
  /-- How many ways were open when each unfinished atomic part began, the innermost first. -/
  heights : List Nat

/-- The state of a search. -/
structure State where
  /-- The way that is followed. -/
  way : Way
  /-- The other open ways, the latest first. -/
  others : List Way
  /-- How many others there are. -/
  height : Nat
  /-- How often the machine has gone back. -/
  spent : Nat

/-- How often the machine may go back in one search. -/
def limit : Nat := 1000000

/-- What a step leads to. -/
inductive Outcome where
  /-- The search goes on. -/
  | running (state : State)
  /-- A match has been found. -/
  | found (way : Way)
  /-- No way is left. -/
  | exhausted
  /-- The machine has gone back too often. -/
  | givenUp

namespace State

/-- Goes on with another way. -/
def follow (state : State) (way : Way) : Outcome := .running { state with way := way }

/-- Goes on with one way and keeps another one open. -/
def fork (state : State) (way other : Way) : Outcome :=
  .running { state with way := way, others := other :: state.others, height := state.height + 1 }

/-- Goes back to the latest open way. -/
def fail (state : State) : Outcome :=
  match state.others with
  | [] => .exhausted
  | way :: others =>
    if state.spent < limit then .running ⟨way, others, state.height - 1, state.spent + 1⟩
    else .givenUp

/-- Gives up the open ways above a height. -/
def cut (state : State) (height : Nat) : State :=
  { state with others := state.others.drop (state.height - height)
               height := min state.height height }

/-- Gives up the open ways down to the latest one that goes on at an instruction, and that one too. -/
def cutThrough (state : State) (target : Nat) : State :=
  let rest := (state.others.dropWhile (·.next != target)).drop 1
  { state with others := rest, height := rest.length }

end State

namespace Way

/-- The way behind the current instruction. -/
def onward (way : Way) : Way := { way with next := way.next + 1 }

/-- The way at a place relative to the current instruction. -/
def goto (way : Way) (target : Int) : Way := { way with next := (way.next + target).toNat }

/-- The way with a register set. -/
def set (way : Way) (register value : Nat) : Way :=
  { way with registers := way.registers.setIfInBounds register value }

/-- The value of a register. -/
def get (way : Way) (register : Nat) : Nat := way.registers[register]?.getD 0

/-- The position in a slot, if one has been noted. -/
def slot? (way : Way) (n : Nat) : Option Nat := way.slots[n]?.join

/-- The way with a slot set or cleared. -/
def setSlot (way : Way) (n : Nat) (position : Option Nat) : Way :=
  { way with slots := way.slots.setIfInBounds n position }

/-- The bounds of a group that has matched. -/
def group? (way : Way) (number : Nat) : Option (Nat × Nat) :=
  match way.slot? (2 * number), way.slot? (2 * number + 1) with
  | some start, some stop => some (start, stop)
  | _, _ => none

/-- The way with groups set as linear code has left them. -/
def adopt (way : Way) (thread : Linear.Thread) (groups : List Nat) : Way :=
  groups.foldl (fun way number =>
    (way.setSlot (2 * number) thread.slots[2 * number]?.join).setSlot (2 * number + 1)
      thread.slots[2 * number + 1]?.join) way

end Way

/-- Enters a counted content, or leaves it, or keeps one of both open for later. -/
def countStep (state : State) (low : Nat) (high : Option Nat) (greedy : Bool) (register : Nat)
    (exit : Int) : Outcome :=
  let way := state.way
  let n := way.get register
  if high = some n then state.follow (way.goto exit)
  else
    let counted := way.set register (n + 1)
    if n < low then state.follow counted.onward
    else if greedy then state.fork counted.onward (counted.goto exit)
    else state.fork (counted.goto exit) counted.onward

/-- Enters a content that can be empty, or leaves it. After the least number of times a content that
has taken nothing is not entered again. -/
def countEmptyStep (state : State) (low : Nat) (greedy : Bool) (register : Nat) (exit : Int) :
    Outcome :=
  let way := state.way
  let n := way.get register
  if low < n ∧ way.get (register + 1) = way.place then state.fail
  else
    let counted := way.set register (n + 1)
    if n < low then state.follow counted.onward
    else
      let marked := counted.set (register + 1) way.place
      if greedy then state.fork marked.onward (marked.goto exit)
      else state.fork (marked.goto exit) marked.onward

/-- One step of the machine in a search that began at the position `origin`. -/
def step (program : Array Instruction) (text : Subject) (origin : Nat) (state : State) : Outcome :=
  let way := state.way
  match program[way.next]? with
  | none => .found way
  | some instruction =>
    match instruction with
    | .take test =>
      match text[way.place]? with
      | some c =>
        if test.passes c then state.follow { way.onward with place := way.place + 1 }
        else state.fail
      | none => state.fail
    | .split first second => state.fork (way.goto first) (way.goto second)
    | .jump target => state.follow (way.goto target)
    | .save slot => state.follow (way.onward.setSlot slot (some way.place))
    | .check a => if a.holds text way.place then state.follow way.onward else state.fail
    | .clear register => state.follow (way.onward.set register 0)
    | .count low high greedy register exit => countStep state low high greedy register exit
    | .countEmpty low greedy register exit => countEmptyStep state low greedy register exit
    | .goBack length =>
      if length ≤ way.place then state.follow { way.onward with place := way.place - length }
      else state.fail
    | .keep register => state.follow (way.onward.set register way.place)
    | .restore register => state.follow { way.onward with place := way.get register }
    | .failLook => (state.cutThrough (way.next + 1)).fail
    | .beginAtomic => state.follow { way.onward with heights := state.height :: way.heights }
    | .endAtomic =>
      match way.heights with
      | [] => state.follow way.onward
      | height :: heights => (state.cut height).follow { way.onward with heights := heights }
    | .backreference number =>
      match way.group? number with
      | some (start, stop) =>
        if text.repeats start stop way.place then
          state.follow { way.onward with place := way.place + (stop - start) }
        else state.fail
      | none => state.fail
    | .groupMatched number =>
      if (way.slot? (2 * number)).isSome then state.follow way.onward else state.fail
    | .searchStart => if way.place ≤ origin then state.follow way.onward else state.fail
    | .linear code groups =>
      match (Linear.matchAt code text way.slots.size way.place ∅).1 with
      | some thread =>
        state.follow { (way.adopt thread groups).onward with place := thread.place }
      | none => state.fail

/-- Steps until the search ends. -/
def run (program : Array Instruction) (text : Subject) (origin : Nat) :
    Nat → State → Except Error (Option Way)
  | 0, _ => .error .searching
  | fuel + 1, state =>
    match step program text origin state with
    | .running state => run program text origin fuel state
    | .found way => .ok (some way)
    | .exhausted => .ok none
    | .givenUp => .error .searching

/-- The number of steps after which a search is given up. It is there for the recursion to end and stands for
no limit at all: the engines that are in use go on until they have gone back too often, however many steps they
take in between. -/
def patience : Nat := 1 <<< 40

/-- Searches a text from a position on. -/
def search (program : Array Instruction) (slots registers : Nat) (text : Subject) (origin : Nat) :
    Except Error (Option Way) :=
  run program text origin patience
    ⟨⟨0, origin, Array.replicate slots none, Array.replicate registers 0, []⟩, [], 0, 0⟩

end Machine

end Railroad.Regex
