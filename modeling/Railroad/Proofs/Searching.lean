import Railroad.Proofs.Compiled
import Railroad.Proofs.HostSearches
import Railroad.Proofs.Onward
import Railroad.Regex.Search

/-!
# Where a search ends

A search that begins at a position ends behind it and inside the text. Every way that the machine follows or
keeps open obeys the conditions of its program, and every step preserves this for all of them. So a match
never begins beyond its end, it ends where the search began or later, and it begins there or later unless
the beginning is moved inside a look back.
-/

namespace Railroad.Regex

/-- A position that has been noted in one of the slots is the one that is set there, or it was there
before. -/
theorem slot_set {slots : Array (Option Nat)} {slot n place : Nat} {value : Option Nat}
    (h : (slots.setIfInBounds slot value)[n]?.join = some place) :
    slot = n ∧ value = some place ∨ slots[n]?.join = some place := by
  rw [Array.getElem?_setIfInBounds] at h
  by_cases hslot : slot = n
  · rw [if_pos hslot] at h
    by_cases hbound : slot < slots.size
    · rw [if_pos hbound] at h
      exact .inl ⟨hslot, h⟩
    · rw [if_neg hbound] at h
      cases h
  · rw [if_neg hslot] at h
    exact .inr h

/-- In slots that are all empty nothing has been noted. -/
theorem slot_replicate (count n : Nat) : ((Array.replicate count none)[n]?.join : Option Nat) = none := by
  rw [Array.getElem?_replicate]
  split <;> rfl

namespace Linear

/-- A thread has stayed between a position and the end of a text, with all positions that it has noted. -/
structure Thread.Within (start size : Nat) (thread : Thread) : Prop where
  /-- It is not in front of the position. -/
  start_le : start ≤ thread.place
  /-- It is not beyond the text. -/
  le_size : thread.place ≤ size
  /-- What it has noted lies between the position and the end. -/
  slots : ∀ n place : Nat, thread.slots[n]?.join = some place → start ≤ place ∧ place ≤ size

variable {text : Subject} {start : Nat}

/-- One step of linear code keeps a thread inside. -/
theorem Thread.Within.follow {thread : Thread} (h : thread.Within start text.size) (i : Inst) :
    ∀ next ∈ Linear.follow text thread i, next.Within start text.size := by
  cases i with
  | take test =>
    rw [Linear.follow]
    split
    · rename_i c hc
      split
      · have hlt := (Array.getElem?_eq_some_iff.mp hc).1
        have hle := h.start_le
        exact List.forall_mem_singleton.mpr ⟨by dsimp only; omega, hlt, h.slots⟩
      · exact List.forall_mem_nil _
    · exact List.forall_mem_nil _
  | split first second =>
    exact List.forall_mem_cons.mpr ⟨⟨h.start_le, h.le_size, h.slots⟩,
      List.forall_mem_singleton.mpr ⟨h.start_le, h.le_size, h.slots⟩⟩
  | jump target => exact List.forall_mem_singleton.mpr ⟨h.start_le, h.le_size, h.slots⟩
  | save slot =>
    refine List.forall_mem_singleton.mpr ⟨h.start_le, h.le_size, fun n place hplace => ?_⟩
    obtain ⟨-, heq⟩ | hbefore := slot_set hplace
    · cases heq
      exact ⟨h.start_le, h.le_size⟩
    · exact h.slots n place hbefore
  | check a =>
    rw [Linear.follow]
    split
    · exact List.forall_mem_singleton.mpr ⟨h.start_le, h.le_size, h.slots⟩
    · exact List.forall_mem_nil _

/-- Linear code that is explored from threads inside ends inside. -/
theorem explore_within (code : Array Inst) (fuel : Nat) {threads : List Thread} {tried : Std.HashSet Nat}
    (h : ∀ thread ∈ threads, thread.Within start text.size) {found : Thread}
    (hfound : (explore code text fuel threads tried).1 = some found) : found.Within start text.size := by
  fun_induction explore code text fuel threads tried with
  | case1 => cases hfound
  | case2 => cases hfound
  | case3 fuel thread threads tried hnone =>
    cases hfound
    exact h _ List.mem_cons_self
  | case4 fuel thread threads tried i hi key hkey ih =>
    exact ih (List.forall_mem_cons.mp h).2 hfound
  | case5 fuel thread threads tried i hi key hkey ih =>
    obtain ⟨hthread, hmore⟩ := List.forall_mem_cons.mp h
    exact ih (List.forall_mem_append.mpr ⟨hthread.follow i, hmore⟩) hfound

/-- A match of linear code stays between the position where it begins and the end of the text. -/
theorem matchAt_within (code : Array Inst) (slots : Nat) {tried : Std.HashSet Nat}
    (h : start ≤ text.size) {found : Thread}
    (hfound : (matchAt code text slots start tried).1 = some found) : found.Within start text.size := by
  refine explore_within code _ (List.forall_mem_singleton.mpr ⟨le_rfl, h, ?_⟩) hfound
  intro n place hplace
  rw [slot_replicate] at hplace
  cases hplace

/-- The first match of linear code begins where the search begins or later. -/
theorem searchFrom_within (code : Array Inst) (slots : Nat) {count origin : Nat}
    {tried : Std.HashSet Nat} (h : count + origin ≤ text.size + 1) {found : Thread}
    (hfound : searchFrom code text slots count origin tried = some (start, found)) :
    origin ≤ start ∧ found.Within start text.size := by
  induction count generalizing origin tried with
  | zero => cases hfound
  | succ count ih =>
    rw [searchFrom] at hfound
    split at hfound
    · rename_i thread _ hmatch
      cases hfound
      exact ⟨le_rfl, matchAt_within code slots (by omega) (congrArg Prod.fst hmatch)⟩
    · obtain ⟨hle, hwithin⟩ := ih (by omega) hfound
      exact ⟨by omega, hwithin⟩

end Linear

namespace Machine

/-- The position and the registers of a way. -/
def Way.point (way : Way) : Point := ⟨way.place, way.registers⟩

/-- A way obeys the conditions for the places of a program: it is at one of them or at the end, and inside
the text. What it has noted lies inside the text, and the beginning of the match behind `lower`. -/
structure Way.Obeys (size lower last : Nat) (conditions : Nat → Set Point) (way : Way) : Prop where
  /-- It is inside the program or at its end. -/
  next_le : way.next ≤ last
  /-- It is inside the text. -/
  inside : way.place ≤ size
  /-- It satisfies the condition where it is. -/
  point : way.point ∈ conditions way.next
  /-- What it has noted lies inside the text. -/
  slots : ∀ n place, way.slot? n = some place → place ≤ size
  /-- The beginning of the match lies behind `lower`. -/
  start : ∀ place, way.slot? 0 = some place → lower ≤ place

/-- The way that is followed and all others that are open obey the conditions. -/
def State.Obeys (size lower last : Nat) (conditions : Nat → Set Point) (state : State) : Prop :=
  ∀ way ∈ state.way :: state.others, way.Obeys size lower last conditions

/-- What a step leads to obeys the conditions: the state if the search goes on, and the way at the end of
the program if a match has been found. -/
def Outcome.Obeys (size lower last : Nat) (conditions : Nat → Set Point) : Outcome → Prop
  | running state => state.Obeys size lower last conditions
  | found way => way.Obeys size lower last conditions ∧ way.next = last
  | exhausted | givenUp => True

variable {text : Subject} {lower last : Nat} {conditions : Nat → Set Point}

section State

variable {state : State} {way other : Way}

/-- Going on with a way that obeys the conditions. -/
theorem State.Obeys.follow (h : state.Obeys text.size lower last conditions)
    (hway : way.Obeys text.size lower last conditions) :
    (state.follow way).Obeys text.size lower last conditions :=
  List.forall_mem_cons.mpr ⟨hway, (List.forall_mem_cons.mp h).2⟩

/-- Going on with one of two ways that obey the conditions, and keeping the other one open. -/
theorem State.Obeys.fork (h : state.Obeys text.size lower last conditions)
    (hway : way.Obeys text.size lower last conditions)
    (hother : other.Obeys text.size lower last conditions) :
    (state.fork way other).Obeys text.size lower last conditions :=
  List.forall_mem_cons.mpr ⟨hway, List.forall_mem_cons.mpr ⟨hother, (List.forall_mem_cons.mp h).2⟩⟩

/-- Going back to an open way. -/
theorem State.Obeys.fail (h : state.Obeys text.size lower last conditions) :
    state.fail.Obeys text.size lower last conditions := by
  unfold State.fail
  split
  · trivial
  · rename_i way others hothers
    split
    · exact fun w hw => h w (List.mem_cons_of_mem _ (hothers ▸ hw))
    · trivial

/-- Giving up open ways. -/
theorem State.Obeys.of_subset {fewer : State} (h : state.Obeys text.size lower last conditions)
    (hway : fewer.way = state.way) (hothers : fewer.others ⊆ state.others) :
    fewer.Obeys text.size lower last conditions :=
  List.forall_mem_cons.mpr ⟨hway ▸ (List.forall_mem_cons.mp h).1,
    fun w hw => (List.forall_mem_cons.mp h).2 w (hothers hw)⟩

end State

section Way

variable {code : Code} {i : Instruction} {way moved : Way} {target : Int}

/-- A way obeys the conditions where an instruction leads it, if what it notes there may be noted. -/
theorem Way.Obeys.move (h : way.Obeys text.size lower code.length conditions)
    (hcode : code.Obeys text.size lower conditions) (hi : code[way.next]? = some i)
    (hleads : i.Leads text.size way.point target moved.point)
    (hnext : moved.next = (way.next + target).toNat)
    (hslots : ∀ n place, moved.slot? n = some place →
      way.slot? n = some place ∨ place ≤ text.size ∧ (n = 0 → lower ≤ place)) :
    moved.Obeys text.size lower code.length conditions := by
  have hobeys := hcode way.next i hi way.point h.point
  obtain ⟨next, hle, heq, hpoint⟩ := hobeys.leads target moved.point hleads
  have hmoved : moved.next = next := by omega
  refine ⟨hmoved ▸ hle, hleads.place_le hobeys.safe h.inside, hmoved ▸ hpoint, ?_, ?_⟩
  · intro n place hplace
    obtain hbefore | hnew := hslots n place hplace
    · exact h.slots n place hbefore
    · exact hnew.1
  · intro place hplace
    obtain hbefore | hnew := hslots 0 place hplace
    · exact h.start place hbefore
    · exact hnew.2 rfl

/-- A way that notes nothing new obeys the conditions where an instruction leads it. -/
theorem Way.Obeys.move_on (h : way.Obeys text.size lower code.length conditions)
    (hcode : code.Obeys text.size lower conditions) (hi : code[way.next]? = some i)
    (hleads : i.Leads text.size way.point target moved.point)
    (hnext : moved.next = (way.next + target).toNat) (hslots : moved.slots = way.slots) :
    moved.Obeys text.size lower code.length conditions :=
  h.move hcode hi hleads hnext fun n place hplace =>
    .inl (by rw [Way.slot?, ← hslots]; exact hplace)

/-- What a way has noted after linear code has set groups was noted before, or by the linear code for one
of the groups. -/
theorem Way.slot?_adopt {thread : Linear.Thread} {groups : List Nat} {n place : Nat}
    (h : (way.adopt thread groups).slot? n = some place) :
    way.slot? n = some place ∨ thread.slots[n]?.join = some place ∧ n / 2 ∈ groups := by
  induction groups generalizing way with
  | nil => exact .inl h
  | cons number groups ih =>
    obtain hset | ⟨hthread, hmem⟩ := ih h
    · obtain ⟨rfl, hvalue⟩ | hset := slot_set hset
      · exact .inr ⟨hvalue, by rw [List.mem_cons]; left; omega⟩
      · obtain ⟨rfl, hvalue⟩ | hset := slot_set hset
        · exact .inr ⟨hvalue, by rw [List.mem_cons]; left; omega⟩
        · exact .inl hset
    · exact .inr ⟨hthread, List.mem_cons_of_mem _ hmem⟩

/-- Setting groups changes neither the place in the program nor the registers. -/
theorem Way.adopt_keeps (way : Way) (thread : Linear.Thread) (groups : List Nat) :
    (way.adopt thread groups).next = way.next ∧
      (way.adopt thread groups).registers = way.registers := by
  induction groups generalizing way with
  | nil => exact ⟨rfl, rfl⟩
  | cons number groups ih => exact ih _

end Way

section Step

variable {program : Array Instruction} {state : State} {origin : Nat}

/-- Counting an occurrence. -/
theorem countStep_obeys (hprogram : Code.Obeys text.size lower program.toList conditions)
    (h : state.Obeys text.size lower program.toList.length conditions) {low : Nat} {high : Option Nat}
    {greedy : Bool} {register : Nat} {exit : Int}
    (hi : program.toList[state.way.next]? = some (.count low high greedy register exit)) :
    (countStep state low high greedy register exit).Obeys text.size lower program.toList.length
      conditions := by
  have hway := h state.way List.mem_cons_self
  have hsame (value : Nat) := sameBelow_set state.way.registers register value
  have hrefl : SameBelow register state.way.registers state.way.registers := ⟨rfl, fun _ _ => rfl⟩
  have hexit : (state.way.goto exit).Obeys text.size lower program.toList.length conditions :=
    hway.move_on hprogram hi ⟨.inr rfl, rfl, hrefl⟩ rfl rfl
  have hinward (value : Nat) :
      (state.way.set register value).onward.Obeys text.size lower program.toList.length conditions :=
    hway.move_on hprogram hi ⟨.inl rfl, rfl, hsame value⟩ rfl rfl
  have houtward (value : Nat) :
      ((state.way.set register value).goto exit).Obeys text.size lower program.toList.length conditions :=
    hway.move_on hprogram hi ⟨.inr rfl, rfl, hsame value⟩ rfl rfl
  unfold countStep
  dsimp only
  split
  · exact h.follow hexit
  split
  · exact h.follow (hinward _)
  split
  · exact h.fork (hinward _) (houtward _)
  · exact h.fork (houtward _) (hinward _)

/-- Counting an occurrence that can be empty. -/
theorem countEmptyStep_obeys (hprogram : Code.Obeys text.size lower program.toList conditions)
    (h : state.Obeys text.size lower program.toList.length conditions) {low : Nat} {greedy : Bool}
    {register : Nat} {exit : Int}
    (hi : program.toList[state.way.next]? = some (.countEmpty low greedy register exit)) :
    (countEmptyStep state low greedy register exit).Obeys text.size lower program.toList.length
      conditions := by
  have hway := h state.way List.mem_cons_self
  have hsame (value : Nat) := sameBelow_set state.way.registers register value
  have hboth (value value' : Nat) : SameBelow register state.way.registers
      ((state.way.registers.setIfInBounds register value).setIfInBounds (register + 1) value') :=
    (hsame value).trans ((sameBelow_set _ _ _).mono (Nat.le_succ register))
  have hinward (value : Nat) :
      (state.way.set register value).onward.Obeys text.size lower program.toList.length conditions :=
    hway.move_on hprogram hi ⟨.inl rfl, rfl, hsame value⟩ rfl rfl
  have hmarked (value value' : Nat) :
      ((state.way.set register value).set (register + 1) value').onward.Obeys text.size lower
        program.toList.length conditions :=
    hway.move_on hprogram hi ⟨.inl rfl, rfl, hboth value value'⟩ rfl rfl
  have houtward (value value' : Nat) :
      (((state.way.set register value).set (register + 1) value').goto exit).Obeys text.size lower
        program.toList.length conditions :=
    hway.move_on hprogram hi ⟨.inr rfl, rfl, hboth value value'⟩ rfl rfl
  unfold countEmptyStep
  dsimp only
  split
  · exact h.fail
  split
  · exact h.follow (hinward _)
  split
  · exact h.fork (hmarked _ _) (houtward _ _)
  · exact h.fork (houtward _ _) (hmarked _ _)

/-- The end of a group that has matched has been noted. -/
theorem Way.slot?_of_group? {way : Way} {number start stop : Nat}
    (h : way.group? number = some (start, stop)) : way.slot? (2 * number + 1) = some stop := by
  unfold Way.group? at h
  split at h
  · rename_i hstop
    cases h
    exact hstop
  · cases h

/-- A text that stands again behind a position ends inside the text. -/
theorem le_size_of_repeats {start stop place : Nat} (h : text.repeats start stop place = true)
    (hstop : stop ≤ text.size) (hplace : place ≤ text.size) : place + (stop - start) ≤ text.size := by
  rcases Nat.eq_zero_or_pos (stop - start) with hempty | hpos
  · omega
  -- The last character that is compared stands in the text, so its counterpart does.
  have hlast := List.all_eq_true.mp h (stop - start - 1) (List.mem_range.mpr (by omega))
  have hlt : start + (stop - start - 1) < text.size := by omega
  rw [beq_iff_eq, Array.getElem?_eq_getElem hlt] at hlast
  have hbound := (Array.getElem?_eq_some_iff.mp hlast.symm).1
  omega

/-- One step of the machine preserves that all open ways obey the conditions of the program. -/
theorem step_obeys (hprogram : Code.Obeys text.size lower program.toList conditions)
    (h : state.Obeys text.size lower program.toList.length conditions) :
    (step program text origin state).Obeys text.size lower program.toList.length conditions := by
  have hway := h state.way List.mem_cons_self
  unfold step
  dsimp only
  cases hi : program[state.way.next]? with
  | none =>
    refine ⟨hway, Nat.le_antisymm hway.next_le ?_⟩
    rw [Array.length_toList]
    exact Array.getElem?_eq_none_iff.mp hi
  | some i =>
    rw [← Array.getElem?_toList] at hi
    cases i with
    | take test =>
      dsimp only
      split
      · rename_i c hc
        have hlt := (Array.getElem?_eq_some_iff.mp hc).1
        split
        · exact h.follow (hway.move_on hprogram hi ⟨rfl, rfl, hlt, rfl⟩ rfl rfl)
        · exact h.fail
      · exact h.fail
    | split first second =>
      exact h.fork (hway.move_on hprogram hi ⟨.inl rfl, rfl⟩ rfl rfl)
        (hway.move_on hprogram hi ⟨.inr rfl, rfl⟩ rfl rfl)
    | jump target => exact h.follow (hway.move_on hprogram hi ⟨rfl, rfl⟩ rfl rfl)
    | save slot =>
      have hsafe := (hprogram _ _ hi _ hway.point).safe
      refine h.follow (hway.move hprogram hi ⟨rfl, rfl⟩ rfl fun n place hplace => ?_)
      obtain ⟨rfl, heq⟩ | hbefore := slot_set hplace
      · cases heq
        exact .inr ⟨hway.inside, hsafe⟩
      · exact .inl hbefore
    | check a =>
      dsimp only
      split
      · exact h.follow (hway.move_on hprogram hi ⟨rfl, rfl⟩ rfl rfl)
      · exact h.fail
    | clear register =>
      exact h.follow (hway.move_on hprogram hi ⟨rfl, rfl, sameBelow_set _ _ _⟩ rfl rfl)
    | count low high greedy register exit => exact countStep_obeys hprogram h hi
    | countEmpty low greedy register exit => exact countEmptyStep_obeys hprogram h hi
    | goBack length =>
      dsimp only
      split
      · rename_i hle
        exact h.follow (hway.move_on hprogram hi ⟨rfl, Nat.sub_add_cancel hle, rfl⟩ rfl rfl)
      · exact h.fail
    | keep register => exact h.follow (hway.move_on hprogram hi ⟨rfl, rfl⟩ rfl rfl)
    | restore register => exact h.follow (hway.move_on hprogram hi ⟨rfl, rfl⟩ rfl rfl)
    | failLook =>
      exact State.Obeys.fail (h.of_subset rfl
        (List.Subset.trans (List.drop_subset _ _) (List.dropWhile_subset _)))
    | beginAtomic => exact h.follow (hway.move_on hprogram hi ⟨rfl, rfl⟩ rfl rfl)
    | endAtomic =>
      dsimp only
      split
      · exact h.follow (hway.move_on hprogram hi ⟨rfl, rfl⟩ rfl rfl)
      · exact State.Obeys.follow (h.of_subset rfl (List.drop_subset _ _))
          (hway.move_on hprogram hi ⟨rfl, rfl⟩ rfl rfl)
    | backreference number =>
      dsimp only
      split
      · rename_i start stop hgroup
        split
        · rename_i hrepeats
          have hle := le_size_of_repeats hrepeats (hway.slots _ _ (Way.slot?_of_group? hgroup)) hway.inside
          exact h.follow (hway.move_on hprogram hi ⟨rfl, Nat.le_add_right _ _, hle, rfl⟩ rfl rfl)
        · exact h.fail
      · exact h.fail
    | groupMatched number =>
      dsimp only
      split
      · exact h.follow (hway.move_on hprogram hi ⟨rfl, rfl⟩ rfl rfl)
      · exact h.fail
    | searchStart =>
      dsimp only
      split
      · exact h.follow (hway.move_on hprogram hi ⟨rfl, rfl⟩ rfl rfl)
      · exact h.fail
    | linear code groups =>
      dsimp only
      split
      · rename_i thread hthread
        have hsafe := (hprogram _ _ hi _ hway.point).safe
        have hwithin := Linear.matchAt_within code _ hway.inside hthread
        obtain ⟨hnext, hregisters⟩ := state.way.adopt_keeps thread groups
        refine h.follow (hway.move hprogram hi
          ⟨rfl, hwithin.start_le, hwithin.le_size, hregisters⟩ (congrArg (· + 1) hnext)
          fun n place hplace => ?_)
        obtain hbefore | ⟨hnoted, hmem⟩ := Way.slot?_adopt hplace
        · exact .inl hbefore
        · obtain ⟨hle, hsize⟩ := hwithin.slots n place hnoted
          exact .inr ⟨hsize, by rintro rfl; exact (hsafe hmem).trans hle⟩
      · exact h.fail

/-- A run of the machine that finds a match ends at the end of the program, with a way that obeys the
conditions. -/
theorem run_obeys (hprogram : Code.Obeys text.size lower program.toList conditions) {fuel : Nat}
    (h : state.Obeys text.size lower program.toList.length conditions) {way : Way}
    (hway : run program text origin fuel state = .ok (some way)) :
    way.Obeys text.size lower program.toList.length conditions ∧ way.next = program.toList.length := by
  induction fuel generalizing state with
  | zero => cases hway
  | succ fuel ih =>
    have hstep : (step program text origin state).Obeys text.size lower program.toList.length conditions :=
      step_obeys hprogram h
    rw [run] at hway
    split at hway
    · rename_i next hnext
      rw [hnext] at hstep
      exact ih hstep hway
    · rename_i found hfound
      rw [hfound] at hstep
      cases hway
      exact hstep
    · cases hway
    · cases hway

end Step

end Machine

/-- The points that a search from a position on can reach outside of looks back. -/
def Searched (size registers origin : Nat) : Set Point :=
  {p | origin ≤ p.place ∧ p.place ≤ size ∧ p.registers.size = registers}

/-- Going forward and changing registers does not leave the points that a search can reach. -/
theorem steady_searched (size registers origin depth : Nat) :
    Steady size registers depth (Searched size registers origin) where
  inside _ hp := hp.2.1
  count _ hp := hp.2.2
  later _ hp _ hle hsize := ⟨hp.1.trans hle, hsize, hp.2.2⟩
  below _ hp _ hsame := ⟨hp.1, hp.2.1, hsame.size_eq.trans hp.2.2⟩

/-- The program that searches for an expression stays between the beginning of the search and the end of the
text. -/
theorem Expr.program_keeps {referenced : List Nat} {e : Expr} {size registers lower origin : Nat}
    (he : e.Suits registers lower 0 false) (hlower : lower ≤ origin) {program : Array Instruction}
    (h : e.program referenced = .ok program) :
    Code.Keeps size lower (Searched size registers origin) program.toList := by
  have hstart : ∀ p ∈ Searched size registers origin, lower ≤ p.place := fun p hp => hlower.trans hp.1
  obtain ⟨code, hcode, h⟩ := bind_eq_ok h
  cases h
  have hkeeps : Code.Keeps size lower (Searched size registers origin) code :=
    code_keeps referenced e (steady_searched size registers origin 0) (fun _ => hstart) he hcode
  refine Code.keeps_of_parts
    [[.split 3 1], [.take .any], [.jump (-2)], [.save 0], code, [.save 1]] (by simp)
    ⟨.forks (Instruction.turns_split _ _) ?_ ?_,
      .goes (Instruction.turns_take (steady_searched size registers origin 0) _) ?_,
      .goes (Instruction.turns_jump _) ?_, .goes (Instruction.turns_save fun _ => hstart) ?_,
      .keeps hkeeps, .goes (Instruction.turns_save fun hzero => absurd hzero Nat.one_ne_zero) ?_, trivial⟩
  all_goals
    simp only [Code.exists_joint_cons, Code.exists_joint_nil, List.length_singleton]
    omega

/-- A search that finds a match ends between the position where it began and the end of the text, and what
it has noted as the beginning of the match is not in front of `lower`. -/
theorem Machine.search_found {program : Array Instruction} {slots registers lower origin : Nat}
    {text : Subject}
    (hprogram : Code.Keeps text.size lower (Searched text.size registers origin) program.toList)
    (horigin : origin ≤ text.size) {way : Way}
    (h : search program slots registers text origin = .ok (some way)) :
    origin ≤ way.place ∧ way.place ≤ text.size ∧ ∀ place, way.slot? 0 = some place → lower ≤ place := by
  obtain ⟨conditions, hentry, hexit, hobeys⟩ := hprogram
  have hnothing {n place : Nat} (h : (Array.replicate slots none)[n]?.join = some place) : False := by
    rw [slot_replicate] at h
    cases h
  have hfirst : Way.Obeys text.size lower program.toList.length conditions
      ⟨0, origin, Array.replicate slots none, Array.replicate registers 0, []⟩ :=
    ⟨Nat.zero_le _, horigin, hentry ⟨le_rfl, horigin, Array.size_replicate⟩,
      fun _ _ hplace => (hnothing hplace).elim, fun _ hplace => (hnothing hplace).elim⟩
  have hstate : State.Obeys text.size lower program.toList.length conditions
      ⟨⟨0, origin, Array.replicate slots none, Array.replicate registers 0, []⟩, [], 0, 0⟩ :=
    List.forall_mem_singleton.mpr hfirst
  obtain ⟨hway, hnext⟩ := run_obeys hobeys hstate h
  have hpoint := hway.point
  rw [hnext] at hpoint
  exact ⟨(hexit hpoint).1, hway.inside, hway.start⟩

/-- The engine of a prepared pattern comes from what was read. -/
theorem engine_of_compile {pattern : String} {matcher : Matcher} (h : compile pattern = .ok matcher) :
    ∃ outline, read pattern = .ok outline ∧
      ((∃ code, matcher.engine = .linear code) ∨
        ∃ program, outline.expr.program outline.referenced = .ok program ∧
          matcher.engine = .machine program (2 * outline.expr.nesting + 2)) := by
  obtain ⟨outline, hread, h⟩ := bind_eq_ok h
  obtain ⟨_, -, h⟩ := bind_eq_ok h
  refine ⟨outline, hread, ?_⟩
  split at h
  · obtain ⟨program, hprogram, h⟩ := bind_eq_ok h
    cases h
    exact .inr ⟨program, hprogram, rfl⟩
  · obtain ⟨code, -, h⟩ := bind_eq_ok h
    cases h
    exact .inl ⟨_, rfl⟩

/-- An expression that has been read suits the machine: it has registers enough, and the groups are numbered
from one on. -/
theorem suits_of_read {pattern : String} {outline : Outline} (h : read pattern = .ok outline) {lower : Nat}
    (hstart : lower = 0 ∨ outline.expr.movesAhead false = true) :
    outline.expr.Suits (2 * outline.expr.nesting + 2) lower 0 false where
  room := by omega
  groups := by
    rw [groups_of_read h, List.mem_range'_1]
    omega
  start := hstart

/-- A search finds a match that ends between the position where it began and the end of the text. The match
begins there or later too, unless its beginning is moved inside a look back. -/
theorem Matcher.found_of_find? {pattern : String} {matcher : Matcher} {outline : Outline}
    (hmatcher : compile pattern = .ok matcher) (hread : read pattern = .ok outline) {text : Subject}
    {origin : Nat} (horigin : origin ≤ text.size) {captures : Captures}
    (h : matcher.find? text origin = .ok (some captures)) :
    captures.FoundFrom origin text.size ∧
      (outline.expr.movesAhead false = true → origin ≤ captures.whole.start) := by
  obtain ⟨read, hread', hengine⟩ := engine_of_compile hmatcher
  obtain rfl : read = outline := by
    rw [hread] at hread'
    cases hread'
    rfl
  unfold find? at h
  obtain ⟨code, hcode⟩ | ⟨program, hprogram, hmachine⟩ := hengine
  · rw [hcode] at h
    dsimp only at h
    obtain ⟨⟨start, thread⟩, hfound, rfl⟩ := Option.map_eq_some_iff.mp (Except.ok.inj h)
    obtain ⟨hle, hwithin⟩ := Linear.searchFrom_within code _ (by omega) hfound
    exact ⟨⟨⟨hwithin.start_le, hwithin.le_size⟩, hle.trans hwithin.start_le⟩, fun _ => hle⟩
  · rw [hmachine] at h
    dsimp only at h
    split at h
    · cases h
    · cases h
    · rename_i way hway
      cases h
      have hfound {lower : Nat} (hlower : lower ≤ origin)
          (hstart : lower = 0 ∨ read.expr.movesAhead false = true) :=
        Machine.search_found (Expr.program_keeps (suits_of_read hread hstart) hlower hprogram) horigin hway
      obtain ⟨hle, hsize, -⟩ := hfound (Nat.zero_le origin) (.inl rfl)
      refine ⟨⟨⟨Nat.min_le_right _ _, hsize⟩, hle⟩, fun hahead => Nat.le_min.mpr ⟨?_, hle⟩⟩
      have hnoted := (hfound le_rfl (.inr hahead)).2.2
      cases hslot : way.slot? 0 with
      | none => exact hle
      | some place => exact hnoted place hslot

end Railroad.Regex
