import Mathlib
import Railroad.Regex.Machine

/-!
# What code keeps

Every instruction of the machine moves in the text and changes registers as its kind allows. A condition on
both is kept by code if it holds behind the code whenever it held in front of it, whatever ways the machine
takes inside. Code is put together from single instructions and from codes that keep a condition. If the
single ones jump from one joint to another only, the whole keeps the condition.
-/

namespace Railroad.Regex

/-- The position and the registers of a way. -/
@[ext]
structure Point where
  /-- The position in the text. -/
  place : Nat
  /-- The registers. -/
  registers : Array Nat

/-- Registers agree below a number. -/
structure SameBelow (register : Nat) (before after : Array Nat) : Prop where
  /-- There are as many. -/
  size_eq : after.size = before.size
  /-- They have the same values. -/
  getElem?_eq : ∀ r < register, after[r]? = before[r]?

/-- What an instruction can do in a text of a size: it takes a way from one point to another, and the way
goes on at a target. -/
def Instruction.Leads (size : Nat) (p : Point) (target : Int) (q : Point) : Instruction → Prop
  | take _ => target = 1 ∧ q.place = p.place + 1 ∧ q.place ≤ size ∧ q.registers = p.registers
  | split first second => (target = first ∨ target = second) ∧ q = p
  | jump goal => target = goal ∧ q = p
  | save _ | check _ | groupMatched _ | searchStart | beginAtomic | endAtomic => target = 1 ∧ q = p
  | clear register =>
    target = 1 ∧ q.place = p.place ∧ SameBelow register p.registers q.registers
  | count _ _ _ register exit | countEmpty _ _ register exit =>
    (target = 1 ∨ target = exit) ∧ q.place = p.place ∧ SameBelow register p.registers q.registers
  | goBack length => target = 1 ∧ q.place + length = p.place ∧ q.registers = p.registers
  | keep register => target = 1 ∧ q = ⟨p.place, p.registers.setIfInBounds register p.place⟩
  | restore register => target = 1 ∧ q = ⟨p.registers[register]?.getD 0, p.registers⟩
  | failLook => False
  | backreference _ | linear _ _ =>
    target = 1 ∧ p.place ≤ q.place ∧ q.place ≤ size ∧ q.registers = p.registers

/-- What is asked of a point where an instruction stands: a beginning of the match is noted only behind
`lower`, and a position is restored only inside the text. -/
def Instruction.Safe (size lower : Nat) (p : Point) : Instruction → Prop
  | save slot => slot = 0 → lower ≤ p.place
  | linear _ groups => 0 ∈ groups → lower ≤ p.place
  | restore register => p.registers[register]?.getD 0 ≤ size
  | _ => True

/-- From a point inside the text an instruction leads to points inside the text. -/
theorem Instruction.Leads.place_le {size lower : Nat} {p q : Point} {target : Int} {i : Instruction}
    (h : i.Leads size p target q) (hsafe : i.Safe size lower p) (hp : p.place ≤ size) :
    q.place ≤ size := by
  cases i with
  | take _ => exact h.2.2.1
  | split _ _ | jump _ | save _ | check _ | groupMatched _ | searchStart | beginAtomic | endAtomic =>
    obtain ⟨-, rfl⟩ := h
    exact hp
  | clear _ | count _ _ _ _ _ | countEmpty _ _ _ _ => exact h.2.1 ▸ hp
  | goBack length =>
    have hback := h.2.1
    omega
  | keep register =>
    obtain ⟨-, rfl⟩ := h
    exact hp
  | restore register =>
    obtain ⟨-, rfl⟩ := h
    exact hsafe
  | failLook => exact h.elim
  | backreference _ | linear _ _ => exact h.2.2.1

variable {size lower : Nat} {P : Set Point}

/-- From a point at its place an instruction obeys conditions that are given for the places of code: it
is safe, and it leads to points that satisfy the condition where they are, inside the code or at its end. -/
structure Instruction.Obeys (size lower : Nat) (conditions : Nat → Set Point) (last place : Nat)
    (p : Point) (i : Instruction) : Prop where
  /-- The instruction is safe. -/
  safe : i.Safe size lower p
  /-- Where the instruction leads. -/
  leads : ∀ target q, i.Leads size p target q →
    ∃ next ≤ last, (next : Int) = place + target ∧ q ∈ conditions next

namespace Code

/-- All instructions of code obey the conditions. -/
def Obeys (size lower : Nat) (code : Code) (conditions : Nat → Set Point) : Prop :=
  ∀ place (i : Instruction), code[place]? = some i →
    ∀ p ∈ conditions place, i.Obeys size lower conditions code.length place p

/-- Code keeps a condition: there are conditions for its places that all instructions obey, from the given
one at the beginning to the same one at the end. -/
def Keeps (size lower : Nat) (P : Set Point) (code : Code) : Prop :=
  ∃ conditions, P ⊆ conditions 0 ∧ conditions code.length ⊆ P ∧ code.Obeys size lower conditions

/-- The joints of code that is made of parts: where it begins and where each part ends. -/
def joints : Nat → List Code → List Nat
  | place, [] => [place]
  | place, part :: parts => place :: joints (place + part.length) parts

end Code

/-- Wherever the condition holds, the instruction is safe, keeps the condition and goes on at one of the
targets. -/
structure Instruction.Turns (size lower : Nat) (P : Set Point) (targets : List Int) (i : Instruction) :
    Prop where
  /-- The instruction is safe. -/
  safe : ∀ p ∈ P, i.Safe size lower p
  /-- Where the instruction leads. -/
  leads : ∀ p ∈ P, ∀ target q, i.Leads size p target q → target ∈ targets ∧ q ∈ P

namespace Code

/-- A part of code at a place keeps the condition, either as a code or as an instruction that goes to
joints. -/
inductive IsPart (size lower : Nat) (P : Set Point) (joints : List Nat) (place : Nat) : Code → Prop
  /-- Code that keeps the condition. -/
  | keeps {code : Code} (h : code.Keeps size lower P) : IsPart size lower P joints place code
  /-- An instruction that goes to joints. -/
  | single {i : Instruction} {targets : List Int} (turns : i.Turns size lower P targets)
      (meets : ∀ target ∈ targets, ∃ next ∈ joints, (next : Int) = place + target) :
      IsPart size lower P joints place [i]

/-- An instruction that goes to one joint. -/
theorem IsPart.goes {joints : List Nat} {place : Nat} {i : Instruction} {target : Int}
    (turns : i.Turns size lower P [target]) (h : ∃ next ∈ joints, (next : Int) = place + target) :
    IsPart size lower P joints place [i] :=
  .single turns (List.forall_mem_singleton.mpr h)

/-- An instruction that goes to one of two joints. -/
theorem IsPart.forks {joints : List Nat} {place : Nat} {i : Instruction} {near far : Int}
    (turns : i.Turns size lower P [near, far]) (hnear : ∃ next ∈ joints, (next : Int) = place + near)
    (hfar : ∃ next ∈ joints, (next : Int) = place + far) : IsPart size lower P joints place [i] :=
  .single turns (List.forall_mem_cons.mpr ⟨hnear, List.forall_mem_singleton.mpr hfar⟩)

/-- All parts of code keep the condition, from a place on. -/
def AreParts (size lower : Nat) (P : Set Point) (joints : List Nat) : Nat → List Code → Prop
  | _, [] => True
  | place, part :: parts =>
    IsPart size lower P joints place part ∧ AreParts size lower P joints (place + part.length) parts

/-- Code begins at a joint. -/
theorem mem_joints_self (place : Nat) (parts : List Code) : place ∈ joints place parts := by
  cases parts <;> exact List.mem_cons_self

/-- Code without parts has one joint. -/
theorem exists_joint_nil (place : Nat) (goal : Int) :
    (∃ next ∈ joints place [], (next : Int) = goal) ↔ (place : Int) = goal := by
  simp only [joints, List.mem_singleton, exists_eq_left]

/-- A joint is where the first part begins, or it is a joint of the other parts. -/
theorem exists_joint_cons (place : Nat) (part : Code) (parts : List Code) (goal : Int) :
    (∃ next ∈ joints place (part :: parts), (next : Int) = goal) ↔
      (place : Int) = goal ∨ ∃ next ∈ joints (place + part.length) parts, (next : Int) = goal := by
  rw [joints, List.exists_mem_cons_iff]

/-- Every joint is at the beginning or behind it. -/
theorem le_of_mem_joints {place joint : Nat} {parts : List Code} (h : joint ∈ joints place parts) :
    place ≤ joint ∧ joint ≤ place + parts.flatten.length := by
  induction parts generalizing place with
  | nil =>
    rw [joints, List.mem_singleton] at h
    simp only [h, List.flatten_nil, List.length_nil, le_refl, Nat.add_zero, and_self]
  | cons part parts ih =>
    rw [List.flatten_cons, List.length_append]
    obtain rfl | hmem := List.mem_cons.mp h
    · omega
    · have hle := ih hmem
      omega

/-- Every part ends at a joint. -/
theorem end_mem_joints (place : Nat) (front : List Code) (part : Code) (behind : List Code) :
    place + front.flatten.length + part.length ∈ joints place (front ++ part :: behind) := by
  induction front generalizing place with
  | nil => exact List.mem_cons_of_mem _ (mem_joints_self _ _)
  | cons code front ih =>
    rw [List.flatten_cons, List.length_append, ← Nat.add_assoc]
    exact List.mem_cons_of_mem _ (ih _)

/-- The instruction at a joint is the first one of a part. -/
theorem exists_part_at_joint {place joint : Nat} {parts : List Code} {i : Instruction}
    (hjoint : joint ∈ joints place parts) (hi : parts.flatten[joint - place]? = some i) :
    ∃ front part behind, parts = front ++ part :: behind ∧ joint = place + front.flatten.length ∧
      part[0]? = some i := by
  induction parts generalizing place with
  | nil => cases hi
  | cons part parts ih =>
    have hlater (hmore : joint ∈ joints (place + part.length) parts) :
        ∃ front code behind, part :: parts = front ++ code :: behind ∧
          joint = place + front.flatten.length ∧ code[0]? = some i := by
      have hle := (le_of_mem_joints hmore).1
      rw [List.flatten_cons, List.getElem?_append_right (by omega), Nat.sub_sub] at hi
      obtain ⟨front, code, behind, rfl, hplace, hfirst⟩ := ih hmore hi
      refine ⟨part :: front, code, behind, rfl, ?_, hfirst⟩
      rw [List.flatten_cons, List.length_append, hplace, Nat.add_assoc]
    obtain rfl | hmore := List.mem_cons.mp hjoint
    · cases part with
      | nil => exact hlater (mem_joints_self _ _)
      | cons first rest =>
        refine ⟨[], first :: rest, parts, rfl, rfl, ?_⟩
        rwa [Nat.sub_self] at hi
    · exact hlater hmore

/-- Each of the parts keeps the condition where it stands. -/
theorem AreParts.isPart {joints : List Nat} {place : Nat} {front behind : List Code} {part : Code}
    (h : AreParts size lower P joints place (front ++ part :: behind)) :
    IsPart size lower P joints (place + front.flatten.length) part := by
  induction front generalizing place with
  | nil => exact h.1
  | cons code front ih =>
    rw [List.flatten_cons, List.length_append, ← Nat.add_assoc]
    exact ih h.2

/-- A condition for the places inside the parts of code, each of which has conditions of its own. -/
def Inside (size lower : Nat) (P : Set Point) (parts : List Code) (place : Nat) : Set Point :=
  {p | ∃ front part behind conditions k, parts = front ++ part :: behind ∧ P ⊆ conditions 0 ∧
    conditions part.length ⊆ P ∧ part.Obeys size lower conditions ∧ k < part.length ∧
    place = front.flatten.length + k ∧ p ∈ conditions k}

/-- The condition for all places of code that is made of parts: the given one holds at the joints. -/
def Through (size lower : Nat) (P : Set Point) (parts : List Code) (place : Nat) : Set Point :=
  {p | place ∈ joints 0 parts ∧ p ∈ P} ∪ Inside size lower P parts place

/-- A way inside a part goes on inside it, or leaves it at a joint. -/
theorem inside_obeys {parts : List Code} {place : Nat} {i : Instruction}
    (hi : parts.flatten[place]? = some i) {p : Point} (hp : p ∈ Inside size lower P parts place) :
    i.Obeys size lower (Through size lower P parts) parts.flatten.length place p := by
  obtain ⟨front, part, behind, conditions, k, rfl, hfirst, hlast, hobeys, hk, rfl, hp⟩ := hp
  have hpart : part[k]? = some i := by
    rw [← hi, List.flatten_append, List.flatten_cons,
      List.getElem?_append_right (Nat.le_add_right _ _), Nat.add_sub_cancel_left,
      List.getElem?_append_left hk]
  refine ⟨(hobeys k i hpart p hp).safe, fun target q hleads => ?_⟩
  obtain ⟨next, hnext, heq, hq⟩ := (hobeys k i hpart p hp).leads target q hleads
  refine ⟨front.flatten.length + next, ?_, by omega, ?_⟩
  · simp only [List.flatten_append, List.flatten_cons, List.length_append]
    omega
  · rcases Nat.lt_or_eq_of_le hnext with hlt | rfl
    · exact .inr ⟨front, part, behind, conditions, next, rfl, hfirst, hlast, hobeys, hlt, rfl, hq⟩
    · have hjoint := end_mem_joints 0 front part behind
      rw [Nat.zero_add] at hjoint
      exact .inl ⟨hjoint, hlast hq⟩

/-- A way at a joint enters the part that begins there, or it goes to another joint. -/
theorem joint_obeys {parts : List Code} (h : AreParts size lower P (joints 0 parts) 0 parts)
    {place : Nat} {i : Instruction} (hi : parts.flatten[place]? = some i)
    (hjoint : place ∈ joints 0 parts) {p : Point} (hp : p ∈ P) :
    i.Obeys size lower (Through size lower P parts) parts.flatten.length place p := by
  obtain ⟨front, part, behind, rfl, hplace, hfirst⟩ := exists_part_at_joint hjoint hi
  cases h.isPart with
  | keeps hkeeps =>
    obtain ⟨conditions, hentry, hexit, hobeys⟩ := hkeeps
    have hlength := (List.getElem?_eq_some_iff.mp hfirst).1
    rw [Nat.zero_add] at hplace
    exact inside_obeys hi
      ⟨front, part, behind, conditions, 0, rfl, hentry, hexit, hobeys, hlength, hplace, hentry hp⟩
  | single turns meets =>
    cases hfirst
    refine ⟨turns.safe p hp, fun target q hleads => ?_⟩
    obtain ⟨htarget, hq⟩ := turns.leads p hp target q hleads
    obtain ⟨next, hnext, heq⟩ := meets target htarget
    have hle := (le_of_mem_joints hnext).2
    rw [Nat.zero_add] at hle
    exact ⟨next, hle, by rw [heq, ← hplace], .inl ⟨hnext, hq⟩⟩

/-- Code whose parts keep a condition keeps it. -/
theorem keeps_flatten {parts : List Code}
    (h : AreParts size lower P (joints 0 parts) 0 parts) : Keeps size lower P parts.flatten := by
  refine ⟨Through size lower P parts, fun p hp => .inl ⟨mem_joints_self _ _, hp⟩, ?_, ?_⟩
  · rintro p (⟨-, hp⟩ | ⟨front, part, behind, conditions, k, rfl, -, -, -, hk, hplace, -⟩)
    · exact hp
    · simp only [List.flatten_append, List.flatten_cons, List.length_append] at hplace
      omega
  · rintro place i hi p (⟨hjoint, hp⟩ | hp)
    · exact joint_obeys h hi hjoint hp
    · exact inside_obeys hi hp

/-- The parts of code keep a condition, so the code keeps it. -/
theorem keeps_of_parts {code : Code} (parts : List Code) (heq : parts.flatten = code)
    (h : AreParts size lower P (joints 0 parts) 0 parts) : Keeps size lower P code :=
  heq ▸ keeps_flatten h

/-- Code of one instruction that goes on to the next. -/
theorem keeps_singleton {i : Instruction} (h : i.Turns size lower P [1]) : Keeps size lower P [i] := by
  change Keeps size lower P (List.flatten [[i]])
  exact keeps_flatten ⟨.goes h ⟨1, List.mem_cons_of_mem _ List.mem_cons_self, rfl⟩, trivial⟩

/-- Codes in a row that keep a condition. -/
theorem keeps_flatten_of_forall {codes : List Code} (h : ∀ code ∈ codes, Keeps size lower P code) :
    Keeps size lower P codes.flatten := by
  have hparts (joints : List Nat) (place : Nat) : AreParts size lower P joints place codes := by
    induction codes generalizing place with
    | nil => trivial
    | cons code codes ih =>
      obtain ⟨hcode, hcodes⟩ := List.forall_mem_cons.mp h
      exact ⟨.keeps hcode, ih hcodes _⟩
  exact keeps_flatten (hparts _ _)

/-- Two codes in a row that keep a condition. -/
theorem Keeps.append {first second : Code} (hfirst : Keeps size lower P first)
    (hsecond : Keeps size lower P second) : Keeps size lower P (first ++ second) := by
  have hboth : Keeps size lower P [first, second].flatten :=
    keeps_flatten_of_forall (List.forall_mem_cons.mpr ⟨hfirst, List.forall_mem_singleton.mpr hsecond⟩)
  rwa [List.flatten_cons, List.flatten_singleton] at hboth

end Code

namespace Instruction

/-- A jump goes to its target. -/
theorem turns_jump (goal : Int) : (jump goal).Turns size lower P [goal] where
  safe _ _ := trivial
  leads := by
    rintro p hp target q ⟨rfl, rfl⟩
    exact ⟨List.mem_cons_self, hp⟩

/-- A split goes to one of its targets. -/
theorem turns_split (first second : Int) : (split first second).Turns size lower P [first, second] where
  safe _ _ := trivial
  leads := by
    rintro p hp target q ⟨htarget, rfl⟩
    exact ⟨List.mem_pair.mpr htarget, hp⟩

/-- A repetition goes inward or outward. -/
theorem turns_prefer (greedy : Bool) (inward outward : Int) :
    (prefer greedy inward outward).Turns size lower P [inward, outward] := by
  cases greedy with
  | true => exact turns_split inward outward
  | false =>
    have hturns : (split outward inward).Turns size lower P [outward, inward] := turns_split _ _
    refine ⟨hturns.safe, fun p hp target q hleads => ?_⟩
    obtain ⟨htarget, hq⟩ := hturns.leads p hp target q hleads
    exact ⟨List.mem_pair.mpr (List.mem_pair.mp htarget).symm, hq⟩

/-- A position is noted. It is the beginning of the match only if no point is in front of `lower`. -/
theorem turns_save {slot : Nat} (h : slot = 0 → ∀ p ∈ P, lower ≤ p.place) :
    (save slot).Turns size lower P [1] where
  safe p hp hzero := h hzero p hp
  leads := by
    rintro p hp target q ⟨rfl, rfl⟩
    exact ⟨List.mem_cons_self, hp⟩

/-- The instruction neither moves nor changes a register. -/
def IsStill : Instruction → Prop
  | check _ | groupMatched _ | searchStart | beginAtomic | endAtomic => True
  | _ => False

/-- An instruction that changes nothing goes on. -/
theorem IsStill.turns {i : Instruction} (h : i.IsStill) : i.Turns size lower P [1] := by
  cases i with
  | check _ | groupMatched _ | searchStart | beginAtomic | endAtomic =>
    refine ⟨fun _ _ => trivial, ?_⟩
    rintro p hp target q ⟨rfl, rfl⟩
    exact ⟨List.mem_cons_self, hp⟩
  | _ => exact h.elim

end Instruction

/-- A condition that code for an expression at a depth keeps: going forward in the text does not break it,
and neither does a change of the registers which are free at the depth. -/
structure Steady (size registers depth : Nat) (P : Set Point) : Prop where
  /-- No position is beyond the text. -/
  inside : ∀ p ∈ P, p.place ≤ size
  /-- There are that many registers. -/
  count : ∀ p ∈ P, p.registers.size = registers
  /-- Going forward does not break it. -/
  later : ∀ p ∈ P, ∀ place, p.place ≤ place → place ≤ size → ⟨place, p.registers⟩ ∈ P
  /-- Changing free registers does not break it. -/
  below : ∀ p ∈ P, ∀ changed, SameBelow (2 * depth) p.registers changed → ⟨p.place, changed⟩ ∈ P

/-- Registers that agree below a number agree below a lower one. -/
theorem SameBelow.mono {low high : Nat} {before after : Array Nat} (h : SameBelow high before after)
    (hle : low ≤ high) : SameBelow low before after :=
  ⟨h.size_eq, fun r hr => h.getElem?_eq r (hr.trans_le hle)⟩

/-- Registers that agree with others agree with what those agree with. -/
theorem SameBelow.trans {register : Nat} {before between after : Array Nat}
    (h : SameBelow register before between) (h' : SameBelow register between after) :
    SameBelow register before after :=
  ⟨h'.size_eq.trans h.size_eq, fun r hr => (h'.getElem?_eq r hr).trans (h.getElem?_eq r hr)⟩

/-- A condition that is steady at a depth is steady at the next one. -/
theorem Steady.deeper {registers depth : Nat} (hP : Steady size registers depth P) :
    Steady size registers (depth + 1) P :=
  ⟨hP.inside, hP.count, hP.later, fun p hp changed hsame =>
    hP.below p hp changed (hsame.mono (by omega))⟩

namespace Instruction

variable {registers depth : Nat}

/-- A character is taken. -/
theorem turns_take (hP : Steady size registers depth P) (test : CharTest) :
    (take test).Turns size lower P [1] where
  safe _ _ := trivial
  leads := by
    rintro p hp target ⟨place, changed⟩ ⟨rfl, rfl, hle, rfl⟩
    exact ⟨List.mem_cons_self, hP.later p hp _ (Nat.le_succ _) hle⟩

/-- The text of a group is taken. -/
theorem turns_backreference (hP : Steady size registers depth P) (number : Nat) :
    (backreference number).Turns size lower P [1] where
  safe _ _ := trivial
  leads := by
    rintro p hp target ⟨place, changed⟩ ⟨rfl, hle, hsize, rfl⟩
    exact ⟨List.mem_cons_self, hP.later p hp _ hle hsize⟩

/-- Linear code matches. It sets groups, but not the whole match. -/
theorem turns_linear (hP : Steady size registers depth P) (code : Array Linear.Inst) {groups : List Nat}
    (hgroups : 0 ∉ groups) : (linear code groups).Turns size lower P [1] where
  safe _ _ hzero := absurd hzero hgroups
  leads := by
    rintro p hp target ⟨place, changed⟩ ⟨rfl, hle, hsize, rfl⟩
    exact ⟨List.mem_cons_self, hP.later p hp _ hle hsize⟩

/-- A free register is set to zero. -/
theorem turns_clear (hP : Steady size registers depth P) :
    (clear (2 * depth)).Turns size lower P [1] where
  safe _ _ := trivial
  leads := by
    rintro p hp target ⟨place, changed⟩ ⟨rfl, rfl, hsame⟩
    exact ⟨List.mem_cons_self, hP.below p hp changed hsame⟩

/-- An occurrence is counted in a free register. -/
theorem turns_count (hP : Steady size registers depth P) (low : Nat) (high : Option Nat) (greedy : Bool)
    (exit : Int) : (count low high greedy (2 * depth) exit).Turns size lower P [1, exit] where
  safe _ _ := trivial
  leads := by
    rintro p hp target ⟨place, changed⟩ ⟨htarget, rfl, hsame⟩
    exact ⟨List.mem_pair.mpr htarget, hP.below p hp changed hsame⟩

/-- An occurrence that can be empty is counted in a free register. -/
theorem turns_countEmpty (hP : Steady size registers depth P) (low : Nat) (greedy : Bool) (exit : Int) :
    (countEmpty low greedy (2 * depth) exit).Turns size lower P [1, exit] where
  safe _ _ := trivial
  leads := by
    rintro p hp target ⟨place, changed⟩ ⟨htarget, rfl, hsame⟩
    exact ⟨List.mem_pair.mpr htarget, hP.below p hp changed hsame⟩

end Instruction

namespace Code

open Instruction

/-- A choice between codes that keep a condition. -/
theorem keeps_choice {codes : List Code} (h : ∀ code ∈ codes, Keeps size lower P code) :
    Keeps size lower P (choice codes) := by
  fun_induction choice codes with
  | case1 => exact keeps_flatten_of_forall (List.forall_mem_nil _)
  | case2 code => exact h code List.mem_cons_self
  | case3 code codes hne others ih =>
    obtain ⟨hcode, hcodes⟩ := List.forall_mem_cons.mp h
    refine keeps_of_parts
      [[.split 1 (code.length + 2)], code, [.jump (others.length + 1)], others] (by simp)
      ⟨.forks (turns_split _ _) ?_ ?_, .keeps hcode, .goes (turns_jump _) ?_, .keeps (ih hcodes), trivial⟩
    all_goals
      simp only [exists_joint_cons, exists_joint_nil, List.length_singleton]
      omega

/-- A repetition of code that keeps a condition, where the registers from twice the depth on are free. -/
theorem keeps_repetition {registers depth : Nat} (hP : Steady size registers depth P) (low : Nat)
    (high : Option Nat) (greedy nullable : Bool) {code : Code} (h : Keeps size lower P code) :
    Keeps size lower P (repetition low high greedy nullable (2 * depth) code) := by
  unfold repetition
  dsimp only
  split
  -- The content may be left out.
  · refine keeps_of_parts [[.prefer greedy 1 (code.length + 1)], code] (by simp)
      ⟨.forks (turns_prefer _ _ _) ?_ ?_, .keeps h, trivial⟩
    all_goals
      simp only [exists_joint_cons, exists_joint_nil, List.length_singleton]
      omega
  split
  -- The content can be empty, so a register holds where an occurrence began.
  · refine keeps_of_parts [[.clear (2 * depth)], [.countEmpty low greedy (2 * depth) (code.length + 2)],
      code, [.jump (-(code.length + 1 : Nat))]] (by simp)
      ⟨.goes (turns_clear hP) ?_, .forks (turns_countEmpty hP _ _ _) ?_ ?_, .keeps h,
        .goes (turns_jump _) ?_, trivial⟩
    all_goals
      simp only [exists_joint_cons, exists_joint_nil, List.length_singleton]
      omega
  split
  -- The content occurs any number of times.
  · refine keeps_of_parts [[.prefer greedy 1 (code.length + 2)], code,
      [.jump (-(code.length + 1 : Nat))]] (by simp)
      ⟨.forks (turns_prefer _ _ _) ?_ ?_, .keeps h, .goes (turns_jump _) ?_, trivial⟩
    all_goals
      simp only [exists_joint_cons, exists_joint_nil, List.length_singleton]
      omega
  split
  -- The content occurs once at least.
  · refine keeps_of_parts [code, [.prefer greedy (-code.length) 1]] (by simp)
      ⟨.keeps h, .forks (turns_prefer _ _ _) ?_ ?_, trivial⟩
    all_goals
      simp only [exists_joint_cons, exists_joint_nil, List.length_singleton]
      omega
  -- The occurrences are counted.
  · refine keeps_of_parts [[.clear (2 * depth)],
      [.count low high greedy (2 * depth) (code.length + 2)], code,
      [.jump (-(code.length + 1 : Nat))]] (by simp)
      ⟨.goes (turns_clear hP) ?_, .forks (turns_count hP _ _ _ _) ?_ ?_, .keeps h,
        .goes (turns_jump _) ?_, trivial⟩
    all_goals
      simp only [exists_joint_cons, exists_joint_nil, List.length_singleton]
      omega

/-- Code between two instructions that go on. -/
theorem Keeps.between {code : Code} (h : Keeps size lower P code) {first last : Instruction}
    (hfirst : first.Turns size lower P [1]) (hlast : last.Turns size lower P [1]) :
    Keeps size lower P (first :: code ++ [last]) :=
  ((keeps_singleton hfirst).append h).append (keeps_singleton hlast)

/-- A conditional of codes that keep a condition. -/
theorem keeps_conditional {condition ifTrue ifFalse : Code} (hcondition : Keeps size lower P condition)
    (htrue : Keeps size lower P ifTrue) (hfalse : Keeps size lower P ifFalse) :
    Keeps size lower P (conditional condition ifTrue ifFalse) := by
  have hbegin : beginAtomic.Turns size lower P [1] := IsStill.turns trivial
  have hend : endAtomic.Turns size lower P [1] := IsStill.turns trivial
  unfold conditional
  refine keeps_of_parts [[.beginAtomic], [.split 1 (condition.length + ifTrue.length + 3)], condition,
    [.endAtomic], ifTrue, [.jump (ifFalse.length + 1)], ifFalse] (by simp)
    ⟨.goes hbegin ?_, .forks (turns_split _ _) ?_ ?_, .keeps hcondition, .goes hend ?_, .keeps htrue,
      .goes (turns_jump _) ?_, .keeps hfalse, trivial⟩
  all_goals
    simp only [exists_joint_cons, exists_joint_nil, List.length_singleton]
    omega

/-- Conditions for code of a length between two instructions: the given one in front of the first of them
and behind the last one, and the conditions of the code in between. -/
def surround (P : Set Point) (length : Nat) (conditions : Nat → Set Point) (place : Nat) : Set Point :=
  if place = 0 ∨ length + 2 ≤ place then P else conditions (place - 1)

/-- Behind the last instruction the given condition holds. -/
theorem surround_end (P : Set Point) (length : Nat) (conditions : Nat → Set Point) :
    surround P length conditions (length + 2) = P :=
  if_pos (.inr le_rfl)

/-- Between the instructions the conditions of the code hold. -/
theorem surround_succ (P : Set Point) {length place : Nat} (conditions : Nat → Set Point)
    (h : place ≤ length) : surround P length conditions (place + 1) = conditions place :=
  if_neg (by omega)

/-- Code between two instructions inside of which another condition holds: the first one leads inside or
past the whole, and the last one leads out of it or nowhere. -/
theorem Keeps.within {Q : Set Point} {code : Code} (h : Keeps size lower Q code)
    {first last : Instruction} (hfirst : ∀ p ∈ P, first.Safe size lower p)
    (hlast : ∀ p ∈ Q, last.Safe size lower p)
    (hinward : ∀ p ∈ P, ∀ target q, first.Leads size p target q →
      target = 1 ∧ q ∈ Q ∨ target = code.length + 2 ∧ q ∈ P)
    (houtward : ∀ p ∈ Q, ∀ target q, last.Leads size p target q → target = 1 ∧ q ∈ P) :
    Keeps size lower P (first :: code ++ [last]) := by
  obtain ⟨conditions, hentry, hexit, hobeys⟩ := h
  have hlength : (first :: code ++ [last]).length = code.length + 2 := by simp
  refine ⟨surround P code.length conditions, fun p hp => hp, ?_, fun place i hi p hp => ?_⟩
  · rw [hlength, surround_end]
  rw [hlength]
  cases place with
  | zero =>
    cases hi
    refine ⟨hfirst p hp, fun target q hleads => ?_⟩
    obtain ⟨rfl, hq⟩ | ⟨rfl, hq⟩ := hinward p hp target q hleads
    · exact ⟨1, by omega, by omega, by rw [surround_succ P conditions (Nat.zero_le _)]; exact hentry hq⟩
    · exact ⟨code.length + 2, le_rfl, by omega, by rwa [surround_end]⟩
  | succ k =>
    have hlt := (List.getElem?_eq_some_iff.mp hi).1
    have hk : k ≤ code.length := by omega
    rw [surround_succ P conditions hk] at hp
    rw [List.cons_append, List.getElem?_cons_succ] at hi
    rcases Nat.lt_or_eq_of_le hk with hinner | rfl
    · rw [List.getElem?_append_left hinner] at hi
      refine ⟨(hobeys k i hi p hp).safe, fun target q hleads => ?_⟩
      obtain ⟨next, hnext, heq, hq⟩ := (hobeys k i hi p hp).leads target q hleads
      exact ⟨next + 1, by omega, by omega, by rwa [surround_succ P conditions hnext]⟩
    · rw [List.getElem?_append_right le_rfl, Nat.sub_self] at hi
      cases hi
      refine ⟨hlast p (hexit hp), fun target q hleads => ?_⟩
      obtain ⟨rfl, hq⟩ := houtward p (hexit hp) target q hleads
      exact ⟨code.length + 2, le_rfl, by omega, by rwa [surround_end]⟩

end Code

/-- What holds inside a look, given what holds in front of it. A look back may be in front of all places
that the condition allows, but a place is known at which it holds: for a look that has to match, the one
that is kept in the register. -/
def Look.inside (size register : Nat) (P : Set Point) (kind : Look) : Set Point :=
  {p | (kind.isBehind = false → p ∈ P) ∧ p.place ≤ size ∧
    ∃ place, (kind.isPositive = true → place = p.registers[register]?.getD 0) ∧ ⟨place, p.registers⟩ ∈ P}

/-- Setting a register leaves those below it as they are. -/
theorem sameBelow_set (before : Array Nat) (register value : Nat) :
    SameBelow register before (before.setIfInBounds register value) :=
  ⟨Array.size_setIfInBounds, fun _ hr => Array.getElem?_setIfInBounds_ne hr.ne'⟩

/-- Going back at the beginning of a look back keeps the condition inside. -/
theorem Instruction.turns_goBack {kind : Look} (hbehind : kind.isBehind = true) (register length : Nat) :
    (goBack length).Turns size lower (kind.inside size register P) [1] where
  safe _ _ := trivial
  leads := by
    rintro p ⟨-, hsize, hkept⟩ target ⟨place, changed⟩ ⟨rfl, hback, rfl⟩
    refine ⟨List.mem_cons_self, fun hahead => ?_, by omega, hkept⟩
    rw [hbehind] at hahead
    cases hahead

section Look

variable {registers depth : Nat} (hP : Steady size registers depth P) (kind : Look)

include hP

/-- The condition inside a look is steady at the next depth. -/
theorem Steady.inside_look : Steady size registers (depth + 1) (kind.inside size (2 * depth) P) where
  inside := fun p hp => hp.2.1
  count := by
    rintro p ⟨-, -, place, -, hkept⟩
    exact hP.count ⟨place, p.registers⟩ hkept
  later := by
    rintro p ⟨hhere, -, place, hplace, hkept⟩ later hle hsize
    exact ⟨fun hbehind => hP.later p (hhere hbehind) later hle hsize, hsize, place, hplace, hkept⟩
  below := by
    rintro p ⟨hhere, hsize, place, hplace, hkept⟩ changed hsame
    have hlow : SameBelow (2 * depth) p.registers changed := hsame.mono (by omega)
    refine ⟨fun hbehind => hP.below p (hhere hbehind) changed hlow, hsize, place, fun hpositive => ?_,
      hP.below _ hkept changed hlow⟩
    rw [hplace hpositive, hsame.getElem?_eq (2 * depth) (by omega)]

/-- A look at code that keeps the condition inside. -/
theorem Code.keeps_look (hroom : 2 * depth < registers) {code : Code}
    (h : Keeps size lower (kind.inside size (2 * depth) P) code) :
    Keeps size lower P (look kind.isPositive (2 * depth) code) := by
  unfold look
  split
  · rename_i hpositive
    refine h.within (fun _ _ => trivial) ?_ ?_ ?_
    · rintro p ⟨-, -, place, hplace, hkept⟩
      exact (hplace hpositive).symm.trans_le (hP.inside _ hkept)
    · rintro p hp target q ⟨rfl, rfl⟩
      have hset := hP.below p hp _ (sameBelow_set p.registers (2 * depth) p.place)
      refine .inl ⟨rfl, fun _ => hset, hP.inside p hp, p.place, fun _ => ?_, hset⟩
      rw [Array.getElem?_setIfInBounds_self_of_lt (by rw [hP.count p hp]; exact hroom), Option.getD_some]
    · rintro p ⟨-, -, place, hplace, hkept⟩ target q ⟨rfl, rfl⟩
      rw [← hplace hpositive]
      exact ⟨rfl, hkept⟩
  · rename_i hnegative
    refine h.within (fun _ _ => trivial) (fun _ _ => trivial) ?_ ?_
    · rintro p hp target q ⟨rfl | rfl, rfl⟩
      · exact .inl ⟨rfl, fun _ => hp, hP.inside _ hp, _, fun hpositive => absurd hpositive hnegative, hp⟩
      · exact .inr ⟨rfl, hp⟩
    · rintro p - target q hleads
      exact hleads.elim

end Look

end Railroad.Regex
