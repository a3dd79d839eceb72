import Railroad.Proofs.Keeping

/-!
# What compiled expressions keep

The code of an expression keeps every condition that is steady at its depth, whatever the expression is.
Only where the beginning of the match is moved inside a look back, the machine may note a position in front
of the one where the search began. The program that searches for an expression keeps the condition that the
position is between the beginning of the search and the end of the text.
-/

namespace Railroad.Regex

namespace Expr

mutual

/-- Whether the beginning of the match is moved nowhere inside a look back. It is told whether the expression
itself stands inside one. -/
def movesAhead (behind : Bool) : Expr → Bool
  | concat parts => allMoveAhead behind parts
  | alternatives options => allMoveAhead behind options
  | group _ content => content.movesAhead behind
  | look kind content => content.movesAhead (behind || kind.isBehind)
  | atomic content => content.movesAhead behind
  | conditional condition ifTrue ifFalse =>
    condition.movesAhead behind && ifTrue.movesAhead behind && ifFalse.movesAhead behind
  | repeated _ _ _ content => content.movesAhead behind
  | keepOut => !behind
  | empty | any _ | literal _ _ | shorthand _ _ _ | bracket _ _ | assertion _ | backreference _
  | groupMatched _ | searchStart => true

/-- Whether none of several expressions moves the beginning of the match inside a look back. -/
def allMoveAhead (behind : Bool) : List Expr → Bool
  | [] => true
  | e :: es => e.movesAhead behind && allMoveAhead behind es

end

/-- What is asked of an expression whose code stands at a depth: there are registers enough, no group has
the number of the whole match, and if points may be in front of `lower` inside looks back, the beginning of
the match is not moved there. -/
structure Suits (registers lower depth : Nat) (behind : Bool) (e : Expr) : Prop where
  /-- There are registers for all that is nested in the expression. -/
  room : 2 * (depth + e.nesting) ≤ registers
  /-- No group has the number of the whole match. -/
  groups : 0 ∉ e.groups
  /-- Where the beginning of the match is moved. -/
  start : lower = 0 ∨ e.movesAhead behind = true

/-- The nesting of one of several expressions is at most theirs. -/
theorem nesting_le_of_mem {e : Expr} {es : List Expr} (h : e ∈ es) : e.nesting ≤ nestingOfAll es := by
  induction es with
  | nil => cases h
  | cons first es ih =>
    rw [nestingOfAll]
    obtain rfl | hmem := List.mem_cons.mp h
    · exact Nat.le_max_left _ _
    · exact (ih hmem).trans (Nat.le_max_right _ _)

/-- The groups of several expressions are those of each of them. -/
theorem groupsOfAll_eq (es : List Expr) : groupsOfAll es = es.flatMap groups := by
  induction es with
  | nil => rfl
  | cons e es ih => rw [groupsOfAll, List.flatMap_cons, ih]

/-- Several expressions move the beginning of the match as each of them does. -/
theorem allMoveAhead_eq (behind : Bool) (es : List Expr) :
    allMoveAhead behind es = es.all (movesAhead behind) := by
  induction es with
  | nil => rfl
  | cons e es ih => rw [allMoveAhead, List.all_cons, ih]

section Parts

variable {registers lower depth : Nat} {behind : Bool}

/-- What is asked of expressions in a list is asked of each of them. -/
theorem suits_of_mem {es : List Expr} {e : Expr} (hroom : 2 * (depth + nestingOfAll es) ≤ registers)
    (hgroups : 0 ∉ groupsOfAll es) (hstart : lower = 0 ∨ allMoveAhead behind es = true) (h : e ∈ es) :
    e.Suits registers lower depth behind where
  room := by
    have hle := nesting_le_of_mem h
    omega
  groups hzero := hgroups (groupsOfAll_eq es ▸ List.mem_flatMap.mpr ⟨e, h, hzero⟩)
  start := hstart.imp_right fun hall => List.all_eq_true.mp (allMoveAhead_eq behind es ▸ hall) e h

/-- The parts of a sequence. -/
theorem Suits.concat {parts : List Expr} (h : (concat parts).Suits registers lower depth behind) :
    ∀ e ∈ parts, e.Suits registers lower depth behind :=
  fun _ he => suits_of_mem h.room h.groups h.start he

/-- The alternatives of a choice. -/
theorem Suits.alternatives {options : List Expr}
    (h : (alternatives options).Suits registers lower depth behind) :
    ∀ e ∈ options, e.Suits registers lower depth behind :=
  fun _ he => suits_of_mem h.room h.groups h.start he

/-- The content of a group. -/
theorem Suits.group {number : Nat} {content : Expr}
    (h : (group number content).Suits registers lower depth behind) :
    number ≠ 0 ∧ content.Suits registers lower depth behind := by
  have hgroups := h.groups
  rw [Expr.groups, List.mem_cons, not_or] at hgroups
  exact ⟨Ne.symm hgroups.1, h.room, hgroups.2, h.start⟩

/-- The content of a repetition, which has a register more in use. -/
theorem Suits.repeated {low : Nat} {high : Option Nat} {greedy : Bool} {content : Expr}
    (h : (repeated low high greedy content).Suits registers lower depth behind) :
    content.Suits registers lower (depth + 1) behind := by
  have hroom := h.room
  rw [nesting] at hroom
  exact ⟨by omega, h.groups, h.start⟩

/-- What a look looks at, which has a register more in use. -/
theorem Suits.look {kind : Look} {content : Expr}
    (h : (look kind content).Suits registers lower depth behind) :
    2 * depth < registers ∧ content.Suits registers lower (depth + 1) (behind || kind.isBehind) := by
  have hroom := h.room
  rw [nesting] at hroom
  exact ⟨by omega, by omega, h.groups, h.start⟩

/-- The content of an atomic group. -/
theorem Suits.atomic {content : Expr} (h : (atomic content).Suits registers lower depth behind) :
    content.Suits registers lower depth behind :=
  ⟨h.room, h.groups, h.start⟩

/-- The parts of a conditional. -/
theorem Suits.conditional {condition ifTrue ifFalse : Expr}
    (h : (conditional condition ifTrue ifFalse).Suits registers lower depth behind) :
    condition.Suits registers lower depth behind ∧ ifTrue.Suits registers lower depth behind ∧
      ifFalse.Suits registers lower depth behind := by
  have hroom := h.room
  have hgroups := h.groups
  have hstart := h.start
  rw [nesting] at hroom
  rw [Expr.groups, List.mem_append, List.mem_append, not_or, not_or] at hgroups
  rw [movesAhead, Bool.and_eq_true, Bool.and_eq_true] at hstart
  exact ⟨⟨by omega, hgroups.1.1, hstart.imp_right fun hall => hall.1.1⟩,
    ⟨by omega, hgroups.1.2, hstart.imp_right fun hall => hall.1.2⟩,
    ⟨by omega, hgroups.2, hstart.imp_right fun hall => hall.2⟩⟩

end Parts

end Expr

/-- A computation that goes on has gone well so far. -/
theorem bind_eq_ok {ε α β : Type} {x : Except ε α} {f : α → Except ε β} {b : β}
    (h : x.bind f = .ok b) : ∃ a, x = .ok a ∧ f a = .ok b := by
  cases x with
  | error e => cases h
  | ok a => exact ⟨a, rfl, h⟩

/-- What a computation gives for the members of a list comes from them. -/
theorem exists_of_mem_mapM {ε α β : Type} {f : α → Except ε β} {items : List α} {results : List β}
    (h : items.mapM f = .ok results) {result : β} (hresult : result ∈ results) :
    ∃ item ∈ items, f item = .ok result := by
  induction items generalizing results with
  | nil =>
    cases h
    cases hresult
  | cons item items ih =>
    rw [List.mapM_cons] at h
    obtain ⟨first, hfirst, h⟩ := bind_eq_ok h
    obtain ⟨more, hmore, h⟩ := bind_eq_ok h
    cases h
    obtain rfl | hmem := List.mem_cons.mp hresult
    · exact ⟨item, List.mem_cons_self, hfirst⟩
    · obtain ⟨later, hlater, heq⟩ := ih hmore hmem
      exact ⟨later, List.mem_cons_of_mem _ hlater, heq⟩

/-- Codes that are all there are among what was computed. -/
theorem ok_mem_of_mapM_id {ε α : Type} {results : List (Except ε α)} {codes : List α}
    (h : results.mapM id = .ok codes) {code : α} (hcode : code ∈ codes) : .ok code ∈ results := by
  obtain ⟨result, hmem, hok⟩ := exists_of_mem_mapM h hcode
  rwa [← show result = .ok code from hok]

namespace Expr

variable {size registers lower depth : Nat} {P : Set Point}

/-- Code that leaves expressions to linear code keeps a steady condition. -/
theorem delegated_keeps (hP : Steady size registers depth P) {parts : List Expr}
    (hgroups : ∀ e ∈ parts, 0 ∉ e.groups) {code : Code} (h : delegated parts = .ok code) :
    code.Keeps size lower P := by
  unfold delegated at h
  split at h
  · cases h
    exact Code.keeps_flatten_of_forall (List.forall_mem_nil _)
  · split at h
    · rename_i tests _
      cases h
      rw [List.map_eq_flatMap, List.flatMap_def]
      exact Code.keeps_flatten_of_forall (List.forall_mem_map.mpr fun test _ =>
        Code.keeps_singleton (Instruction.turns_take hP test))
    · obtain ⟨inner, -, h⟩ := bind_eq_ok h
      cases h
      refine Code.keeps_singleton (Instruction.turns_linear hP _ ?_)
      rw [groupsOfAll_eq, List.mem_flatMap]
      rintro ⟨e, he, hzero⟩
      exact hgroups e he hzero

/-- An expression where it stands is left to linear code, or it keeps what its code keeps. -/
theorem inPlace_keeps (hP : Steady size registers depth P) {referenced : List Nat} {hard : Bool} {e : Expr}
    (hgroups : 0 ∉ e.groups) {result : Except Error Code}
    (hresult : ∀ code, result = .ok code → code.Keeps size lower P) {code : Code}
    (h : inPlace referenced hard e result = .ok code) : code.Keeps size lower P := by
  unfold inPlace at h
  split at h
  · exact delegated_keeps hP (List.forall_mem_singleton.mpr hgroups) h
  · exact hresult code h

/-- A sequence keeps what the codes of its parts keep. -/
theorem sequenceCode_keeps (hP : Steady size registers depth P) {referenced : List Nat} {hard : Bool}
    {parts : List Expr} (hgroups : ∀ e ∈ parts, 0 ∉ e.groups) {results : List (Except Error Code)}
    (hresults : ∀ code, .ok code ∈ results → code.Keeps size lower P) {code : Code}
    (h : sequenceCode referenced hard parts results = .ok code) : code.Keeps size lower P := by
  unfold sequenceCode at h
  obtain ⟨beginning, hbeginning, h⟩ := bind_eq_ok h
  obtain ⟨inner, hinner, h⟩ := bind_eq_ok h
  obtain ⟨ending, hending, h⟩ := bind_eq_ok h
  cases h
  have hmiddle : Code.Keeps size lower P inner.flatten := by
    refine Code.keeps_flatten_of_forall fun code hcode => ?_
    have hmem := ok_mem_of_mapM_id hinner hcode
    exact hresults code (List.mem_of_mem_drop (List.mem_of_mem_take hmem))
  exact ((delegated_keeps hP (fun e he => hgroups e (List.mem_of_mem_take he)) hbeginning).append
    hmiddle).append (delegated_keeps hP (fun e he => hgroups e (List.mem_of_mem_drop he)) hending)

/-- A look keeps a condition if its code keeps the condition inside. -/
theorem lookCode_keeps (hP : Steady size registers depth P) (hroom : 2 * depth < registers) {kind : Look}
    {content : Expr} {result : Except Error Code}
    (hresult : ∀ code, result = .ok code → code.Keeps size lower (kind.inside size (2 * depth) P))
    {code : Code} (h : lookCode kind depth content result = .ok code) : code.Keeps size lower P := by
  unfold lookCode at h
  split at h
  · rename_i hbehind
    split at h
    · obtain ⟨inner, hinner, h⟩ := bind_eq_ok h
      cases h
      exact Code.keeps_look hP kind hroom
        ((Code.keeps_singleton (Instruction.turns_goBack hbehind _ _)).append (hresult inner hinner))
    · cases h
  · obtain ⟨inner, hinner, h⟩ := bind_eq_ok h
    cases h
    exact Code.keeps_look hP kind hroom (hresult inner hinner)

/-- Where a look stands, it moves the beginning of the match only to places that are not in front of
`lower`, unless it is a look back. -/
theorem lower_le_inside {behind : Bool} (hlower : behind = false → ∀ p ∈ P, lower ≤ p.place) (kind : Look)
    (register : Nat) :
    (behind || kind.isBehind) = false → ∀ p ∈ kind.inside size register P, lower ≤ p.place := by
  intro hboth p hp
  obtain ⟨hfalse, hkind⟩ := Bool.or_eq_false_iff.mp hboth
  exact hlower hfalse p (hp.1 hkind)

mutual

/-- The code of an expression keeps every condition that is steady at its depth, as long as the beginning
of the match is not moved in front of `lower`. -/
theorem code_keeps (referenced : List Nat) (e : Expr) {depth : Nat} {hard behind : Bool} {P : Set Point}
    (hP : Steady size registers depth P) (hlower : behind = false → ∀ p ∈ P, lower ≤ p.place)
    (he : e.Suits registers lower depth behind) {code : Code}
    (h : e.code referenced depth hard = .ok code) : code.Keeps size lower P := by
  cases e with
  | empty =>
    cases h
    exact Code.keeps_flatten_of_forall (List.forall_mem_nil _)
  | any _ | literal _ _ | shorthand _ _ _ | bracket _ _ =>
    exact delegated_keeps hP (List.forall_mem_singleton.mpr he.groups) h
  | assertion _ | groupMatched _ | searchStart =>
    cases h
    exact Code.keeps_singleton (Instruction.IsStill.turns trivial)
  | backreference number =>
    cases h
    exact Code.keeps_singleton (Instruction.turns_backreference hP number)
  | keepOut =>
    cases h
    refine Code.keeps_singleton (Instruction.turns_save fun _ p hp => ?_)
    obtain rfl | hbehind := he.start
    · exact Nat.zero_le _
    · exact hlower (Bool.not_eq_true' _ ▸ hbehind) p hp
  | concat parts =>
    rw [Expr.code] at h
    exact sequenceCode_keeps hP (fun e hmem => (he.concat e hmem).groups)
      (codes_keep referenced parts hP hlower he.concat) h
  | alternatives options =>
    rw [Expr.code] at h
    obtain ⟨codes, hcodes, h⟩ := bind_eq_ok h
    cases h
    exact Code.keeps_choice fun code hcode =>
      codes_keep referenced options hP hlower he.alternatives code (ok_mem_of_mapM_id hcodes hcode)
  | group number content =>
    rw [Expr.code] at h
    obtain ⟨inner, hinner, h⟩ := bind_eq_ok h
    cases h
    obtain ⟨hnumber, hcontent⟩ := he.group
    have hkeeps : Code.Keeps size lower P inner := inPlace_keeps hP hcontent.groups
      (fun code hcode => code_keeps referenced content hP hlower hcontent hcode) hinner
    exact hkeeps.between (Instruction.turns_save fun hzero => by omega)
      (Instruction.turns_save fun hzero => by omega)
  | repeated low high greedy content =>
    rw [Expr.code] at h
    obtain ⟨inner, hinner, h⟩ := bind_eq_ok h
    cases h
    have hkeeps : Code.Keeps size lower P inner := inPlace_keeps hP he.repeated.groups
      (fun code hcode => code_keeps referenced content hP.deeper hlower he.repeated hcode) hinner
    exact Code.keeps_repetition hP _ _ _ _ hkeeps
  | look kind content =>
    obtain ⟨hroom, hcontent⟩ := he.look
    have hinside := hP.inside_look kind
    have hlower' : (behind || kind.isBehind) = false →
        ∀ p ∈ kind.inside size (2 * depth) P, lower ≤ p.place := lower_le_inside hlower kind _
    cases content with
    | alternatives options =>
      have hcodes : ∀ code, .ok code ∈ codes referenced options (depth + 1) false →
          code.Keeps size lower (kind.inside size (2 * depth) P) :=
        codes_keep referenced options hinside hlower' hcontent.alternatives
      rw [Expr.code] at h
      split at h
      -- Alternatives of different lengths are looked at one by one.
      · obtain ⟨looks, hlooks, h⟩ := bind_eq_ok h
        cases h
        have hkeeps : ∀ code ∈ looks, Code.Keeps size lower P code := by
          intro code hcode
          obtain ⟨⟨option, result⟩, hmem, hlook⟩ := exists_of_mem_mapM hlooks hcode
          exact lookCode_keeps hP hroom
            (fun code hresult => hcodes code (hresult ▸ (List.of_mem_zip hmem).2)) hlook
        split
        · exact Code.keeps_choice hkeeps
        · exact Code.keeps_flatten_of_forall hkeeps
      · refine lookCode_keeps hP hroom (fun code hplaced => inPlace_keeps hinside hcontent.groups
          (fun code hcode => ?_) hplaced) h
        obtain ⟨inner, hinner, hcode⟩ := bind_eq_ok hcode
        cases hcode
        exact Code.keeps_choice fun code hmem => hcodes code (ok_mem_of_mapM_id hinner hmem)
    | _ =>
      exact lookCode_keeps hP hroom (fun code hcode => inPlace_keeps hinside hcontent.groups
        (fun code hcode => code_keeps referenced _ hinside hlower' hcontent hcode) hcode) h
  | atomic content =>
    rw [Expr.code] at h
    obtain ⟨inner, hinner, h⟩ := bind_eq_ok h
    cases h
    have hkeeps : Code.Keeps size lower P inner := inPlace_keeps hP he.atomic.groups
      (fun code hcode => code_keeps referenced content hP hlower he.atomic hcode) hinner
    exact hkeeps.between (Instruction.IsStill.turns trivial) (Instruction.IsStill.turns trivial)
  | conditional condition ifTrue ifFalse =>
    rw [Expr.code] at h
    obtain ⟨first, hfirst, h⟩ := bind_eq_ok h
    obtain ⟨second, hsecond, h⟩ := bind_eq_ok h
    obtain ⟨third, hthird, h⟩ := bind_eq_ok h
    cases h
    obtain ⟨hcondition, htrue, hfalse⟩ := he.conditional
    exact Code.keeps_conditional
      (inPlace_keeps hP hcondition.groups
        (fun code hcode => code_keeps referenced condition hP hlower hcondition hcode) hfirst)
      (inPlace_keeps hP htrue.groups
        (fun code hcode => code_keeps referenced ifTrue hP hlower htrue hcode) hsecond)
      (inPlace_keeps hP hfalse.groups
        (fun code hcode => code_keeps referenced ifFalse hP hlower hfalse hcode) hthird)

/-- The same for the codes of several expressions where they stand. -/
theorem codes_keep (referenced : List Nat) (es : List Expr) {depth : Nat} {hard behind : Bool}
    {P : Set Point} (hP : Steady size registers depth P)
    (hlower : behind = false → ∀ p ∈ P, lower ≤ p.place)
    (hes : ∀ e ∈ es, e.Suits registers lower depth behind) :
    ∀ code, .ok code ∈ codes referenced es depth hard → code.Keeps size lower P := by
  cases es with
  | nil =>
    intro code hmem
    cases hmem
  | cons e es =>
    obtain ⟨he, hmore⟩ := List.forall_mem_cons.mp hes
    intro code hmem
    rw [Expr.codes] at hmem
    obtain heq | hlater := List.mem_cons.mp hmem
    · exact inPlace_keeps hP he.groups
        (fun code hcode => code_keeps referenced e hP hlower he hcode) heq.symm
    · exact codes_keep referenced es hP hlower hmore code hlater

end

end Expr

end Railroad.Regex
