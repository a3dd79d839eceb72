import Railroad.Proofs.Onward
import Railroad.Proofs.Turns

/-!
# Groups of the engine

The engine numbers the groups that it reads from one on, in the order in which they open. A match has all of
them, except that linear code leaves out the ones behind the last that it can set.
-/

namespace Railroad.Regex

mutual

/-- The greatest number that linear code can set is the number of a group, if there is one. -/
theorem Expr.lastGroup_mem (e : Expr) : e.lastGroup = 0 ∨ e.lastGroup ∈ e.groups := by
  cases e with
  | concat parts => exact Expr.lastGroupOfAll_mem parts
  | alternatives options => exact Expr.lastGroupOfAll_mem options
  | group number content =>
    right
    rw [Expr.lastGroup, Expr.groups]
    rcases Nat.le_total content.lastGroup number with hle | hle
    · rw [Nat.max_eq_left hle]
      exact List.mem_cons_self
    · rw [Nat.max_eq_right hle]
      rcases content.lastGroup_mem with hnone | hmem
      · rw [hnone] at hle ⊢
        rw [Nat.le_zero.mp hle]
        exact List.mem_cons_self
      · exact List.mem_cons_of_mem _ hmem
  | repeated low high greedy content =>
    rw [Expr.lastGroup, Expr.groups]
    split
    · exact .inl rfl
    · exact content.lastGroup_mem
  | _ => exact .inl rfl

/-- The same for several expressions. -/
theorem Expr.lastGroupOfAll_mem (es : List Expr) :
    Expr.lastGroupOfAll es = 0 ∨ Expr.lastGroupOfAll es ∈ Expr.groupsOfAll es := by
  cases es with
  | nil => exact .inl rfl
  | cons e es =>
    rw [Expr.lastGroupOfAll, Expr.groupsOfAll]
    rcases Nat.le_total (Expr.lastGroupOfAll es) e.lastGroup with hle | hle
    · rw [Nat.max_eq_left hle]
      exact e.lastGroup_mem.imp_right (List.mem_append_left _)
    · rw [Nat.max_eq_right hle]
      exact (Expr.lastGroupOfAll_mem es).imp_right (List.mem_append_right _)

end

/-- How many groups a prepared pattern has: all that were read, or up to the last one that linear code
can set. -/
theorem compile_cases {pattern : String} {matcher : Matcher} (h : compile pattern = .ok matcher) :
    ∃ outline, read pattern = .ok outline ∧
      (if outline.expr.isHard outline.referenced then
          matcher.groupCount = outline.expr.groups.length + 1
        else matcher.groupCount = outline.expr.lastGroup + 1) := by
  unfold compile at h
  cases hread : read pattern with
  | error e =>
    rw [hread] at h
    cases h
  | ok outline =>
    refine ⟨outline, rfl, ?_⟩
    rw [hread] at h
    obtain ⟨e, names, referenced⟩ := outline
    change (e.checkReferences 1 >>= fun _ => if e.isHard referenced then _ else _) = _ at h
    cases hcheck : e.checkReferences 1 with
    | error error =>
      rw [hcheck] at h
      cases h
    | ok opened =>
      rw [hcheck] at h
      change (if e.isHard referenced then _ else _) = _ at h
      split at h
      · rename_i hhard
        rw [if_pos hhard]
        cases hprogram : e.program referenced with
        | error error =>
          rw [hprogram] at h
          cases h
        | ok program =>
          rw [hprogram] at h
          cases h
          rfl
      · rename_i heasy
        rw [if_neg heasy]
        cases hcode : e.linearCode? with
        | error error =>
          rw [hcode] at h
          cases h
        | ok code =>
          rw [hcode] at h
          cases h
          rfl

/-- The last group that linear code can set is among those that were read. -/
theorem lastGroup_le_length {e : Expr} (h : e.groups = List.range' 1 e.groups.length) :
    e.lastGroup ≤ e.groups.length := by
  rcases e.lastGroup_mem with hnone | hmem
  · omega
  · rw [h, List.mem_range'_1] at hmem
    omega

/-- A match has as many groups as the pattern that is searched for. -/
theorem Matcher.length_groups_of_find? {matcher : Matcher} {text : Subject} {origin : Nat} {captures : Captures}
    (h : matcher.find? text origin = .ok (some captures)) :
    captures.groups.length = matcher.groupCount - 1 := by
  have hlength : ∀ whole slots, (Captures.ofSlots whole matcher.groupCount slots).groups.length =
      matcher.groupCount - 1 := by
    intro whole slots
    rw [Captures.ofSlots, List.length_map, List.length_range]
  unfold find? at h
  split at h
  · obtain ⟨found, -, rfl⟩ := Option.map_eq_some_iff.mp (Except.ok.inj h)
    exact hlength _ _
  · dsimp only at h
    split at h
    · cases h
    · cases h
    · cases h
      exact hlength _ _

/-- The groups of a prepared pattern are numbered from one on, in the order in which they open. No match has more
of them, and it has all of them unless linear code alone can search for the pattern. -/
theorem groups_of_compile {pattern : String} {matcher : Matcher} (hmatcher : compile pattern = .ok matcher) :
    ∃ outline, read pattern = .ok outline ∧
      outline.expr.groups = List.range' 1 outline.expr.groups.length ∧
      ∀ everywhere text found, host.findMatches matcher everywhere text = .ok found → ∀ captures ∈ found,
        captures.groups.length ≤ outline.expr.groups.length ∧
          (outline.expr.isHard outline.referenced = true →
            captures.groups.length = outline.expr.groups.length) := by
  obtain ⟨outline, hread, hcount⟩ := compile_cases hmatcher
  have hgroups := groups_of_read hread
  refine ⟨outline, hread, hgroups, ?_⟩
  intro everywhere text found hfound captures hmem
  obtain ⟨origin, hone⟩ := host_searches.exists_find?_of_mem hmatcher hfound hmem
  rw [Matcher.length_groups_of_find? hone]
  split at hcount
  · rw [hcount, Nat.add_sub_cancel]
    exact ⟨Nat.le_refl _, fun _ => rfl⟩
  · rename_i heasy
    rw [hcount, Nat.add_sub_cancel]
    exact ⟨lastGroup_le_length hgroups, fun hhard => absurd hhard heasy⟩

end Railroad.Regex
