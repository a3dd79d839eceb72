import Mathlib
import Railroad.Proofs.Balance
import Railroad.Proofs.Blanks
import Railroad.Proofs.FlagText
import Railroad.Proofs.Tiling

/-!
# Where the extended flag is in effect

The flag is switched by flag letters, either for the group that they open or, standing alone, for what is
left of the group around them. Whether it is in effect behind some tokens is said here of the tokens alone:
by the latest of the switches that reach so far. The run keeps one setting and a stack of settings to go
back to, and these are what the tokens say.
-/

namespace Railroad.Token

/-- The switch in front of some tokens reaches to their end: the group that it opens is still open
there, or, if it stands alone, the group that it stands directly inside is, unless there is none. -/
inductive Reaches (before : List Token) (switch : Token) (between : List Token) : Prop
  /-- The opener of a group that is still open. -/
  | opener (kind_eq : switch.kind = .groupOpen .flagged) (stays : StaysOpen between)
  /-- A switch that stands directly inside a group that is still open. -/
  | inside (kind_eq : switch.kind = .inlineFlags) {outer inner : List Token} {opener : Token}
      (split : before = outer ++ opener :: inner) (opens : opener.opensGroup = true)
      (direct : Balanced inner) (stays : StaysOpen (inner ++ switch :: between))
  /-- A switch that stands inside no group. -/
  | top (kind_eq : switch.kind = .inlineFlags)
      (outside : ∀ outer opener inner, before = outer ++ opener :: inner →
        opener.opensGroup = true → ¬ StaysOpen inner)

/-- The extended flag is in effect behind the tokens: of the switches among them that reach so far and
that mention the flag, the latest one switches it on. -/
def ExtendedBehind (tokens : List Token) : Prop :=
  ∃ before switch between, tokens = before ++ switch :: between ∧ Reaches before switch between ∧
    switch.Switches true ∧
    ∀ front later back, between = front ++ later :: back →
      Reaches (before ++ switch :: front) later back → ∀ on, ¬ later.Switches on

/-- A switch opens no group unless it is an opener, and it closes none. -/
theorem Reaches.closesGroup {before between : List Token} {switch : Token}
    (h : Reaches before switch between) : switch.closesGroup = false := by
  cases h with
  | opener hkind => simp [Token.closesGroup, hkind]
  | inside hkind => simp [Token.closesGroup, hkind]
  | top hkind => simp [Token.closesGroup, hkind]

/-- A close is no switch. -/
theorem Reaches.close_ne {before between front back : List Token} {switch close : Token}
    (h : Reaches before switch between) (hclose : close.closesGroup = true) :
    [close] ≠ front ++ switch :: back := by
  intro hsplit
  obtain ⟨-, hswitch⟩ | ⟨-, hnil⟩ := List.singleton_eq_append_iff.mp hsplit
  · obtain ⟨rfl, -⟩ := List.cons.inj hswitch
    rw [h.closesGroup] at hclose
    cases hclose
  · cases hnil

/-- A place in two stretches lies in the first one or in the second one. -/
theorem append_eq_append_cons {front back before after : List Token} {token : Token}
    (h : front ++ back = before ++ token :: after) :
    (∃ between, front = before ++ token :: between ∧ after = between ++ back) ∨
      ∃ between, before = front ++ between ∧ back = between ++ token :: after := by
  obtain ⟨between, hbefore, hback⟩ | ⟨between, hfront, hafter⟩ := List.append_eq_append_iff.mp h
  · exact .inr ⟨between, hbefore, hback⟩
  · cases between with
    | nil => exact .inr ⟨[], by simpa using hfront.symm, by simpa using hafter.symm⟩
    | cons first between =>
      obtain ⟨rfl, rfl⟩ := List.cons.inj hafter
      exact .inl ⟨between, hfront, rfl⟩

/-- What is put behind some tokens does not change which of their switches reach to the end, if it does
not change which of their groups stay open. -/
theorem reaches_append_iff {before between more : List Token} {switch : Token}
    (hkeep : ∀ outer opener inner, before ++ switch :: between = outer ++ opener :: inner →
      opener.opensGroup = true → (StaysOpen (inner ++ more) ↔ StaysOpen inner)) :
    Reaches before switch (between ++ more) ↔ Reaches before switch between := by
  constructor
  · intro h
    cases h with
    | opener hkind hstays => exact .opener hkind hstays.of_append
    | inside hkind hsplit hopens hdirect hstays =>
      refine .inside hkind hsplit hopens hdirect ?_
      rw [← List.cons_append, ← List.append_assoc] at hstays
      exact hstays.of_append
    | top hkind houtside => exact .top hkind houtside
  · intro h
    cases h with
    | opener hkind hstays =>
      have hopens : switch.opensGroup = true := by simp [opensGroup, hkind]
      exact .opener hkind ((hkeep before switch between rfl hopens).mpr hstays)
    | @inside hkind outer inner opener hsplit hopens hdirect hstays =>
      refine .inside hkind hsplit hopens hdirect ?_
      have hsplit' : before ++ switch :: between = outer ++ opener :: (inner ++ switch :: between) := by
        rw [hsplit, List.append_assoc, List.cons_append]
      have hmore := (hkeep outer opener _ hsplit' hopens).mpr hstays
      rwa [List.append_assoc, List.cons_append] at hmore
    | top hkind houtside => exact .top hkind houtside

/-- The flag is as it was in front of some tokens if they keep the groups in front of them open and no
switch among them reaches to their end. -/
theorem extendedBehind_append_iff {tokens more : List Token}
    (hkeep : ∀ outer opener inner, tokens = outer ++ opener :: inner →
      opener.opensGroup = true → (StaysOpen (inner ++ more) ↔ StaysOpen inner))
    (hnew : ∀ front switch back, more = front ++ switch :: back →
      Reaches (tokens ++ front) switch back → ∀ on, ¬ switch.Switches on) :
    ExtendedBehind (tokens ++ more) ↔ ExtendedBehind tokens := by
  constructor
  · rintro ⟨before, switch, between, hsplit, hreaches, hon, hlatest⟩
    obtain ⟨back, rfl, rfl⟩ | ⟨front, rfl, hfront⟩ := append_eq_append_cons hsplit
    · refine ⟨before, switch, back, rfl, (reaches_append_iff hkeep).mp hreaches, hon, ?_⟩
      rintro front later rest rfl hlater
      refine hlatest front later (rest ++ more) (by simp) ((reaches_append_iff ?_).mpr hlater)
      simpa using hkeep
    · exact absurd hon (hnew front switch between hfront hreaches true)
  · rintro ⟨before, switch, between, rfl, hreaches, hon, hlatest⟩
    refine ⟨before, switch, between ++ more, by simp, (reaches_append_iff hkeep).mpr hreaches, hon, ?_⟩
    intro front later back hsplit hlater
    obtain ⟨rest, rfl, rfl⟩ | ⟨rest, rfl, hrest⟩ := append_eq_append_cons hsplit
    · refine hlatest front later rest rfl ((reaches_append_iff ?_).mp hlater)
      simpa using hkeep
    · exact hnew rest later back hrest (by simpa using hlater)

/-- A switch that has just been read decides. -/
theorem extendedBehind_concat_iff {tokens : List Token} {switch : Token} {on : Bool}
    (hreaches : Reaches tokens switch []) (hon : switch.Switches on) :
    ExtendedBehind (tokens ++ [switch]) ↔ on = true := by
  constructor
  · rintro ⟨before, other, between, hsplit, -, hother, hlatest⟩
    obtain ⟨back, rfl, rfl⟩ | ⟨front, rfl, hfront⟩ := append_eq_append_cons hsplit
    · refine absurd hon (hlatest back switch [] rfl ?_ on)
      simpa using hreaches
    · obtain ⟨-, ⟨rfl, -⟩⟩ | ⟨-, h⟩ := List.singleton_eq_append_iff.mp hfront
      · exact hon.unique hother
      · cases h
  · rintro rfl
    refine ⟨tokens, switch, [], rfl, hreaches, hon, ?_⟩
    intro front later back hsplit
    simp at hsplit

/-- Where a switch that stands alone reaches, no group around it has been closed. -/
theorem Reaches.staysOpen {before between outer inner : List Token} {switch opener : Token}
    (h : Reaches before switch between) (hkind : switch.kind = .inlineFlags)
    (hsplit : before = outer ++ opener :: inner) (hopener : opener.opensGroup = true)
    (hinner : StaysOpen inner) : StaysOpen (inner ++ switch :: between) := by
  cases h with
  | opener hflagged => exact absurd (hkind.symm.trans hflagged) Kind.noConfusion
  | top _ houtside => exact absurd hinner (houtside outer opener inner hsplit hopener)
  | @inside _ outer' inner' opener' hbefore _ hdirect hstays =>
    obtain ⟨part, rfl, rfl⟩ | ⟨part, -, hpart⟩ := append_eq_append_cons (hbefore.symm.trans hsplit)
    · -- the group stands around the one that the switch is directly inside
      have hfront : StaysOpen (part ++ [opener']) := by
        rw [List.append_cons] at hinner
        exact hinner.of_append
      simpa using hfront.append hstays
    · cases part with
      | nil =>
        obtain ⟨-, rfl⟩ := List.cons.inj hpart
        exact hstays
      | cons first part =>
        obtain ⟨-, rfl⟩ := List.cons.inj hpart
        exact absurd hinner (hdirect.not_staysOpen hopener)

/-- A token that asks for no setting leaves the flag as it is, unless it is a close. -/
theorem extendedBehind_concat_of_silent {tokens : List Token} {token : Token}
    (hclose : token.closesGroup = false)
    (hsilent : Reaches tokens token [] → ∀ on, ¬ token.Switches on) :
    ExtendedBehind (tokens ++ [token]) ↔ ExtendedBehind tokens := by
  refine extendedBehind_append_iff (fun _ _ _ _ _ => staysOpen_concat_iff hclose) ?_
  intro front switch back hsplit hreaches on
  obtain ⟨rfl, hswitch⟩ | ⟨-, hnil⟩ := List.singleton_eq_append_iff.mp hsplit
  · obtain ⟨rfl, rfl⟩ := List.cons.inj hswitch
    rw [List.append_nil] at hreaches
    exact hsilent hreaches on
  · cases hnil

/-- A group that has been closed leaves the flag as it was in front of the group, whatever the switches
inside it asked for. -/
theorem extendedBehind_group_iff {outer inner : List Token} {opener close : Token}
    (hopener : opener.opensGroup = true) (hinner : Balanced inner)
    (hclose : close.closesGroup = true) :
    ExtendedBehind (outer ++ opener :: (inner ++ [close])) ↔ ExtendedBehind outer := by
  have hblock := hinner.group hopener hclose
  refine extendedBehind_append_iff
    (fun _ _ _ _ _ => staysOpen_append_balanced_iff hblock) ?_
  intro front switch back hsplit hreaches on _
  have halone : switch.kind = .inlineFlags → False := by
    intro hkind
    cases front with
    | nil =>
      obtain ⟨rfl, -⟩ := List.cons.inj hsplit
      simp [opensGroup, hkind] at hopener
    | cons first front =>
      obtain ⟨rfl, hinside⟩ := List.cons.inj hsplit
      obtain ⟨between, rfl, rfl⟩ | ⟨between, -, hlast⟩ := append_eq_append_cons hinside
      · -- the group is open where the switch stands, and would have to be open behind its close
        have hstays := hreaches.staysOpen hkind rfl hopener hinner.staysOpen.of_append
        rw [← List.cons_append, ← List.append_assoc] at hstays
        exact hinner.not_staysOpen_concat hclose hstays
      · exact hreaches.close_ne hclose hlast
  cases hreaches with
  | opener hkind hstays =>
    have hopens : switch.opensGroup = true := by simp [opensGroup, hkind]
    rw [hsplit] at hblock
    exact hblock.not_staysOpen hopens hstays
  | inside hkind => exact halone hkind
  | top hkind => exact halone hkind

/-- Which groups are open behind some tokens, the innermost first, with the settings of the flag in
front of their openers. -/
inductive Nests : List Token → List Bool → Prop
  /-- No group is open. -/
  | top {tokens : List Token} (outside : ∀ outer opener inner, tokens = outer ++ opener :: inner →
      opener.opensGroup = true → ¬ StaysOpen inner) : Nests tokens []
  /-- The innermost open group, in which all groups are closed. -/
  | inside {outer inner : List Token} {opener : Token} {setting : Bool} {settings : List Bool}
      (outside : Nests outer settings) (setting_iff : setting = true ↔ ExtendedBehind outer)
      (opens : opener.opensGroup = true) (direct : Balanced inner) :
      Nests (outer ++ opener :: inner) (setting :: settings)

/-- In the beginning no group is open. -/
theorem nests_nil : Nests [] [] :=
  .top fun outer opener inner hsplit _ => by simp at hsplit

/-- Tokens that close what they open leave the open groups alone. -/
theorem Nests.append_balanced {tokens block : List Token} {settings : List Bool}
    (h : Nests tokens settings) (hblock : Balanced block) : Nests (tokens ++ block) settings := by
  cases h with
  | top houtside =>
    refine .top fun outer opener inner hsplit hopener hstays => ?_
    obtain ⟨between, rfl, rfl⟩ | ⟨between, -, rfl⟩ := append_eq_append_cons hsplit
    · exact houtside outer opener between rfl hopener hstays.of_append
    · exact hblock.not_staysOpen hopener hstays
  | inside houtside hsetting hopens hdirect =>
    rw [List.append_assoc, List.cons_append]
    exact .inside houtside hsetting hopens (hdirect.append hblock)

/-- A close where no group is open changes nothing. -/
theorem Nests.surplus {tokens : List Token} {close : Token} (h : Nests tokens [])
    (hclose : close.closesGroup = true) : Nests (tokens ++ [close]) [] := by
  obtain ⟨houtside⟩ := h
  refine .top fun outer opener inner hsplit hopener hstays => ?_
  obtain ⟨between, rfl, rfl⟩ | ⟨between, -, hback⟩ := append_eq_append_cons hsplit
  · exact houtside outer opener between rfl hopener hstays.of_append
  · obtain ⟨-, ⟨rfl, -⟩⟩ | ⟨-, hnil⟩ := List.singleton_eq_append_iff.mp hback
    · rw [opensGroup_of_closesGroup hclose] at hopener
      cases hopener
    · cases hnil

/-- A close where no group is open leaves the flag as it is. -/
theorem extendedBehind_surplus_iff {tokens : List Token} {close : Token}
    (houtside : ∀ outer opener inner, tokens = outer ++ opener :: inner →
      opener.opensGroup = true → ¬ StaysOpen inner) (hclose : close.closesGroup = true) :
    ExtendedBehind (tokens ++ [close]) ↔ ExtendedBehind tokens := by
  refine extendedBehind_append_iff (fun outer opener inner hsplit hopener => ?_) ?_
  · have hclosed := houtside outer opener inner hsplit hopener
    exact iff_of_false (fun hstays => hclosed hstays.of_append) hclosed
  · intro front switch back hsplit hreaches
    exact absurd hsplit (hreaches.close_ne hclose)

/-- A switch that has just been read reaches to where it stands. -/
theorem Nests.reaches {tokens : List Token} {settings : List Bool} {switch : Token}
    (h : Nests tokens settings)
    (hkind : switch.kind = .groupOpen .flagged ∨ switch.kind = .inlineFlags) :
    Reaches tokens switch [] := by
  obtain hkind | hkind := hkind
  · exact .opener hkind staysOpen_nil
  · cases h with
    | top houtside => exact .top hkind houtside
    | inside _ _ hopens hdirect =>
      have hclose : switch.closesGroup = false := by simp [Token.closesGroup, hkind]
      exact .inside hkind rfl hopens hdirect ((staysOpen_concat_iff hclose).mpr hdirect.staysOpen)

/-- The scope of a run says of the tokens read so far what they say themselves. -/
structure Scoped (tokens : List Token) (scope : Scope) : Prop where
  /-- The stack has the settings outside the open groups. -/
  nests : Nests tokens scope.outer
  /-- The setting tells whether the flag is in effect. -/
  extended_iff : scope.extended = true ↔ ExtendedBehind tokens

/-- In the beginning the flag is off. -/
theorem scoped_nil : Scoped [] .initial where
  nests := nests_nil
  extended_iff := by
    refine ⟨fun h => (nomatch h), ?_⟩
    rintro ⟨before, switch, between, hsplit, -⟩
    simp at hsplit

/-- A switch sets the flag to what its letters ask for, if they ask for anything. -/
theorem switched_extended_iff {tokens : List Token} {scope : Scope} {switch : Token}
    (h : scope.extended = true ↔ ExtendedBehind tokens) (hreaches : Reaches tokens switch [])
    (hshows : ∀ on, switch.flags?.bind extendedSetting? = some on ↔ switch.Switches on) :
    (scope.switched switch).extended = true ↔ ExtendedBehind (tokens ++ [switch]) := by
  unfold Scope.switched
  cases hsetting : switch.flags?.bind extendedSetting? with
  | none =>
    have hsilent : ∀ on, ¬ switch.Switches on := fun on hon => by
      have hnone := hsetting.symm.trans ((hshows on).mpr hon)
      cases hnone
    exact h.trans (extendedBehind_concat_of_silent hreaches.closesGroup fun _ => hsilent).symm
  | some on => exact (extendedBehind_concat_iff hreaches ((hshows on).mp hsetting)).symm

/-- A switch leaves the stack of settings alone. -/
theorem switched_outer (scope : Scope) (switch : Token) :
    (scope.switched switch).outer = scope.outer := by
  unfold Scope.switched
  split <;> rfl

/-- A close sets the flag back to what it was in front of the group, if one is open. -/
theorem Scoped.close {tokens : List Token} {scope : Scope} {token : Token} (h : Scoped tokens scope)
    (hkind : token.kind = .groupClose) : Scoped (tokens ++ [token]) (scope.after token) := by
  obtain ⟨extended, outer⟩ := scope
  obtain ⟨hnests, hextended⟩ := h
  have hclose : token.closesGroup = true := by simp [closesGroup, hkind]
  cases hnests with
  | top houtside =>
    have hafter : Scope.after ⟨extended, []⟩ token = ⟨extended, []⟩ := by simp only [Scope.after, hkind]
    rw [hafter]
    exact ⟨Nests.surplus (.top houtside) hclose,
      hextended.trans (extendedBehind_surplus_iff houtside hclose).symm⟩
  | @inside around inner opener setting settings houtside hsetting hopens hdirect =>
    have hafter : Scope.after ⟨extended, setting :: settings⟩ token = ⟨setting, settings⟩ := by
      simp only [Scope.after, hkind]
    have hgroup := @extendedBehind_group_iff around inner opener token hopens hdirect hclose
    rw [hafter, List.append_assoc, List.cons_append]
    exact ⟨houtside.append_balanced (hdirect.group hopens hclose), hsetting.trans hgroup.symm⟩

/-- An opener keeps the setting for the end of its group, and may switch the flag inside. -/
theorem Scoped.opener {tokens : List Token} {scope : Scope} {token : Token} {opener : Opener}
    (h : Scoped tokens scope) (hshows : token.ShowsSetting) (hkind : token.kind = .groupOpen opener) :
    Scoped (tokens ++ [token]) (scope.after token) := by
  obtain ⟨hnests, hextended⟩ := h
  have hopens : token.opensGroup = true := by simp [opensGroup, hkind]
  have hclose := closesGroup_of_opensGroup hopens
  have hinside : Nests (tokens ++ [token]) (scope.extended :: scope.outer) :=
    .inside hnests hextended hopens balanced_nil
  by_cases hflagged : opener = .flagged
  · subst hflagged
    have hafter : scope.after token =
        Scope.switched ⟨scope.extended, scope.extended :: scope.outer⟩ token := by
      simp [Scope.after, hkind]
    rw [hafter]
    refine ⟨?_, switched_extended_iff hextended (hnests.reaches (.inl hkind)) (hshows (.inl hkind))⟩
    rwa [switched_outer]
  · have hafter : scope.after token = ⟨scope.extended, scope.extended :: scope.outer⟩ := by
      simp [Scope.after, hkind, hflagged]
    rw [hafter]
    refine ⟨hinside, hextended.trans (extendedBehind_concat_of_silent hclose fun hreaches => ?_).symm⟩
    cases hreaches with
    | opener hother =>
      exact absurd (Kind.groupOpen.inj (hkind.symm.trans hother)) hflagged
    | inside hother => exact absurd (hkind.symm.trans hother) Kind.noConfusion
    | top hother => exact absurd (hkind.symm.trans hother) Kind.noConfusion

/-- A token that neither opens nor closes a group may only switch the flag. -/
theorem Scoped.other {tokens : List Token} {scope : Scope} {token : Token} (h : Scoped tokens scope)
    (hshows : token.ShowsSetting) (hopen : token.opensGroup = false)
    (hclose : token.closesGroup = false) : Scoped (tokens ++ [token]) (scope.after token) := by
  obtain ⟨hnests, hextended⟩ := h
  have hbalanced := hnests.append_balanced (balanced_singleton hopen hclose)
  by_cases hinline : token.kind = .inlineFlags
  · have hafter : scope.after token = scope.switched token := by simp [Scope.after, hinline]
    rw [hafter]
    refine ⟨?_, switched_extended_iff hextended (hnests.reaches (.inr hinline))
      (hshows (.inr hinline))⟩
    rwa [switched_outer]
  · have hafter : scope.after token = scope := by
      unfold Scope.after
      split
      · rename_i hkind
        simp [opensGroup, hkind] at hopen
      · rename_i hkind
        simp [closesGroup, hkind] at hclose
      · rename_i hkind
        exact absurd hkind hinline
      · rfl
    rw [hafter]
    refine ⟨hbalanced, hextended.trans (extendedBehind_concat_of_silent hclose fun hreaches => ?_).symm⟩
    cases hreaches with
    | opener hkind => simp [opensGroup, hkind] at hopen
    | inside hkind => exact absurd hkind hinline
    | top hkind => exact absurd hkind hinline

/-- Each token changes the scope by what it says itself. -/
theorem Scoped.after {tokens : List Token} {scope : Scope} {token : Token} (h : Scoped tokens scope)
    (hshows : token.ShowsSetting) : Scoped (tokens ++ [token]) (scope.after token) := by
  cases hkind : token.kind with
  | groupOpen opener => exact h.opener hshows hkind
  | groupClose => exact h.close hkind
  | _ => exact h.other hshows (by simp [opensGroup, hkind]) (by simp [closesGroup, hkind])

/-- The scope behind tokens says of them what they say themselves. -/
theorem scoped_foldl {tokens : List Token} (hshows : ∀ token ∈ tokens, token.ShowsSetting) :
    Scoped tokens (tokens.foldl Scope.after .initial) := by
  induction tokens using List.reverseRecOn with
  | nil => exact scoped_nil
  | append_singleton front token ih =>
    rw [List.foldl_append]
    have hfront := ih fun other hmem => hshows other (List.mem_append_left _ hmem)
    exact hfront.after (hshows token (by simp))

/-- The tokens of a pattern show the settings that their letters ask for. -/
theorem showsSetting_of_tokenize {pattern : String} {tokens : List Token}
    (h : tokenize pattern = .ok tokens) : ∀ token ∈ tokens, token.ShowsSetting := by
  intro token hmem
  obtain ⟨extended, place, c, rest, lexeme, hscan, rfl⟩ :=
    (tokensFrom_eq_ok_iff.mp h).exists_scan hmem
  exact .of_scan hscan place

/-- An opener puts the setting on the stack. -/
theorem outer_after_of_opensGroup (scope : Scope) {token : Token} (h : token.opensGroup = true) :
    (scope.after token).outer = scope.extended :: scope.outer := by
  unfold opensGroup at h
  split at h
  · rename_i opener hkind
    simp only [Scope.after, hkind]
    split
    · rw [switched_outer]
    · rfl
  · cases h

/-- A close takes a setting from the stack. -/
theorem after_of_closesGroup {token : Token} (h : token.closesGroup = true) (extended setting : Bool)
    (outer : List Bool) : Scope.after ⟨extended, setting :: outer⟩ token = ⟨setting, outer⟩ := by
  have hkind : token.kind = .groupClose := of_decide_eq_true h
  simp only [Scope.after, hkind]

/-- Any other token leaves the stack alone. -/
theorem outer_after_of_neither (scope : Scope) {token : Token} (hopen : token.opensGroup = false)
    (hclose : token.closesGroup = false) : (scope.after token).outer = scope.outer := by
  unfold Scope.after
  split
  · rename_i hkind
    simp [opensGroup, hkind] at hopen
  · rename_i hkind
    simp [closesGroup, hkind] at hclose
  · rw [switched_outer]
  · rfl

/-- What stands behind an opener adds settings to the stack for as long as the group stays open, one for
each group that is open inside. -/
theorem outer_foldl_of_staysOpen {inner : List Token} (scope : Scope) (h : StaysOpen inner) :
    ∃ settings, (inner.foldl Scope.after scope).outer = settings ++ scope.outer ∧
      settings.length + closings inner = openings inner := by
  induction inner using List.reverseRecOn with
  | nil => exact ⟨[], rfl, rfl⟩
  | append_singleton front token ih =>
    obtain ⟨settings, houter, hlength⟩ := ih h.of_append
    have hcount := h _ [] (List.append_nil _).symm
    rw [List.foldl_append, List.foldl_cons, List.foldl_nil]
    simp only [openings_append, closings_append] at hcount ⊢
    by_cases hopens : token.opensGroup = true
    · have hopen := openings_cons_of_opensGroup [] hopens
      have hclose := closings_cons_of_not_closesGroup [] (closesGroup_of_opensGroup hopens)
      refine ⟨_ :: settings, by rw [outer_after_of_opensGroup _ hopens, houter]; rfl, ?_⟩
      rw [hopen, hclose, List.length_cons]
      simp only [openings_nil, closings_nil]
      omega
    · have hopen := openings_cons_of_not_opensGroup [] (Bool.eq_false_iff.mpr hopens)
      by_cases hcloses : token.closesGroup = true
      · have hclose := closings_cons_of_closesGroup [] hcloses
        rw [hopen, hclose] at hcount ⊢
        simp only [openings_nil, closings_nil] at hcount ⊢
        cases settings with
        | nil =>
          simp only [List.length_nil] at hlength
          omega
        | cons setting settings =>
          generalize front.foldl Scope.after scope = behind at houter ⊢
          obtain ⟨extended, outer⟩ := behind
          cases houter
          refine ⟨settings, congrArg Scope.outer (after_of_closesGroup hcloses _ _ _), ?_⟩
          simp only [List.length_cons] at hlength
          omega
      · have hclose := closings_cons_of_not_closesGroup [] (Bool.eq_false_iff.mpr hcloses)
        refine ⟨settings, ?_, ?_⟩
        · rw [outer_after_of_neither _ (Bool.eq_false_iff.mpr hopens) (Bool.eq_false_iff.mpr hcloses),
            houter]
        · rw [hopen, hclose]
          simpa using hlength

/-- A group that has been closed leaves the scope as it was. -/
theorem foldl_group {inner : List Token} {opener close : Token} (scope : Scope)
    (hopener : opener.opensGroup = true) (hinner : Balanced inner)
    (hclose : close.closesGroup = true) :
    (opener :: (inner ++ [close])).foldl Scope.after scope = scope := by
  obtain ⟨settings, houter, hlength⟩ :=
    outer_foldl_of_staysOpen (scope.after opener) hinner.staysOpen
  have hnone : settings = [] := by
    rw [← List.length_eq_zero_iff]
    have hequal := hinner.openings_eq
    omega
  rw [hnone, List.nil_append, outer_after_of_opensGroup _ hopener] at houter
  rw [List.foldl_cons, List.foldl_append, List.foldl_cons, List.foldl_nil]
  generalize inner.foldl Scope.after (scope.after opener) = behind at houter ⊢
  obtain ⟨extended, outer⟩ := behind
  cases houter
  exact after_of_closesGroup hclose _ _ _

/-- A close where no group is open leaves the scope as it is. -/
theorem Nests.after_close {tokens : List Token} {scope : Scope} {close : Token}
    (h : Nests tokens scope.outer) (hclose : close.closesGroup = true)
    (houtside : ∀ outer opener inner, tokens = outer ++ opener :: inner →
      opener.opensGroup = true → ¬ StaysOpen inner) : scope.after close = scope := by
  have hkind : close.kind = .groupClose := of_decide_eq_true hclose
  generalize hsettings : scope.outer = settings at h
  cases h with
  | top => simp only [Scope.after, hkind, hsettings]
  | inside _ _ hopens hdirect => exact absurd hdirect.staysOpen (houtside _ _ _ rfl hopens)

/-- Tokens that leave the scope as it is have no effect on the flag anywhere behind them. -/
theorem extendedBehind_iff_of_foldl {front block later : List Token}
    (hshows : ∀ token ∈ front ++ block ++ later, token.ShowsSetting)
    (hblock : block.foldl Scope.after (front.foldl Scope.after .initial) =
      front.foldl Scope.after .initial) :
    ExtendedBehind (front ++ block ++ later) ↔ ExtendedBehind (front ++ later) := by
  have hwith := (scoped_foldl hshows).extended_iff
  have hwithout := (@scoped_foldl (front ++ later) fun token hmem => hshows token ?_).extended_iff
  · rw [← hwith, ← hwithout]
    simp only [List.foldl_append, hblock]
  · simp only [List.mem_append] at hmem ⊢
    tauto

/-- What a token does with blanks and comments, by the extended flag in front of it. -/
structure HeedsExtended (front : List Token) (token : Token) (back : List Token) : Prop where
  /-- Trivia stand only where the flag is in effect. -/
  extendedBehind : token.kind = .trivia → ExtendedBehind front
  /-- They are made of blanks and comments, each to the end of its line or of the pattern. -/
  triviaText : token.kind = .trivia → TriviaText (back = []) token.raw.toList
  /-- They take all of them: what follows is not of their kind, and does not begin like them. -/
  maximal : token.kind = .trivia → ∀ next more, back = next :: more →
    next.kind ≠ .trivia ∧ next.raw ≠ "" ∧ NoTrivia next.raw.toList
  /-- Where the flag is in effect, plain text has neither blanks nor number signs. -/
  literal : token.kind = .literal → ExtendedBehind front →
    ∀ c ∈ token.raw.toList, c ≠ '#' ∧ Unicode.isBlank c = false

/-- Every token of a pattern heeds the extended flag as the tokens in front of it leave it. -/
theorem heedsExtended_of_tokenize {pattern : String} {tokens front back : List Token} {token : Token}
    (h : tokenize pattern = .ok tokens) (hsplit : tokens = front ++ token :: back) :
    HeedsExtended front token back := by
  have hshows : ∀ other ∈ front, other.ShowsSetting := fun other hmem =>
    showsSetting_of_tokenize h other (by simp [hsplit, hmem])
  have hscoped := (scoped_foldl hshows).extended_iff
  have hcuts := tokensFrom_eq_ok_iff.mp h
  rw [hsplit] at hcuts
  obtain ⟨place, c, rest, lexeme, hscan, rfl, hback⟩ := hcuts.exists_scan_at
  have hraw : (ofLexeme lexeme place (c :: rest)).raw.toList = (c :: rest).take lexeme.length :=
    String.toList_ofList
  refine ⟨fun hkind => ?_, fun hkind => ?_, fun hkind => ?_, fun hkind hextended => ?_⟩
  · exact hscoped.mp (scan_trivia hscan hkind).1
  · obtain ⟨-, trivia, behind, htext, hlength, htrivia, -⟩ := scan_trivia hscan hkind
    rw [htext, hlength, List.drop_left] at hback
    have hend : behind = [] ↔ back = [] := by
      constructor
      · rintro rfl
        cases hback
        rfl
      · rintro rfl
        cases hback
        rfl
    rw [hraw, htext, hlength, List.take_left, ← propext hend]
    exact htrivia
  · rintro next more rfl
    obtain ⟨-, trivia, behind, htext, hlength, -, hbehind⟩ := scan_trivia hscan hkind
    rw [htext, hlength, List.drop_left] at hback
    cases hback with
    | @step _ _ d rest' lexeme' _ hnext _ =>
      have hfits := scan_fits hnext
      refine ⟨ne_trivia_of_noTrivia hnext hbehind, ofLexeme_raw_ne_empty _ hfits, ?_⟩
      rw [ofLexeme, String.toList_ofList]
      exact hbehind.take _
  · rw [hscoped.mpr hextended] at hscan
    rw [hraw]
    exact scan_literal_extended hscan hkind

/-- The extended flag is scoped by groups. What the run keeps of it is what the switches that reach so far
say, blanks and comments are tokens of their own just where it is in effect, and neither a group that has
been closed nor a close without a group makes any difference behind it. -/
theorem extended_scope {pattern : String} {tokens : List Token} (h : tokenize pattern = .ok tokens) :
    (∀ front token back, tokens = front ++ token :: back →
      ((front.foldl Scope.after .initial).extended = true ↔ ExtendedBehind front) ∧
        HeedsExtended front token back) ∧
    (∀ outer opener inner close later back, tokens = outer ++ opener :: (inner ++ close :: later) ++ back →
      opener.opensGroup = true → Balanced inner → close.closesGroup = true →
      (ExtendedBehind (outer ++ opener :: (inner ++ close :: later)) ↔
        ExtendedBehind (outer ++ later))) ∧
    ∀ front close later back, tokens = front ++ close :: later ++ back → close.closesGroup = true →
      (∀ outer opener inner, front = outer ++ opener :: inner → opener.opensGroup = true →
        ¬ StaysOpen inner) →
      (ExtendedBehind (front ++ close :: later) ↔ ExtendedBehind (front ++ later)) := by
  have hshows := showsSetting_of_tokenize h
  refine ⟨fun front token back hsplit => ⟨?_, heedsExtended_of_tokenize h hsplit⟩, ?_, ?_⟩
  · exact (scoped_foldl fun other hmem => hshows other (by simp [hsplit, hmem])).extended_iff
  · intro outer opener inner close later back hsplit hopener hinner hclose
    have hgroup := @extendedBehind_iff_of_foldl outer _ later (fun token hmem => hshows token ?_)
      (foldl_group _ hopener hinner hclose)
    · simpa using hgroup
    · rw [hsplit]
      simp only [List.mem_append, List.mem_cons] at hmem ⊢
      tauto
  · intro front close later back hsplit hclose houtside
    have hfront : Scoped front (front.foldl Scope.after .initial) :=
      scoped_foldl fun token hmem => hshows token (by simp [hsplit, hmem])
    have hsurplus := @extendedBehind_iff_of_foldl front [close] later (fun token hmem => hshows token ?_)
      (hfront.nests.after_close hclose houtside)
    · simpa using hsurplus
    · rw [hsplit]
      simp only [List.mem_append, List.mem_cons] at hmem ⊢
      tauto

/-- The tokens of a pattern with a switch inside a group. -/
def switchInside : List Token :=
  [⟨.inlineFlags, "(?x)", 1⟩, ⟨.literal, "a", 5⟩, ⟨.trivia, " ", 6⟩]

/-- A switch inside a group makes the blank behind it trivia, and leaves the one behind the group alone. -/
theorem extended_scope_switchInside :
    tokenize "((?x)a )b c" = .ok (⟨.groupOpen .capturing, "(", 0⟩ ::
        (switchInside ++ [⟨.groupClose, ")", 7⟩, ⟨.literal, "b c", 8⟩])) ∧
      ExtendedBehind (⟨.groupOpen .capturing, "(", 0⟩ :: switchInside.take 2) ∧
      ¬ ExtendedBehind (⟨.groupOpen .capturing, "(", 0⟩ ::
        (switchInside ++ [⟨.groupClose, ")", 7⟩])) := by
  have htokens : tokenize "((?x)a )b c" = .ok (⟨.groupOpen .capturing, "(", 0⟩ ::
      (switchInside ++ [⟨.groupClose, ")", 7⟩, ⟨.literal, "b c", 8⟩])) := by cbv
  obtain ⟨htoken, hgroup, -⟩ := extended_scope htokens
  have hsingle : ∀ token ∈ switchInside, Balanced [token] := fun token hmem => by
    simp only [switchInside, List.mem_cons, List.not_mem_nil, or_false] at hmem
    rcases hmem with rfl | rfl | rfl <;> exact balanced_singleton rfl rfl
  have hinside : Balanced switchInside :=
    ((hsingle _ (by simp [switchInside])).append (hsingle _ (by simp [switchInside]))).append
      (hsingle _ (by simp [switchInside]))
  have hbehind := hgroup [] ⟨.groupOpen .capturing, "(", 0⟩ switchInside ⟨.groupClose, ")", 7⟩ []
    [⟨.literal, "b c", 8⟩] rfl rfl hinside rfl
  have hblank := htoken (⟨.groupOpen .capturing, "(", 0⟩ :: switchInside.take 2) ⟨.trivia, " ", 6⟩ _ rfl
  refine ⟨htokens, hblank.2.extendedBehind rfl, fun hextended => ?_⟩
  have hstart := (htoken [] _ _ rfl).1
  exact absurd (hstart.mpr (hbehind.mp hextended)) Bool.false_ne_true

end Railroad.Token
