import Railroad.Regex.Parser

/-!
# Runs of a reader

How a step of reading runs is settled by how its parts run, one behind the other. These equations take a
run apart.
-/

namespace Railroad.Regex

/-- The reading behind the next `n` characters. -/
def Reading.behind (n : Nat) (r : Reading) : Reading :=
  { r with
    rest := r.rest.drop n
    position := r.position + Text.byteLength (r.rest.take n) }

namespace Reader

variable {α β : Type} {r r' : Reading} {a : α} {b : β}

/-- A step behind another one succeeds if both do. -/
theorem run_bind_eq_ok {m : Reader α} {f : α → Reader β} :
    (m >>= f).run r = .ok (b, r') ↔
      ∃ a between, m.run r = .ok (a, between) ∧ (f a).run between = .ok (b, r') := by
  rw [StateT.run_bind]
  cases hm : m.run r with
  | error e =>
    constructor
    · intro h
      cases h
    · rintro ⟨_, _, h, -⟩
      cases h
  | ok out =>
    obtain ⟨a, between⟩ := out
    constructor
    · intro h
      exact ⟨a, between, rfl, h⟩
    · rintro ⟨_, _, h, hf⟩
      cases h
      exact hf

/-- A value is given without a change. -/
theorem run_pure_eq_ok {a' : α} : (pure a : Reader α).run r = .ok (a', r') ↔ a = a' ∧ r = r' := by
  constructor
  · intro h
    cases h
    exact ⟨rfl, rfl⟩
  · rintro ⟨rfl, rfl⟩
    rfl

/-- A step that stops does not succeed. -/
theorem run_stop_eq_ok {position : Nat} {fault : Fault} :
    (stop position fault : Reader α).run r = .ok (a, r') ↔ False :=
  ⟨nofun, False.elim⟩

/-- A step that stops where it stands does not succeed. -/
theorem run_stopHere_eq_ok {fault : Fault} :
    (stopHere fault : Reader α).run r = .ok (a, r') ↔ False :=
  ⟨nofun, False.elim⟩

/-- A step that throws does not succeed. -/
theorem run_throw_eq_ok {e : Error} : (throw e : Reader α).run r = .ok (a, r') ↔ False :=
  ⟨nofun, False.elim⟩

/-- A step may depend on the reading. -/
theorem run_get_bind {f : Reading → Reader β} : (get >>= f : Reader β).run r = (f r).run r := rfl

/-- A step may depend on what is left. -/
theorem run_rest_bind {f : List Char → Reader β} : (rest >>= f).run r = (f r.rest).run r := rfl

/-- A step may depend on the flags. -/
theorem run_flags_bind {f : ReadFlags → Reader β} : (flags >>= f).run r = (f r.flags).run r := rfl

/-- A step may come behind the next characters. -/
theorem run_advance_bind {n : Nat} {f : Unit → Reader β} :
    (advance n >>= f).run r = (f ()).run (r.behind n) := rfl

/-- Going on succeeds. -/
theorem run_advance_eq_ok {n : Nat} {u : Unit} :
    (advance n).run r = .ok (u, r') ↔ r.behind n = r' := by
  constructor
  · intro h
    cases h
    rfl
  · rintro rfl
    rfl

end Reader

end Railroad.Regex
