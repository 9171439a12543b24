/-!
# Guards

A call checks its conditions one after the other, and its answer is the failure
of the first that does not hold. `ensure` is one such check; chained with `do`,
the order of the checks is the order of the lines.

## Main definitions

* `ensure`: Goes on if a condition holds, and otherwise fails.

## Theorems

* `pure_eq_ok`, `ok_bind`, `error_bind`: How success and failure go on.
* `ensure_bind`: A check in front of a computation, as a case distinction.
* `ensure_eq_ok_iff`, `ensure_eq_error_iff`: When a check passes or fails.
* `bind_eq_ok_iff`, `mapError_eq_ok_iff`: What success comes from.
* `bind_eq_error_iff`, `mapError_eq_error_iff`: What failure comes from.
* `bind_congr_of_ok`: Chains agree if they agree once the first step has passed.
-/

namespace BridgeCustody

/-- Goes on if the condition holds, and otherwise fails with `e`. -/
def ensure {ε : Type} (p : Prop) [Decidable p] (e : ε) : Except ε Unit :=
  if p then .ok () else .error e

variable {ε α β : Type} {p : Prop} [Decidable p] {e : ε}

theorem pure_eq_ok (a : α) : (pure a : Except ε α) = .ok a := rfl

theorem ok_bind (a : α) (f : α → Except ε β) : (Except.ok a >>= f) = f a := rfl

theorem error_bind (f : α → Except ε β) : (Except.error e >>= f) = .error e := rfl

theorem ensure_bind (f : Unit → Except ε α) :
    (ensure p e >>= f) = if p then f () else .error e := by
  unfold ensure
  split <;> rfl

theorem ensure_eq_ok_iff {u : Unit} : ensure p e = .ok u ↔ p := by
  unfold ensure
  split <;> simp_all

theorem ensure_eq_error_iff {e' : ε} : ensure p e = .error e' ↔ ¬p ∧ e = e' := by
  unfold ensure
  split <;> simp_all

theorem bind_eq_ok_iff {x : Except ε α} {f : α → Except ε β} {b : β} :
    (x >>= f) = .ok b ↔ ∃ a, x = .ok a ∧ f a = .ok b := by
  cases x with
  | error e => exact ⟨nofun, nofun⟩
  | ok a =>
    rw [ok_bind]
    exact ⟨fun h => ⟨a, rfl, h⟩, fun ⟨_, ha, h⟩ => by cases ha; exact h⟩

theorem mapError_eq_ok_iff {ε' : Type} {x : Except ε α} {f : ε → ε'} {a : α} :
    x.mapError f = .ok a ↔ x = .ok a := by
  cases x with
  | error e => exact ⟨nofun, nofun⟩
  | ok b =>
    change Except.ok b = Except.ok a ↔ _
    rw [Except.ok.injEq, Except.ok.injEq]

/-- A chain fails in its first step, or in the rest once the first step has
    passed. -/
theorem bind_eq_error_iff {x : Except ε α} {f : α → Except ε β} :
    (x >>= f) = .error e ↔ x = .error e ∨ ∃ a, x = .ok a ∧ f a = .error e := by
  cases x with
  | error e' =>
    rw [error_bind, Except.error.injEq, Except.error.injEq]
    exact ⟨.inl, fun h => h.elim id nofun⟩
  | ok a =>
    rw [ok_bind]
    constructor
    · exact fun h => .inr ⟨a, rfl, h⟩
    · rintro (h | ⟨_, ⟨⟩, h⟩)
      · cases h
      · exact h

/-- Two chains with the same first step agree if their rests do on what that step
    comes to. -/
theorem bind_congr_of_ok {x : Except ε α} {f f' : α → Except ε β}
    (h : ∀ a, x = .ok a → f a = f' a) : (x >>= f) = (x >>= f') := by
  cases x with
  | error e => rfl
  | ok a => exact h a rfl

theorem mapError_eq_error_iff {ε' : Type} {x : Except ε α} {f : ε → ε'} {e' : ε'} :
    x.mapError f = .error e' ↔ ∃ e, x = .error e ∧ f e = e' := by
  cases x with
  | error e =>
    change Except.error (f e) = Except.error e' ↔ _
    simp only [Except.error.injEq, exists_eq_left']
  | ok a => exact ⟨nofun, nofun⟩

end BridgeCustody
