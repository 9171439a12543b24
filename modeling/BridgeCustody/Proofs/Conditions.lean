import BridgeCustody.Address
import BridgeCustody.Guard
import BridgeCustody.Word

/-!
# Conditions in Their Order

Whoever writes a call against a contract reads its specification as a list: this
must hold, then this, then this. If all of it holds the call goes through, and if
not, the failure tells which condition is the first that is missing. A set of rules
for success does not say so much, and neither does one lemma for each failure,
because it is the order that connects them.

Here the list itself is the specification. A computation checks a list of
conditions if it fails exactly with what first fails of them. That it succeeds
exactly if all of them hold need not be said, because it follows. Lists are put
together as computations are. A step in front of a computation puts its conditions
in front, and so the list of a call is found from the lists of its steps, without
looking at the call as a whole.

What a later step checks may be written with values that an earlier one came to.
The conditions do not name such values. They are about what the call was given, and
`Checks.bind` only asks the later step to be right about them once the earlier one
has passed.

## Main definitions

* `Condition`: What has to hold, and the failure if it does not.
* `Condition.map`: The same condition, with another failure.
* `Address.validity`: The condition on a text that is to be an address.
* `FirstFails`: The failure that comes of a list of conditions.
* `Checks`: A computation fails with what first fails of a list.

## Theorems

* `firstFails_append_iff`: Lists one after the other.
* `not_exists_firstFails_iff`: Nothing fails if all conditions hold, and only then.
* `Checks.exists_ok_iff`: A computation succeeds if all its conditions hold, and
  only then.
* `Checks.bind`, `Checks.cons`, `Checks.bind_ok`: Computations one after the other.
* `Checks.mapError`: A computation whose failures are reported in another way.
* `checks_next?`: A counter that is advanced checks that it has not run out.
* `Address.checks_check`: A text is checked for being an address.
-/

namespace BridgeCustody

/-- What has to hold, and the failure if it does not. In which way it does not hold
    may show in the failure. -/
structure Condition (ε : Type) where
  Holds : Prop
  failure : ¬Holds → ε

/-- A condition that has one failure. -/
def Condition.of {ε : Type} (p : Prop) (e : ε) : Condition ε where
  Holds := p
  failure _ := e

/-- The same condition, with its failure reported in another way. -/
def Condition.map {ε ε' : Type} (report : ε → ε') (c : Condition ε) : Condition ε' where
  Holds := c.Holds
  failure h := report (c.failure h)

theorem Condition.holds_of {ε : Type} {p : Prop} {e : ε} : (Condition.of p e).Holds ↔ p :=
  Iff.rfl

variable {ε α β : Type}

/-- The failure of the first condition of a list that does not hold. -/
inductive FirstFails : List (Condition ε) → ε → Prop
  | here {c : Condition ε} {cs} (h : ¬c.Holds) : FirstFails (c :: cs) (c.failure h)
  | behind {c : Condition ε} {cs e} (h : c.Holds) (hrest : FirstFails cs e) :
      FirstFails (c :: cs) e

section Lists

variable {c : Condition ε} {cs ds : List (Condition ε)} {e e' : ε}

theorem firstFails_nil : ¬FirstFails [] e :=
  nofun

theorem firstFails_cons_iff :
    FirstFails (c :: cs) e ↔ (∃ h : ¬c.Holds, c.failure h = e) ∨ (c.Holds ∧ FirstFails cs e) := by
  constructor
  · intro h
    cases h with
    | here h => exact .inl ⟨h, rfl⟩
    | behind h hrest => exact .inr ⟨h, hrest⟩
  · intro h
    rcases h with ⟨h, rfl⟩ | ⟨h, hrest⟩
    · exact .here h
    · exact .behind h hrest

/-- A condition with one failure, in front of others. -/
theorem firstFails_of_cons_iff {p : Prop} :
    FirstFails (.of p e' :: cs) e ↔ (¬p ∧ e' = e) ∨ (p ∧ FirstFails cs e) := by
  have honly : (∃ _ : ¬p, e' = e) ↔ ¬p ∧ e' = e := exists_prop
  exact firstFails_cons_iff.trans (or_congr_left honly)

/-- What first fails of a list is what first fails of it when failures are reported in
    another way. -/
theorem firstFails_map_iff {ε' : Type} {report : ε → ε'} {e' : ε'} :
    FirstFails (cs.map (Condition.map report)) e' ↔ ∃ e, FirstFails cs e ∧ report e = e' := by
  induction cs with
  | nil => exact ⟨nofun, fun h => h.elim fun _ he => absurd he.1 firstFails_nil⟩
  | cons c cs ih =>
      -- The condition in front is the same one, so it decides in the same way.
      have hfront : (∃ h : ¬(c.map report).Holds, (c.map report).failure h = e') ↔
          ∃ e, (∃ h : ¬c.Holds, c.failure h = e) ∧ report e = e' := by
        constructor
        · intro h
          rcases h with ⟨hfails, rfl⟩
          exact ⟨_, ⟨hfails, rfl⟩, rfl⟩
        · intro h
          rcases h with ⟨_, ⟨hfails, rfl⟩, rfl⟩
          exact ⟨hfails, rfl⟩
      have hbehind : ((c.map report).Holds ∧ ∃ e, FirstFails cs e ∧ report e = e') ↔
          ∃ e, (c.Holds ∧ FirstFails cs e) ∧ report e = e' := by
        simp only [and_assoc, exists_and_left]
        exact Iff.rfl
      simp only [List.map_cons, firstFails_cons_iff, ih, hfront, hbehind, ← exists_or, or_and_right]

/-- Of two lists the second matters only if all of the first holds. -/
theorem firstFails_append_iff :
    FirstFails (cs ++ ds) e ↔ FirstFails cs e ∨ ((∀ c ∈ cs, c.Holds) ∧ FirstFails ds e) := by
  induction cs with
  | nil =>
      rw [List.nil_append]
      exact ⟨fun h => .inr ⟨nofun, h⟩, fun h => h.elim nofun And.right⟩
  | cons c cs ih =>
      rw [List.cons_append, firstFails_cons_iff, firstFails_cons_iff, ih, List.forall_mem_cons]
      -- Either way the first condition decides whether the rest is looked at.
      by_cases hholds : c.Holds
      · simp only [hholds, true_and, or_assoc]
      · simp only [hholds, false_and, or_false]

/-- Something fails unless all conditions hold. -/
theorem exists_firstFails_of_not (h : ¬∀ c ∈ cs, c.Holds) : ∃ e, FirstFails cs e := by
  induction cs with
  | nil => exact absurd nofun h
  | cons c cs ih =>
      by_cases hholds : c.Holds
      · have hrest : ¬∀ c ∈ cs, c.Holds := fun hall =>
          h (List.forall_mem_cons.mpr ⟨hholds, hall⟩)
        rcases ih hrest with ⟨e, he⟩
        exact ⟨e, .behind hholds he⟩
      · exact ⟨_, .here hholds⟩

/-- What fails is one of the conditions. -/
theorem FirstFails.exists_mem (h : FirstFails cs e) :
    ∃ c ∈ cs, ∃ hfails : ¬c.Holds, c.failure hfails = e := by
  induction h with
  | here hfails => exact ⟨_, List.mem_cons_self, hfails, rfl⟩
  | behind _ _ ih =>
      rcases ih with ⟨c, hc, hfails, he⟩
      exact ⟨c, List.mem_cons_of_mem _ hc, hfails, he⟩

/-- Nothing fails if all conditions hold, and only then. -/
theorem not_exists_firstFails_iff : (¬∃ e, FirstFails cs e) ↔ ∀ c ∈ cs, c.Holds := by
  constructor
  · intro h
    exact Classical.byContradiction fun hnot => h (exists_firstFails_of_not hnot)
  · intro hall hsome
    rcases hsome with ⟨e, he⟩
    rcases he.exists_mem with ⟨c, hc, hfails, -⟩
    exact hfails (hall c hc)

end Lists

/-- A computation checks conditions in this order: it fails with what first fails
    of them, and with nothing else. -/
def Checks (x : Except ε α) (cs : List (Condition ε)) : Prop :=
  ∀ e, x = .error e ↔ FirstFails cs e

section Computations

variable {x : Except ε α} {f : α → Except ε β} {cs ds : List (Condition ε)} {p : Prop} {e : ε}

/-- A computation succeeds if all its conditions hold, and only then. -/
theorem Checks.exists_ok_iff (h : Checks x cs) : (∃ a, x = .ok a) ↔ ∀ c ∈ cs, c.Holds := by
  rw [← not_exists_firstFails_iff]
  cases x with
  | ok a =>
      refine iff_of_true ⟨a, rfl⟩ ?_
      intro hsome
      rcases hsome with ⟨e, he⟩
      exact absurd ((h e).mpr he) nofun
  | error e => exact iff_of_false nofun fun hnone => hnone ⟨e, (h e).mp rfl⟩

/-- The same for a computation with two results. -/
theorem Checks.exists_pair_iff {x : Except ε (α × β)} (h : Checks x cs) :
    (∃ a b, x = .ok (a, b)) ↔ ∀ c ∈ cs, c.Holds := by
  rw [← h.exists_ok_iff, Prod.exists]

theorem Checks.forall_holds (h : Checks x cs) {a : α} (hx : x = .ok a) : ∀ c ∈ cs, c.Holds :=
  h.exists_ok_iff.mp ⟨a, hx⟩

/-- A success checks nothing. -/
theorem checks_ok (a : α) : Checks (.ok a : Except ε α) [] :=
  fun _ => iff_of_false nofun firstFails_nil

/-- A computation that has one failure has one condition. -/
theorem checks_of_iff (h : ∀ e', x = .error e' ↔ ¬p ∧ e = e') : Checks x [.of p e] := by
  intro e'
  rw [h, firstFails_of_cons_iff]
  exact (or_iff_left fun hrest => firstFails_nil hrest.2).symm

theorem checks_ensure [Decidable p] : Checks (ensure p e) [.of p e] :=
  checks_of_iff fun _ => ensure_eq_error_iff

/-- A step that is followed by another has its conditions checked first. The other
    step may rely on the first one having passed. -/
theorem Checks.bind (hx : Checks x cs) (hf : ∀ a, x = .ok a → Checks (f a) ds) :
    Checks (x >>= f) (cs ++ ds) := by
  intro e
  rw [firstFails_append_iff]
  cases x with
  | error e' =>
      -- The rest is not reached, and its conditions are not looked at.
      have hnot : ¬∀ c ∈ cs, c.Holds := fun hall => by
        rcases hx.exists_ok_iff.mpr hall with ⟨a, ha⟩
        cases ha
      rw [error_bind, ← hx e, Except.error.injEq, Except.error.injEq]
      exact (or_iff_left fun hrest => hnot hrest.1).symm
  | ok a =>
      have hpassed : ¬FirstFails cs e := fun he => absurd ((hx e).mpr he) nofun
      rw [ok_bind, hf a rfl e, or_iff_right hpassed]
      exact (and_iff_right (hx.forall_holds rfl)).symm

/-- A step with one condition in front of others. -/
theorem Checks.cons {c : Condition ε} (hx : Checks x [c])
    (hf : ∀ a, x = .ok a → Checks (f a) cs) : Checks (x >>= f) (c :: cs) :=
  hx.bind hf

/-- What cannot fail any more adds no condition. -/
theorem Checks.bind_ok (hx : Checks x cs) (g : α → β) :
    Checks (x >>= fun a => .ok (g a)) cs := by
  have hnothing : ∀ a, x = .ok a → Checks (.ok (g a) : Except ε β) [] := fun a _ => checks_ok (g a)
  have h := hx.bind hnothing
  rwa [List.append_nil] at h

/-- Reporting failures in another way checks the same conditions. -/
theorem Checks.mapError {ε' : Type} (hx : Checks x cs) (report : ε → ε') :
    Checks (x.mapError report) (cs.map (Condition.map report)) := by
  intro e'
  rw [mapError_eq_error_iff, firstFails_map_iff]
  exact exists_congr fun e => and_congr_left' (hx e)

/-- Every word but the largest has a next one. -/
theorem checks_next? (a : UInt64) (e : ε) (f : UInt64 → α) :
    Checks (match Word.next? a with
      | none => .error e
      | some next => .ok (f next)) [.of (a.toNat < UInt64.size - 1) e] := by
  refine checks_of_iff fun e' => ?_
  rw [← Word.next?_eq_none_iff_not_lt]
  cases Word.next? a with
  | none => simp only [Except.error.injEq, true_and]
  | some next => exact iff_of_false nofun nofun

end Computations

namespace Address

variable [AddressRule]

theorem isSome_fault? {text : String} (h : ¬Valid text) :
    (AddressRule.fault? text).isSome = true :=
  Option.isSome_iff_ne_none.mpr h

/-- A text is an address, or fails with its first fault. -/
def validity (text : String) : Condition AddressFault where
  Holds := Valid text
  failure h := (AddressRule.fault? text).get (isSome_fault? h)

theorem checks_check (text : String) : Checks (check text) [validity text] := by
  intro fault
  rw [check_eq_error_iff, firstFails_cons_iff, or_iff_left fun hrest => firstFails_nil hrest.2]
  constructor
  · intro h
    have hnot : ¬(validity text).Holds := fun hvalid => by
      rw [hvalid] at h
      cases h
    refine ⟨hnot, ?_⟩
    simp only [validity, h, Option.get_some]
  · intro h
    rcases h with ⟨hnot, rfl⟩
    exact (Option.some_get _).symm

end Address

end BridgeCustody
