import BridgeCustody.Proofs.Ledger.History

/-!
# The Value Along a Run

Many a claim about the ledger is about its value alone: an allowance, a limit, an
eon. The books would do for these, but books are kept only by a store whose
tables can be read, and that is known only if the ledger was deployed on an empty
store. The value is there after every deployment, because the deployment writes
it, and every call that goes through writes it again or leaves it.

So there is a second induction beside the one on books. `Turns` says what a call
does to the value. The roles and the refunds that a call asks for are those of
the store that it meets, whatever that store has in its tables.

## Main definitions

* `Turns`: What a call does to the value.

## Theorems

* `Call.turns`: A call that goes through turns the value.
* `run_value`: What every call preserves ties the value to the log.
* `run_value_of_forall`: What calls of a kind preserve holds after a run of them.
* `run_turns`: Every call that went through in a run turned a value.
* `deploy_load`: The value after a deployment on any store.
* `run_get?_item`: From then on it is written in its own words.
-/

namespace BridgeCustody

namespace Ledger

/-- What a call that goes through does to the value of a store, and what it
    reports. -/
inductive Turns [AddressRule] (s : Store) (l : Ledger) : Call → Receipt → Ledger → Prop
  | execute {chain sender message out} (hopen : l.deleted = false)
      (hperf : Performs (.ofStore s) chain sender l message out) :
      Turns s l (.execute chain sender message) ⟨out.call, out.event⟩ out.ledger
  | migrate : Turns s l .migrate ⟨none, .migrated⟩ l

/-- A call that goes through turns the value. -/
theorem Call.turns [AddressRule] {call : Call} {s s' : Store} {receipt : Receipt} {l : Ledger}
    (hload : item.load s = .ok l) (hcall : call.perform s = .ok (s', receipt)) :
    ∃ l', item.load s' = .ok l' ∧ Turns s l call receipt l' := by
  cases call with
  | execute chain sender message =>
      rcases execute_eq_ok_iff.mp hcall with ⟨l₁, out, hl₁, hopen, hperf, rfl, rfl⟩
      -- There is only one value to load.
      cases hload.symm.trans hl₁
      exact ⟨out.ledger, out.load_commit s, .execute hopen hperf⟩
  | migrate =>
      cases hcall
      exact ⟨l, (item.load_write_of_ne Release.item.toCell _ s release_key_ne_item).trans hload,
        .migrate⟩

section Runs

variable [AddressRule] {start s : Store} {log : List (Entry Call Receipt)} {l₀ : Ledger}

/-- What ties the value to the log holds at the end of a run if it holds of an
    empty log and every call that goes through extends it by its entry. -/
theorem run_value {P : Ledger → List (Entry Call Receipt) → Prop}
    (hrun : Run Call.perform start s log) (hload : item.load start = .ok l₀) (h0 : P l₀ [])
    (hstep : ∀ l l' e log, P l log → Turns e.before l e.call e.report l' →
      P l' (log ++ [e])) :
    ∃ l, item.load s = .ok l ∧ P l log := by
  refine hrun.logged (P := fun s log => ∃ l, item.load s = .ok l ∧ P l log) ⟨l₀, hload, h0⟩ ?_
  rintro call s s' report log ⟨l, hl, hP⟩ hcall
  rcases call.turns hl hcall with ⟨l', hl', hturns⟩
  exact ⟨l', hl', hstep l l' ⟨s, call, s', report⟩ log hP hturns⟩

/-- What every call of a kind preserves of the value holds at the end of a run in
    which only such calls went through. -/
theorem run_value_of_forall {P : Ledger → Prop} {Q : Entry Call Receipt → Prop}
    (hrun : Run Call.perform start s log) (hload : item.load start = .ok l₀) (h0 : P l₀)
    (hall : ∀ e ∈ log, Q e)
    (hstep : ∀ l l' e, P l → Turns e.before l e.call e.report l' → Q e → P l') :
    ∃ l, item.load s = .ok l ∧ P l := by
  refine hrun.invariant_of_forall (P := fun s => ∃ l, item.load s = .ok l ∧ P l) ⟨l₀, hload, h0⟩
    hall ?_
  rintro call s s' report ⟨l, hl, hP⟩ hcall hQ
  rcases call.turns hl hcall with ⟨l', hl', hturns⟩
  exact ⟨l', hl', hstep l l' _ hP hturns hQ⟩

/-- The value is there at the end of a run if it is at its start. -/
theorem run_load (hrun : Run Call.perform start s log) (hload : item.load start = .ok l₀) :
    ∃ l, item.load s = .ok l :=
  (run_value (P := fun _ _ => True) hrun hload trivial fun _ _ _ _ _ _ => trivial).imp
    fun _ h => h.1

/-- Every call that went through in a run turned a value. -/
theorem run_turns (hrun : Run Call.perform start s log) (hload : item.load start = .ok l₀)
    {e : Entry Call Receipt} (he : e ∈ log) :
    ∃ l l', item.load e.before = .ok l ∧ item.load e.after = .ok l' ∧
      Turns e.before l e.call e.report l' := by
  rcases hrun.of_mem he with ⟨pre, post, -, hbefore, hcall, -⟩
  rcases run_load hbefore hload with ⟨l, hl⟩
  rcases Call.turns hl hcall with ⟨l', hl', hturns⟩
  exact ⟨l, l', hl, hl', hturns⟩

end Runs

/-! ### The words of the value

A text that is read as a value need not be the text that the value is written as.
In a store that comes from a deployment it is, so that a call that leaves the value
as it was leaves its text as it was, although it writes it. -/

theorem grant_get?_item {role : Role} {holder : Address} {s s' : Store}
    (h : grant role holder s = .ok s') : s'.get? item.key = s.get? item.key := by
  rcases grant_eq_ok_iff.mp h with ⟨-, rfl⟩
  rw [Cell.get?_occupy, if_neg (item_key_ne_roleCell role holder).symm]

theorem grantEach_get?_item [AddressRule] {grants : List Grant} {s s' : Store}
    (h : grantEach grants s = .ok s') : s'.get? item.key = s.get? item.key := by
  induction grants generalizing s with
  | nil =>
      cases h
      rfl
  | cons g rest ih =>
      simp only [grantEach, bind_eq_ok_iff] at h
      rcases h with ⟨_, -, s₁, hone, hrest⟩
      rw [ih hrest, grant_get?_item hone]

section Deployed

variable [AddressRule] {chain : Chain} {sender : Address} {d : Deployment} {found start s : Store}
  {receipt : Receipt} {log : List (Entry Call Receipt)}

/-- A deployment writes a fresh value, whatever the store was before. -/
theorem deploy_get?_item (h : deploy chain sender d found = .ok (start, receipt)) :
    start.get? item.key = some (Wire.encode (fresh ⟨d.token⟩ chain.height d)) := by
  rcases deploy_eq_ok_iff.mp h with ⟨-, -, -, s₁, hadmin, hgrants, -⟩
  -- The grants come after the value and are made under other keys.
  rw [grantEach_get?_item hgrants, grant_get?_item hadmin, Cell.get?_write, if_pos rfl]

/-- After a deployment the value is fresh. -/
theorem deploy_load (h : deploy chain sender d found = .ok (start, receipt)) :
    item.load start = .ok (fresh ⟨d.token⟩ chain.height d) :=
  item.load_of_get? (deploy_get?_item h)

/-- From a deployment on the value is written in its own words. -/
theorem run_get?_item (h : deploy chain sender d found = .ok (start, receipt))
    (hrun : Run Call.perform start s log) {l : Ledger} (hload : item.load s = .ok l) :
    s.get? item.key = some (Wire.encode l) := by
  have hwords : ∃ l : Ledger, s.get? item.key = some (Wire.encode l) := by
    refine hrun.invariant (P := fun s => ∃ l : Ledger, s.get? item.key = some (Wire.encode l))
      ⟨_, deploy_get?_item h⟩ ?_
    rintro call s s' report ⟨l, hl⟩ hcall
    cases call with
    | execute chain sender message =>
        rcases execute_eq_ok_iff.mp hcall with ⟨_, out, -, -, -, rfl, -⟩
        exact ⟨out.ledger, out.get?_item s⟩
    | migrate =>
        cases hcall
        exact ⟨l, (Release.item.get?_write_of_ne _ s release_key_ne_item).trans hl⟩
  rcases hwords with ⟨l', hl'⟩
  cases hload.symm.trans (item.load_of_get? hl')
  exact hl'

end Deployed

end Ledger

end BridgeCustody
