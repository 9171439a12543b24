import BridgeCustody.Proofs.Ledger.Operation

/-!
# With What a Check Refuses

The rules of `Performs` say when a call goes through, and for that the order of
the checks does not matter. For the refusal that a call ends in it is all that
matters: it is that of the first check that fails, whatever the later ones would
have said.

A chain of checks is refused with an error if its first check refuses with it,
or passes and the rest is refused with it. `bind_eq_error_iff` says so, and takes
a chain apart from the front. What remains are the checks themselves, and here
each is given the one error that it has, with the condition under which it has
it. To find out whether an operation can be refused with some error is then to
compare that error with those of its checks.

## Theorems

* `ofHost_eq_error_iff`, `checkAddress_eq_error_iff`: Faults of the surroundings.
* `Registry.require_eq_error_iff`, `checkOpen_eq_error_iff`: Who may call, and
  when.
* `sum_eq_error_iff`, `difference_eq_error_iff`, `consume_eq_error_iff`,
  `lowerSupply_eq_error_iff`, `raiseSupply_eq_error_iff`: Amounts.
* `execute_eq_error_iff`: A call is refused as its operation is.
-/

namespace BridgeCustody

namespace Ledger

theorem ofHost_eq_error_iff {α : Type} {result : Except Fault α} {e : Error} :
    ofHost result = .error e ↔ ∃ fault, result = .error fault ∧ .host fault = e :=
  mapError_eq_error_iff

theorem checkAddress_eq_error_iff [AddressRule] {text : String} {e : Error} :
    checkAddress text = .error e ↔
      ∃ fault, AddressRule.fault? text = some fault ∧ .host (.address fault) = e := by
  simp only [checkAddress, ofHost_eq_error_iff, mapError_eq_error_iff,
    Address.check_eq_error_iff]
  constructor
  · rintro ⟨_, ⟨fault, hfault, rfl⟩, rfl⟩
    exact ⟨fault, hfault, rfl⟩
  · rintro ⟨fault, hfault, rfl⟩
    exact ⟨_, ⟨fault, hfault, rfl⟩, rfl⟩

theorem Registry.require_eq_error_iff {g : Registry} {roles : List Role} {a : Address}
    {e : Error} :
    g.require roles a = .error e ↔
      (∀ role ∈ roles, g.holds role a ≠ true) ∧ .unauthorized roles = e := by
  rw [require, ensure_eq_error_iff, List.any_eq_true]
  simp only [not_exists, not_and]

theorem checkOpen_eq_error_iff {l : Ledger} {surface : Surface} {height : UInt64} {e : Error} :
    l.checkOpen surface height = .error e ↔
      isPaused (l.pausedSince surface) height = true ∧ .paused = e := by
  rw [checkOpen, checkNotPaused, ensure_eq_error_iff, Bool.not_eq_false]

theorem sum_eq_error_iff {a b : Amount} {e : Error} :
    sum a b = .error e ↔ Amount.size ≤ a.toNat + b.toNat ∧ .noSum a b = e := by
  rw [← Amount.add?_eq_none_iff]
  unfold sum
  cases a.add? b with
  | none => simp only [Except.error.injEq, true_and]
  | some c => exact ⟨nofun, nofun⟩

theorem difference_eq_error_iff {a b : Amount} {e : Error} :
    difference a b = .error e ↔ a < b ∧ .noDifference a b = e := by
  rw [← Amount.sub?_eq_none_iff]
  unfold difference
  cases a.sub? b with
  | none => simp only [Except.error.injEq, true_and]
  | some c => exact ⟨nofun, nofun⟩

theorem consume_eq_error_iff {allowance amount : Amount} {e : Error} :
    consume allowance amount = .error e ↔
      allowance < amount ∧ .allowanceExceeded amount allowance = e := by
  rw [← Amount.sub?_eq_none_iff]
  unfold consume
  cases allowance.sub? amount with
  | none => simp only [Except.error.injEq, true_and]
  | some left => exact ⟨nofun, nofun⟩

theorem lowerSupply_eq_error_iff {l : Ledger} {amount : Amount} {e : Error} :
    l.lowerSupply amount = .error e ↔
      l.supply < amount ∧ .supplyExceeded amount l.supply = e := by
  rw [← Amount.sub?_eq_none_iff]
  unfold lowerSupply
  cases l.supply.sub? amount with
  | none => simp only [Except.error.injEq, true_and]
  | some supply => exact ⟨nofun, nofun⟩

/-- That there is no sum comes before that the sum is above the cap. -/
theorem raiseSupply_eq_error_iff {l : Ledger} {amount : Amount} {e : Error} :
    l.raiseSupply amount = .error e ↔
      (Amount.size ≤ l.supply.toNat + amount.toNat ∧ .noSum l.supply amount = e) ∨
      ∃ supply : Amount, supply.toNat = l.supply.toNat + amount.toNat ∧ ¬supply ≤ l.cap ∧
        .capExceeded l.supply amount l.cap = e := by
  simp only [raiseSupply, bind_eq_error_iff, sum_eq_error_iff, sum_eq_ok_iff,
    ensure_eq_error_iff, pure_eq_ok, reduceCtorEq, and_false, exists_false, or_false]

/-- On a store that holds a ledger that is not deleted, a call is what its
    operation is. -/
theorem execute_eq_error_iff [AddressRule] {s : Store} {l : Ledger} {chain : Chain}
    {sender : Address} {message : Message} (hload : item.load s = .ok l) (hopen : l.deleted = false)
    {e : Error} :
    execute chain sender message s = .error e ↔
      l.operate (.ofStore s) chain sender message = .error e := by
  have hloaded : ofHost (item.load s) = .ok l := ofHost_eq_ok_iff.mpr hload
  rw [execute, hloaded, ok_bind, ensure_bind, if_pos hopen]
  simp only [bind_eq_error_iff, pure_eq_ok, reduceCtorEq, and_false, exists_false, or_false]

end Ledger

end BridgeCustody
