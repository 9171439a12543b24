import BridgeCustody.Proofs.Conditions
import BridgeCustody.Proofs.Ledger.Refusal

/-!
# What the Ledger Checks

Each function that the ledger's operations are made of, with the conditions that it
checks. Most have one, and then it is the refusal of the function read the other way
round.

The conditions are about the numbers that a call starts from. A function may come to
its refusal in another way, as `raiseSupply` does, which first makes the sum and then
compares the sum with the cap.

A fee that is no more than its amount can always be taken off. That is why settling
checks a sum of fees but no difference, although it computes one.

## Main definitions

* `validAddress`: The condition on an address, which has more than one refusal.
* `settling`: The conditions on a relayed amount and its fee.

## Theorems

* `checks_raiseSupply`, `checks_settle`: The bookkeeping in either direction.
* `checks_execute`: A call checks what its operation checks, unless the ledger was
  deleted.
-/

namespace BridgeCustody

namespace Ledger

/-- A text is an address, or is refused with its first fault. -/
def validAddress [AddressRule] (text : String) : Condition Error where
  Holds := Address.Valid text
  failure h := .host (.address ((AddressRule.fault? text).get (Option.isSome_iff_ne_none.mpr h)))

/-- The conditions on a relayed amount and the fee on it. -/
def settling (l : Ledger) (amount fee : Amount) : List (Condition Error) :=
  [.of (amount ≠ .zero) (.invalidAmount .zero),
   .of (amount ≤ l.reverseLimits.max)
     (.invalidAmount (.aboveReverseMax amount l.reverseLimits.max)),
   .of (amount ≤ l.allowance) (.allowanceExceeded amount l.allowance),
   .of (amount ≤ l.supply) (.supplyExceeded amount l.supply),
   .of (l.fees.toNat + fee.toNat < Amount.size) (.noSum l.fees fee)]

theorem checks_checkAddress [AddressRule] (text : String) :
    Checks (checkAddress text) [validAddress text] :=
  ((Address.checks_check text).mapError Fault.address).mapError Error.host

section Checks

variable {g : Registry} {chain : Chain} {sender : Address} {l : Ledger} {amount fee : Amount}
  {message : Message} {s : Store}

theorem checks_checkOpen (l : Ledger) (surface : Surface) (height : UInt64) :
    Checks (l.checkOpen surface height)
      [.of (isPaused (l.pausedSince surface) height = false) .paused] :=
  checks_ensure

theorem Registry.checks_require_one (g : Registry) (role : Role) (a : Address) :
    Checks (g.require [role] a) [.of (g.holds role a = true) (.unauthorized [role])] := by
  refine checks_of_iff fun e => ?_
  rw [Registry.require_eq_error_iff, List.forall_mem_singleton]

theorem SwapLimits.checks_validate (limits : SwapLimits) :
    Checks limits.validate
      [.of (limits.min ≤ limits.max) (.invalidLimits (.swapCrossed limits))] :=
  checks_ensure

/-- The fee is compared first. -/
theorem ReverseLimits.checks_validate (limits : ReverseLimits) :
    Checks limits.validate
      [.of (limits.fee ≤ limits.min) (.invalidLimits (.reverseFeeAboveMin limits)),
       .of (limits.min ≤ limits.max) (.invalidLimits (.reverseCrossed limits))] :=
  Checks.cons checks_ensure fun _ _ => checks_ensure

theorem checks_sum (a b : Amount) :
    Checks (sum a b) [.of (a.toNat + b.toNat < Amount.size) (.noSum a b)] := by
  refine checks_of_iff fun e => ?_
  rw [sum_eq_error_iff, Nat.not_lt]

theorem checks_consume (allowance amount : Amount) :
    Checks (consume allowance amount)
      [.of (amount ≤ allowance) (.allowanceExceeded amount allowance)] := by
  refine checks_of_iff fun e => ?_
  rw [consume_eq_error_iff, Amount.le_iff_toNat_le, Nat.not_le]
  rfl

theorem checks_lowerSupply (l : Ledger) (amount : Amount) :
    Checks (l.lowerSupply amount) [.of (amount ≤ l.supply) (.supplyExceeded amount l.supply)] := by
  refine checks_of_iff fun e => ?_
  rw [lowerSupply_eq_error_iff, Amount.le_iff_toNat_le, Nat.not_le]
  rfl

/-- The cap is compared with a sum that is known to be there. -/
theorem checks_raiseSupply (l : Ledger) (amount : Amount) :
    Checks (l.raiseSupply amount)
      [.of (l.supply.toNat + amount.toNat < Amount.size) (.noSum l.supply amount),
       .of (l.supply.toNat + amount.toNat ≤ l.cap.toNat)
         (.capExceeded l.supply amount l.cap)] := by
  refine (checks_sum l.supply amount).cons fun supply hsum => Checks.bind_ok ?_ _
  refine checks_of_iff fun e => ?_
  rw [ensure_eq_error_iff, Amount.le_iff_toNat_le, sum_eq_ok_iff.mp hsum]

/-- A fee that is a part of its amount leaves a difference. -/
theorem exists_difference_eq_ok (h : fee ≤ amount) : ∃ paid, difference amount fee = .ok paid := by
  refine ⟨amount.monus fee, difference_eq_ok_iff.mpr ?_⟩
  rw [Amount.le_iff_toNat_le] at h
  rw [Amount.toNat_monus]
  omega

theorem checks_settle (l : Ledger) (h : fee ≤ amount) :
    Checks (l.settle amount fee) (settling l amount fee) := by
  rcases exists_difference_eq_ok h with ⟨paid, hpaid⟩
  rw [settle, hpaid]
  refine Checks.cons checks_ensure fun _ _ => Checks.cons checks_ensure fun _ _ => ?_
  refine (checks_consume l.allowance amount).cons fun allowance _ => ?_
  refine (checks_lowerSupply l amount).cons fun lowered _ => ?_
  exact (checks_sum l.fees fee).bind_ok fun fees =>
    ({ lowered with allowance := allowance, fees := fees }, paid)

theorem checks_checkRelayed (g : Registry) (chain : Chain) (sender : Address) (eon : UInt64)
    (l : Ledger) :
    Checks (l.checkRelayed g chain sender eon)
      [.of (isPaused l.relayerPause chain.height = false) .paused,
       .of (g.holds .relayer sender = true) (.unauthorized [.relayer]),
       .of (l.relayEon = eon) (.staleEon l.relayEon eon)] :=
  (checks_checkOpen l .relayerApi chain.height).cons fun _ _ =>
    (g.checks_require_one .relayer sender).cons fun _ _ => checks_ensure

/-- A call checks first that the ledger was not deleted, and then what its operation
    checks. -/
theorem checks_execute [AddressRule] {conditions : List (Condition Error)}
    (hload : item.load s = .ok l)
    (h : Checks (l.operate (.ofStore s) chain sender message) conditions) :
    Checks (execute chain sender message s) (.of (l.deleted = false) .deleted :: conditions) := by
  have hloaded : ofHost (item.load s) = .ok l := ofHost_eq_ok_iff.mpr hload
  rw [execute, hloaded, ok_bind]
  exact Checks.cons checks_ensure fun _ _ => h.bind_ok _

end Checks

end Ledger

end BridgeCustody
