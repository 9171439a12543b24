import BridgeCustody.Ledger.Error
import BridgeCustody.Ledger.Surface
import BridgeCustody.Store.Cell

/-!
# The Custody Ledger

What the ledger remembers as one value: how much it holds for others, what it
may still pay out, and the settings under which it works. `supply` is what was
taken into custody and not yet paid back; fees are owed apart from it.

Supply only ever changes through `raiseSupply` and `lowerSupply`, so the cap
and the floor are checked in one place each.

## Main definitions

* `Ledger`: The value.
* `Ledger.raiseSupply`, `Ledger.lowerSupply`: Changes of the supply.
* `Ledger.owed?`, `Ledger.owed`: What the ledger owes in all.
* `Ledger.pausedSince`, `Ledger.setPausedSince`: The pause of a surface.
* `Ledger.item`: Where the value is stored.

## Theorems

* `Ledger.raiseSupply_eq_ok_iff`, `Ledger.lowerSupply_eq_ok_iff`: When a change
  of the supply goes through, and what it changes.
-/

namespace BridgeCustody

open Ledger in
/-- What the ledger remembers as one value. -/
structure Ledger where
  /-- The token in custody. -/
  token : Address
  /-- Value in custody that is not yet paid back. -/
  supply : Amount
  /-- Fees owed apart from the supply. -/
  fees : Amount
  /-- The bound on the supply when it grows. -/
  cap : Amount
  /-- The id of the next forward swap. -/
  nextSwapId : UInt64
  /-- The epoch that relayed operations must name. -/
  relayEon : UInt64
  /-- What refunds and reverse swaps may still consume. -/
  allowance : Amount
  /-- The largest allowance that an approver may set. -/
  approverCap : Amount
  swapLimits : SwapLimits
  reverseLimits : ReverseLimits
  publicPause : UInt64
  relayerPause : UInt64
  deployedAt : UInt64
  protectionPeriod : UInt64
  /-- The first block at which deletion is allowed. -/
  earliestDelete : UInt64
  /-- Set for good by deletion. -/
  deleted : Bool
deriving DecidableEq

namespace Ledger

instance : Wire Ledger where
  toJson l := .object [
    ("token", Wire.toJson l.token),
    ("supply", Wire.toJson l.supply),
    ("fees_accrued", Wire.toJson l.fees),
    ("cap", Wire.toJson l.cap),
    ("next_swap_id", Wire.toJson l.nextSwapId),
    ("relay_eon", Wire.toJson l.relayEon),
    ("reverse_aggregated_allowance", Wire.toJson l.allowance),
    ("reverse_aggregated_allowance_approver_cap", Wire.toJson l.approverCap),
    ("swap_limits", Wire.toJson l.swapLimits),
    ("reverse_swap_limits", Wire.toJson l.reverseLimits),
    ("paused_since_block_public_api", Wire.toJson l.publicPause),
    ("paused_since_block_relayer_api", Wire.toJson l.relayerPause),
    ("deployment_block_number", Wire.toJson l.deployedAt),
    ("delete_protection_period", Wire.toJson l.protectionPeriod),
    ("earliest_delete", Wire.toJson l.earliestDelete),
    ("deleted", Wire.toJson l.deleted)]
  ofJson? j := do
    let f ← j.record? ["token", "supply", "fees_accrued", "cap", "next_swap_id", "relay_eon",
      "reverse_aggregated_allowance", "reverse_aggregated_allowance_approver_cap",
      "swap_limits", "reverse_swap_limits", "paused_since_block_public_api",
      "paused_since_block_relayer_api", "deployment_block_number", "delete_protection_period",
      "earliest_delete", "deleted"]
    return {
      token := ← Json.required? f "token"
      supply := ← Json.required? f "supply"
      fees := ← Json.required? f "fees_accrued"
      cap := ← Json.required? f "cap"
      nextSwapId := ← Json.required? f "next_swap_id"
      relayEon := ← Json.required? f "relay_eon"
      allowance := ← Json.required? f "reverse_aggregated_allowance"
      approverCap := ← Json.required? f "reverse_aggregated_allowance_approver_cap"
      swapLimits := ← Json.required? f "swap_limits"
      reverseLimits := ← Json.required? f "reverse_swap_limits"
      publicPause := ← Json.required? f "paused_since_block_public_api"
      relayerPause := ← Json.required? f "paused_since_block_relayer_api"
      deployedAt := ← Json.required? f "deployment_block_number"
      protectionPeriod := ← Json.required? f "delete_protection_period"
      earliestDelete := ← Json.required? f "earliest_delete"
      deleted := ← Json.required? f "deleted" }

/-- Where the ledger is stored. -/
def item : Item Ledger where
  key := Key.single "state"
  kind := "bridge_ledger::state::BridgeState"

/-- The block from which a surface is paused. -/
def pausedSince (l : Ledger) : Surface → UInt64
  | .publicApi => l.publicPause
  | .relayerApi => l.relayerPause

/-- Moves the pause of one surface. -/
def setPausedSince (l : Ledger) (surface : Surface) (block : UInt64) : Ledger :=
  match surface with
  | .publicApi => { l with publicPause := block }
  | .relayerApi => { l with relayerPause := block }

/-- Refuses unless a pause from block `since` on is not yet in force. -/
def checkNotPaused (since height : UInt64) : Except Error Unit :=
  ensure (isPaused since height = false) .paused

/-- Refuses unless a surface is open at a height. -/
def checkOpen (l : Ledger) (surface : Surface) (height : UInt64) : Except Error Unit :=
  checkNotPaused (l.pausedSince surface) height

/-- The sum of two amounts, or the refusal that there is none. -/
def sum (a b : Amount) : Except Error Amount :=
  match a.add? b with
  | some c => .ok c
  | none => .error (.noSum a b)

/-- The difference of two amounts, or the refusal that there is none. -/
def difference (a b : Amount) : Except Error Amount :=
  match a.sub? b with
  | some c => .ok c
  | none => .error (.noDifference a b)

/-- Takes an amount into custody. -/
def raiseSupply (l : Ledger) (amount : Amount) : Except Error Ledger := do
  let supply ← sum l.supply amount
  ensure (supply ≤ l.cap) (.capExceeded l.supply amount l.cap)
  return { l with supply := supply }

/-- Releases an amount from custody. -/
def lowerSupply (l : Ledger) (amount : Amount) : Except Error Ledger :=
  match l.supply.sub? amount with
  | some supply => .ok { l with supply := supply }
  | none => .error (.supplyExceeded amount l.supply)

/-- What is left of an allowance once an amount is consumed. -/
def consume (allowance amount : Amount) : Except Error Amount :=
  match allowance.sub? amount with
  | some left => .ok left
  | none => .error (.allowanceExceeded amount allowance)

/-- Who may set the allowance to a value. -/
def allowanceSetters (value approverCap : Amount) : List Role :=
  if value ≤ approverCap then [.admin, .approver] else [.admin]

/-- What the ledger owes in all, if that is an amount. -/
def owed? (l : Ledger) : Option Amount :=
  l.supply.add? l.fees

/-- What the ledger owes in all, or the refusal that this is no amount. -/
def owed (l : Ledger) : Except Error Amount :=
  sum l.supply l.fees

/-- The eon after a given one; the eon of a fresh ledger is followed by zero. -/
def nextEon (current : UInt64) : UInt64 :=
  current + 1

/-- Refuses unless the current eon is named. -/
def checkEon (current got : UInt64) : Except Error Unit :=
  ensure (current = got) (.staleEon current got)

theorem sum_eq_ok_iff {a b c : Amount} : sum a b = .ok c ↔ c.toNat = a.toNat + b.toNat := by
  rw [← Amount.add?_eq_some_iff]
  unfold sum
  split <;> simp_all

theorem lowerSupply_eq_ok_iff {l l' : Ledger} {amount : Amount} :
    l.lowerSupply amount = .ok l' ↔
      ∃ supply, l.supply.toNat = supply.toNat + amount.toNat ∧
        l' = { l with supply := supply } := by
  unfold lowerSupply
  cases h : l.supply.sub? amount with
  | none =>
    rw [Amount.sub?_eq_none_iff, Amount.lt_iff_toNat_lt] at h
    refine ⟨nofun, fun ⟨supply, hs, _⟩ => ?_⟩
    omega
  | some supply =>
    have hs := Amount.sub?_eq_some_iff.mp h
    simp only [Except.ok.injEq]
    constructor
    · rintro rfl
      exact ⟨supply, hs, rfl⟩
    · rintro ⟨supply', hs', rfl⟩
      have : supply = supply' := Amount.ext (by omega)
      rw [this]

theorem raiseSupply_eq_ok_iff {l l' : Ledger} {amount : Amount} :
    l.raiseSupply amount = .ok l' ↔
      ∃ supply, supply.toNat = l.supply.toNat + amount.toNat ∧ supply ≤ l.cap ∧
        l' = { l with supply := supply } := by
  unfold raiseSupply
  cases h : sum l.supply amount with
  | error e =>
    -- No sum, so nothing can be the new supply.
    refine ⟨nofun, fun ⟨supply, hs, _⟩ => ?_⟩
    rw [sum_eq_ok_iff.mpr hs] at h
    cases h
  | ok supply =>
    have hs := sum_eq_ok_iff.mp h
    rw [ok_bind, ensure_bind]
    -- The sum is there; what remains is whether it keeps to the cap.
    split
    · next hc =>
      rw [pure_eq_ok, Except.ok.injEq]
      constructor
      · rintro rfl
        exact ⟨supply, hs, hc, rfl⟩
      · rintro ⟨supply', hs', _, rfl⟩
        have : supply = supply' := Amount.ext (by omega)
        rw [this]
    · next hc =>
      refine ⟨nofun, fun ⟨supply', hs', hc', _⟩ => ?_⟩
      have : supply' = supply := Amount.ext (by omega)
      exact absurd (this ▸ hc') hc

end Ledger

end BridgeCustody
