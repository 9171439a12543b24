import BridgeCustody.Proofs.Ledger.Solvency

/-!
# What a Relayer Has Paid Out

Three messages let a relayer pay out of custody: a refund, a refund in full and a
reverse swap. They differ in what they are about and in what they are reported
as. What they do with the amount is one thing, and it is stated here once, so
that what is said about fees, about payments and about the books need not
distinguish them.

An amount that is paid out is cut in two. The fee stays in custody and only
changes its place in the dues, the rest is sent to the recipient. The parts make
up the amount exactly, whatever the limits are. Which part is how large is
decided by the mode alone: a charged payout bears the flat fee, or all of the
amount if that is less, and where the fee is waived there is no fee.

A part may be nothing. The rules allow a payment of nothing, but no message is
sent for it, and `payIfAny_eq_none_iff` is where that is decided.

## Main definitions

* `Payout`, `Message.payout?`: What a message has paid out, and to whom.
* `Payout.fee`: The part that stays in custody.
* `Event.payment?`: The two parts as they are reported.
* `PaidOut`: What a payout that went through did.
* `relayingBooks`: A small ledger with a relayer.

## Theorems

* `payIfAny_eq_none_iff`: Only a payment of nothing is left out.
* `Payout.fee_le`: The fee is a part of the amount.
* `Performs.paidOut`: The three messages do one and the same thing.
* `relay_smallTerms`, `pay_smallTerms`: Payouts from a small ledger.
-/

namespace BridgeCustody

namespace Ledger

/-- What a relayer asks to have paid out of custody. -/
structure Payout where
  recipient : String
  amount : Amount
  mode : RefundFee

/-- What a message has paid out, for the three that do. -/
def Message.payout? : Message → Option Payout
  | .refund _ recipient amount _ => some ⟨recipient, amount, .charged⟩
  | .refundInFull _ recipient amount _ => some ⟨recipient, amount, .waived⟩
  | .reverseSwap _ recipient _ _ amount _ => some ⟨recipient, amount, .charged⟩
  | _ => none

/-- The part of a payout that stays in custody as the fee. -/
def Payout.fee (l : Ledger) (p : Payout) : Amount :=
  l.refundFee p.mode p.amount

/-- What an event reports as paid and as kept for the fee. -/
def Event.payment? : Event → Option (Amount × Amount)
  | .refunded _ _ paid fee => some (paid, fee)
  | .reverseSwapped _ _ _ _ paid fee => some (paid, fee)
  | _ => none

/-- A payout went through on the value `l` with these parts: what it left, what
    was sent and what was reported. -/
structure PaidOut [AddressRule] (l l' : Ledger) (receipt : Receipt) (p : Payout)
    (fee paid : Amount) : Prop where
  valid : Address.Valid p.recipient
  positive : p.amount ≠ .zero
  parts : p.amount.toNat = paid.toNat + fee.toNat
  supply_eq : l.supply.toNat = l'.supply.toNat + p.amount.toNat
  allowance_eq : l.allowance.toNat = l'.allowance.toNat + p.amount.toNat
  fees_eq : l'.fees.toNat = l.fees.toNat + fee.toNat
  call_eq : receipt.call = l.payIfAny ⟨p.recipient⟩ paid
  event_eq : receipt.event.payment? = some (paid, fee)

section Payments

variable {l : Ledger} {recipient : Address} {amount : Amount}

/-- No message is sent if there is nothing to pay, and only then. -/
theorem payIfAny_eq_none_iff : l.payIfAny recipient amount = none ↔ amount = .zero := by
  unfold payIfAny
  by_cases hzero : amount = .zero
  · rw [if_pos hzero]
    exact iff_of_true rfl hzero
  · rw [if_neg hzero]
    exact iff_of_false nofun hzero

/-- A message that is sent pays something. -/
theorem amount_ne_zero_of_mem_payIfAny {c : TokenCall} (h : c ∈ l.payIfAny recipient amount) :
    amount ≠ .zero := by
  intro hzero
  rw [payIfAny_eq_none_iff.mpr hzero] at h
  cases h

end Payments

namespace Payout

variable {l : Ledger} {p : Payout}

/-- The fee is a part of the amount, under whatever limits. -/
theorem fee_le (l : Ledger) (p : Payout) : p.fee l ≤ p.amount := by
  unfold fee refundFee
  cases p.mode with
  | charged =>
      rw [Amount.le_iff_toNat_le, ReverseLimits.toNat_feeFor]
      exact Nat.min_le_left _ _
  | waived => exact Nat.zero_le _

/-- The fee is the flat one, or all there is, or nothing if it is waived. -/
theorem toNat_fee (l : Ledger) (p : Payout) :
    (p.fee l).toNat = match p.mode with
      | .charged => min p.amount.toNat l.reverseLimits.fee.toNat
      | .waived => 0 := by
  unfold fee refundFee
  cases p.mode with
  | charged => exact ReverseLimits.toNat_feeFor _ _
  | waived => rfl

/-- A charged payout bears the flat fee if there is as much to pay. -/
theorem fee_eq_flat (hmode : p.mode = .charged) (hle : l.reverseLimits.fee ≤ p.amount) :
    p.fee l = l.reverseLimits.fee := by
  refine Amount.ext ?_
  rw [fee, hmode, refundFee, ReverseLimits.toNat_feeFor]
  exact Nat.min_eq_right hle

/-- A charged payout that is not above the flat fee is all fee. -/
theorem fee_eq_amount (hmode : p.mode = .charged) (hle : p.amount ≤ l.reverseLimits.fee) :
    p.fee l = p.amount := by
  refine Amount.ext ?_
  rw [fee, hmode, refundFee, ReverseLimits.toNat_feeFor]
  exact Nat.min_eq_left hle

theorem fee_eq_zero (hmode : p.mode = .waived) : p.fee l = .zero := by
  rw [fee, hmode, refundFee]

end Payout

namespace PaidOut

variable [AddressRule] {l l' : Ledger} {receipt : Receipt} {p : Payout} {fee paid : Amount}

/-- Nothing is paid if the fee is all there is, and only then. -/
theorem paid_eq_zero_iff (h : PaidOut l l' receipt p fee paid) : paid = .zero ↔ fee = p.amount := by
  have hparts := h.parts
  rw [← Amount.toNat_inj, ← Amount.toNat_inj, Amount.toNat_zero]
  omega

/-- All is paid if there is no fee. -/
theorem paid_eq_amount (h : PaidOut l l' receipt p fee paid) (hfee : fee = .zero) :
    paid = p.amount := by
  have hparts := h.parts
  rw [hfee, Amount.toNat_zero] at hparts
  exact Amount.ext hparts.symm

end PaidOut

section Rules

variable [AddressRule]
variable {g : Registry} {chain : Chain} {sender : Address} {l : Ledger} {message : Message}
  {out : Outcome} {p : Payout}

theorem Settleable.paidOut {fee supply allowance fees paid : Amount} {receipt : Receipt}
    (h : Settleable l p.amount fee supply allowance fees paid)
    (hrecipient : Address.Valid p.recipient)
    (hcall : receipt.call = l.payIfAny ⟨p.recipient⟩ paid)
    (hevent : receipt.event.payment? = some (paid, fee)) :
    PaidOut l { l with supply := supply, allowance := allowance, fees := fees } receipt p fee
      paid :=
  ⟨hrecipient, h.positive, h.paid_eq, h.supply_eq, h.allowance_eq, h.fees_eq, hcall, hevent⟩

/-- The three messages that pay out do one and the same thing, with the fee that
    their mode asks for. -/
theorem Performs.paidOut (h : Performs g chain sender l message out)
    (hpayout : message.payout? = some p) :
    ∃ paid, PaidOut l out.ledger ⟨out.call, out.event⟩ p (p.fee l) paid := by
  cases h with
  | refund _ _ _ hrecipient h | refundInFull _ _ _ hrecipient h | reverseSwap _ hrecipient h =>
      cases hpayout
      exact ⟨_, h.paidOut hrecipient rfl rfl⟩
  | _ => cases hpayout

end Rules

/-! ### Payouts from a small ledger -/

/-- The books under small terms with a supply of five, once there is a relayer. -/
def relayingBooks : Books :=
  (smallBooks ⟨5, by decide⟩).withHolding .relayer ⟨"relayer"⟩ true

/-- A deployer mints five and makes somebody a relayer. -/
theorem relay_smallTerms :
    ∃ start receipt s log, deploy stillChain ⟨"deployer"⟩ smallTerms .empty = .ok (start, receipt) ∧
      Run Call.perform start s log ∧ relayingBooks.KeptIn s := by
  rcases mint_smallTerms with ⟨start, receipt, minted, hdeploy, hmint, hkept₁⟩
  rcases grant_smallTerms hkept₁ .relayer "relayer" (by decide) rfl with ⟨s, hgrant, hkept₂⟩
  exact ⟨start, receipt, s, _, hdeploy, run_execute (run_execute .here hmint) hgrant, hkept₂⟩

/-- The relayer can pay out as much as there is, less the fee of one. -/
theorem pay_smallTerms {s : Store} (hkept : relayingBooks.KeptIn s) {amount : Amount}
    (hpositive : amount ≠ .zero) (hle : amount.toNat ≤ 5) :
    ∃ s', execute stillChain ⟨"relayer"⟩
        (.reverseSwap 0 "customer" "origin" "hash" amount Word.never) s =
          .ok (s', ⟨relayingBooks.ledger.payIfAny ⟨"customer"⟩ (amount.monus ⟨1, by decide⟩),
            .reverseSwapped 0 ⟨"customer"⟩ "origin" "hash" (amount.monus ⟨1, by decide⟩)
              (smallTerms.reverseLimits.feeFor amount)⟩) := by
  have hone : 1 ≤ amount.toNat := by
    rw [Nat.one_le_iff_ne_zero]
    exact fun hzero => hpositive (Amount.ext hzero)
  -- One is the fee, so everything but one is paid.
  have hfee : (smallTerms.reverseLimits.feeFor amount).toNat = 1 := by
    rw [ReverseLimits.toNat_feeFor]
    exact Nat.min_eq_right hone
  have hsettle : Settleable relayingBooks.ledger amount
      (relayingBooks.ledger.reverseLimits.feeFor amount)
      (Amount.monus ⟨5, by decide⟩ amount) (Amount.monus ⟨500, by decide⟩ amount)
      ⟨1, by decide⟩ (amount.monus ⟨1, by decide⟩) := by
    refine ⟨hpositive, ?_, ?_, ?_, ?_, ?_⟩
    · exact Nat.le_trans hle (by decide)
    · change 500 = 500 - amount.toNat + amount.toNat
      omega
    · change 5 = 5 - amount.toNat + amount.toNat
      omega
    · change 1 = 0 + (smallTerms.reverseLimits.feeFor amount).toNat
      omega
    · change amount.toNat = amount.toNat - 1 + (smallTerms.reverseLimits.feeFor amount).toNat
      omega
  have hpays : Performs relayingBooks.registry stillChain ⟨"relayer"⟩ relayingBooks.ledger
      (.reverseSwap 0 "customer" "origin" "hash" amount Word.never) _ :=
    .reverseSwap ⟨rfl, rfl, rfl⟩ (by decide) hsettle
  rcases hkept.proceeds rfl hpays with ⟨s', hpay, -⟩
  exact ⟨s', hpay⟩

end Ledger

end BridgeCustody
