import BridgeCustody.Proofs.Ledger.Payout
import BridgeCustody.Proofs.Ledger.Value

/-!
# Limits Stay in Order

The limits are read by every swap and by every payout, and neither looks at
whether they make sense. That they do is checked where limits come from, which
is in three places: at the deployment, and in the two operations that set them.
So it has to be known that no fourth way leads to new limits, and then the order
holds for good.

What hangs on it is the price of a payout. The fee is cut to the amount, because
the minimum does not bind what is relayed, and an amount that once was in order
may have fallen below the fee. But from the minimum on nothing is ever cut: the
minimum is no less than the fee. Whoever asks for that much bears exactly the
flat fee, and this is a consequence of the order, not of the arithmetic.

## Main definitions

* `InOrder`: Both pairs of limits are in order.
* `Tariff`: What a payout costs under limits in order.

## Theorems

* `Performs.inOrder`: No operation leaves limits out of order.
* `run_inOrder`: So they are in order after every deployment.
* `execute_setSwapLimits_iff`, `execute_setReverseLimits_iff`: An administrator
  can set the limits that are in order.
* `PaidOut.tariff`: What a payout costs.
* `limits_stay_in_order`: All of it, for all runs from a deployment.
-/

namespace BridgeCustody

namespace Ledger

/-- Both pairs of limits are in order. -/
structure InOrder (l : Ledger) : Prop where
  swapLimits : l.swapLimits.Ordered
  reverseLimits : l.reverseLimits.Ordered

/-- What a payout costs under limits in order. -/
structure Tariff (limits : ReverseLimits) (p : Payout) (fee paid : Amount) : Prop where
  /-- From the minimum on the fee is the flat fee, and the rest is paid. -/
  fromMin : p.mode = .charged → limits.min ≤ p.amount →
    fee = limits.fee ∧ p.amount.toNat = paid.toNat + limits.fee.toNat
  /-- Between the fee and the minimum it is the same. -/
  fromFee : p.mode = .charged → limits.fee ≤ p.amount →
    fee = limits.fee ∧ p.amount.toNat = paid.toNat + limits.fee.toNat
  /-- An amount that is not above the fee is all fee. -/
  upToFee : p.mode = .charged → p.amount ≤ limits.fee → fee = p.amount ∧ paid = .zero
  /-- A refund in full is all paid. -/
  waived : p.mode = .waived → fee = .zero ∧ paid = p.amount

section Steps

variable [AddressRule]
variable {g : Registry} {chain : Chain} {sender : Address} {l l' : Ledger} {message : Message}
  {out : Outcome} {s s' : Store} {call : Call} {receipt : Receipt}

/-- Limits that are set are in order, and nothing else touches limits. -/
theorem Performs.inOrder (h : Performs g chain sender l message out) (hl : l.InOrder) :
    out.ledger.InOrder := by
  cases h with
  | setSwapLimits _ hordered => exact ⟨hordered, hl.reverseLimits⟩
  | setReverseLimits _ hordered => exact ⟨hl.swapLimits, hordered⟩
  | _ => exact ⟨hl.swapLimits, hl.reverseLimits⟩

theorem Turns.inOrder (h : Turns s l call receipt l') (hl : l.InOrder) : l'.InOrder := by
  cases h with
  | execute _ hperf => exact hperf.inOrder hl
  | migrate => exact hl

/-- An administrator can set the limits for forward swaps that are in order. -/
theorem execute_setSwapLimits_iff (hload : item.load s = .ok l) (hopen : l.deleted = false)
    (hadmin : (Registry.ofStore s).holds .admin sender = true) {limits : SwapLimits} :
    (∃ s' receipt, execute chain sender (.setSwapLimits limits) s = .ok (s', receipt)) ↔
      limits.Ordered := by
  rw [exists_execute_eq_ok_iff hload hopen]
  constructor
  · rintro ⟨out, hperf⟩
    cases hperf with
    | setSwapLimits _ hordered => exact hordered
  · exact fun hordered => ⟨_, .setSwapLimits hadmin hordered⟩

/-- And those for the reverse direction. -/
theorem execute_setReverseLimits_iff (hload : item.load s = .ok l) (hopen : l.deleted = false)
    (hadmin : (Registry.ofStore s).holds .admin sender = true) {limits : ReverseLimits} :
    (∃ s' receipt, execute chain sender (.setReverseLimits limits) s = .ok (s', receipt)) ↔
      limits.Ordered := by
  rw [exists_execute_eq_ok_iff hload hopen]
  constructor
  · rintro ⟨out, hperf⟩
    cases hperf with
    | setReverseLimits _ hordered => exact hordered
  · exact fun hordered => ⟨_, .setReverseLimits hadmin hordered⟩

/-- What a payout costs while the limits are in order. -/
theorem PaidOut.tariff {p : Payout} {paid : Amount} (h : PaidOut l l' receipt p (p.fee l) paid)
    (hl : l.InOrder) : Tariff l.reverseLimits p (p.fee l) paid := by
  have hparts := h.parts
  -- If the flat fee fits into the amount, the parts are the flat fee and the rest.
  have hflat : p.mode = .charged → l.reverseLimits.fee ≤ p.amount →
      p.fee l = l.reverseLimits.fee ∧
        p.amount.toNat = paid.toNat + l.reverseLimits.fee.toNat := by
    intro hmode hle
    have hfee := Payout.fee_eq_flat hmode hle
    rw [hfee] at hparts
    exact ⟨hfee, hparts⟩
  refine ⟨?_, hflat, ?_, ?_⟩
  · -- From the minimum on it always fits, because the limits are in order.
    intro hmode hmin
    exact hflat hmode (Nat.le_trans hl.reverseLimits.1 hmin)
  · intro hmode hle
    have hfee := Payout.fee_eq_amount hmode hle
    exact ⟨hfee, h.paid_eq_zero_iff.mpr hfee⟩
  · intro hmode
    have hfee := Payout.fee_eq_zero (l := l) hmode
    exact ⟨hfee, h.paid_eq_amount hfee⟩

/-- A payout that goes through costs what the tariff says. -/
theorem execute_payout_tariff (hload : item.load s = .ok l) (hl : l.InOrder) {p : Payout}
    (hpayout : message.payout? = some p)
    (hcall : execute chain sender message s = .ok (s', receipt)) :
    ∃ l' fee paid, item.load s' = .ok l' ∧ PaidOut l l' receipt p fee paid ∧
      Tariff l.reverseLimits p fee paid := by
  rcases execute_eq_ok_iff.mp hcall with ⟨l₁, out, hload₁, -, hperf, rfl, rfl⟩
  cases hload.symm.trans hload₁
  rcases hperf.paidOut hpayout with ⟨paid, hpaid⟩
  exact ⟨out.ledger, p.fee l, paid, out.load_commit s, hpaid, hpaid.tariff hl⟩

end Steps

section Runs

variable [AddressRule] {chain : Chain} {deployer : Address} {d : Deployment} {found start s : Store}
  {receipt : Receipt} {log : List (Entry Call Receipt)}

/-- From a deployment on, on whatever store, both pairs of limits are in order. -/
theorem run_inOrder (hdeploy : deploy chain deployer d found = .ok (start, receipt))
    (hrun : Run Call.perform start s log) : ∃ l, item.load s = .ok l ∧ l.InOrder := by
  rcases deploy_eq_ok_iff.mp hdeploy with ⟨-, hswap, hreverse, -⟩
  exact run_value (P := fun l _ => l.InOrder) hrun (deploy_load hdeploy) ⟨hswap, hreverse⟩
    fun _ _ _ _ hl hturns => hturns.inOrder hl

/-- In every store that a deployment leads to, both pairs of limits are in order.
    As long as the ledger is not deleted, an administrator can set the limits that
    are in order and no others. And every payout that goes through costs what the
    tariff says: from the minimum on the flat fee, up to the fee the whole amount,
    and nothing if the fee is waived. -/
theorem limits_stay_in_order (hdeploy : deploy chain deployer d found = .ok (start, receipt))
    (hrun : Run Call.perform start s log) :
    ∃ l, item.load s = .ok l ∧ l.swapLimits.Ordered ∧ l.reverseLimits.Ordered ∧
      (l.deleted = false → ∀ chain sender, (Registry.ofStore s).holds .admin sender = true →
        (∀ limits, (∃ s' receipt,
          execute chain sender (.setSwapLimits limits) s = .ok (s', receipt)) ↔
            limits.Ordered) ∧
        ∀ limits, (∃ s' receipt,
          execute chain sender (.setReverseLimits limits) s = .ok (s', receipt)) ↔
            limits.Ordered) ∧
      ∀ chain sender message p s' receipt, message.payout? = some p →
        execute chain sender message s = .ok (s', receipt) →
        ∃ l' fee paid, item.load s' = .ok l' ∧ PaidOut l l' receipt p fee paid ∧
          Tariff l.reverseLimits p fee paid := by
  rcases run_inOrder hdeploy hrun with ⟨l, hload, hl⟩
  refine ⟨l, hload, hl.swapLimits, hl.reverseLimits, ?_, ?_⟩
  · intro hopen chain sender hadmin
    exact ⟨fun _ => execute_setSwapLimits_iff hload hopen hadmin,
      fun _ => execute_setReverseLimits_iff hload hopen hadmin⟩
  · intro chain sender message p s' receipt hpayout hcall
    exact execute_payout_tariff hload hl hpayout hcall

end Runs

/-- On a small ledger the deployer can set limits from two to two, but none from
    three to two. A payout of three is above the minimum and costs one, and a
    payout of one leaves nothing to pay. -/
theorem limits_stay_in_order_in_small_ledger :
    ∃ start receipt s log l,
      deploy stillChain ⟨"deployer"⟩ smallTerms .empty = .ok (start, receipt) ∧
      Run Call.perform start s log ∧ item.load s = .ok l ∧ l.reverseLimits.Ordered ∧
      (∃ s' receipt, execute stillChain ⟨"deployer"⟩
        (.setSwapLimits ⟨⟨2, by decide⟩, ⟨2, by decide⟩⟩) s = .ok (s', receipt)) ∧
      (¬∃ s' receipt, execute stillChain ⟨"deployer"⟩
        (.setSwapLimits ⟨⟨3, by decide⟩, ⟨2, by decide⟩⟩) s = .ok (s', receipt)) ∧
      (∃ s' receipt l' fee paid, execute stillChain ⟨"relayer"⟩
        (.reverseSwap 0 "customer" "origin" "hash" ⟨3, by decide⟩ Word.never) s =
          .ok (s', receipt) ∧
        PaidOut l l' receipt ⟨"customer", ⟨3, by decide⟩, .charged⟩ fee paid ∧
        fee.toNat = 1 ∧ paid.toNat = 2) ∧
      ∃ s' receipt l' fee paid, execute stillChain ⟨"relayer"⟩
        (.reverseSwap 0 "customer" "origin" "hash" ⟨1, by decide⟩ Word.never) s =
          .ok (s', receipt) ∧
        PaidOut l l' receipt ⟨"customer", ⟨1, by decide⟩, .charged⟩ fee paid ∧
        fee.toNat = 1 ∧ paid = .zero := by
  rcases relay_smallTerms with ⟨start, receipt, s, log, hdeploy, hrun, hkept⟩
  rcases pay_smallTerms hkept (show (⟨3, by decide⟩ : Amount) ≠ .zero by decide) (by decide) with
    ⟨s₃, hthree⟩
  rcases pay_smallTerms hkept (show (⟨1, by decide⟩ : Amount) ≠ .zero by decide) (by decide) with
    ⟨s₁, hone⟩
  rcases limits_stay_in_order hdeploy hrun with ⟨l, hload, -, hordered, hset, hcosts⟩
  cases hload.symm.trans hkept.ledger
  have hadmin : (Registry.ofStore s).holds .admin ⟨"deployer"⟩ = true := by
    rw [hkept.registry_eq]
    rfl
  rcases hset rfl stillChain _ hadmin with ⟨hswap, -⟩
  rcases hcosts _ _ _ _ _ _ rfl hthree with ⟨l₃, fee₃, paid₃, -, hpaid₃, htariff₃⟩
  rcases htariff₃.fromMin rfl (by decide) with ⟨hfee₃, hrest₃⟩
  rcases hcosts _ _ _ _ _ _ rfl hone with ⟨l₁, fee₁, paid₁, -, hpaid₁, htariff₁⟩
  rcases htariff₁.upToFee rfl (by decide) with ⟨hfee₁, hzero₁⟩
  refine ⟨start, receipt, s, log, _, hdeploy, hrun, hload, hordered, (hswap _).mpr ?_, ?_,
    ⟨s₃, _, l₃, fee₃, paid₃, hthree, hpaid₃, congrArg Amount.toNat hfee₃, ?_⟩,
    s₁, _, l₁, fee₁, paid₁, hone, hpaid₁, congrArg Amount.toNat hfee₁, hzero₁⟩
  · exact Nat.le_refl 2
  · rw [hswap]
    exact Nat.not_succ_le_self 2
  · change 3 = paid₃.toNat + 1 at hrest₃
    omega

end Ledger

end BridgeCustody
