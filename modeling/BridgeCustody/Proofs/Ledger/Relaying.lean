import BridgeCustody.Proofs.Ledger.Conditions
import BridgeCustody.Proofs.Ledger.Eons
import BridgeCustody.Proofs.Ledger.Payout

/-!
# Payouts by Relayers, Specified

A relayer works through a queue, and what it does with a payout that was refused
depends on why. One that was signed for another eon is gone for good, one above the
allowance can wait, and one for a swap that was refunded already must not be tried
again. Relayers go by the refusal, so the order in which conditions are looked at is
part of what they rely on. If it were another, a payout that is stale and too large
would be kept for later.

The three messages have one list of conditions. Refunds have two more, about the swap
that they are for, and these stand behind those on the call and before those on the
payment. The fee appears in one condition only, the last, and there with the fees that
were accrued before. What the fee leaves of the amount is not among the conditions,
since the fee is a part of the amount whatever the limits are. That a payout is below
the fee, and that two limits are exceeded at once, are therefore no cases of their own.

## Main definitions

* `Message.refundedSwap?`: The swap that a refund is for.
* `refunding`: The conditions on that swap.
* `payoutConditions`: What decides about a payout.

## Theorems

* `checks_refund`, `checks_reverseSwap`: The operations check all but the deletion.
* `payout_never_underflows`: No payout is refused for a difference.
* `payout_eq_ok`: What a payout does.
* `payout_specified`: When a payout goes through, what refuses it, and what it does.
-/

namespace BridgeCustody

namespace Ledger

/-- The swap that a refund is for. -/
def Message.refundedSwap? : Message → Option UInt64
  | .refund id _ _ _ => some id
  | .refundInFull id _ _ _ => some id
  | _ => none

/-- The conditions on the swap that a refund is for. A reverse swap has none. -/
def refunding (g : Registry) (l : Ledger) : Option UInt64 → List (Condition Error)
  | none => []
  | some id =>
    [.of (id < l.nextSwapId) (.unknownSwap id l.nextSwapId),
     .of (g.refunded id = false) (.alreadyRefunded id)]

/-- What decides about a payout under an eon, in the order in which it is looked at. -/
def payoutConditions [AddressRule] (g : Registry) (chain : Chain) (sender : Address) (l : Ledger)
    (eon : UInt64) (swap? : Option UInt64) (p : Payout) : List (Condition Error) :=
  [.of (l.deleted = false) .deleted,
   .of (isPaused l.relayerPause chain.height = false) .paused,
   .of (g.holds .relayer sender = true) (.unauthorized [.relayer]),
   .of (l.relayEon = eon) (.staleEon l.relayEon eon)] ++
  (refunding g l swap? ++ validAddress p.recipient :: settling l p.amount (p.fee l))

section Payouts

variable [AddressRule]
variable {g : Registry} {chain : Chain} {sender : Address} {l : Ledger} {message : Message}
  {p : Payout} {eon : UInt64} {s s' : Store} {receipt : Receipt}

/-- A refund checks what decides about its payout, but for the deletion. -/
theorem checks_refund {mode : RefundFee} {id : UInt64} {recipient : String} {amount : Amount} :
    Checks (l.refund g chain sender mode id recipient amount eon)
      (payoutConditions g chain sender l eon (some id) ⟨recipient, amount, mode⟩).tail := by
  refine (checks_checkRelayed g chain sender eon l).bind fun _ _ => ?_
  refine Checks.cons checks_ensure fun _ _ => Checks.cons checks_ensure fun _ _ => ?_
  refine (checks_checkAddress recipient).cons fun a _ => ?_
  have hsettle := checks_settle l (Payout.fee_le l ⟨recipient, amount, mode⟩)
  exact hsettle.bind_ok fun settled => ({
    ledger := settled.1
    change := .refund id amount
    call := l.payIfAny a settled.2
    event := .refunded id a settled.2 (l.refundFee mode amount) } : Outcome)

/-- So does a reverse swap. -/
theorem checks_reverseSwap {rid : UInt64} {recipient originFrom originTx : String}
    {amount : Amount} :
    Checks (l.reverseSwap g chain sender rid recipient originFrom originTx amount eon)
      (payoutConditions g chain sender l eon none ⟨recipient, amount, .charged⟩).tail := by
  refine (checks_checkRelayed g chain sender eon l).bind fun _ _ => ?_
  refine (checks_checkAddress recipient).cons fun a _ => ?_
  have hsettle := checks_settle l (Payout.fee_le l ⟨recipient, amount, .charged⟩)
  exact hsettle.bind_ok fun settled => ({
    ledger := settled.1
    call := l.payIfAny a settled.2
    event := .reverseSwapped rid a originFrom originTx settled.2
      (l.reverseLimits.feeFor amount) } : Outcome)

theorem checks_payout (hload : item.load s = .ok l) (hpayout : message.payout? = some p)
    (heon : message.namedEon? = some eon) (chain : Chain) (sender : Address) :
    Checks (execute chain sender message s)
      (payoutConditions (.ofStore s) chain sender l eon message.refundedSwap? p) := by
  cases message with
  | refund | refundInFull =>
      cases hpayout
      cases heon
      exact checks_execute hload checks_refund
  | reverseSwap =>
      cases hpayout
      cases heon
      exact checks_execute hload checks_reverseSwap
  | _ => cases hpayout

/-- None of the conditions is about a difference. -/
theorem payoutConditions_failure_ne {swap? : Option UInt64} {a b : Amount} :
    ∀ c ∈ payoutConditions g chain sender l eon swap? p, ∀ h, c.failure h ≠ .noDifference a b := by
  cases swap? with
  | none | some => simp [payoutConditions, refunding, settling, Condition.of, validAddress]

/-- The fee can be taken off whatever the limits are, so no payout is refused for
    a difference. -/
theorem payout_never_underflows (hload : item.load s = .ok l)
    (hpayout : message.payout? = some p) (heon : message.namedEon? = some eon) (a b : Amount) :
    execute chain sender message s ≠ .error (.noDifference a b) := by
  intro hrefused
  have hfirst := (checks_payout hload hpayout heon chain sender _).mp hrefused
  rcases hfirst.exists_mem with ⟨c, hc, hfails, hfailure⟩
  exact payoutConditions_failure_ne c hc hfails hfailure

/-- A payout changes three numbers of the value, and beside it only what a refund
    records. -/
theorem Performs.payout_rest {out : Outcome} (h : Performs g chain sender l message out)
    (hpayout : message.payout? = some p) :
    out.ledger = { l with
      supply := out.ledger.supply
      allowance := out.ledger.allowance
      fees := out.ledger.fees } ∧
    out.change = (message.refundedSwap?.map (.refund · p.amount)).getD .nothing := by
  cases h with
  | refund | refundInFull | reverseSwap =>
      cases hpayout
      exact ⟨rfl, rfl⟩
  | _ => cases hpayout

/-- A payout that goes through pays what the fee leaves, and leaves everything as it
    was but for three numbers and the record of a refund. -/
theorem payout_eq_ok (hload : item.load s = .ok l) (hpayout : message.payout? = some p)
    (hcall : execute chain sender message s = .ok (s', receipt)) :
    ∃ l' paid, item.load s' = .ok l' ∧ PaidOut l l' receipt p (p.fee l) paid ∧
      l' = { l with supply := l'.supply, allowance := l'.allowance, fees := l'.fees } ∧
      (∀ id, message.refundedSwap? = some id →
        (refundCell id).read? s' = .ok (some p.amount)) ∧
      ∀ key, key ≠ item.key → (∀ id, message.refundedSwap? = some id → key ≠ (refundCell id).key) →
        s'.get? key = s.get? key := by
  rcases execute_eq_ok_iff.mp hcall with ⟨l₀, out, hload₀, -, hperf, rfl, rfl⟩
  cases hload.symm.trans hload₀
  rcases hperf.paidOut hpayout with ⟨paid, hpaid⟩
  rcases hperf.payout_rest hpayout with ⟨hledger, hchange⟩
  refine ⟨out.ledger, paid, out.load_commit s, hpaid, hledger, ?_, ?_⟩
  · intro id hswap
    rw [hswap] at hchange
    exact out.read?_refund s hchange
  · intro key hitem hrefund
    rw [out.get?_commit_of_ne s hitem.symm, hchange]
    cases hswap : message.refundedSwap? with
    | none => rfl
    | some id => exact Cell.get?_write_of_ne _ _ s (hrefund id hswap).symm

/-- On every store that holds a ledger, a refund, a refund in full and a reverse swap
    go through if all conditions hold and only then, and otherwise they are refused
    with the first that does not. None is ever refused because the fee could not be
    taken off. If one goes through, the amount has left the supply and the allowance,
    the fee is accrued, the recipient is paid what it leaves, a refund is recorded
    under its swap, and the rest of the value and of the store is the same. -/
theorem payout_specified (hload : item.load s = .ok l) (hpayout : message.payout? = some p)
    (heon : message.namedEon? = some eon) (chain : Chain) (sender : Address) :
    ((∃ s' receipt, execute chain sender message s = .ok (s', receipt)) ↔
      ∀ c ∈ payoutConditions (.ofStore s) chain sender l eon message.refundedSwap? p, c.Holds) ∧
    (∀ e, execute chain sender message s = .error e ↔
      FirstFails (payoutConditions (.ofStore s) chain sender l eon message.refundedSwap? p) e) ∧
    (∀ a b, execute chain sender message s ≠ .error (.noDifference a b)) ∧
    ((p.fee l).toNat = match p.mode with
      | .charged => min p.amount.toNat l.reverseLimits.fee.toNat
      | .waived => 0) ∧
    ∀ s' receipt, execute chain sender message s = .ok (s', receipt) →
      ∃ l' paid, item.load s' = .ok l' ∧ PaidOut l l' receipt p (p.fee l) paid ∧
        l' = { l with supply := l'.supply, allowance := l'.allowance, fees := l'.fees } ∧
        (∀ id, message.refundedSwap? = some id →
          (refundCell id).read? s' = .ok (some p.amount)) ∧
        ∀ key, key ≠ item.key →
          (∀ id, message.refundedSwap? = some id → key ≠ (refundCell id).key) →
          s'.get? key = s.get? key := by
  have hchecks := checks_payout hload hpayout heon chain sender
  refine ⟨?_, hchecks, payout_never_underflows hload hpayout heon, p.toNat_fee l,
    fun s' receipt => payout_eq_ok hload hpayout⟩
  rw [← hchecks.exists_ok_iff, Prod.exists]

end Payouts

/-- A relayer refunds three of five. To refund more than there is under an eon of the
    past is refused for the eon. -/
theorem payout_specified_of_three :
    ∃ s l, item.load s = .ok l ∧
      (∃ s' receipt, execute stillChain ⟨"relayer"⟩
          (.refund 0 "customer" ⟨3, by decide⟩ Word.never) s = .ok (s', receipt) ∧
        (refundCell 0).read? s' = .ok (some ⟨3, by decide⟩)) ∧
      execute stillChain ⟨"relayer"⟩ (.refund 0 "customer" ⟨101, by decide⟩ 5) s =
        .error (.staleEon Word.never 5) := by
  rcases relay_smallTerms with ⟨-, -, s, -, -, -, hkept⟩
  have hload := hkept.ledger
  have hregistry := hkept.registry_eq
  have hholds : ∀ c ∈ payoutConditions (.ofStore s) stillChain ⟨"relayer"⟩ relayingBooks.ledger
      Word.never (some 0) ⟨"customer", ⟨3, by decide⟩, .charged⟩, c.Holds := by
    rw [hregistry]
    simp only [payoutConditions, refunding, settling, List.forall_mem_append,
      List.forall_mem_cons, Condition.holds_of]
    exact ⟨⟨rfl, rfl, rfl, rfl, List.forall_mem_nil _⟩,
      ⟨by decide, rfl, List.forall_mem_nil _⟩, (by decide : Address.Valid _),
      by decide, by decide, by decide, by decide, by decide, List.forall_mem_nil _⟩
  have hthree : (Message.refund 0 "customer" ⟨3, by decide⟩ Word.never).payout? =
      some ⟨"customer", ⟨3, by decide⟩, .charged⟩ := rfl
  rcases payout_specified hload hthree rfl stillChain ⟨"relayer"⟩ with ⟨hwent, -, -, -, hdoes⟩
  rcases hwent.mpr hholds with ⟨s', receipt, hcall⟩
  rcases hdoes s' receipt hcall with ⟨-, -, -, -, -, hrecord, -⟩
  have hstale : (Message.refund 0 "customer" ⟨101, by decide⟩ 5).payout? =
      some ⟨"customer", ⟨101, by decide⟩, .charged⟩ := rfl
  rcases payout_specified hload hstale rfl stillChain ⟨"relayer"⟩ with ⟨-, hrefused, -⟩
  refine ⟨s, _, hload, ⟨s', receipt, hcall, hrecord 0 rfl⟩, (hrefused _).mpr ?_⟩
  rw [hregistry, payoutConditions]
  simp only [List.cons_append, List.nil_append, firstFails_of_cons_iff]
  -- The call is fine but for its eon, and the amount is not looked at.
  exact .inr ⟨rfl, .inr ⟨rfl, .inr ⟨rfl, .inl ⟨by decide, rfl⟩⟩⟩⟩

end Ledger

end BridgeCustody
