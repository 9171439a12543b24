import BridgeCustody.Ledger.Query
import BridgeCustody.Proofs.Ledger.Payout
import BridgeCustody.Proofs.Ledger.Refusal

/-!
# Sums That Always Exist

A payout moves its fee from the supply to the fees, and the excess is what is
left of the balance after both. Both add two amounts, and a sum of two amounts
need not be one. The ledger checks for that and refuses, which sounds safe. But
such a refusal would not be about the call. Fees only grow until somebody pays
them out, so every later payout with a fee as large would be refused as well, and
the reverse direction would be locked.

Nothing in the ledger bounds the fees. The bound comes from outside. The token
states balances as amounts, and the ledger is covered, so what it owes in all is
no more than an amount. The fee of a payout comes out of the supply that the same
payout has just been checked against, so the new fees are part of what was owed
before. It does not matter what the token answers later on, or whether it answers.

A step is in range if it never fails for want of an amount. This is kept by
chaining steps, and then an operation is in range because each of its steps is.
Only two steps of a payout need a reason, the sum and the difference in the
settlement.

## Main definitions

* `Fault.isOverflow`, `Error.isOverflow`: The failures for want of an amount.
* `InRange`: A step that has none of them.

## Theorems

* `InRange.bind`: A chain of steps in range is in range.
* `inRange_settle`: Settling is in range if the dues are.
* `inRange_operate_payout`, `inRange_operate_withdrawExcess`: So are payouts and
  withdrawals of the excess.
* `never_out_of_range`: Both in every world that a deployment leads to, since the
  ledger is covered there.
-/

namespace BridgeCustody

/-- A sum was no amount. -/
def Fault.isOverflow : Fault → Bool
  | noSum _ _ => true
  | _ => false

/-- A token that does not answer is no overflow. -/
theorem TokenReply.isOverflow_balance {token : Address} {reply : TokenReply} {fault : Fault}
    (h : reply.balance token = .error fault) : fault.isOverflow = false := by
  cases reply with
  | missing | failed =>
      cases h
      rfl
  | stated text =>
      simp only [TokenReply.balance] at h
      -- What is stated may be no amount, and then it cannot be read.
      split at h
      · cases h
      · cases h
        rfl

namespace Ledger

/-- A sum or a difference was no amount. -/
def Error.isOverflow : Error → Bool
  | noSum _ _ => true
  | noDifference _ _ => true
  | host fault => fault.isOverflow
  | _ => false

/-- Whatever a step fails with, it is no overflow. -/
def InRange {α : Type} (x : Except Error α) : Prop :=
  ∀ e, x = .error e → e.isOverflow = false

section Steps

variable {α β : Type} {x : Except Error α} {f : α → Except Error β} {p : Prop} [Decidable p]
  {e : Error}

theorem InRange.ok (a : α) : InRange (.ok a) := nofun

/-- A chain is in range if its first step is, and its rest once that has passed. -/
theorem InRange.bind (hx : InRange x) (hf : ∀ a, x = .ok a → InRange (f a)) :
    InRange (x >>= f) := by
  intro e he
  rcases bind_eq_error_iff.mp he with hfirst | ⟨a, ha, hrest⟩
  · exact hx e hfirst
  · exact hf a ha e hrest

theorem inRange_ensure (he : e.isOverflow = false) : InRange (ensure p e) := by
  intro e' h
  rw [← (ensure_eq_error_iff.mp h).2]
  exact he

theorem inRange_ofHost {y : Except Fault α}
    (hy : ∀ fault, y = .error fault → fault.isOverflow = false) : InRange (ofHost y) := by
  intro e h
  rcases ofHost_eq_error_iff.mp h with ⟨fault, hfault, rfl⟩
  exact hy fault hfault

theorem inRange_checkAddress [AddressRule] (text : String) : InRange (checkAddress text) := by
  intro e h
  rcases checkAddress_eq_error_iff.mp h with ⟨fault, -, rfl⟩
  rfl

theorem inRange_require (g : Registry) (roles : List Role) (a : Address) :
    InRange (g.require roles a) :=
  inRange_ensure rfl

theorem inRange_consume (allowance amount : Amount) : InRange (consume allowance amount) := by
  intro e h
  rw [← (consume_eq_error_iff.mp h).2]
  rfl

theorem inRange_lowerSupply (l : Ledger) (amount : Amount) : InRange (l.lowerSupply amount) := by
  intro e h
  rw [← (lowerSupply_eq_error_iff.mp h).2]
  rfl

/-! These two steps can fail for want of an amount, so they need a reason not to. -/

theorem inRange_sum {a b : Amount} (h : a.toNat + b.toNat < Amount.size) : InRange (sum a b) := by
  intro e he
  exact absurd h (Nat.not_lt.mpr (sum_eq_error_iff.mp he).1)

theorem inRange_difference {a b : Amount} (h : b ≤ a) : InRange (difference a b) := by
  intro e he
  exact absurd h (Nat.not_le.mpr (difference_eq_error_iff.mp he).1)

end Steps

section Operations

variable {g : Registry} {chain : Chain} {sender : Address} {l : Ledger} {message : Message}

theorem inRange_checkRelayed (l : Ledger) (g : Registry) (chain : Chain) (sender : Address)
    (eon : UInt64) : InRange (l.checkRelayed g chain sender eon) :=
  (inRange_ensure rfl).bind fun _ _ => (inRange_require g _ sender).bind fun _ _ =>
    inRange_ensure rfl

/-- A fee that is part of the amount can be settled if the dues are an amount. -/
theorem inRange_settle {amount fee : Amount} (hdues : l.dues < Amount.size) (hfee : fee ≤ amount) :
    InRange (l.settle amount fee) := by
  unfold settle
  refine (inRange_ensure rfl).bind fun _ _ => (inRange_ensure rfl).bind fun _ _ =>
    (inRange_consume _ _).bind fun _ _ => (inRange_lowerSupply l amount).bind ?_
  intro lowered hlowered
  rcases lowerSupply_eq_ok_iff.mp hlowered with ⟨supply, hsupply, -⟩
  -- The amount was part of the supply, so fees and fee are part of the dues.
  have hsum : l.fees.toNat + fee.toNat < Amount.size := by
    have hpart : fee.toNat ≤ amount.toNat := hfee
    unfold dues at hdues
    omega
  exact (inRange_sum hsum).bind fun _ _ => (inRange_difference hfee).bind fun _ _ => .ok _

theorem inRange_refund [AddressRule] (hdues : l.dues < Amount.size) (mode : RefundFee)
    (id eon : UInt64) (recipient : String) (amount : Amount) :
    InRange (l.refund g chain sender mode id recipient amount eon) :=
  (inRange_checkRelayed l g chain sender eon).bind fun _ _ => (inRange_ensure rfl).bind
    fun _ _ => (inRange_ensure rfl).bind fun _ _ => (inRange_checkAddress recipient).bind
      fun _ _ => (inRange_settle hdues (Payout.fee_le l ⟨recipient, amount, mode⟩)).bind
        fun _ _ => .ok _

/-- No payout fails for want of an amount if the dues are one. -/
theorem inRange_operate_payout [AddressRule] {p : Payout} (hdues : l.dues < Amount.size)
    (hpayout : message.payout? = some p) : InRange (l.operate g chain sender message) := by
  cases message with
  | refund id recipient amount eon => exact inRange_refund hdues .charged id eon recipient amount
  | refundInFull id recipient amount eon =>
      exact inRange_refund hdues .waived id eon recipient amount
  | reverseSwap rid recipient originFrom originTx amount eon =>
      exact (inRange_checkRelayed l g chain sender eon).bind fun _ _ =>
        (inRange_checkAddress recipient).bind fun _ _ =>
          (inRange_settle hdues (Payout.fee_le l ⟨recipient, amount, .charged⟩)).bind
            fun _ _ => .ok _
  | _ => cases hpayout

/-- Nor does a withdrawal of the excess, whatever the token answers. -/
theorem inRange_operate_withdrawExcess [AddressRule] (hdues : l.dues < Amount.size)
    (target : String) :
    InRange (l.operate g chain sender (.withdrawExcess target)) :=
  (inRange_require g _ sender).bind fun _ _ => (inRange_checkAddress target).bind fun _ _ =>
    (inRange_ofHost fun _ => TokenReply.isOverflow_balance).bind fun _ _ =>
      (inRange_sum hdues).bind fun _ _ => (inRange_ensure rfl).bind fun _ _ => .ok _

theorem exists_owed? (hdues : l.dues < Amount.size) :
    ∃ owed, l.owed? = some owed ∧ owed.toNat = l.dues :=
  ⟨⟨l.dues, hdues⟩, Amount.add?_eq_some_iff.mpr rfl, rfl⟩

/-- Nor does the question about the excess. -/
theorem excess_isOverflow {fault : Fault} (hdues : l.dues < Amount.size)
    (h : excess chain l = .error fault) : fault.isOverflow = false := by
  rcases exists_owed? hdues with ⟨owed, howed, -⟩
  simp only [excess, howed, bind_eq_error_iff, pure_eq_ok, reduceCtorEq, and_false, exists_false,
    or_false] at h
  exact TokenReply.isOverflow_balance h

/-- On a store that holds a ledger, a call is in range if its operation is. -/
theorem inRange_execute [AddressRule] {s : Store} (hload : item.load s = .ok l)
    (h : InRange (l.operate (.ofStore s) chain sender message)) :
    InRange (execute chain sender message s) := by
  have hloaded : ofHost (item.load s) = .ok l := ofHost_eq_ok_iff.mpr hload
  rw [execute, hloaded, ok_bind]
  exact (inRange_ensure rfl).bind fun _ _ => h.bind fun _ _ => .ok _

end Operations

/-- In every world that a deployment on an empty store leads to under an honest
    token, what the ledger owes is an amount, no payout and no withdrawal of the
    excess fails for want of one, whatever their arguments, their caller and their
    surroundings, and neither does the question about the excess. -/
theorem never_out_of_range [AddressRule] {chain : Chain} {deployer self : Address} {d : Deployment}
    {start : Store} {receipt : Receipt} {balance : Amount} {w : World}
    (hdeploy : deploy chain deployer d .empty = .ok (start, receipt))
    (hreached : World.Reached ⟨d.token⟩ self ⟨start, balance⟩ w) :
    ∃ l owed, item.load w.store = .ok l ∧ l.owed? = some owed ∧ owed ≤ w.balance ∧
      (∀ chain sender message p e, message.payout? = some p →
        execute chain sender message w.store = .error e → e.isOverflow = false) ∧
      (∀ chain sender target e,
        execute chain sender (.withdrawExcess target) w.store = .error e →
        e.isOverflow = false) ∧
      ∀ chain fault, query chain w.store .excess = .error fault → fault.isOverflow = false := by
  rcases hreached.covered hdeploy with ⟨b, hkept, -, hcover⟩
  -- The balance is an amount, and it covers what is owed.
  have hdues : b.ledger.dues < Amount.size := Nat.lt_of_le_of_lt hcover w.balance.toNat_lt
  rcases exists_owed? hdues with ⟨owed, howed, hnat⟩
  refine ⟨b.ledger, owed, hkept.ledger, howed, ?_, ?_, ?_, ?_⟩
  · rw [Amount.le_iff_toNat_le, hnat]
    exact hcover
  · intro chain sender message p e hpayout
    exact inRange_execute hkept.ledger (inRange_operate_payout hdues hpayout) e
  · intro chain sender target e
    exact inRange_execute hkept.ledger (inRange_operate_withdrawExcess hdues target) e
  · intro chain fault hquery
    rw [query, hkept.ledger, ok_bind] at hquery
    exact excess_isOverflow hdues hquery

/-- A ledger has minted five and has a relayer, who asks for six. That is refused for
    the supply, which is no overflow, and the five that are owed are an amount. -/
theorem never_out_of_range_for_six :
    ∃ start receipt w l owed e,
      deploy stillChain ⟨"deployer"⟩ smallTerms .empty = .ok (start, receipt) ∧
      World.Reached ⟨"token"⟩ ⟨"ledger"⟩ ⟨start, .zero⟩ w ∧ w.balance.toNat = 5 ∧
      item.load w.store = .ok l ∧ l.owed? = some owed ∧ owed ≤ w.balance ∧
      execute stillChain ⟨"relayer"⟩
        (.reverseSwap 0 "customer" "origin" "hash" ⟨6, by decide⟩ Word.never) w.store = .error e ∧
      e.isOverflow = false := by
  rcases deploy_smallTerms with ⟨start, receipt, hdeploy, hkept⟩
  rcases grant_smallTerms hkept .relayer "relayer" (by decide) rfl with ⟨granted, hgrant, hkept₁⟩
  have hmints : Performs ((smallBooks .zero).withHolding .relayer ⟨"relayer"⟩ true).registry
      stillChain ⟨"deployer"⟩ (smallBooks .zero).ledger (.mint ⟨5, by decide⟩) _ :=
    .mint rfl (by decide) (Nat.zero_add _).symm (by decide)
  rcases hkept₁.proceeds rfl hmints with ⟨s, hmint, hkept₂⟩
  have hkept₂ : relayingBooks.KeptIn s := hkept₂
  -- The still chain states an empty balance, so the role is granted before anything is minted.
  have hstart : World.Step ⟨"token"⟩ ⟨"ledger"⟩ ⟨start, .zero⟩ _ ⟨granted, .zero⟩ :=
    .called ⟨rfl, by decide, by decide, rfl, Chain.balance_stating _ _ _ _⟩ hgrant rfl
  have hnext : World.Step ⟨"token"⟩ ⟨"ledger"⟩ ⟨granted, .zero⟩ _ ⟨s, ⟨5, by decide⟩⟩ :=
    .called ⟨rfl, by decide, by decide, rfl, Chain.balance_stating _ _ _ _⟩ hmint rfl
  have hreached := (World.Reached.here.next hstart).next hnext
  have hrefused : execute stillChain ⟨"relayer"⟩
      (.reverseSwap 0 "customer" "origin" "hash" ⟨6, by decide⟩ Word.never) s =
        .error (.supplyExceeded ⟨6, by decide⟩ ⟨5, by decide⟩) := by
    rw [execute_eq_error_iff hkept₂.ledger rfl, hkept₂.registry_eq]
    rfl
  rcases never_out_of_range hdeploy hreached with
    ⟨l, owed, hload, howed, hcover, hpayout, -, -⟩
  exact ⟨start, receipt, _, l, owed, _, hdeploy, hreached, rfl, hload, howed, hcover, hrefused,
    hpayout _ _ _ _ _ rfl hrefused⟩

end Ledger

end BridgeCustody
