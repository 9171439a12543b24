import BridgeCustody.Proofs.Ledger.World

/-!
# The Ledger Is Covered

What the ledger owes is its supply and its fees. That the token holds at least as
much for it is not checked anywhere in the program: it is a consequence of every
operation booking exactly what its message moves, and of nothing else moving.

So the account is kept in differences. `Performs.booked` says for each operation
that the dues change by what was announced, plus the flow of the message, less
what the ledger paid to itself. The excess, which is the balance less the dues,
is then the same before and after, except for what the ledger paid to itself and
still has. The differences are integers, because supply and balance fall as well
as rise.

Two operations ask the token for the balance instead of booking a difference,
those that pay out the excess and that close the ledger. They leave no excess,
unless they pay to the ledger itself. Everything else that changes the excess is
a donation.

## Main definitions

* `Ledger.dues`, `Ledger.excessOver`: What is owed, and what a balance has beyond.
* `Message.sweeps?`: Where the excess goes, for the two operations that pay it out.
* `ExcessRule`: How the excess may change.

## Theorems

* `Performs.booked`: The dues change by what moves.
* `Performs.spends_le`: No message spends more than the balance.
* `World.Step.covered`: A step keeps the ledger covered and the excess to its rule.
* `World.Reached.covered`: So it is covered in every world that is reached.
* `solvency_of_reached`: The ledger is covered in every world that a deployment
  leads to.
-/

namespace BridgeCustody

namespace Ledger

/-- What the ledger owes in all. -/
def dues (l : Ledger) : Nat :=
  l.supply.toNat + l.fees.toNat

/-- What a balance has beyond the dues; negative if it does not cover them. -/
def excessOver (l : Ledger) (balance : Amount) : Int :=
  balance.toNat - l.dues

/-- What a message pays to the ledger itself. -/
def paidBack (self : Address) : Option TokenCall → Nat
  | some ⟨_, .transfer recipient amount, _⟩ => TokenMessage.share self recipient amount
  | _ => 0

namespace Message

/-- Whom the whole excess is paid to. -/
def sweeps? : Message → Option Address
  | .withdrawExcess target => some ⟨target⟩
  | .delete target => some ⟨target⟩
  | _ => none

/-- What a call says was credited. -/
def arrival : Message → Nat
  | .receive _ amount _ => amount.toNat
  | _ => 0

end Message

/-- How the excess may change in one step, from `before` to `after`. -/
def ExcessRule (self : Address) (before after : Int) : Happening → Prop
  | .called _ _ message receipt =>
    match message.sweeps? with
    | none => after = before + paidBack self receipt.call
    | some target => if target = self then before ≤ after else after = 0
  | .undone => after = before
  | .migrated => after = before
  | .donated amount => after = before + amount.toNat

section Payments

variable {l : Ledger} {self recipient : Address} {amount : Amount}

theorem flowOf_pay : flowOf self (some (l.pay recipient amount)) =
    TokenMessage.share self recipient amount - amount.toNat := rfl

theorem paidBack_pay : paidBack self (some (l.pay recipient amount)) =
    TokenMessage.share self recipient amount := rfl

theorem share_zero : TokenMessage.share self recipient .zero = 0 := by
  unfold TokenMessage.share
  split <;> rfl

/-- A payment of nothing is left out, and that makes no difference to the
    balance. -/
theorem flowOf_payIfAny : flowOf self (l.payIfAny recipient amount) =
    TokenMessage.share self recipient amount - amount.toNat := by
  unfold payIfAny
  by_cases hzero : amount = .zero
  · rw [if_pos hzero, hzero, share_zero]
    rfl
  · rw [if_neg hzero]
    exact flowOf_pay

theorem paidBack_payIfAny : paidBack self (l.payIfAny recipient amount) =
    TokenMessage.share self recipient amount := by
  unfold payIfAny
  by_cases hzero : amount = .zero
  · rw [if_pos hzero, hzero, share_zero]
    rfl
  · rw [if_neg hzero]
    exact paidBack_pay

theorem mem_payIfAny {c : TokenCall} (h : c ∈ l.payIfAny recipient amount) :
    c = l.pay recipient amount := by
  unfold payIfAny at h
  by_cases hzero : amount = .zero
  · rw [if_pos hzero] at h
    cases h
  · rw [if_neg hzero] at h
    exact (Option.some.inj h).symm

/-- Where a payment leaves nothing but what it paid to the ledger, it leaves
    nothing at all or the whole payment. -/
theorem share_rule (amount : Amount) {before after : Int}
    (hafter : after = TokenMessage.share self recipient amount) (hle : before ≤ amount.toNat) :
    if recipient = self then before ≤ after else after = 0 := by
  rw [hafter]
  unfold TokenMessage.share
  by_cases hself : recipient = self
  · rw [if_pos hself, if_pos hself]
    exact hle
  · rw [if_neg hself, if_neg hself]
    rfl

theorem flowOf_pull {chain : Chain} (hself : chain.self = self) (howner : recipient ≠ self) :
    flowOf self (some (l.pull chain recipient amount)) = amount.toNat := by
  simp only [flowOf, pull, TokenCall.plain, TokenMessage.flow]
  rw [hself, TokenMessage.share_self, TokenMessage.share_of_ne _ howner]
  omega

end Payments

variable {g : Registry} {chain : Chain} {sender self token : Address} {l : Ledger}
  {message : Message} {out : Outcome}

/-- What is relayed leaves the dues, except for the fee, which stays. -/
theorem Settleable.dues_eq {amount fee supply allowance fees paid : Amount}
    (h : Settleable l amount fee supply allowance fees paid) :
    supply.toNat + fees.toNat + paid.toNat = l.dues := by
  have hsupply := h.supply_eq
  have hfees := h.fees_eq
  have hpaid := h.paid_eq
  unfold dues
  omega

namespace Performs

variable [AddressRule]

/-- Every message goes to the token in custody. -/
theorem call_token (h : Performs g chain sender l message out) :
    ∀ c ∈ out.call, c.token = l.token := by
  intro c hc
  cases h with
  | refund | refundInFull | reverseSwap | delete =>
      rw [mem_payIfAny hc]
      rfl
  | _ =>
      cases hc
      try rfl

/-- The dues change by what was announced and what the message moves, except for
    what the ledger pays to itself. -/
theorem booked (h : Performs g chain sender l message out) (hself : chain.self = self)
    (hsender : sender ≠ self) (hsweep : message.sweeps? = none) :
    (out.ledger.dues : Int) + paidBack self out.call =
      l.dues + message.arrival + flowOf self out.call := by
  cases h with
  | swap h | deposit h =>
      -- The caller is not the ledger, so what is pulled comes from elsewhere.
      have hsupply := h.supply_eq
      rw [flowOf_pull hself hsender]
      simp only [dues, Message.arrival, paidBack, pull, TokenCall.plain]
      omega
  | receiveSwap _ _ _ h | receiveDeposit _ _ _ h =>
      -- The tokens came before the call, so no message is left to send.
      have hsupply := h.supply_eq
      simp only [dues, Message.arrival, paidBack, flowOf]
      omega
  | refund _ _ _ _ h | refundInFull _ _ _ _ h | reverseSwap _ _ h =>
      -- What is paid out leaves the dues; the fee only changes its place in them.
      have hdues := h.dues_eq
      rw [flowOf_payIfAny, paidBack_payIfAny]
      simp only [dues, Message.arrival] at hdues ⊢
      omega
  | withdraw _ _ _ hsupply =>
      rw [flowOf_pay, paidBack_pay]
      simp only [dues, Message.arrival]
      omega
  | withdrawFees _ _ _ =>
      rw [flowOf_pay, paidBack_pay]
      simp only [dues, Message.arrival, Amount.toNat_zero]
      omega
  | mint _ _ hsupply _ =>
      -- What is minted goes to the ledger.
      simp only [dues, Message.arrival, paidBack, flowOf, TokenCall.plain, TokenMessage.flow]
      rw [hself, TokenMessage.share_self]
      omega
  | burn _ _ hsupply =>
      simp only [dues, Message.arrival, paidBack, flowOf, TokenCall.plain, TokenMessage.flow]
      omega
  -- These two sweep.
  | withdrawExcess | delete => cases hsweep
  | _ =>
      -- Settings and roles: no dues change and no message is sent.
      simp only [dues, Message.arrival, paidBack, flowOf]
      omega

/-- A message that takes from the balance takes no more than there is. -/
theorem spends_le {met : Amount} (h : Performs g chain sender l message out)
    (hstated : chain.balance l.token = .ok met) (hcover : l.dues ≤ met.toNat) :
    ∀ c ∈ out.call, c.message.spends = true → c.message.amount ≤ met := by
  intro c hc hspends
  rw [Amount.le_iff_toNat_le]
  unfold dues at hcover
  cases h with
  -- These messages take nothing from the ledger.
  | swap | deposit | mint =>
      cases hc
      cases hspends
  | refund _ _ _ _ h | refundInFull _ _ _ _ h | reverseSwap _ _ h =>
      have hdues := h.dues_eq
      rw [mem_payIfAny hc]
      simp only [pay, TokenCall.plain, TokenMessage.amount, dues] at hdues ⊢
      omega
  | withdraw | withdrawFees =>
      -- What is paid was part of the dues.
      cases hc
      simp only [pay, TokenCall.plain, TokenMessage.amount]
      omega
  | burn _ _ hsupply =>
      cases hc
      simp only [TokenCall.plain, TokenMessage.amount]
      omega
  | withdrawExcess _ _ hbalance howed _ =>
      -- The amount is computed from the balance that the token stated.
      rw [hstated] at hbalance
      cases hbalance
      cases hc
      simp only [pay, TokenCall.plain, TokenMessage.amount, Amount.toNat_monus]
      omega
  | delete _ _ _ hbalance =>
      rw [hstated] at hbalance
      cases hbalance
      rw [mem_payIfAny hc]
      exact Nat.le_refl _
  | _ => cases hc

/-- What the two operations leave that pay out the excess: nothing, or no less
    than before if it goes to the ledger itself. -/
theorem swept (self : Address) {target : Address} {met : Amount} {after : Int}
    (h : Performs g chain sender l message out) (hsweep : message.sweeps? = some target)
    (hstated : chain.balance l.token = .ok met) (hcover : l.dues ≤ met.toNat)
    (hafter : after = met.toNat + flowOf self out.call - out.ledger.dues) :
    if target = self then l.excessOver met ≤ after else after = 0 := by
  -- In both cases everything beyond the new dues is paid out, so what is left is
  -- the share of it that the ledger paid to itself.
  cases h with
  | @withdrawExcess _ _ owed _ _ hbalance howed _ =>
      rw [hstated] at hbalance
      cases hbalance
      cases hsweep
      refine share_rule (met.monus owed) (hafter.trans ?_) ?_
      · rw [flowOf_pay]
        simp only [dues, Amount.toNat_monus] at hcover ⊢
        omega
      · simp only [excessOver, dues, Amount.toNat_monus] at hcover ⊢
        omega
  | delete _ _ _ hbalance =>
      rw [hstated] at hbalance
      cases hbalance
      cases hsweep
      refine share_rule met (hafter.trans ?_) ?_
      · rw [flowOf_payIfAny]
        simp only [dues, Amount.toNat_zero]
        omega
      · unfold excessOver
        omega
  | _ => cases hsweep

end Performs

/-- A call meets the balance from before it and what was credited for it. -/
theorem Honest.met_eq [AddressRule] {balance met : Amount}
    (h : Honest token self balance chain sender message met)
    (hperf : Performs g chain sender l message out) (htoken : l.token = token) :
    met.toNat = balance.toNat + message.arrival := by
  have hannounced := h.announced
  cases message with
  | receive owner amount payload =>
      -- Only the token gets such a call through.
      have hsender : sender = token := by
        rw [← htoken]
        cases hperf with
        | receiveSwap hs => exact hs
        | receiveDeposit hs => exact hs
      have howner : (⟨owner⟩ : Address) ≠ self := fun heq =>
        h.owner_ne (congrArg some heq)
      simp only [Message.announced?, if_pos hsender] at hannounced
      have hflow := TokenMessage.carry?_flow hannounced
      rw [TokenMessage.flow, TokenMessage.share_self, TokenMessage.share_of_ne _ howner] at hflow
      simp only [Message.arrival]
      omega
  | _ =>
      rw [Option.some.inj hannounced]
      rfl

/-- A step keeps the ledger covered and the excess to its rule. -/
theorem World.Step.covered [AddressRule] {b : Books} {w w' : World} {what : Happening}
    (h : World.Step token self w what w') (hkept : b.KeptIn w.store)
    (htoken : b.ledger.token = token) (hcover : b.ledger.dues ≤ w.balance.toNat) :
    ∃ b' : Books, b'.KeptIn w'.store ∧ b'.ledger.token = token ∧
      b'.ledger.dues ≤ w'.balance.toNat ∧
      ExcessRule self (b.ledger.excessOver w.balance) (b'.ledger.excessOver w'.balance) what := by
  cases h with
  | undone => exact ⟨b, hkept, htoken, hcover, rfl⟩
  | migrated => exact ⟨b, hkept.migrate, htoken, hcover, rfl⟩
  | donated hamount =>
      refine ⟨b, hkept, htoken, ?_, ?_⟩
      · simp only [] at hcover ⊢
        omega
      · simp only [ExcessRule, excessOver]
        omega
  | @called s s' balance met after chain sender message receipt hhonest hcall hcarry =>
      rcases hkept.execute_eq_ok_iff.mp hcall with ⟨-, out, hperf, rfl, rfl⟩
      -- The balance moves twice: before the call and by its message.
      have hmet := hhonest.met_eq hperf htoken
      have hcalls : ∀ c ∈ out.call, c.token = token := fun c hc =>
        (hperf.call_token c hc).trans htoken
      have hafter : (after.toNat : Int) = met.toNat + flowOf self out.call :=
        Receipt.carry?_flow hcalls hcarry
      simp only [] at hcover
      refine ⟨out.post b, hkept.commit out, hperf.token_eq.trans htoken, ?_⟩
      have hpost : (out.post b).ledger = out.ledger := rfl
      rw [hpost]
      cases hsweep : message.sweeps? with
      | none =>
          -- An operation that books a difference: the excess is what it was.
          have hbooked := hperf.booked hhonest.self_eq hhonest.sender_ne hsweep
          simp only [ExcessRule, hsweep, excessOver]
          refine ⟨?_, ?_⟩ <;> omega
      | some target =>
          -- An operation that asks for the balance: the excess is swept.
          have hstated : chain.balance b.ledger.token = .ok met := by
            rw [htoken]
            exact hhonest.stated
          have hmore : b.ledger.dues ≤ met.toNat := by omega
          have hswept := hperf.swept self hsweep hstated hmore rfl
          simp only [ExcessRule, hsweep, excessOver] at hswept ⊢
          by_cases htarget : target = self
          · rw [if_pos htarget] at hswept ⊢
            refine ⟨?_, ?_⟩ <;> omega
          · rw [if_neg htarget] at hswept ⊢
            refine ⟨?_, ?_⟩ <;> omega

/-- In every world that a deployment on an empty store leads to, the books are about
    the token they were opened for, and its balance covers what they say is owed. -/
theorem World.Reached.covered [AddressRule] {deployer : Address} {d : Deployment} {start : Store}
    {receipt : Receipt} {balance : Amount} {w : World}
    (hreached : World.Reached ⟨d.token⟩ self ⟨start, balance⟩ w)
    (hdeploy : deploy chain deployer d .empty = .ok (start, receipt)) :
    ∃ b : Books, b.KeptIn w.store ∧ b.ledger.token = ⟨d.token⟩ ∧
      b.ledger.dues ≤ w.balance.toNat := by
  rcases deploy_empty hdeploy with ⟨b₀, hkept₀, hfresh, -, -⟩
  -- A fresh ledger owes nothing, so any balance covers it.
  have hinit : b₀.ledger.token = ⟨d.token⟩ ∧ b₀.ledger.dues ≤ balance.toNat := by
    rw [hfresh]
    exact ⟨rfl, Nat.zero_le _⟩
  refine hreached.books (P := fun b balance =>
    b.ledger.token = ⟨d.token⟩ ∧ b.ledger.dues ≤ balance.toNat) hkept₀ hinit ?_
  rintro b w what w' hkept ⟨htoken, hcover⟩ hstep
  rcases hstep.covered hkept htoken hcover with ⟨b', hkept', htoken', hcover', -⟩
  exact ⟨b', hkept', htoken', hcover'⟩

/-- In every world that a deployment on an empty store leads to, the balance
    covers what is owed, no call spends more than the balance it meets, and every
    further step keeps to the rule for the excess. -/
theorem solvency_of_reached [AddressRule] {deployer : Address} {d : Deployment} {start : Store}
    {receipt : Receipt} {balance : Amount} {w : World}
    (hdeploy : deploy chain deployer d .empty = .ok (start, receipt))
    (hreached : World.Reached ⟨d.token⟩ self ⟨start, balance⟩ w) :
    ∃ l, item.load w.store = .ok l ∧ l.dues ≤ w.balance.toNat ∧
      (∀ chain sender message met s' receipt,
        Honest ⟨d.token⟩ self w.balance chain sender message met →
        execute chain sender message w.store = .ok (s', receipt) →
        ∀ c ∈ receipt.call, c.token = ⟨d.token⟩ ∧
          (c.message.spends = true → c.message.amount ≤ met)) ∧
      ∀ what w', World.Step ⟨d.token⟩ self w what w' →
        ∃ l', item.load w'.store = .ok l' ∧ l'.dues ≤ w'.balance.toNat ∧
          ExcessRule self (l.excessOver w.balance) (l'.excessOver w'.balance) what := by
  rcases hreached.covered hdeploy with ⟨b, hkept, htoken, hcover⟩
  refine ⟨b.ledger, hkept.ledger, hcover, ?_, ?_⟩
  · intro chain sender message met s' receipt hhonest hcall c hc
    rcases hkept.execute_eq_ok_iff.mp hcall with ⟨-, out, hperf, -, rfl⟩
    have hmet := hhonest.met_eq hperf htoken
    refine ⟨(hperf.call_token c hc).trans htoken, hperf.spends_le ?_ (by omega) c hc⟩
    rw [htoken]
    exact hhonest.stated
  · intro what w' hstep
    rcases hstep.covered hkept htoken hcover with ⟨b', hkept', -, hcover', hrule⟩
    exact ⟨b'.ledger, hkept'.ledger, hcover', hrule⟩

/-- A ledger has minted five and was given two. -/
theorem reached_smallTerms :
    ∃ start receipt s,
      deploy stillChain ⟨"deployer"⟩ smallTerms .empty = .ok (start, receipt) ∧
      World.Reached ⟨"token"⟩ ⟨"ledger"⟩ ⟨start, .zero⟩ ⟨s, ⟨7, by decide⟩⟩ ∧
      (smallBooks ⟨5, by decide⟩).KeptIn s := by
  rcases mint_smallTerms with ⟨start, receipt, minted, hdeploy, hcall, hkept⟩
  have hmint : World.Step ⟨"token"⟩ ⟨"ledger"⟩ ⟨start, .zero⟩ _ ⟨minted, ⟨5, by decide⟩⟩ :=
    .called ⟨rfl, by decide, by decide, rfl, Chain.balance_stating _ _ _ _⟩ hcall rfl
  have hgift : World.Step ⟨"token"⟩ ⟨"ledger"⟩ ⟨minted, ⟨5, by decide⟩⟩
      (.donated ⟨2, by decide⟩) ⟨minted, ⟨7, by decide⟩⟩ := .donated rfl
  exact ⟨start, receipt, minted, hdeploy, (World.Reached.here.next hmint).next hgift, hkept⟩

/-- A ledger that minted five and was given two holds seven and owes five. -/
theorem solvency_after_mint_and_donation :
    ∃ start receipt w l,
      deploy stillChain ⟨"deployer"⟩ smallTerms .empty = .ok (start, receipt) ∧
      World.Reached ⟨"token"⟩ ⟨"ledger"⟩ ⟨start, .zero⟩ w ∧ w.balance.toNat = 7 ∧
      item.load w.store = .ok l ∧ l.dues ≤ w.balance.toNat := by
  rcases reached_smallTerms with ⟨start, receipt, s, hdeploy, hreached, -⟩
  rcases solvency_of_reached hdeploy hreached with ⟨l, hload, hcover, -, -⟩
  exact ⟨start, receipt, _, l, hdeploy, hreached, rfl, hload, hcover⟩

end Ledger

end BridgeCustody
