import BridgeCustody.Proofs.Ledger.Payout

/-!
# Messages That the Ledger Sends

The ledger moves value by asking the token to, and the token does what it is
asked. It pulls from whoever allowed the ledger to pull, it mints for whom it is
told, and it refuses to move nothing, which undoes the whole call. So what the
ledger asks for has to be right by itself.

A message is due if the call that sends it is one that may: `TokenMessage.DueTo`
says for each kind of message which calls these are and whose account it is
about. Only the caller's own tokens are ever pulled, and they go to the ledger.
What is paid goes to an address that the call names and that was checked.

That no message moves nothing has a different reason in almost every operation:
an amount is checked for it, fees and excess are, and a payment that may be
nothing is then not sent. `Message.Silent` lists what sends no message, so that
it is also clear when there is one. With the waived fee there always is, because
the amount is not nothing.

## Main definitions

* `Message.pulls?`, `Message.payee?`: What a call pulls and whom it names.
* `TokenMessage.DueTo`: A message that a call may send.
* `TokenCall.Due`: The same with where it goes and what goes along.
* `Message.Silent`: The calls that send nothing.

## Theorems

* `Performs.call_due`: What is sent is due.
* `Performs.call_eq_none_iff`: When nothing is sent.
* `sent_is_due`: Both for every call that goes through.
-/

namespace BridgeCustody

namespace Ledger

namespace Message

/-- The amount that a call asks the ledger to pull from its sender. -/
def pulls? : Message → Option Amount
  | .swap amount _ => some amount
  | .deposit amount => some amount
  | _ => none

/-- Whom a call names to be paid. -/
def payee? : Message → Option String
  | .refund _ recipient _ _ => some recipient
  | .refundInFull _ recipient _ _ => some recipient
  | .reverseSwap _ recipient _ _ _ _ => some recipient
  | .withdraw target _ => some target
  | .withdrawFees target => some target
  | .withdrawExcess target => some target
  | .delete target => some target
  | _ => none

/-- Calls that have no business with the token: announced credits, the eon,
    pauses, settings and roles. -/
def isQuiet : Message → Bool
  | .receive _ _ _ => true
  | .newRelayEon => true
  | .pausePublicApi _ | .pauseRelayerApi _ => true
  | .setCap _ | .setSwapLimits _ | .setReverseLimits _ => true
  | .setAllowance _ | .setApproverCap _ => true
  | .grantRole _ _ | .revokeRole _ _ | .renounceRole _ => true
  | _ => false

/-- The calls that send nothing to the token. -/
inductive Silent (l : Ledger) (chain : Chain) : Message → Prop
  | quiet {message} (h : message.isQuiet = true) : Silent l chain message
  /-- A payout that is all fee. -/
  | consumed {message p} (h : message.payout? = some p) (hfee : p.fee l = p.amount) :
      Silent l chain message
  /-- A deletion of a ledger that has nothing. -/
  | emptied {target} (h : chain.balance l.token = .ok .zero) : Silent l chain (.delete target)

end Message

end Ledger

open Ledger in
/-- A message to the token is one that this call may send. -/
def TokenMessage.DueTo [AddressRule] (chain : Chain) (sender : Address) (message : Message) :
    TokenMessage → Prop
  | transferFrom owner recipient amount =>
    owner = sender ∧ recipient = chain.self ∧ message.pulls? = some amount
  | mint recipient amount => recipient = chain.self ∧ message = .mint amount
  | burn amount => message = .burn amount
  | transfer recipient _ => message.payee? = some recipient.text ∧ Address.Valid recipient.text

open Ledger in
/-- A message that this call may send, to the token in custody, without coins and
    about more than nothing. -/
structure TokenCall.Due [AddressRule] (l : Ledger) (chain : Chain) (sender : Address)
    (message : Message) (c : TokenCall) : Prop where
  token_eq : c.token = l.token
  coins_eq : c.coins = []
  positive : c.message.amount ≠ .zero
  due : c.message.DueTo chain sender message

namespace Ledger

variable {g : Registry} {chain : Chain} {sender : Address} {l : Ledger} {message : Message}
  {out : Outcome}

theorem pay_due [AddressRule] {recipient : String} {amount : Amount}
    (hpayee : message.payee? = some recipient) (hvalid : Address.Valid recipient)
    (hpositive : amount ≠ .zero) :
    (l.pay ⟨recipient⟩ amount).Due l chain sender message :=
  ⟨rfl, rfl, hpositive, hpayee, hvalid⟩

theorem payIfAny_due [AddressRule] {recipient : String} {amount : Amount} {c : TokenCall}
    (hpayee : message.payee? = some recipient) (hvalid : Address.Valid recipient)
    (hc : c ∈ l.payIfAny ⟨recipient⟩ amount) : c.Due l chain sender message := by
  rw [mem_payIfAny hc]
  exact pay_due hpayee hvalid (amount_ne_zero_of_mem_payIfAny hc)

theorem pull_due [AddressRule] {amount : Amount} (hpulls : message.pulls? = some amount)
    (hpositive : amount ≠ .zero) : (l.pull chain sender amount).Due l chain sender message :=
  ⟨rfl, rfl, hpositive, rfl, rfl, hpulls⟩

namespace Message

/-- A call is not silent that has business with the token, pays out nothing and does
    not delete. -/
theorem not_silent (hquiet : message.isQuiet = false) (hpayout : message.payout? = none)
    (hdelete : ∀ target, message ≠ .delete target) : ¬message.Silent l chain := by
  intro hsilent
  cases hsilent with
  | quiet h =>
      rw [hquiet] at h
      cases h
  | consumed h =>
      rw [hpayout] at h
      cases h
  | emptied => exact hdelete _ rfl

/-- A payout is silent if it is all fee, and for no other reason. -/
theorem silent_payout_iff {p : Payout} (h : message.payout? = some p) :
    message.Silent l chain ↔ p.fee l = p.amount := by
  constructor
  · intro hsilent
    cases hsilent with
    | quiet hquiet =>
        -- What pays out is none of the quiet messages.
        cases message with
        | refund | refundInFull | reverseSwap => cases hquiet
        | _ => cases h
    | consumed h' hfee =>
        cases h.symm.trans h'
        exact hfee
    | emptied => cases h
  · exact .consumed h

end Message

namespace Performs

variable [AddressRule]

/-- What is sent is due. -/
theorem call_due (h : Performs g chain sender l message out) :
    ∀ c ∈ out.call, c.Due l chain sender message := by
  intro c hc
  cases h with
  | swap h | deposit h =>
      cases hc
      exact pull_due rfl h.positive
  -- A payment that may be nothing is sent only if it is not.
  | refund _ _ _ hrecipient _ | refundInFull _ _ _ hrecipient _ | reverseSwap _ hrecipient _ =>
      exact payIfAny_due rfl hrecipient hc
  | delete _ _ htarget _ => exact payIfAny_due rfl htarget hc
  -- Everywhere else an amount, the fees or the excess were checked.
  | withdraw _ hpositive htarget _ =>
      cases hc
      exact pay_due rfl htarget hpositive
  | withdrawFees _ htarget hfees =>
      cases hc
      exact pay_due rfl htarget hfees
  | withdrawExcess _ htarget _ _ hexcess =>
      cases hc
      exact pay_due rfl htarget hexcess
  | mint _ hpositive _ _ =>
      cases hc
      exact ⟨rfl, rfl, hpositive, rfl, rfl⟩
  | burn _ hpositive _ =>
      cases hc
      exact ⟨rfl, rfl, hpositive, rfl⟩
  | _ => cases hc

/-- Nothing is sent by the silent calls, and by no others. -/
theorem call_eq_none_iff (h : Performs g chain sender l message out) :
    out.call = none ↔ message.Silent l chain := by
  have hpaid := fun p => h.paidOut (p := p)
  cases h with
  | swap | deposit | withdraw | mint | burn | withdrawFees | withdrawExcess =>
      exact iff_of_false nofun (Message.not_silent rfl rfl nofun)
  | refund | refundInFull | reverseSwap =>
      rcases hpaid _ rfl with ⟨paid, hpaid⟩
      rw [Message.silent_payout_iff rfl, ← hpaid.paid_eq_zero_iff, ← payIfAny_eq_none_iff,
        ← hpaid.call_eq]
  | delete _ _ _ hbalance =>
      rw [payIfAny_eq_none_iff]
      constructor
      · intro hzero
        exact .emptied (hzero ▸ hbalance)
      · intro hsilent
        cases hsilent with
        | quiet h => cases h
        | consumed h => cases h
        | emptied h => exact Except.ok.inj (hbalance.symm.trans h)
  | _ => exact iff_of_true rfl (.quiet rfl)

end Performs

/-- On any store, whatever the call and its surroundings: a call that goes through
    sends at most one message. It goes to the token in custody, without coins and
    about more than nothing, and the call is one that may send it. No message is
    sent by the silent calls, and by no others. -/
theorem sent_is_due [AddressRule] {s s' : Store} {receipt : Receipt}
    (hcall : execute chain sender message s = .ok (s', receipt)) :
    ∃ l, item.load s = .ok l ∧ (∀ c ∈ receipt.call, c.Due l chain sender message) ∧
      (receipt.call = none ↔ message.Silent l chain) := by
  rcases execute_eq_ok_iff.mp hcall with ⟨l, out, hload, -, hperf, -, rfl⟩
  exact ⟨l, hload, hperf.call_due, hperf.call_eq_none_iff⟩

/-- Of a payout of three, two are sent to the customer. A payout of one from the same
    store is all fee, and nothing is sent. -/
theorem sent_is_due_after_payout :
    ∃ s s₁ s₃ one three,
      execute stillChain ⟨"relayer"⟩
        (.reverseSwap 0 "customer" "origin" "hash" ⟨3, by decide⟩ Word.never) s =
          .ok (s₃, three) ∧
      three.call = some ⟨⟨"token"⟩, .transfer ⟨"customer"⟩ ⟨2, by decide⟩, []⟩ ∧
      (∃ l, item.load s = .ok l ∧ ∀ c ∈ three.call, c.Due l stillChain ⟨"relayer"⟩
        (.reverseSwap 0 "customer" "origin" "hash" ⟨3, by decide⟩ Word.never)) ∧
      execute stillChain ⟨"relayer"⟩
        (.reverseSwap 0 "customer" "origin" "hash" ⟨1, by decide⟩ Word.never) s = .ok (s₁, one) ∧
      one.call = none ∧
      ∃ l, item.load s = .ok l ∧ Message.Silent l stillChain
        (.reverseSwap 0 "customer" "origin" "hash" ⟨1, by decide⟩ Word.never) := by
  rcases relay_smallTerms with ⟨-, -, s, -, -, -, hkept⟩
  rcases pay_smallTerms hkept (show (⟨3, by decide⟩ : Amount) ≠ .zero by decide) (by decide) with
    ⟨s₃, hthree⟩
  rcases pay_smallTerms hkept (show (⟨1, by decide⟩ : Amount) ≠ .zero by decide) (by decide) with
    ⟨s₁, hone⟩
  rcases sent_is_due hthree with ⟨l, hload, hdue, -⟩
  rcases sent_is_due hone with ⟨l', hload', -, hsilent⟩
  exact ⟨s, s₁, s₃, _, _, hthree, rfl, ⟨l, hload, hdue⟩, hone, rfl, l', hload', hsilent.mp rfl⟩

end Ledger

end BridgeCustody
