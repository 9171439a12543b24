import BridgeCustody.Proofs.Ledger.Conditions
import BridgeCustody.Proofs.Messages

/-!
# Two Entrances, One Set of Books

Value comes in by two entrances. A direct call has the ledger pull the tokens from
its sender. Through the hook the tokens have come already, and it is the token that
calls, on behalf of the owner that it names. Whoever writes a wallet picks one of
them by what is convenient, and nothing that the ledger keeps or refuses should
depend on the choice.

The two calls have different senders, and what is asked for is in the message of the
one and inside a payload of the other. So they cannot be compared before the payload
is read. After that both come to the same bookkeeping, with the owner of the tokens
in the place of the caller, and what they have in common is everything but the pull.
This is an equation between operations, and it covers refusals as well.

A token that calls the hook has credited the ledger before. A direct call meets the
balance from before, so the two do not see the same chain. All they have to have in
common is the height, since neither looks at a balance.

The hook is open to everybody who can send a message, and it takes the word of its
caller for what has come in. It must not take it from anybody but the token.

## Main definitions

* `Hook.direct`: The direct call that asks for the same as a hook.
* `Hook.payload`: A payload that asks for it.
* `Hook.book`: The bookkeeping that a hook asks for.
* `Entered`: Two results that differ in the pull only.

## Theorems

* `operate_receive`, `operate_direct`: Either way comes to the bookkeeping.
* `execute_entered`: The hook and the direct call go alike.
* `entrances_agree`: The same, and that strangers are turned away.
-/

namespace BridgeCustody

namespace Ledger

/-- The direct call that asks for the same as a hook. -/
def Hook.direct (amount : Amount) : Hook → Message
  | .swap destination => .swap amount destination
  | .deposit => .deposit amount

/-- A payload that says what a hook asks for. -/
def Hook.payload (hook : Hook) : Payload :=
  ⟨Bytes.ofText (Wire.encode hook)⟩

/-- The bookkeeping that a hook asks for, for tokens that belonged to `owner`. -/
def Hook.book (g : Registry) (chain : Chain) (owner : Address) (amount : Amount) (l : Ledger) :
    Hook → Except Error Outcome
  | .swap destination => l.bookSwap chain owner amount destination
  | .deposit => l.bookDeposit g chain owner amount

/-- Two results of bringing in the same value, first through the hook and then
    directly: the same refusal, or the same store and the same report. Only the direct
    call asks the token for anything. -/
inductive Entered (pull : TokenCall) :
    Except Error (Store × Receipt) → Except Error (Store × Receipt) → Prop
  | refused {e} : Entered pull (.error e) (.error e)
  | went {s event} : Entered pull (.ok (s, ⟨none, event⟩)) (.ok (s, ⟨some pull, event⟩))

section Operations

variable {g : Registry} {chain chain' : Chain} {owner : Address} {amount : Amount} {l : Ledger}
  {hook : Hook}

/-- The bookkeeping looks at the height and at nothing else of the chain. -/
theorem book_congr (hheight : chain.height = chain'.height) :
    hook.book g chain owner amount l = hook.book g chain' owner amount l := by
  cases hook with
  | swap destination => rw [Hook.book, Hook.book, bookSwap, bookSwap, hheight]
  | deposit => rw [Hook.book, Hook.book, bookDeposit, bookDeposit, hheight]

/-- The bookkeeping itself asks the token for nothing. -/
theorem book_call {out : Outcome} (h : hook.book g chain owner amount l = .ok out) :
    out.call = none := by
  cases hook with
  | swap destination =>
      rcases bookSwap_eq_ok_iff.mp h with ⟨_, _, -, rfl⟩
      rfl
  | deposit =>
      rcases bookDeposit_eq_ok_iff.mp h with ⟨_, -, rfl⟩
      rfl

/-- What the token announces is booked for the owner that it names. -/
theorem operate_receive [AddressRule] {owner : String} {payload : Payload}
    (howner : Address.Valid owner) (hpayload : Hook.ofPayload payload = .ok hook) :
    l.operate g chain l.token (.receive owner amount payload) =
      hook.book g chain ⟨owner⟩ amount l := by
  have hchecked : checkAddress owner = .ok ⟨owner⟩ := checkAddress_eq_ok_iff.mpr ⟨howner, rfl⟩
  have hread : ofHost (Hook.ofPayload payload) = .ok hook := ofHost_eq_ok_iff.mpr hpayload
  rw [operate, receive, ensure_bind, if_pos rfl, hchecked, ok_bind, hread, ok_bind]
  cases hook with
  | swap destination => rfl
  | deposit => rfl

/-- A direct call books the same for its sender, and pulls. -/
theorem operate_direct [AddressRule] :
    l.operate g chain owner (hook.direct amount) =
      (fun out => { out with call := some (l.pull chain owner amount) }) <$>
        hook.book g chain owner amount l := by
  cases hook with
  | swap destination => rfl
  | deposit => rfl

end Operations

section Calls

variable [AddressRule]
variable {s : Store} {l : Ledger} {chain chain' : Chain} {sender : Address} {owner : String}
  {amount : Amount} {payload : Payload} {hook : Hook}

/-- The hook and the direct call go alike, on any two chains of the same height. -/
theorem execute_entered (hload : item.load s = .ok l) (hheight : chain.height = chain'.height)
    (howner : Address.Valid owner) (hpayload : Hook.ofPayload payload = .ok hook) :
    Entered (l.pull chain' ⟨owner⟩ amount)
      (execute chain l.token (.receive owner amount payload) s)
      (execute chain' ⟨owner⟩ (hook.direct amount) s) := by
  have hloaded : ofHost (item.load s) = .ok l := ofHost_eq_ok_iff.mpr hload
  simp only [execute, hloaded, ok_bind, ensure_bind, operate_receive howner hpayload,
    operate_direct, book_congr hheight]
  by_cases hopen : l.deleted = false
  · rw [if_pos hopen, if_pos hopen]
    -- One bookkeeping is left, and each of the two goes on from it.
    cases hbook : hook.book (.ofStore s) chain' ⟨owner⟩ amount l with
    | error e => exact .refused
    | ok out =>
        rw [ok_bind, book_call hbook]
        exact .went
  · rw [if_neg hopen, if_neg hopen]
    exact .refused

/-- Who is not the token is turned away before anything else is looked at, unless
    there is no ledger to be told anything any more. -/
theorem execute_receive_stranger (hload : item.load s = .ok l) (hsender : sender ≠ l.token) :
    execute chain sender (.receive owner amount payload) s =
      .error (if l.deleted then .deleted else .unrecognizedToken sender) := by
  have hloaded : ofHost (item.load s) = .ok l := ofHost_eq_ok_iff.mpr hload
  rw [execute, hloaded, ok_bind, ensure_bind]
  cases l.deleted with
  | true => rfl
  | false => rw [if_pos rfl, operate, receive, ensure_bind, if_neg hsender, error_bind]; rfl

/-- On every store that holds a ledger, an amount that the token announces for an
    owner goes the way that it goes if the owner calls directly, whatever the hook
    asks for: the two are refused alike, or they leave the same store with the same
    report. The direct call has the amount transferred from the owner to the ledger,
    the hook sends no message. A call of the hook by anybody but the token is refused
    for not being the token's, or for the deletion if the ledger was deleted. -/
theorem entrances_agree (hload : item.load s = .ok l) (chain chain' : Chain)
    (hheight : chain.height = chain'.height) (amount : Amount) (payload : Payload) :
    (∀ owner hook, Address.Valid owner → Hook.ofPayload payload = .ok hook →
      Entered (.plain l.token (.transferFrom ⟨owner⟩ chain'.self amount))
        (execute chain l.token (.receive owner amount payload) s)
        (execute chain' ⟨owner⟩ (hook.direct amount) s)) ∧
    ∀ sender owner, sender ≠ l.token →
      execute chain sender (.receive owner amount payload) s =
        .error (if l.deleted then .deleted else .unrecognizedToken sender) :=
  ⟨fun _ _ howner hpayload => execute_entered hload hheight howner hpayload,
    fun _ _ hsender => execute_receive_stranger hload hsender⟩

end Calls

/-- Under small terms the token announces three for a customer at a moment when it
    states them to the ledger. That leads where the customer's own call leads from a
    balance of nothing, and a stranger who announces the same is turned away. -/
theorem entrances_agree_for_three :
    ∃ s l s' event, item.load s = .ok l ∧ Address.Valid "customer" ∧
      Hook.ofPayload (Hook.swap "remote").payload = .ok (.swap "remote") ∧
      execute (.stating ⟨"ledger"⟩ 10 ⟨3, by decide⟩) l.token
        (.receive "customer" ⟨3, by decide⟩ (Hook.swap "remote").payload) s =
          .ok (s', ⟨none, event⟩) ∧
      execute stillChain ⟨"customer"⟩ (.swap ⟨3, by decide⟩ "remote") s =
        .ok (s', ⟨some (.plain l.token (.transferFrom ⟨"customer"⟩ ⟨"ledger"⟩ ⟨3, by decide⟩)),
          event⟩) ∧
      execute stillChain ⟨"stranger"⟩
        (.receive "customer" ⟨3, by decide⟩ (Hook.swap "remote").payload) s =
          .error (.unrecognizedToken ⟨"stranger"⟩) := by
  rcases deploy_smallTerms with ⟨s, -, -, hkept⟩
  have hpayload : Hook.ofPayload (Hook.swap "remote").payload = .ok (.swap "remote") :=
    Hook.ofPayload_encode _
  have howner : Address.Valid "customer" := by decide
  have hswappable : Swappable (smallBooks .zero).ledger stillChain ⟨3, by decide⟩ "remote"
      ⟨3, by decide⟩ 2 :=
    ⟨rfl, by decide, by decide, by decide, by decide, rfl, by decide, rfl⟩
  rcases hkept.proceeds rfl (.swap hswappable : Performs _ _ ⟨"customer"⟩ _ _ _) with
    ⟨s', hdirect, -⟩
  rcases entrances_agree hkept.ledger (.stating ⟨"ledger"⟩ 10 ⟨3, by decide⟩) stillChain rfl
    ⟨3, by decide⟩ (Hook.swap "remote").payload with ⟨hagree, hturned⟩
  have hentered := hagree "customer" (.swap "remote") howner hpayload
  -- The direct call went through, so the hook did, and with the same outcome.
  rw [Hook.direct, hdirect] at hentered
  cases hhooked : execute (.stating ⟨"ledger"⟩ 10 ⟨3, by decide⟩) (smallBooks .zero).ledger.token
      (.receive "customer" ⟨3, by decide⟩ (Hook.swap "remote").payload) s with
  | error e =>
      rw [hhooked] at hentered
      cases hentered
  | ok result =>
      rw [hhooked] at hentered
      cases hentered
      refine ⟨s, _, s', _, hkept.ledger, howner, hpayload, hhooked, hdirect, ?_⟩
      exact hturned ⟨"stranger"⟩ "customer" (by decide)

end Ledger

end BridgeCustody
