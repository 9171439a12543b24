import BridgeCustody.Ledger.Query
import BridgeCustody.Proofs.Ledger.History

/-!
# A Swap Is Refunded Once

A refund is made on the word of a relayer, and nothing on the ledger proves that
the swap failed. What the ledger can do is to make sure that no swap is refunded
a second time, in either of the two ways and by whomever.

The record of refunds is what the ledger goes by, so the question is whether the
record is the history. It is: at any point of a run, the amounts refunded for a
swap so far, read off the log, are the entry of the record, and since an entry is
one amount or none, there is at most one. `RefundsLogged` says this together with
two facts that a later refusal depends on. A recorded amount is not zero, so the
answer to a question about it cannot be mistaken for the answer about a swap that
was never refunded. And the swap has been issued, so a second attempt fails for
being the second and not for naming an unknown swap.

## Main definitions

* `Message.refundFor?`, `Call.refundFor?`: The amount that a call refunds for a
  swap.
* `RefundsLogged`: The record is the history.

## Theorems

* `Performs.refundFor?_eq`: Only the two refunds touch the record.
* `RefundsLogged.step`: A move keeps the record the history.
* `refund_again`: A second refund fails, and why.
* `refunded_once`: The whole story of a swap and its refund.
-/

namespace BridgeCustody

namespace Ledger

/-- The amount that a message refunds for a swap, in either way. -/
def Message.refundFor? (id : UInt64) : Message → Option Amount
  | .refund id' _ amount _ => if id' = id then some amount else none
  | .refundInFull id' _ amount _ => if id' = id then some amount else none
  | _ => none

/-- The amount that a call refunds for a swap. -/
def Call.refundFor? (id : UInt64) : Call → Option Amount
  | .execute _ _ message => message.refundFor? id
  | .migrate => none

/-- The amount that a change records for a swap. -/
def Change.refundFor? (id : UInt64) : Change → Option Amount
  | .refund id' amount => if id' = id then some amount else none
  | _ => none

/-- What was refunded for a swap in the course of a log. -/
def refundsIn (id : UInt64) (log : List (Entry Call Receipt)) : List Amount :=
  log.filterMap fun e => e.call.refundFor? id

/-- The record of refunds is the history of refunds, and every entry of it is an
    amount other than zero for a swap that was issued. -/
structure RefundsLogged (b : Books) (log : List (Entry Call Receipt)) : Prop where
  logged : ∀ id, refundsIn id log = (b.refunds id).toList
  positive : ∀ id amount, b.refunds id = some amount → amount ≠ .zero
  issued : ∀ id amount, b.refunds id = some amount → id < b.ledger.nextSwapId

theorem refundsIn_snoc (id : UInt64) (log : List (Entry Call Receipt))
    (e : Entry Call Receipt) :
    refundsIn id (log ++ [e]) = refundsIn id log ++ (e.call.refundFor? id).toList := by
  rw [refundsIn, refundsIn, List.filterMap_append]
  rfl

theorem Change.post_refunds (b : Books) (change : Change) (id : UInt64) :
    (change.post b).refunds id = (change.refundFor? id).or (b.refunds id) := by
  cases change with
  | nothing | grant | revoke => rfl
  | refund id' amount =>
      rw [Change.post, Books.withRefund_refunds, Change.refundFor?]
      by_cases hid : id = id'
      · rw [if_pos hid, if_pos hid.symm, Option.some_or]
      · rw [if_neg hid, if_neg (Ne.symm hid), Option.none_or]

section Rules

variable [AddressRule]
variable {g : Registry} {chain : Chain} {sender : Address} {l : Ledger} {message : Message}
  {out : Outcome}

/-- What a call records is what its message says it refunds. -/
theorem Performs.refundFor?_eq (h : Performs g chain sender l message out) (id : UInt64) :
    out.change.refundFor? id = message.refundFor? id := by
  cases h <;> rfl

/-- Swap ids are never taken back. -/
theorem Performs.nextSwapId_le (h : Performs g chain sender l message out) :
    l.nextSwapId ≤ out.ledger.nextSwapId := by
  cases h with
  -- Only swaps issue ids, and each issues the next.
  | swap h | receiveSwap _ _ _ h =>
      have hnext := h.next_eq
      rw [UInt64.le_iff_toNat_le]
      simp only []
      omega
  | _ => exact UInt64.le_refl _

/-- What a refund that goes through was checked for. -/
theorem Performs.of_refundFor? (h : Performs g chain sender l message out) {id : UInt64}
    {amount : Amount} (hrefund : message.refundFor? id = some amount) :
    g.refunded id = false ∧ amount ≠ .zero ∧ id < l.nextSwapId := by
  cases h with
  | refund _ hissued hnew _ h | refundInFull _ hissued hnew _ h =>
      rcases Option.ite_none_right_eq_some.mp hrefund with ⟨rfl, hsome⟩
      cases hsome
      exact ⟨hnew, h.positive, hissued⟩
  | _ => cases hrefund

end Rules

namespace RefundsLogged

variable {b b' : Books} {log : List (Entry Call Receipt)}

theorem nil (h : ∀ id, b.refunds id = none) : RefundsLogged b [] where
  logged id := by rw [h id]; rfl
  positive id amount ha := by rw [h id] at ha; cases ha
  issued id amount ha := by rw [h id] at ha; cases ha

/-- A move that goes through keeps the record the history. -/
theorem step [AddressRule] {e : Entry Call Receipt} (h : RefundsLogged b log)
    (hmoves : Moves b e.call e.report b') : RefundsLogged b' (log ++ [e]) := by
  rcases e with ⟨before, call, after, report⟩
  cases hmoves with
  | migrate =>
      refine ⟨?_, h.positive, h.issued⟩
      intro id
      rw [refundsIn_snoc, h.logged id]
      exact List.append_nil _
  | @execute chain sender message out hopen hperf =>
      -- The record after the call: what was refunded now, or else what was there.
      have hpost : ∀ id, (out.post b).refunds id =
          (message.refundFor? id).or (b.refunds id) := by
        intro id
        rw [← hperf.refundFor?_eq id]
        exact Change.post_refunds b out.change id
      -- Swaps that were issued stay issued.
      have hnext : b.ledger.nextSwapId ≤ (out.post b).ledger.nextSwapId := hperf.nextSwapId_le
      refine ⟨?_, ?_, ?_⟩
      · intro id
        rw [refundsIn_snoc, h.logged id, hpost id]
        simp only [Call.refundFor?]
        cases hr : message.refundFor? id with
        | none => rw [Option.none_or, Option.toList_none, List.append_nil]
        | some amount =>
            -- The refund was allowed, so there was no entry yet.
            have hnew : (b.refunds id).isSome = false := (hperf.of_refundFor? hr).1
            rw [Option.isSome_eq_false_iff, Option.isNone_iff_eq_none] at hnew
            rw [hnew, Option.some_or]
            rfl
      · -- A new entry is an amount that was checked not to be zero.
        intro id amount ha
        rw [hpost id] at ha
        cases hr : message.refundFor? id with
        | none =>
            rw [hr, Option.none_or] at ha
            exact h.positive id amount ha
        | some amount' =>
            rw [hr, Option.some_or] at ha
            cases ha
            exact (hperf.of_refundFor? hr).2.1
      · intro id amount ha
        rw [hpost id] at ha
        refine UInt64.lt_of_lt_of_le ?_ hnext
        cases hr : message.refundFor? id with
        | none =>
            rw [hr, Option.none_or] at ha
            exact h.issued id amount ha
        | some amount' => exact (hperf.of_refundFor? hr).2.2

end RefundsLogged

/-- A refund of a swap that was refunded before fails, and for that reason. -/
theorem refund_again [AddressRule] {g : Registry} {chain : Chain} {sender : Address} {l : Ledger}
    {mode : RefundFee} {id eon : UInt64} {recipient : String} {amount : Amount}
    (hrelay : Relayable l g chain sender eon) (hid : id < l.nextSwapId)
    (hdone : g.refunded id = true) :
    l.refund g chain sender mode id recipient amount eon = .error (.alreadyRefunded id) := by
  -- The checks before the look-up pass, and the look-up is the first to fail.
  have hchecked : l.checkRelayed g chain sender eon = .ok () := checkRelayed_eq_ok_iff.mpr hrelay
  rw [refund, hchecked, ok_bind, ensure_bind, if_pos hid, ensure_bind, if_neg]
  rw [hdone]
  exact Bool.noConfusion

theorem query_refunded [AddressRule] {chain : Chain} {s : Store} {id : UInt64}
    {amount : Option Amount} (h : (refundCell id).read? s = .ok amount) :
    query chain s (.refunded id) = .ok (.refunded id (amount.getD .zero)) := by
  rw [query, h]
  rfl

/-- The same for a call on a store. -/
theorem execute_refund_again [AddressRule] {chain : Chain} {sender : Address} {message : Message}
    {s : Store} {l : Ledger} {id eon : UInt64} {recipient : String} {amount : Amount}
    (hload : item.load s = .ok l) (hopen : l.deleted = false)
    (hrelay : Relayable l (.ofStore s) chain sender eon) (hid : id < l.nextSwapId)
    (hdone : (Registry.ofStore s).refunded id = true)
    (hmessage : message = .refund id recipient amount eon ∨
      message = .refundInFull id recipient amount eon) :
    execute chain sender message s = .error (.alreadyRefunded id) := by
  -- Both messages end in the same operation, in its two modes.
  have hoperate : l.operate (.ofStore s) chain sender message = .error (.alreadyRefunded id) := by
    rcases hmessage with rfl | rfl
    · exact refund_again hrelay hid hdone
    · exact refund_again hrelay hid hdone
  have hloaded : ofHost (item.load s) = .ok l := ofHost_eq_ok_iff.mpr hload
  rw [execute, hloaded, ok_bind, ensure_bind, if_pos hopen, hoperate, error_bind]

/-- At any point of a run from a deployment, a swap was refunded at most once. If
    it was, the record has the amount, which is not zero, the swap was issued,
    and a further refund that passes the other checks fails for being one. If it
    was not, there is no record. -/
theorem refunded_once [AddressRule] {chain : Chain} {deployer : Address} {d : Deployment}
    {start s : Store} {receipt : Receipt} {log : List (Entry Call Receipt)}
    (hdeploy : deploy chain deployer d .empty = .ok (start, receipt))
    (hrun : Run Call.perform start s log) (id : UInt64) :
    (refundsIn id log).length ≤ 1 ∧
      (∀ amount ∈ refundsIn id log,
        (refundCell id).read? s = .ok (some amount) ∧ amount ≠ .zero ∧
        (∃ l, item.load s = .ok l ∧ id < l.nextSwapId) ∧
        ∀ chain, query chain s (.refunded id) = .ok (.refunded id amount)) ∧
      (refundsIn id log = [] →
        (refundCell id).read? s = .ok none ∧
        ∀ chain, query chain s (.refunded id) = .ok (.refunded id .zero)) ∧
      (refundsIn id log ≠ [] → ∀ l chain sender eon recipient amount message,
        item.load s = .ok l → l.deleted = false →
        Relayable l (.ofStore s) chain sender eon →
        (message = .refund id recipient amount eon ∨
          message = .refundInFull id recipient amount eon) →
        execute chain sender message s = .error (.alreadyRefunded id)) := by
  rcases deploy_empty hdeploy with ⟨b₀, hkept₀, -, hnone, -⟩
  -- The record is empty at first and every move keeps it the history.
  rcases run_books hrun hkept₀ (RefundsLogged.nil hnone)
    (fun b b' e log hlogged _ _ hmoves => hlogged.step hmoves) with ⟨b, hkept, hinv⟩
  rw [hinv.logged id]
  refine ⟨Option.length_toList_le, ?_, ?_, ?_⟩
  · intro amount hmem
    have ha : b.refunds id = some amount := Option.mem_toList.mp hmem
    have hread : (refundCell id).read? s = .ok (some amount) := ha ▸ hkept.refunds id
    exact ⟨hread, hinv.positive id amount ha,
      ⟨b.ledger, hkept.ledger, hinv.issued id amount ha⟩, fun _ => query_refunded hread⟩
  · intro hnil
    have hread : (refundCell id).read? s = .ok none :=
      Option.toList_eq_nil_iff.mp hnil ▸ hkept.refunds id
    exact ⟨hread, fun _ => query_refunded hread⟩
  · intro hdone l chain sender eon recipient amount message hload hopen hrelay hmessage
    rw [hkept.ledger] at hload
    cases hload
    cases ha : b.refunds id with
    -- The record is the history, so there is an entry if there was a refund.
    | none => exact absurd (Option.toList_eq_nil_iff.mpr ha) hdone
    | some recorded =>
        have hrefunded : (Registry.ofStore s).refunded id = true := by
          rw [hkept.registry_eq, Books.registry_refunded, ha, Option.isSome_some]
        exact execute_refund_again hkept.ledger hopen hrelay (hinv.issued id recorded ha)
          hrefunded hmessage

/-- A ledger on which the deployer minted five, became a relayer and refunded
    three for the first swap has three on record. -/
theorem refunded_once_after_refund :
    ∃ start receipt s log,
      deploy stillChain ⟨"deployer"⟩ smallTerms .empty = .ok (start, receipt) ∧
      Run Call.perform start s log ∧ refundsIn 0 log = [⟨3, by decide⟩] ∧
      (refundCell 0).read? s = .ok (some ⟨3, by decide⟩) := by
  rcases mint_smallTerms with ⟨start, receipt, minted, hdeploy, hmint, hkept₁⟩
  rcases grant_smallTerms hkept₁ .relayer "deployer" (by decide) rfl with
    ⟨granted, hgrant, hkept₂⟩
  have hsettle : Settleable (smallBooks ⟨5, by decide⟩).ledger ⟨3, by decide⟩ .zero
      ⟨2, by decide⟩ ⟨497, by decide⟩ .zero ⟨3, by decide⟩ :=
    ⟨by decide, by decide, rfl, rfl, rfl, rfl⟩
  have hrefunds :
      Performs ((smallBooks ⟨5, by decide⟩).withHolding .relayer ⟨"deployer"⟩ true).registry
        stillChain ⟨"deployer"⟩ (smallBooks ⟨5, by decide⟩).ledger
        (.refundInFull 0 "customer" ⟨3, by decide⟩ Word.never) _ :=
    .refundInFull ⟨rfl, rfl, rfl⟩ (by decide) rfl (by decide) hsettle
  rcases hkept₂.proceeds rfl hrefunds with ⟨s, hrefund, -⟩
  have hrun := run_execute (run_execute (run_execute .here hmint) hgrant) hrefund
  have hlog := refunded_once hdeploy hrun 0
  exact ⟨start, receipt, s, _, hdeploy, hrun, rfl, (hlog.2.1 _ List.mem_cons_self).1⟩

end Ledger

end BridgeCustody
