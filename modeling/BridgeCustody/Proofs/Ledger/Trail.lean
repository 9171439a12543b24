import BridgeCustody.Proofs.Ledger.History
import BridgeCustody.Proofs.Ledger.Report

/-!
# The Audit Trail Determines the Ledger

The reports of a ledger are all that it tells the world about itself. They are
worth something only if they tell everything: whoever kept the store from the
deployment and has read every report since must be able to say what the store is
now, without having seen a single message.

`retell` is that reader. It does not run operations. It knows no roles and checks
no condition, and it never asks the token. It takes the numbers that a report
shows and books them: what came in is added to the supply, what went out is taken
from it, a relayed amount is what was paid and the fee together, and a setting is
what the report says it is. The amount on record for a refund appears in no
report; it is the sum of two that do.

That a call leaves the store that its report retells is a comparison of two
lists, the rules of `Performs` and the bookkeeping of `replay?`. Two calls with
the same report then leave the same store, however different the messages were.

## Main definitions

* `Event.replay?`: What an event does to the value and to the tables.
* `Event.rewrite?`, `retell`: What an event, and what a report, does to a store.
* `retellAll`: A trail of reports, one after another.

## Theorems

* `Performs.replay?_eq`: What an operation does is what its event says.
* `retell_of_execute`: A call leaves the store that its report retells.
* `retellAll_of_run`: A run leaves the store that its trail retells.
* `trail_determines_store`: The same reports, the same store.
-/

namespace BridgeCustody

namespace Ledger

/-- The value after an amount was relayed of which this was paid and this kept as
    the fee. The result goes with the amount. -/
def relayed? (l : Ledger) (paid fee : Amount) : Option (Ledger × Amount) := do
  let amount ← paid.add? fee
  let supply ← l.supply.sub? amount
  let allowance ← l.allowance.sub? amount
  let fees ← l.fees.add? fee
  return ({ l with supply := supply, allowance := allowance, fees := fees }, amount)

/-- What an event does to the value, and to the tables beside it. A deployment and
    a migration do nothing to the value of a ledger that is there already. -/
def Event.replay? (l : Ledger) : Event → Option (Ledger × Change)
  | deployed _ _ _ _ _ => none
  | migrated => none
  | swapped id _ _ amount => do
    let supply ← l.supply.add? amount
    let next ← Word.next? id
    return ({ l with supply := supply, nextSwapId := next }, .nothing)
  | refunded id _ paid fee => do
    let (settled, amount) ← l.relayed? paid fee
    return (settled, .refund id amount)
  | reverseSwapped _ _ _ _ paid fee => do
    let (settled, _) ← l.relayed? paid fee
    return (settled, .nothing)
  | eonRotated eon => some ({ l with relayEon := eon }, .nothing)
  | pauseMoved surface since => some (l.setPausedSince surface since, .nothing)
  | deposited _ amount | minted amount => do
    let supply ← l.supply.add? amount
    return ({ l with supply := supply }, .nothing)
  | withdrawn _ amount | burned amount => do
    let supply ← l.supply.sub? amount
    return ({ l with supply := supply }, .nothing)
  | feesWithdrawn _ amount => do
    let fees ← l.fees.sub? amount
    return ({ l with fees := fees }, .nothing)
  | excessWithdrawn _ _ => some (l, .nothing)
  | closed _ _ => some ({ l with supply := .zero, fees := .zero, deleted := true }, .nothing)
  | capSet cap => some ({ l with cap := cap }, .nothing)
  | swapLimitsSet limits => some ({ l with swapLimits := limits }, .nothing)
  | reverseLimitsSet limits => some ({ l with reverseLimits := limits }, .nothing)
  | allowanceSet amount => some ({ l with allowance := amount }, .nothing)
  | approverCapSet amount => some ({ l with approverCap := amount }, .nothing)
  | roleGranted role holder => some (l, .grant role holder)
  | roleRevoked role holder | roleRenounced role holder => some (l, .revoke role holder)

/-- What an event does to a store. Only a migration leaves the value alone. -/
def Event.rewrite? (s : Store) : Event → Option Store
  | migrated => some (Release.item.write .ofLedger s)
  | event => do
    let l ← (item.load s).toOption
    let (l', change) ← event.replay? l
    return item.write l' (change.apply s)

/-- What a report does to a store. -/
def retell (s : Store) (r : Report) : Option Store :=
  r.event?.bind (Event.rewrite? s)

/-- What a trail of reports does to a store, from the first to the last. -/
def retellAll (start : Store) (trail : List Report) : Option Store :=
  trail.foldlM retell start

/-- The reports of a log. -/
def trailOf (log : List (Entry Call Receipt)) : List Report :=
  log.map (·.report.event.attributes)

theorem retellAll_snoc (start : Store) (trail : List Report) (r : Report) :
    retellAll start (trail ++ [r]) = (retellAll start trail).bind (retell · r) := by
  rw [retellAll, retellAll, List.foldlM_append, Option.bind_eq_bind]
  congr 1
  funext s
  rw [List.foldlM_cons, Option.bind_eq_bind]
  exact Option.bind_fun_some _

section Rules

variable {g : Registry} {chain : Chain} {sender : Address} {l : Ledger} {message : Message}
  {out : Outcome}

/-- A relayed amount is what was paid and the fee together, so the report is
    enough to book it. -/
theorem Settleable.relayed?_eq {amount fee supply allowance fees paid : Amount}
    (h : Settleable l amount fee supply allowance fees paid) :
    l.relayed? paid fee =
      some ({ l with supply := supply, allowance := allowance, fees := fees }, amount) := by
  rw [relayed?, Amount.add?_eq_some_iff.mpr h.paid_eq, Option.bind_eq_bind, Option.bind_some,
    Amount.sub?_eq_some_iff.mpr h.supply_eq, Amount.sub?_eq_some_iff.mpr h.allowance_eq,
    Amount.add?_eq_some_iff.mpr h.fees_eq]
  rfl

/-- What an operation does is what its event says. -/
theorem Performs.replay?_eq [AddressRule] (h : Performs g chain sender l message out) :
    out.event.replay? l = some (out.ledger, out.change) := by
  cases h with
  | swap h | receiveSwap _ _ _ h =>
      rw [Event.replay?, Amount.add?_eq_some_iff.mpr h.supply_eq,
        Word.next?_eq_some_iff.mpr h.next_eq]
      rfl
  | deposit h | receiveDeposit _ _ _ h =>
      rw [Event.replay?, Amount.add?_eq_some_iff.mpr h.supply_eq]
      rfl
  | refund _ _ _ _ h | refundInFull _ _ _ _ h | reverseSwap _ _ h =>
      rw [Event.replay?, h.relayed?_eq]
      rfl
  | mint _ _ hsupply =>
      rw [Event.replay?, Amount.add?_eq_some_iff.mpr hsupply]
      rfl
  | withdraw _ _ _ hsupply | burn _ _ hsupply =>
      rw [Event.replay?, Amount.sub?_eq_some_iff.mpr hsupply]
      rfl
  | withdrawFees =>
      -- All the fees go at once, so taking the reported amount from them leaves nothing.
      have hnone : l.fees.sub? l.fees = some .zero :=
        Amount.sub?_eq_some_iff.mpr (Nat.zero_add _).symm
      rw [Event.replay?, hnone]
      rfl
  | _ => rfl

/-- No operation is reported as a migration. -/
theorem Performs.event_ne_migrated [AddressRule] (h : Performs g chain sender l message out) :
    out.event ≠ .migrated := by
  cases h <;> nofun

end Rules

theorem Event.rewrite?_of_ne {event : Event} {s : Store} {l l' : Ledger} {change : Change}
    (hne : event ≠ .migrated) (hload : item.load s = .ok l)
    (hreplay : event.replay? l = some (l', change)) :
    event.rewrite? s = some (item.write l' (change.apply s)) := by
  unfold Event.rewrite?
  split
  · exact absurd rfl hne
  · rw [hload, Except.toOption, Option.bind_eq_bind, Option.bind_some, hreplay]
    rfl

/-- An operation that goes through leaves the store that its report retells. -/
theorem retell_of_execute [AddressRule] {chain : Chain} {sender : Address} {message : Message}
    {s s' : Store} {receipt : Receipt} (h : execute chain sender message s = .ok (s', receipt)) :
    retell s receipt.event.attributes = some s' := by
  rcases execute_eq_ok_iff.mp h with ⟨l, out, hload, -, hperf, rfl, rfl⟩
  rw [retell, Report.event?_attributes, Option.bind_some]
  exact Event.rewrite?_of_ne hperf.event_ne_migrated hload hperf.replay?_eq

/-- A call that goes through leaves the store that its report retells. -/
theorem retell_of_perform [AddressRule] {call : Call} {s s' : Store} {receipt : Receipt}
    (h : call.perform s = .ok (s', receipt)) :
    retell s receipt.event.attributes = some s' := by
  cases call with
  | execute chain sender message => exact retell_of_execute h
  | migrate =>
      cases h
      rw [retell, Report.event?_attributes]
      rfl

/-- A run leaves the store that its trail retells. -/
theorem retellAll_of_run [AddressRule] {start s : Store} {log : List (Entry Call Receipt)}
    (hrun : Run Call.perform start s log) : retellAll start (trailOf log) = some s := by
  refine hrun.logged (P := fun s log => retellAll start (trailOf log) = some s) rfl ?_
  intro call s s' receipt log ih hcall
  -- The last report is retold on what the reports before it have led to.
  have htrail : trailOf (log ++ [⟨s, call, s', receipt⟩]) =
      trailOf log ++ [receipt.event.attributes] := List.map_append
  rw [htrail, retellAll_snoc, ih, Option.bind_some]
  exact retell_of_perform hcall

/-- Two calls on a store that are reported in the same words leave the same store,
    whatever they were and whoever sent them. And wherever a run starts, after
    each of its calls the store is what the reports up to that call make of the
    store at the start. -/
theorem trail_determines_store [AddressRule] :
    (∀ (s s₁ s₂ : Store) (chain₁ chain₂ : Chain) (sender₁ sender₂ : Address)
        (message₁ message₂ : Message) (receipt₁ receipt₂ : Receipt),
        execute chain₁ sender₁ message₁ s = .ok (s₁, receipt₁) →
        execute chain₂ sender₂ message₂ s = .ok (s₂, receipt₂) →
        receipt₁.event.attributes = receipt₂.event.attributes → s₁ = s₂) ∧
      ∀ (start s : Store) (log : List (Entry Call Receipt)), Run Call.perform start s log →
        retellAll start (trailOf log) = some s ∧
        ∀ pre e post, log = pre ++ e :: post →
          retellAll start (trailOf (pre ++ [e])) = some e.after := by
  refine ⟨?_, ?_⟩
  · intro s s₁ s₂ chain₁ chain₂ sender₁ sender₂ message₁ message₂ receipt₁ receipt₂ h₁ h₂ hsame
    -- Both stores are what the one report makes of the store before.
    have htold₁ := retell_of_execute h₁
    have htold₂ := retell_of_execute h₂
    rw [hsame, htold₂] at htold₁
    exact (Option.some.inj htold₁).symm
  · intro start s log hrun
    refine ⟨retellAll_of_run hrun, ?_⟩
    rintro pre e post rfl
    -- The run up to and with an entry ends in the store that the entry left.
    rcases hrun.entry with ⟨hbefore, hcall, -⟩
    exact retellAll_of_run (hbefore.went hcall)

/-- Asked at block ten to pause swaps from block three or from block seven on, the
    ledger reports block ten in both cases, and there is one store that both
    leave and that the report retells. -/
theorem trail_determines_store_of_pauses :
    ∃ start s₁ s₂ receipt₁ receipt₂,
      execute stillChain ⟨"deployer"⟩ (.pausePublicApi 3) start = .ok (s₁, receipt₁) ∧
      execute stillChain ⟨"deployer"⟩ (.pausePublicApi 7) start = .ok (s₂, receipt₂) ∧
      receipt₁.event.attributes = receipt₂.event.attributes ∧ s₁ = s₂ ∧
      retellAll start [[("action", "pause_public_api"), ("since_block", "10")]] = some s₁ := by
  rcases deploy_smallTerms with ⟨start, -, -, hkept⟩
  have hpauses : ∀ since, effectivePause since stillChain.height = 10 →
      Performs (smallBooks .zero).registry stillChain ⟨"deployer"⟩ (smallBooks .zero).ledger
        (.pausePublicApi since) _ := fun since hsince =>
    .pausePublicApi ⟨.admin, by rw [hsince]; decide, rfl⟩
  rcases hkept.proceeds rfl (hpauses 3 (by decide)) with ⟨s₁, hfirst, -⟩
  rcases hkept.proceeds rfl (hpauses 7 (by decide)) with ⟨s₂, hsecond, -⟩
  have hsame := trail_determines_store.1 _ _ _ _ _ _ _ _ _ _ _ hfirst hsecond rfl
  have htold := (trail_determines_store.2 _ _ _ (run_execute .here hfirst)).1
  exact ⟨start, s₁, s₂, _, _, hfirst, hsecond, rfl, hsame, htold⟩

end Ledger

end BridgeCustody
