import BridgeCustody.Proofs.Ledger.Authority
import BridgeCustody.Proofs.Ledger.Value
import Mathlib.Data.List.DropRight

/-!
# The Allowance Is a Budget

A relayer whose key is stolen can drain the ledger, and the allowance is what
bounds the damage. It is only a bound if it is spent: by every relayed amount in
full, whatever part of it the fee keeps, and by nothing else. The store shows
only what is left, so what was spent has to be read off the log.

There are two sides to the budget. The first is an equation between the allowance
and the history, in which a setting starts the count anew. The second is about
who may raise it. As long as no administrator calls, there is only the approver,
who is held by a cap that it cannot move. The cap and the bound are therefore
carried along a run together, as `HeldTo`.

Neither needs more of a store than the value in it, so the invariants are of
values, and the deployment may have been on any store.

## Main definitions

* `Message.allowance?`, `Message.relayed`: What a message sets the allowance to,
  and what it consumes of it.
* `lastSet`, `sinceSet`, `relayedIn`: The same for a log.
* `Call.sentBy`: Whether a call is sent by the holder of a role.
* `HeldTo`: What the approver cannot get beyond.

## Theorems

* `Performs.allowance_set`, `Performs.allowance_spent`: What a call does to the
  allowance.
* `HeldTo.step`: Without an administrator the bound stays.
* `run_allowance`, `run_heldTo`: The two along a run.
* `allowance_is_budget`: Both, for all runs from a deployment.
-/

namespace BridgeCustody

namespace Ledger

/-- What a message sets the allowance to. -/
def Message.allowance? : Message → Option Amount
  | .setAllowance amount => some amount
  | _ => none

/-- What a message consumes of the allowance: the amount in full. -/
def Message.relayed : Message → Nat
  | .refund _ _ amount _ => amount.toNat
  | .refundInFull _ _ amount _ => amount.toNat
  | .reverseSwap _ _ _ _ amount _ => amount.toNat
  | _ => 0

/-- What a call sets the allowance to. -/
def Call.allowance? : Call → Option Amount
  | execute _ _ message => message.allowance?
  | migrate => none

/-- What a call consumes of the allowance. -/
def Call.relayed : Call → Nat
  | execute _ _ message => message.relayed
  | migrate => 0

/-- The allowance as it was set last, or at the deployment if never since. -/
def lastSet (initial : Amount) (log : List (Entry Call Receipt)) : Amount :=
  (log.filterMap (·.call.allowance?)).getLast?.getD initial

/-- The calls behind the last one that set the allowance, or all if none did. -/
def sinceSet (log : List (Entry Call Receipt)) : List (Entry Call Receipt) :=
  log.rtakeWhile (·.call.allowance?.isNone)

/-- What was relayed in the course of a log, fees included. -/
def relayedIn (log : List (Entry Call Receipt)) : Nat :=
  log.foldl (fun spent e => spent + e.call.relayed) 0

section Snoc

variable (initial : Amount) (log : List (Entry Call Receipt)) {e : Entry Call Receipt}

theorem lastSet_snoc (e : Entry Call Receipt) :
    lastSet initial (log ++ [e]) = e.call.allowance?.getD (lastSet initial log) := by
  cases h : e.call.allowance? with
  | none => simp [lastSet, h]
  | some value => simp [lastSet, h]

theorem sinceSet_snoc_some {value : Amount} (h : e.call.allowance? = some value) :
    sinceSet (log ++ [e]) = [] :=
  List.rtakeWhile_concat_neg _ _ _ (by simp [h])

theorem sinceSet_snoc_none (h : e.call.allowance? = none) :
    sinceSet (log ++ [e]) = sinceSet log ++ [e] :=
  List.rtakeWhile_concat_pos _ _ _ (by simp [h])

theorem relayedIn_snoc (e : Entry Call Receipt) :
    relayedIn (log ++ [e]) = relayedIn log + e.call.relayed := by
  rw [relayedIn, List.foldl_append]
  rfl

end Snoc

section Rules

variable {g : Registry} {chain : Chain} {sender : Address} {l m : Ledger} {message : Message}
  {out : Outcome}

/-- A message that sets the allowance sets it to what it says. -/
theorem Performs.allowance_set [AddressRule] (h : Performs g chain sender l message out)
    {value : Amount} (hset : message.allowance? = some value) : out.ledger.allowance = value := by
  cases h with
  | setAllowance => exact Option.some.inj hset
  | _ => cases hset

/-- Any other takes from it what it relays, in full. -/
theorem Performs.allowance_spent [AddressRule] (h : Performs g chain sender l message out)
    (hset : message.allowance? = none) :
    l.allowance.toNat = out.ledger.allowance.toNat + message.relayed := by
  cases h with
  | refund _ _ _ _ h | refundInFull _ _ _ _ h | reverseSwap _ _ h => exact h.allowance_eq
  | setAllowance => cases hset
  | _ => rfl

/-- A value against an earlier one: the cap of the approver is the same, and the
    allowance is below that cap or below what it was. -/
structure HeldTo (m l : Ledger) : Prop where
  approverCap_eq : l.approverCap = m.approverCap
  allowance_le : l.allowance.toNat ≤ max m.allowance.toNat m.approverCap.toNat

theorem HeldTo.refl (l : Ledger) : HeldTo l l where
  approverCap_eq := rfl
  allowance_le := Nat.le_max_left _ _

/-- An operation that no administrator asked for keeps to the bound. -/
theorem HeldTo.step [AddressRule] (hheld : HeldTo m l) (h : Performs g chain sender l message out)
    (hadmin : g.holds .admin sender = false) : HeldTo m out.ledger := by
  have hrefuse : g.holds .admin sender ≠ true := Bool.eq_false_iff.mp hadmin
  have hbound := hheld.allowance_le
  constructor
  · -- Only an administrator moves the cap.
    by_cases hsame : out.ledger.approverCap = l.approverCap
    · rw [hsame, hheld.approverCap_eq]
    · exact absurd (h.warranted.approverCap hsame).2 hrefuse
  · by_cases hsame : out.ledger.allowance = l.allowance
    · rw [hsame]
      exact hbound
    · cases h.movesAllowance hsame with
      | relayed _ hless =>
          rw [Amount.lt_iff_toNat_lt] at hless
          omega
      | admin hholds => exact absurd hholds hrefuse
      | approver _ hcap =>
          -- The cap that the approver met is the cap at the start.
          rw [hheld.approverCap_eq, Amount.le_iff_toNat_le] at hcap
          omega

end Rules

/-- Whether a call is sent by the holder of a role, as the roles stand in the
    store that the call meets. A migration is not sent by anyone on the ledger. -/
def Call.sentBy (role : Role) (s : Store) : Call → Bool
  | execute _ sender _ => (Registry.ofStore s).holds role sender
  | migrate => false

/-- What is left of the allowance is what was set last less what was relayed
    since. -/
theorem run_allowance [AddressRule] {start s : Store} {log : List (Entry Call Receipt)}
    {l₀ : Ledger} (hrun : Run Call.perform start s log) (hload : item.load start = .ok l₀) :
    ∃ l, item.load s = .ok l ∧
      (lastSet l₀.allowance log).toNat = l.allowance.toNat + relayedIn (sinceSet log) := by
  refine run_value (P := fun l log => (lastSet l₀.allowance log).toNat =
    l.allowance.toNat + relayedIn (sinceSet log)) hrun hload rfl ?_
  rintro l l' ⟨before, call, after, report⟩ log ih hturns
  rw [lastSet_snoc]
  cases hset : call.allowance? with
  | some value =>
      -- A setting starts the count anew.
      rw [sinceSet_snoc_some _ hset]
      cases hturns with
      | execute _ hperf =>
          rw [hperf.allowance_set hset]
          rfl
      | migrate => cases hset
  | none =>
      rw [sinceSet_snoc_none _ hset, relayedIn_snoc, Option.getD_none, ih]
      cases hturns with
      | execute _ hperf =>
          rw [hperf.allowance_spent hset]
          simp only [Call.relayed]
          omega
      | migrate => rfl

/-- As long as no administrator calls, the allowance keeps to the cap of the
    approver or to what it was. -/
theorem run_heldTo [AddressRule] {start s : Store} {log : List (Entry Call Receipt)} {m : Ledger}
    (hrun : Run Call.perform start s log) (hload : item.load start = .ok m)
    (hnone : ∀ e ∈ log, e.call.sentBy .admin e.before = false) :
    ∃ l, item.load s = .ok l ∧ HeldTo m l := by
  refine run_value_of_forall (P := HeldTo m) hrun hload (.refl m) hnone ?_
  rintro l l' ⟨before, call, after, report⟩ hheld hturns hsender
  cases hturns with
  | execute _ hperf => exact hheld.step hperf hsender
  | migrate => exact hheld

/-- From a deployment on, what was relayed since the allowance was last set is
    within what it was set to, and the allowance is the rest. Along a stretch in
    which no administrator calls, the allowance never exceeds the larger of what
    it was at the start of the stretch and the approver cap, and that cap stays
    the same. -/
theorem allowance_is_budget [AddressRule] {chain : Chain} {deployer : Address} {d : Deployment}
    {found start : Store} {receipt : Receipt}
    (hdeploy : deploy chain deployer d found = .ok (start, receipt)) :
    (∀ (s : Store) (log : List (Entry Call Receipt)), Run Call.perform start s log →
      ∃ l, item.load s = .ok l ∧
        relayedIn (sinceSet log) ≤ (lastSet d.allowance log).toNat ∧
        l.allowance.toNat = (lastSet d.allowance log).toNat - relayedIn (sinceSet log)) ∧
      ∀ (mid s : Store) (log stretch : List (Entry Call Receipt)),
        Run Call.perform start mid log → Run Call.perform mid s stretch →
        (∀ e ∈ stretch, e.call.sentBy .admin e.before = false) →
        ∃ m l, item.load mid = .ok m ∧ item.load s = .ok l ∧
          l.allowance.toNat ≤ max m.allowance.toNat m.approverCap.toNat ∧
          l.approverCap = m.approverCap := by
  have hfresh := deploy_load hdeploy
  refine ⟨?_, ?_⟩
  · intro s log hrun
    rcases run_allowance hrun hfresh with ⟨l, hl, hrest⟩
    have hset : (lastSet d.allowance log).toNat =
        l.allowance.toNat + relayedIn (sinceSet log) := hrest
    exact ⟨l, hl, by omega, by omega⟩
  · intro mid s log stretch hlog hstretch hnone
    rcases run_allowance hlog hfresh with ⟨m, hm, -⟩
    rcases run_heldTo hstretch hm hnone with ⟨l, hl, hheld⟩
    exact ⟨m, l, hm, hl, hheld.allowance_le, hheld.approverCap_eq⟩

/-- A relayer who is no administrator pays out three of an allowance of five
    hundred. One of them is kept as the fee, and all three are spent. -/
theorem allowance_is_budget_after_reverseSwap :
    ∃ start receipt mid s log stretch m l,
      deploy stillChain ⟨"deployer"⟩ smallTerms .empty = .ok (start, receipt) ∧
      Run Call.perform start mid log ∧ Run Call.perform mid s stretch ∧
      (∀ e ∈ stretch, e.call.sentBy .admin e.before = false) ∧
      item.load mid = .ok m ∧ item.load s = .ok l ∧
      relayedIn (sinceSet (log ++ stretch)) = 3 ∧ l.fees.toNat = 1 ∧
      l.allowance.toNat = 497 ∧ l.allowance.toNat ≤ max m.allowance.toNat m.approverCap.toNat := by
  rcases mint_smallTerms with ⟨start, receipt, minted, hdeploy, hmint, hkept₁⟩
  rcases grant_smallTerms hkept₁ .relayer "relayer" (by decide) rfl with ⟨mid, hgrant, hkept₂⟩
  have hsettle : Settleable (smallBooks ⟨5, by decide⟩).ledger ⟨3, by decide⟩ ⟨1, by decide⟩
      ⟨2, by decide⟩ ⟨497, by decide⟩ ⟨1, by decide⟩ ⟨2, by decide⟩ :=
    ⟨by decide, by decide, rfl, rfl, rfl, rfl⟩
  have hpays : Performs ((smallBooks ⟨5, by decide⟩).withHolding .relayer ⟨"relayer"⟩ true).registry
      stillChain ⟨"relayer"⟩ (smallBooks ⟨5, by decide⟩).ledger
      (.reverseSwap 0 "customer" "origin" "hash" ⟨3, by decide⟩ Word.never) _ :=
    .reverseSwap ⟨rfl, rfl, rfl⟩ (by decide) hsettle
  rcases hkept₂.proceeds rfl hpays with ⟨s, hpay, hkept₃⟩
  have hlog := run_execute (run_execute .here hmint) hgrant
  have hstretch := run_execute .here hpay
  -- The relayer was made a relayer and nothing else.
  have hsender : (Registry.ofStore mid).holds .admin ⟨"relayer"⟩ = false := by
    rw [hkept₂.registry_eq]
    rfl
  have hbudget := allowance_is_budget hdeploy
  rcases hbudget.1 s _ (hlog.trans hstretch) with ⟨l, hl, -, hleft⟩
  rcases hbudget.2 mid s _ _ hlog hstretch (List.forall_mem_singleton.mpr hsender) with
    ⟨m, l', hm, hl', hbound, -⟩
  cases hl.symm.trans hl'
  cases hl.symm.trans hkept₃.ledger
  exact ⟨start, receipt, mid, s, _, _, m, _, hdeploy, hlog, hstretch,
    List.forall_mem_singleton.mpr hsender, hm, hl, rfl, rfl, hleft, hbound⟩

end Ledger

end BridgeCustody
