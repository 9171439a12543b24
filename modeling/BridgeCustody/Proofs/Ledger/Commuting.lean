import BridgeCustody.Proofs.Ledger.Apart
import BridgeCustody.Proofs.Ledger.Relaying

/-!
# Payouts in Any Order

Relayers do not agree on an order. Each has its own queue, and which of two calls
comes first is decided by whoever puts them into a block. If it mattered, a payout
could be crowded out by another that was signed later, and nobody could tell from the
signed calls what the ledger will come to.

That it does not matter is not obvious, because payouts draw on the same numbers. Each
takes its amount from the supply and from the allowance and adds its fee to the fees,
and is refused if one of these runs out. Were there a bound that a payout could also
widen, one order might go through where another fails. But all three numbers only move
one way, so a payout that goes through behind another would have gone through before
it, and what the first is checked for is implied by what the last leaves. The two
records, if both are refunds, are of two swaps: the second refund of one swap would
have been refused.

So it is enough to exchange two neighbours. `execute_exchange` does this, with the
reports that the two had before, and `performAll_perm` makes a permutation of such
exchanges. Nothing is assumed of the store. What it holds besides, and whether it was
ever deployed, does not matter.

## Main definitions

* `performAll`: A list of calls, all of which go through.
* `Call.paysOut`: The calls that are payouts.
* `Spares`, `Spent`: What a payout leaves alone, and what it does to the rest.
* `recordOf`: What a payout records.

## Theorems

* `performAll_perm`: Calls that can be exchanged can be permuted.
* `Spent.exchange`: Two amounts are spent in either order.
* `Performs.payout_elsewhere`: A payout goes through wherever its amount is there.
* `execute_exchange`: Two payouts are exchanged.
* `payouts_commute`: Payouts go through in any order and come to the same.
-/

namespace BridgeCustody

section Lists

variable {κ ε ρ : Type} {perform : κ → Store → Except ε (Store × ρ)} {s t : Store}

/-- Performs calls one after the other. If all go through, the result is the store
    that they lead to and each call with its report. -/
def performAll (perform : κ → Store → Except ε (Store × ρ)) :
    List κ → Store → Except ε (Store × List (κ × ρ))
  | [], s => .ok (s, [])
  | call :: rest, s => do
    let (s', report) ← perform call s
    let (t, told) ← performAll perform rest s'
    return (t, (call, report) :: told)

theorem performAll_cons_eq_ok_iff {call : κ} {rest : List κ} {all : List (κ × ρ)} :
    performAll perform (call :: rest) s = .ok (t, all) ↔
      ∃ s' report told, perform call s = .ok (s', report) ∧
        performAll perform rest s' = .ok (t, told) ∧ all = (call, report) :: told := by
  simp only [performAll, bind_eq_ok_iff, pure_eq_ok, Except.ok.injEq, Prod.mk.injEq, Prod.exists]
  constructor
  · rintro ⟨s', report, hcall, _, told, hrest, rfl, rfl⟩
    exact ⟨s', report, told, hcall, hrest, rfl⟩
  · rintro ⟨s', report, told, hcall, hrest, rfl⟩
    exact ⟨s', report, hcall, t, told, hrest, rfl, rfl⟩

/-- If any two neighbours of a kind can be exchanged, calls of that kind go through in
    any order if they do in one, with the same reports and to the same store. -/
theorem performAll_perm {K : κ → Prop}
    (hexchange : ∀ c₁ c₂ s s₁ s₂ r₁ r₂, K c₁ → K c₂ → perform c₁ s = .ok (s₁, r₁) →
      perform c₂ s₁ = .ok (s₂, r₂) →
      ∃ s', perform c₂ s = .ok (s', r₂) ∧ perform c₁ s' = .ok (s₂, r₁))
    {calls calls' : List κ} (hperm : calls.Perm calls') (hall : ∀ c ∈ calls, K c)
    {told : List (κ × ρ)} (hdone : performAll perform calls s = .ok (t, told)) :
    ∃ told', performAll perform calls' s = .ok (t, told') ∧ told.Perm told' := by
  induction hperm generalizing s told with
  | nil => exact ⟨told, hdone, .refl told⟩
  | cons c _ ih =>
      rcases performAll_cons_eq_ok_iff.mp hdone with ⟨s', r, rest, hc, hrest, rfl⟩
      rcases ih (List.forall_mem_cons.mp hall).2 hrest with ⟨rest', hrest', hsame⟩
      exact ⟨_, performAll_cons_eq_ok_iff.mpr ⟨s', r, rest', hc, hrest', rfl⟩, hsame.cons _⟩
  | swap c₂ c₁ =>
      -- The first two trade places, and behind them nothing has changed.
      rcases List.forall_mem_cons.mp hall with ⟨h₁, hall₁⟩
      rcases List.forall_mem_cons.mp hall₁ with ⟨h₂, -⟩
      rcases performAll_cons_eq_ok_iff.mp hdone with ⟨s₁, r₁, _, hc₁, hdone₁, rfl⟩
      rcases performAll_cons_eq_ok_iff.mp hdone₁ with ⟨s₂, r₂, rest, hc₂, hrest, rfl⟩
      rcases hexchange c₁ c₂ s s₁ s₂ r₁ r₂ h₁ h₂ hc₁ hc₂ with ⟨s', hc₂', hc₁'⟩
      have hrest' := performAll_cons_eq_ok_iff.mpr ⟨s₂, r₁, rest, hc₁', hrest, rfl⟩
      exact ⟨_, performAll_cons_eq_ok_iff.mpr ⟨s', r₂, _, hc₂', hrest', rfl⟩, .swap _ _ _⟩
  | trans hfirst _ ih ih' =>
      rcases ih hall hdone with ⟨told', hdone', hsame⟩
      rcases ih' (fun c hc => hall c (hfirst.mem_iff.mpr hc)) hdone' with
        ⟨told'', hdone'', hsame'⟩
      exact ⟨told'', hdone'', hsame.trans hsame'⟩

end Lists

namespace Ledger

/-- Whether a call has a relayer's payout made. -/
def Call.paysOut : Call → Bool
  | execute _ _ message => message.payout?.isSome
  | migrate => false

/-- Two values agree but for the three numbers that payouts move. -/
def Spares (l l' : Ledger) : Prop :=
  ∃ supply allowance fees,
    l' = { l with supply := supply, allowance := allowance, fees := fees }

/-- A value after an amount was paid out of another under a fee. -/
structure Spent (l l' : Ledger) (amount fee : Amount) : Prop where
  spares : Spares l l'
  supply_eq : l.supply.toNat = l'.supply.toNat + amount.toNat
  allowance_eq : l.allowance.toNat = l'.allowance.toNat + amount.toNat
  fees_eq : l'.fees.toNat = l.fees.toNat + fee.toNat

/-- The same outcome with another value. -/
def Outcome.withLedger (out : Outcome) (l : Ledger) : Outcome :=
  { out with ledger := l }

/-- What a payout records, if it is for a swap. -/
def recordOf (swap? : Option UInt64) (amount : Amount) : Change :=
  (swap?.map (.refund · amount)).getD .nothing

section Values

variable {l l₁ l₂ : Ledger} {amount₁ amount₂ fee₁ fee₂ : Amount}

theorem Spares.symm (h : Spares l l₁) : Spares l₁ l := by
  rcases h with ⟨_, _, _, rfl⟩
  exact ⟨l.supply, l.allowance, l.fees, rfl⟩

theorem Spares.trans (h : Spares l l₁) (h' : Spares l₁ l₂) : Spares l l₂ := by
  rcases h with ⟨_, _, _, rfl⟩
  rcases h' with ⟨supply, allowance, fees, rfl⟩
  exact ⟨supply, allowance, fees, rfl⟩

/-- Two amounts are spent in either order. -/
theorem Spent.exchange (h₁ : Spent l l₁ amount₁ fee₁) (h₂ : Spent l₁ l₂ amount₂ fee₂) :
    ∃ m, Spent l m amount₂ fee₂ ∧ Spent m l₂ amount₁ fee₁ := by
  have hsupply₁ := h₁.supply_eq
  have hsupply₂ := h₂.supply_eq
  have hallowance₁ := h₁.allowance_eq
  have hallowance₂ := h₂.allowance_eq
  have hfees₁ := h₁.fees_eq
  have hfees₂ := h₂.fees_eq
  -- The fees in between are taken from the end, where they are known to be an amount.
  let m : Ledger := { l with
    supply := l.supply.monus amount₂
    allowance := l.allowance.monus amount₂
    fees := l₂.fees.monus fee₁ }
  have hspares : Spares l m := ⟨_, _, _, rfl⟩
  have hsupply : m.supply.toNat = l.supply.toNat - amount₂.toNat := rfl
  have hallowance : m.allowance.toNat = l.allowance.toNat - amount₂.toNat := rfl
  have hfees : m.fees.toNat = l₂.fees.toNat - fee₁.toNat := rfl
  refine ⟨m, ⟨hspares, ?_, ?_, ?_⟩, ⟨hspares.symm.trans (h₁.spares.trans h₂.spares), ?_, ?_, ?_⟩⟩
  all_goals omega

end Values

section Rules

variable {g g' : Registry} {chain : Chain} {sender : Address} {l m m' : Ledger}
  {message : Message} {out : Outcome} {p : Payout}

theorem Performs.spent [AddressRule] (h : Performs g chain sender l message out)
    (hpayout : message.payout? = some p) : Spent l out.ledger p.amount (p.fee l) := by
  rcases h.paidOut hpayout with ⟨_, hpaid⟩
  exact ⟨⟨_, _, _, (h.payout_rest hpayout).1⟩, hpaid.supply_eq, hpaid.allowance_eq, hpaid.fees_eq⟩

/-- A refund goes through only for a swap that was not refunded. -/
theorem Performs.refunded_eq_false [AddressRule] (h : Performs g chain sender l message out)
    {id : UInt64} (hswap : message.refundedSwap? = some id) : g.refunded id = false := by
  cases h with
  | refund _ _ hnew | refundInFull _ _ hnew =>
      cases hswap
      exact hnew
  | _ => cases hswap

/-- A relayed call is acceptable on any value that agrees but for what payouts move. -/
theorem Relayable.elsewhere {eon : UInt64} (h : Relayable l g chain sender eon)
    (hspares : Spares l m) (hholds : g'.holds = g.holds) : Relayable m g' chain sender eon := by
  rcases hspares with ⟨_, _, _, rfl⟩
  exact ⟨h.notPaused, hholds ▸ h.relayer, h.eon_eq⟩

/-- An amount can be settled on such a value if it is there to be spent. -/
theorem Settleable.elsewhere {amount fee supply allowance fees paid : Amount}
    (h : Settleable l amount fee supply allowance fees paid) (hspares : Spares l m)
    (hspent : Spent m m' amount fee) :
    Settleable m amount fee m'.supply m'.allowance m'.fees paid := by
  rcases hspares with ⟨_, _, _, rfl⟩
  exact ⟨h.positive, h.le_max, hspent.allowance_eq, hspent.supply_eq, hspent.fees_eq, h.paid_eq⟩

/-- A payout that goes through on one value goes through on another that agrees with it
    but for what payouts move, if the amount is there to be spent and its swap was not
    refunded. It sends and reports the same. -/
theorem Performs.payout_elsewhere [AddressRule] (h : Performs g chain sender l message out)
    (hpayout : message.payout? = some p) (hspares : Spares l m)
    (hspent : Spent m m' p.amount (p.fee l)) (hholds : g'.holds = g.holds)
    (hnew : ∀ id, message.refundedSwap? = some id → g'.refunded id = false) :
    Performs g' chain sender m message (out.withLedger m') := by
  have hrelayable : ∀ eon, Relayable l g chain sender eon → Relayable m g' chain sender eon :=
    fun _ hrelay => hrelay.elsewhere hspares hholds
  have hsettleable : ∀ supply allowance fees paid,
      Settleable l p.amount (p.fee l) supply allowance fees paid →
      Settleable m p.amount (p.fee l) m'.supply m'.allowance m'.fees paid :=
    fun _ _ _ _ hsettle => hsettle.elsewhere hspares hspent
  -- What is not one of the three numbers is now the same by definition.
  rcases hspent.spares with ⟨_, _, _, rfl⟩
  rcases hspares with ⟨_, _, _, rfl⟩
  cases h with
  | refund hrelay hid _ hrecipient h =>
      cases hpayout
      exact .refund (hrelayable _ hrelay) hid (hnew _ rfl) hrecipient (hsettleable _ _ _ _ h)
  | refundInFull hrelay hid _ hrecipient h =>
      cases hpayout
      exact .refundInFull (hrelayable _ hrelay) hid (hnew _ rfl) hrecipient
        (hsettleable _ _ _ _ h)
  | reverseSwap hrelay hrecipient h =>
      cases hpayout
      exact .reverseSwap (hrelayable _ hrelay) hrecipient (hsettleable _ _ _ _ h)
  | _ => cases hpayout

end Rules

section Stores

variable {s : Store} {out out₁ out₂ : Outcome} {swap? swap₁? swap₂? : Option UInt64}
  {amount amount₁ amount₂ : Amount}

/-- Records of different swaps are made in either order. -/
theorem recordOf_apply_comm (hne : ∀ id, swap₁? = some id → swap₂? ≠ some id) (s : Store) :
    (recordOf swap₁? amount₁).apply ((recordOf swap₂? amount₂).apply s) =
      (recordOf swap₂? amount₂).apply ((recordOf swap₁? amount₁).apply s) := by
  cases swap₁? with
  | none => rfl
  | some id₁ =>
      cases swap₂? with
      | none => rfl
      | some id₂ =>
          have hkeys : (refundCell id₁).key ≠ (refundCell id₂).key :=
            fun hkey => hne id₁ rfl (congrArg some (refundCell_key_inj hkey).symm)
          refine Store.ext fun key => ?_
          change ((refundCell id₁).write amount₁ ((refundCell id₂).write amount₂ s)).get? key =
            ((refundCell id₂).write amount₂ ((refundCell id₁).write amount₁ s)).get? key
          simp only [Cell.get?_write]
          by_cases h₁ : (refundCell id₁).key = key
          · rw [if_pos h₁, if_neg fun h₂ => hkeys (h₁.trans h₂.symm), if_pos h₁]
          · rw [if_neg h₁, if_neg h₁]

/-- Two outcomes are stored in either order, if what they change can be and the value
    that is stored last is the same. -/
theorem Outcome.commit_comm (l : Ledger)
    (hcomm : out₁.change.apply (out₂.change.apply s) = out₂.change.apply (out₁.change.apply s)) :
    (out₁.withLedger out₂.ledger).commit ((out₂.withLedger l).commit s) =
      out₂.commit (out₁.commit s) := by
  refine Store.ext fun key => ?_
  by_cases hitem : item.key = key
  · rw [← hitem, Outcome.get?_item, Outcome.get?_item]
    rfl
  · rw [Outcome.get?_commit_of_ne _ _ hitem, Outcome.get?_commit_of_ne _ _ hitem]
    -- Under another key nothing is seen of the value stored first.
    calc (out₁.change.apply ((out₂.withLedger l).commit s)).get? key
        = (out₁.change.apply (out₂.change.apply s)).get? key :=
          out₁.change.get?_apply_congr (Outcome.get?_commit_of_ne _ s hitem)
      _ = (out₂.change.apply (out₁.change.apply s)).get? key := by rw [hcomm]
      _ = (out₂.change.apply (out₁.commit s)).get? key :=
          (out₂.change.get?_apply_congr (out₁.get?_commit_of_ne s hitem)).symm

theorem Registry.holds_commit_recordOf (hchange : out.change = recordOf swap? amount) :
    (Registry.ofStore (out.commit s)).holds = (Registry.ofStore s).holds := by
  funext role a
  refine Cell.occupied_congr _ ?_
  rw [out.get?_roleCell, hchange]
  cases swap? with
  | none => rfl
  | some id => exact Cell.get?_write_of_ne _ _ s (roleCell_key_ne_refundCell role a id).symm

/-- Behind a record a swap is not refunded if the record is not of it and it was not
    refunded before. -/
theorem Registry.refunded_commit_eq_false_iff (hchange : out.change = recordOf swap? amount)
    {id : UInt64} : (Registry.ofStore (out.commit s)).refunded id = false ↔
      swap? ≠ some id ∧ (Registry.ofStore s).refunded id = false := by
  have hcommit : (Registry.ofStore (out.commit s)).refunded id =
      (((recordOf swap? amount).apply s).get? (refundCell id).key).isSome := by
    rw [← hchange, ← out.get?_refundCell]
    rfl
  rw [hcommit]
  cases swap? with
  | none => exact ⟨fun h => ⟨nofun, h⟩, fun h => h.2⟩
  | some id' =>
      change (((refundCell id').write amount s).get? (refundCell id).key).isSome = false ↔ _
      rw [Cell.get?_write, ne_eq, Option.some.injEq]
      by_cases hsame : id' = id
      · rw [hsame, if_pos rfl]
        exact iff_of_false Bool.noConfusion fun h => h.1 rfl
      · rw [if_neg fun hkey => hsame (refundCell_key_inj hkey)]
        exact ⟨fun h => ⟨hsame, h⟩, fun h => h.2⟩

end Stores

section Calls

variable [AddressRule] {s s₁ s₂ : Store} {r₁ r₂ : Receipt}

/-- Two payouts of which one went through behind the other go through in the other
    order, with the same reports and to the same store. -/
theorem execute_exchange {chain₁ chain₂ : Chain} {sender₁ sender₂ : Address}
    {message₁ message₂ : Message} {p₁ p₂ : Payout} (hpayout₁ : message₁.payout? = some p₁)
    (hpayout₂ : message₂.payout? = some p₂)
    (hcall₁ : execute chain₁ sender₁ message₁ s = .ok (s₁, r₁))
    (hcall₂ : execute chain₂ sender₂ message₂ s₁ = .ok (s₂, r₂)) :
    ∃ s', execute chain₂ sender₂ message₂ s = .ok (s', r₂) ∧
      execute chain₁ sender₁ message₁ s' = .ok (s₂, r₁) := by
  rcases execute_eq_ok_iff.mp hcall₁ with ⟨l, out₁, hload, hopen, h₁, rfl, rfl⟩
  rcases execute_eq_ok_iff.mp hcall₂ with ⟨l₁, out₂, hload₁, -, h₂, rfl, rfl⟩
  cases (out₁.load_commit s).symm.trans hload₁
  have hspent₁ := h₁.spent hpayout₁
  rcases hspent₁.exchange (h₂.spent hpayout₂) with ⟨m, hm₂, hm₁⟩
  have hchange₁ : out₁.change = recordOf message₁.refundedSwap? p₁.amount :=
    (h₁.payout_rest hpayout₁).2
  have hchange₂ : out₂.change = recordOf message₂.refundedSwap? p₂.amount :=
    (h₂.payout_rest hpayout₂).2
  -- The second goes through first: what was not refunded behind the first was not
  -- refunded before it, and is not what the first refunded.
  have hnew₂ : ∀ id, message₂.refundedSwap? = some id →
      message₁.refundedSwap? ≠ some id ∧ (Registry.ofStore s).refunded id = false :=
    fun id hswap =>
      (Registry.refunded_commit_eq_false_iff hchange₁).mp (h₂.refunded_eq_false hswap)
  have h₂' := h₂.payout_elsewhere hpayout₂ hspent₁.spares.symm hm₂
    (Registry.holds_commit_recordOf hchange₁).symm fun id hswap => (hnew₂ id hswap).2
  -- The first goes through behind it, since the two are not of one swap.
  have hchange₂' : (out₂.withLedger m).change = recordOf message₂.refundedSwap? p₂.amount :=
    hchange₂
  have hnew₁ : ∀ id, message₁.refundedSwap? = some id →
      (Registry.ofStore ((out₂.withLedger m).commit s)).refunded id = false :=
    fun id hswap => (Registry.refunded_commit_eq_false_iff hchange₂').mpr
      ⟨fun hswap₂ => (hnew₂ id hswap₂).1 hswap, h₁.refunded_eq_false hswap⟩
  have h₁' := h₁.payout_elsewhere hpayout₁ hm₂.spares hm₁
    (Registry.holds_commit_recordOf hchange₂') hnew₁
  have hopen' : m.deleted = false := by
    rcases hm₂.spares with ⟨_, _, _, rfl⟩
    exact hopen
  have hcomm : out₁.change.apply (out₂.change.apply s) =
      out₂.change.apply (out₁.change.apply s) := by
    rw [hchange₁, hchange₂]
    exact recordOf_apply_comm (fun id hswap₁ hswap₂ => (hnew₂ id hswap₂).1 hswap₁) s
  refine ⟨_, execute_eq_ok_iff.mpr ⟨l, _, hload, hopen, h₂', rfl, rfl⟩,
    execute_eq_ok_iff.mpr ⟨m, _, Outcome.load_commit _ _, hopen', h₁', ?_, rfl⟩⟩
  exact (Outcome.commit_comm m hcomm).symm

/-- The same for calls. -/
theorem Call.exchange {c₁ c₂ : Call} (hpays₁ : c₁.paysOut = true) (hpays₂ : c₂.paysOut = true)
    (h₁ : c₁.perform s = .ok (s₁, r₁)) (h₂ : c₂.perform s₁ = .ok (s₂, r₂)) :
    ∃ s', c₂.perform s = .ok (s', r₂) ∧ c₁.perform s' = .ok (s₂, r₁) := by
  cases c₁ with
  | migrate => cases hpays₁
  | execute chain₁ sender₁ message₁ =>
      cases c₂ with
      | migrate => cases hpays₂
      | execute chain₂ sender₂ message₂ =>
          rcases Option.isSome_iff_exists.mp hpays₁ with ⟨p₁, hpayout₁⟩
          rcases Option.isSome_iff_exists.mp hpays₂ with ⟨p₂, hpayout₂⟩
          exact execute_exchange hpayout₁ hpayout₂ h₁ h₂

/-- If refunds, refunds in full and reverse swaps, by whomever and on whatever chains,
    go through one after the other on a store, they do so in any order. Each sends the
    same message and reports the same as before, and they leave the same store. -/
theorem payouts_commute {calls calls' : List Call} (hpays : ∀ c ∈ calls, c.paysOut = true)
    (hperm : calls.Perm calls') {t : Store} {told : List (Call × Receipt)}
    (hdone : performAll Call.perform calls s = .ok (t, told)) :
    ∃ told', performAll Call.perform calls' s = .ok (t, told') ∧ told.Perm told' :=
  performAll_perm (fun _ _ _ _ _ _ _ => Call.exchange) hperm hpays hdone

end Calls

/-- A payout of value from the remote chain, and a refund in full behind it. -/
def twoPayouts (amount amount' : Amount) : List Call :=
  [.execute stillChain ⟨"relayer"⟩ (.reverseSwap 0 "customer" "origin" "hash" amount Word.never),
   .execute stillChain ⟨"relayer"⟩ (.refundInFull 0 "customer" amount' Word.never)]

/-- Three and two together exhaust a supply of five, and they do so in either order. -/
theorem payouts_commute_of_five :
    ∃ s t told told',
      performAll Call.perform (twoPayouts ⟨3, by decide⟩ ⟨2, by decide⟩) s = .ok (t, told) ∧
      performAll Call.perform (twoPayouts ⟨3, by decide⟩ ⟨2, by decide⟩).reverse s =
        .ok (t, told') ∧
      told.Perm told' ∧ ∃ l, item.load t = .ok l ∧ l.supply = .zero := by
  rcases relay_smallTerms with ⟨-, -, s, -, -, -, hkept⟩
  have hpays : Performs relayingBooks.registry stillChain ⟨"relayer"⟩ relayingBooks.ledger
      (.reverseSwap 0 "customer" "origin" "hash" ⟨3, by decide⟩ Word.never) _ :=
    .reverseSwap ⟨rfl, rfl, rfl⟩ (by decide)
      (⟨by decide, by decide, rfl, rfl, rfl, rfl⟩ : Settleable _ _ _ ⟨2, by decide⟩
        ⟨497, by decide⟩ ⟨1, by decide⟩ ⟨2, by decide⟩)
  rcases hkept.proceeds rfl hpays with ⟨s₁, hpay, hkept₁⟩
  have hgives : Performs relayingBooks.registry stillChain ⟨"relayer"⟩
      { relayingBooks.ledger with
        supply := ⟨2, by decide⟩, allowance := ⟨497, by decide⟩, fees := ⟨1, by decide⟩ }
      (.refundInFull 0 "customer" ⟨2, by decide⟩ Word.never) _ :=
    .refundInFull ⟨rfl, rfl, rfl⟩ (by decide) rfl (by decide)
      (⟨by decide, by decide, rfl, rfl, rfl, rfl⟩ : Settleable _ _ _ .zero ⟨495, by decide⟩
        ⟨1, by decide⟩ ⟨2, by decide⟩)
  rcases hkept₁.proceeds rfl hgives with ⟨t, hgive, hkept₂⟩
  have hdone : performAll Call.perform (twoPayouts ⟨3, by decide⟩ ⟨2, by decide⟩) s =
      .ok (t, _) :=
    performAll_cons_eq_ok_iff.mpr ⟨s₁, _, _, hpay,
      performAll_cons_eq_ok_iff.mpr ⟨t, _, [], hgive, rfl, rfl⟩, rfl⟩
  have hall : ∀ c ∈ twoPayouts ⟨3, by decide⟩ ⟨2, by decide⟩, c.paysOut = true := by
    decide
  rcases payouts_commute hall (List.reverse_perm _).symm hdone with
    ⟨told', hdone', hsame⟩
  exact ⟨s, t, _, told', hdone, hdone', hsame, _, hkept₂.ledger, rfl⟩

end Ledger

end BridgeCustody
