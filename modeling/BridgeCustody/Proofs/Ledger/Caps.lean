import BridgeCustody.Proofs.Ledger.Apart
import BridgeCustody.Proofs.Ledger.Value

/-!
# The Cap Bounds Growth and Nothing Else

A cap on the supply would be an invariant if it could not move. It can, and it can
be set below the supply, because an administrator who wants less in custody has no
other way to begin. So the supply may be above the cap, and the cap then only says
that it must not grow.

What is left of the invariant is a statement about the history of the cap. The
supply was below the cap when it last grew, so it is below one of the caps that
were ever in force, and if these only went up it is below the last of them. The
history is read off the log, and `Capped` ties it to the value: the last cap of the
log is the one in force.

That the cap does nothing else is a statement about two ledgers. Four operations
take value in and ask for the cap on the way. All others, and the setting of the
cap among them, go on two ledgers with different caps as on one. The setting of the
cap is not blind to it in the sense of `Message.Blind`: whatever cap was in force
before, it is another one afterwards.

## Main definitions

* `Message.cap?`, `capsIn`: The caps that were in force in the course of a log.
* `Message.takesIn`: The operations that ask for the cap.
* `withCap`, `CapsDiffer`: Stores that differ in the cap only.
* `Capped`: The supply against the caps of the log.

## Theorems

* `Performs.supply_le`, `Performs.cap_eq`: What an operation does to the two.
* `Capped.step`: A call keeps the supply below a cap of the log.
* `execute_supply_le`: The same for one call.
* `operate_withCap`: What takes nothing in does not see the cap.
* `CapsDiffer.execute`: So it goes alike whatever the cap is.
* `cap_bounds_growth_only`: All this for the runs from a deployment.
-/

namespace BridgeCustody

namespace Ledger

/-- The cap that a message sets. -/
def Message.cap? : Message → Option Amount
  | .setCap cap => some cap
  | _ => none

/-- The cap that a call sets. -/
def Call.cap? : Call → Option Amount
  | execute _ _ message => message.cap?
  | migrate => none

/-- The caps that were in force in the course of a log, from the initial one on. -/
def capsIn (initial : Amount) (log : List (Entry Call Receipt)) : List Amount :=
  initial :: log.filterMap (·.call.cap?)

/-- The operations that take value in. -/
def Message.takesIn : Message → Bool
  | .swap _ _ => true
  | .receive _ _ _ => true
  | .deposit _ => true
  | .mint _ => true
  | _ => false

/-- A ledger with another cap. -/
def withCap (l : Ledger) (cap : Amount) : Ledger :=
  { l with cap := cap }

/-- Two stores that differ in the cap at most. -/
def CapsDiffer (s t : Store) : Prop :=
  ∃ cap cap', Apart (·.withCap cap) (·.withCap cap') s t

theorem capsIn_snoc (initial : Amount) (log : List (Entry Call Receipt))
    (e : Entry Call Receipt) :
    capsIn initial (log ++ [e]) = capsIn initial log ++ e.call.cap?.toList := by
  rw [capsIn, List.filterMap_append, ← List.cons_append]
  rfl

/-! ### Growth -/

section Rules

variable [AddressRule]
variable {g : Registry} {chain : Chain} {sender : Address} {l : Ledger} {message : Message}
  {out : Outcome}

/-- Supply that grows is held to the cap. -/
theorem Performs.supply_le (h : Performs g chain sender l message out) :
    out.ledger.supply ≤ l.supply ∨ out.ledger.supply ≤ l.cap := by
  simp only [Amount.le_iff_toNat_le]
  cases h with
  | swap h | receiveSwap _ _ _ h => exact .inr h.supply_le
  | deposit h | receiveDeposit _ _ _ h => exact .inr h.supply_le
  | mint _ _ _ hcap => exact .inr hcap
  -- What is paid out was there.
  | refund _ _ _ _ h | refundInFull _ _ _ _ h | reverseSwap _ _ h =>
      have hsupply := h.supply_eq
      left
      simp only []
      omega
  | withdraw _ _ _ hsupply | burn _ _ hsupply =>
      left
      simp only []
      omega
  | delete => exact .inl (Nat.zero_le _)
  | _ => exact .inl (Nat.le_refl _)

/-- The cap is what it is set to. -/
theorem Performs.cap_eq (h : Performs g chain sender l message out) :
    out.ledger.cap = message.cap?.getD l.cap := by
  cases h <;> rfl

end Rules

/-- The last cap of a log is in force, and the supply is below some cap of it. -/
structure Capped (initial : Amount) (l : Ledger) (log : List (Entry Call Receipt)) : Prop where
  current : (capsIn initial log).getLast? = some l.cap
  bounded : ∃ cap ∈ capsIn initial log, l.supply ≤ cap

namespace Capped

variable {initial : Amount} {l l' : Ledger} {log : List (Entry Call Receipt)}

/-- The cap in force is one of the log. -/
theorem mem (h : Capped initial l log) : l.cap ∈ capsIn initial log :=
  List.mem_of_getLast? h.current

/-- A call that goes through keeps the supply below a cap of the log. -/
theorem step [AddressRule] {e : Entry Call Receipt} (h : Capped initial l log)
    (hturns : Turns e.before l e.call e.report l') : Capped initial l' (log ++ [e]) := by
  have hcaps := capsIn_snoc initial log e
  rcases e with ⟨before, call, after, report⟩
  cases hturns with
  | migrate =>
      rw [show (Call.migrate.cap?).toList = [] from rfl, List.append_nil] at hcaps
      exact ⟨hcaps ▸ h.current, hcaps ▸ h.bounded⟩
  | @execute chain sender message out _ hperf =>
      refine ⟨?_, ?_⟩
      · rw [hcaps, hperf.cap_eq, Call.cap?]
        cases message.cap? with
        | none =>
            rw [Option.toList_none, List.append_nil]
            exact h.current
        | some cap => exact List.getLast?_concat
      · -- Either bound is below a cap that the log had before the call.
        have hbounded : ∃ cap ∈ capsIn initial log, out.ledger.supply ≤ cap := by
          rcases hperf.supply_le with hle | hle
          · rcases h.bounded with ⟨cap, hmem, hcap⟩
            exact ⟨cap, hmem, Nat.le_trans hle hcap⟩
          · exact ⟨l.cap, h.mem, hle⟩
        rcases hbounded with ⟨cap, hmem, hcap⟩
        exact ⟨cap, hcaps ▸ List.mem_append_left _ hmem, hcap⟩

/-- If the caps only went up, the supply is below the one in force. -/
theorem supply_le_cap (h : Capped initial l log)
    (hraised : (capsIn initial log).Pairwise (· ≤ ·)) : l.supply ≤ l.cap := by
  rcases h.bounded with ⟨cap, hmem, hcap⟩
  rcases List.getLast?_eq_some_iff.mp h.current with ⟨earlier, hlast⟩
  rw [hlast] at hraised hmem
  rcases exists_mem_snoc.mp ⟨cap, hmem, rfl⟩ with ⟨_, hearlier, rfl⟩ | rfl
  · exact Nat.le_trans hcap ((pairwise_cut hraised).1 _ hearlier)
  · exact hcap

end Capped

/-- What a call does to the supply: it ends below where it was or below the cap. -/
theorem execute_supply_le [AddressRule] {chain : Chain} {sender : Address} {message : Message}
    {s s' : Store} {receipt : Receipt} {l : Ledger} (hload : item.load s = .ok l)
    (hcall : execute chain sender message s = .ok (s', receipt)) :
    ∃ l', item.load s' = .ok l' ∧ l'.supply.toNat ≤ max l.supply.toNat l.cap.toNat ∧
      (l.supply < l'.supply → l'.supply ≤ l.cap) := by
  rcases execute_eq_ok_iff.mp hcall with ⟨l₁, out, hl₁, -, hperf, rfl, -⟩
  cases hload.symm.trans hl₁
  have hle := hperf.supply_le
  simp only [Amount.le_iff_toNat_le] at hle
  refine ⟨out.ledger, out.load_commit s, ?_, ?_⟩
  · omega
  · rw [Amount.lt_iff_toNat_lt, Amount.le_iff_toNat_le]
    intro hgrew
    omega

/-! ### Nothing else -/

section Blindness

variable {g : Registry} {chain : Chain} {sender : Address} (l : Ledger) (cap : Amount)

/-- The cap is no part of the books. -/
theorem besideBooks_withCap : BesideBooks (·.withCap cap) :=
  ⟨fun _ => rfl, fun _ => rfl, fun _ => rfl, fun _ => rfl, fun _ _ => rfl, fun _ _ _ => rfl⟩

theorem refund_withCap [AddressRule] (mode : RefundFee) (id eon : UInt64) (recipient : String)
    (amount : Amount) :
    (l.withCap cap).refund g chain sender mode id recipient amount eon =
      Outcome.update (·.withCap cap) <$>
        l.refund g chain sender mode id recipient amount eon := by
  simp only [refund, (besideBooks_withCap cap).settle, map_bind, bind_map_left, map_pure]
  cases mode <;> rfl

/-- What takes nothing in does not see the cap, and leaves it as it was or sets
    it. -/
theorem operate_withCap [AddressRule] {message : Message} (htakes : message.takesIn = false)
    (g : Registry) (chain : Chain) (sender : Address) :
    (l.withCap cap).operate g chain sender message =
      Outcome.update (·.withCap (message.cap?.getD cap)) <$> l.operate g chain sender message := by
  cases message with
  | swap | receive | deposit | mint => cases htakes
  | refund | refundInFull => exact refund_withCap l cap _ _ _ _ _
  | reverseSwap =>
      simp only [operate, reverseSwap, (besideBooks_withCap cap).settle, map_bind,
        bind_map_left, map_pure]
      rfl
  | withdraw | burn =>
      simp only [operate, withdraw, burn, (besideBooks_withCap cap).lowerSupply, map_bind,
        bind_map_left, map_pure]
      rfl
  -- The pause is moved on either ledger alike.
  | pausePublicApi | pauseRelayerApi =>
      simp only [operate, movePause, map_bind, map_pure]
      rfl
  -- The rest reads fields that the cap is none of, or replaces the cap.
  | _ =>
      simp only [operate, rotateEon, withdrawFees, withdrawExcess, close, setCap, setSwapLimits,
        setReverseLimits, setAllowance, setApproverCap, grantRole, revokeRole, renounceRole,
        map_bind, map_pure]
      rfl

end Blindness

/-- A call that takes nothing in goes alike on stores that differ in the cap, and they
    differ in the cap at most afterwards. -/
theorem CapsDiffer.execute [AddressRule] {s t : Store} (h : CapsDiffer s t) (chain : Chain)
    (sender : Address) {message : Message} (htakes : message.takesIn = false) :
    Alike CapsDiffer (execute chain sender message s) (execute chain sender message t) := by
  rcases h with ⟨cap, cap', hapart⟩
  have halike := hapart.execute_of_update (fun _ => rfl)
    (fun g chain sender l => operate_withCap l cap htakes g chain sender)
    (fun g chain sender l => operate_withCap l cap' htakes g chain sender) chain sender
  exact halike.imp fun _ _ hapart' => ⟨_, _, hapart'⟩

/-- In a run from a deployment, the supply is below some cap that was in force so far,
    and below the one in force now if the caps only went up. A call that goes through
    leaves the supply below what it was or below the cap, and if it grew then below the
    cap. And whatever takes nothing in goes alike under any cap, and leaves stores that
    differ in the cap at most. -/
theorem cap_bounds_growth_only [AddressRule] {chain : Chain} {deployer : Address} {d : Deployment}
    {found start s : Store} {receipt : Receipt} {log : List (Entry Call Receipt)}
    (hdeploy : deploy chain deployer d found = .ok (start, receipt))
    (hrun : Run Call.perform start s log) :
    ∃ l, item.load s = .ok l ∧
      (∀ chain sender message s' receipt,
        execute chain sender message s = .ok (s', receipt) →
        ∃ l', item.load s' = .ok l' ∧ l'.supply.toNat ≤ max l.supply.toNat l.cap.toNat ∧
          (l.supply < l'.supply → l'.supply ≤ l.cap)) ∧
      (capsIn d.cap log).getLast? = some l.cap ∧
      (∃ cap ∈ capsIn d.cap log, l.supply ≤ cap) ∧
      ((capsIn d.cap log).Pairwise (· ≤ ·) → l.supply ≤ l.cap) ∧
      ∀ t, CapsDiffer s t → ∀ chain sender message, message.takesIn = false →
        Alike CapsDiffer (execute chain sender message s) (execute chain sender message t) := by
  have hfresh : Capped d.cap (fresh ⟨d.token⟩ chain.height d) [] :=
    ⟨rfl, d.cap, List.mem_singleton_self _, Nat.zero_le _⟩
  rcases run_value hrun (deploy_load hdeploy) hfresh
    (fun _ _ _ _ hcapped hturns => hcapped.step hturns) with ⟨l, hl, hcapped⟩
  exact ⟨l, hl, fun _ _ _ _ _ hcall => execute_supply_le hl hcall, hcapped.current,
    hcapped.bounded, hcapped.supply_le_cap,
    fun _ hdiffer chain sender _ htakes => hdiffer.execute chain sender htakes⟩

/-- The deployer minted five and then set the cap from a thousand to three. The supply
    is above the cap and stays there, below the cap that was. Four of it are burned as
    they would be under a cap of seven. -/
theorem cap_bounds_growth_only_at_three :
    ∃ start receipt s t log l,
      deploy stillChain ⟨"deployer"⟩ smallTerms .empty = .ok (start, receipt) ∧
      Run Call.perform start s log ∧
      capsIn smallTerms.cap log = [⟨1000, by decide⟩, ⟨3, by decide⟩] ∧
      item.load s = .ok l ∧ l.supply = ⟨5, by decide⟩ ∧ l.cap = ⟨3, by decide⟩ ∧
      (∃ cap ∈ capsIn smallTerms.cap log, l.supply ≤ cap) ∧ CapsDiffer s t ∧
      Alike CapsDiffer (execute stillChain ⟨"deployer"⟩ (.burn ⟨4, by decide⟩) s)
        (execute stillChain ⟨"deployer"⟩ (.burn ⟨4, by decide⟩) t) := by
  rcases mint_smallTerms with ⟨start, receipt, minted, hdeploy, hmint, hkept₁⟩
  have hsets : Performs (smallBooks ⟨5, by decide⟩).registry stillChain ⟨"deployer"⟩
      (smallBooks ⟨5, by decide⟩).ledger (.setCap ⟨3, by decide⟩) _ := .setCap rfl
  rcases hkept₁.proceeds rfl hsets with ⟨s, hset, hkept₂⟩
  have hrun := run_execute (run_execute .here hmint) hset
  rcases cap_bounds_growth_only hdeploy hrun with ⟨l, hl, -, -, hbounded, -, hfree⟩
  cases hl.symm.trans hkept₂.ledger
  have hdiffer : CapsDiffer s _ :=
    ⟨⟨3, by decide⟩, ⟨7, by decide⟩, .of_write hl rfl (·.withCap ⟨7, by decide⟩)⟩
  exact ⟨start, receipt, s, _, _, _, hdeploy, hrun, rfl, hl, rfl, rfl, hbounded, hdiffer,
    hfree _ hdiffer stillChain ⟨"deployer"⟩ (.burn ⟨4, by decide⟩) rfl⟩

end Ledger

end BridgeCustody
