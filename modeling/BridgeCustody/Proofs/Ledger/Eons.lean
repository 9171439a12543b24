import BridgeCustody.Proofs.Ledger.Refusal
import BridgeCustody.Proofs.Ledger.Value

/-!
# Stale Instructions Stay Dead

A relayed operation carries out what happened elsewhere, and it may be on its way
for long. When the relayers want to be sure that nothing old is still coming, they
rotate the eon. Whatever names an earlier eon is then refused, whoever sends it,
and has to be sent again if it is still wanted.

This rests on the eon not coming back, and it can come back. The count starts at
the largest word and wraps around, so that the first rotation leads to zero and the
eon of a ledger that was never rotated is one that no counting up would reach. Read
as a number modulo the size of a word it is one less than the number of rotations,
at any time, since nothing else writes it. Two eons between which there were fewer
rotations than there are words are therefore different. That is the exact bound:
after as many rotations as there are words the same eon is current again.

A relayed operation asks for the eon after the pause and the role, and before
anything about the amount or the swap. So an instruction that gets that far fails
for its eon, and one that does not fails before.

## Main definitions

* `Message.rotates`, `rotationsIn`: The rotations of a log.
* `Message.namedEon?`: The eon that a relayed operation names.

## Theorems

* `Turns.relayEon_eq`: Rotations move the eon, and nothing else does.
* `run_relayEon`: The eon along a run, wherever it starts.
* `ne_of_rotated`: Eons that are less than a full turn apart are different.
* `execute_eq_error_of_stale`, `execute_stale`: Another eon is refused, and with what.
* `stale_eons_stay_dead`: All this for the runs from a deployment.
-/

namespace BridgeCustody

namespace Ledger

/-- Whether a message asks for the next eon. -/
def Message.rotates : Message → Bool
  | .newRelayEon => true
  | _ => false

/-- Whether a call asks for the next eon. -/
def Call.rotates : Call → Bool
  | execute _ _ message => message.rotates
  | migrate => false

/-- How many rotations went through in the course of a log. -/
def rotationsIn (log : List (Entry Call Receipt)) : Nat :=
  log.countP (·.call.rotates)

/-- The eon that a relayed operation names. -/
def Message.namedEon? : Message → Option UInt64
  | .refund _ _ _ eon => some eon
  | .refundInFull _ _ _ eon => some eon
  | .reverseSwap _ _ _ _ _ eon => some eon
  | _ => none

/-! ### The eon as a count -/

/-- Rotations move the eon, and nothing else does. -/
theorem Turns.relayEon_eq [AddressRule] {s : Store} {l l' : Ledger} {call : Call}
    {receipt : Receipt} (h : Turns s l call receipt l') :
    l'.relayEon = if call.rotates = true then nextEon l.relayEon else l.relayEon := by
  cases h with
  | execute _ hperf => cases hperf <;> rfl
  | migrate => rfl

theorem toNat_nextEon (eon : UInt64) : (nextEon eon).toNat = (eon.toNat + 1) % UInt64.size := by
  rw [nextEon, UInt64.toNat_add, UInt64.toNat_one]

/-- Fewer rotations than there are words lead to another eon. -/
theorem ne_of_rotated {eon eon' : UInt64} {count : Nat}
    (h : eon'.toNat = (eon.toNat + count) % UInt64.size) (hpos : 1 ≤ count)
    (hlt : count < UInt64.size) : eon' ≠ eon := by
  rintro rfl
  have hsize := eon'.toNat_lt_size
  rcases Nat.lt_or_ge (eon'.toNat + count) UInt64.size with hsmall | hlarge
  · rw [Nat.mod_eq_of_lt hsmall] at h
    omega
  · -- Past the largest word it starts again, but does not get that far.
    rw [Nat.mod_eq_sub_mod hlarge, Nat.mod_eq_of_lt (by omega)] at h
    omega

section Runs

variable [AddressRule] {start s : Store} {log : List (Entry Call Receipt)} {l : Ledger}

/-- Along a run the eon moves on by the number of rotations, modulo the size of a
    word. -/
theorem run_relayEon (hrun : Run Call.perform start s log) (hload : item.load start = .ok l) :
    ∃ l', item.load s = .ok l' ∧
      l'.relayEon.toNat = (l.relayEon.toNat + rotationsIn log) % UInt64.size := by
  have hstart : l.relayEon.toNat = (l.relayEon.toNat + rotationsIn []) % UInt64.size :=
    (Nat.mod_eq_of_lt l.relayEon.toNat_lt_size).symm
  refine run_value (P := fun l' log =>
    l'.relayEon.toNat = (l.relayEon.toNat + rotationsIn log) % UInt64.size) hrun hload hstart ?_
  intro l₁ l₂ e log heon hturns
  rw [hturns.relayEon_eq, rotationsIn, countP_snoc]
  split
  · rw [toNat_nextEon, heon, Nat.mod_add_mod]
    rfl
  · exact heon

end Runs

/-! ### Another eon is refused -/

section Refusals

variable {g : Registry} {chain : Chain} {sender : Address} {l : Ledger} {message : Message}
  {eon : UInt64}

/-- What goes through names the eon that is current. -/
theorem Performs.relayEon_eq [AddressRule] {out : Outcome}
    (h : Performs g chain sender l message out) (hnamed : message.namedEon? = some eon) :
    l.relayEon = eon := by
  cases h with
  | refund hrelay | refundInFull hrelay | reverseSwap hrelay =>
      cases hnamed
      exact hrelay.eon_eq
  | _ => cases hnamed

/-- A relayed operation is refused as its checks are. -/
theorem operate_eq_error_of_checkRelayed [AddressRule] {e : Error}
    (hnamed : message.namedEon? = some eon) (h : l.checkRelayed g chain sender eon = .error e) :
    l.operate g chain sender message = .error e := by
  cases message with
  | refund | refundInFull =>
      cases hnamed
      rw [operate, refund, h, error_bind]
  | reverseSwap =>
      cases hnamed
      rw [operate, reverseSwap, h, error_bind]
  | _ => cases hnamed

/-- A relayer on an open surface is refused for another eon. -/
theorem checkRelayed_eq_stale (hopen : isPaused l.relayerPause chain.height = false)
    (hrelayer : g.holds .relayer sender = true) (hstale : l.relayEon ≠ eon) :
    l.checkRelayed g chain sender eon = .error (.staleEon l.relayEon eon) := by
  have hsurface : l.checkOpen .relayerApi chain.height = .ok () := checkOpen_eq_ok_iff.mpr hopen
  have hrole : g.require [.relayer] sender = .ok () := Registry.require_one_eq_ok_iff.mpr hrelayer
  rw [checkRelayed, hsurface, ok_bind, hrole, ok_bind, checkEon, ensure_eq_error_iff]
  exact ⟨hstale, rfl⟩

variable {s : Store}

/-- What names another eon does not go through, whoever sends it. -/
theorem execute_eq_error_of_stale [AddressRule] (hload : item.load s = .ok l)
    (hnamed : message.namedEon? = some eon) (hstale : l.relayEon ≠ eon) :
    ∃ e, execute chain sender message s = .error e := by
  cases hcall : execute chain sender message s with
  | error e => exact ⟨e, rfl⟩
  | ok result =>
      rcases execute_eq_ok_iff.mp hcall with ⟨l', out, hload', -, hperf, -⟩
      cases hload.symm.trans hload'
      exact absurd (hperf.relayEon_eq hnamed) hstale

/-- If it gets as far as the eon, it fails for the eon. -/
theorem execute_stale [AddressRule] (hload : item.load s = .ok l) (hopen : l.deleted = false)
    (hsurface : isPaused l.relayerPause chain.height = false)
    (hrelayer : (Registry.ofStore s).holds .relayer sender = true)
    (hnamed : message.namedEon? = some eon) (hstale : l.relayEon ≠ eon) :
    execute chain sender message s = .error (.staleEon l.relayEon eon) :=
  (execute_eq_error_iff hload hopen).mpr
    (operate_eq_error_of_checkRelayed hnamed (checkRelayed_eq_stale hsurface hrelayer hstale))

end Refusals

/-- In a run from a deployment, the eon is one less than the number of rotations so
    far, modulo the size of a word, and only rotations move it. Let at least one
    rotation go through behind some point of the run, and fewer than there are words.
    Then whatever names the eon that was current at that point is refused, and as
    stale if the ledger is not deleted, the relayed operations are not paused and the
    sender is a relayer. -/
theorem stale_eons_stay_dead [AddressRule] {chain : Chain} {deployer : Address} {d : Deployment}
    {found start s : Store} {receipt : Receipt} {log : List (Entry Call Receipt)}
    (hdeploy : deploy chain deployer d found = .ok (start, receipt))
    (hrun : Run Call.perform start s log) :
    ∃ l, item.load s = .ok l ∧
      (l.relayEon.toNat : Int) = ((rotationsIn log : Int) - 1) % UInt64.size ∧
      (∀ e ∈ log, e.call.rotates = false →
        ∃ m m', item.load e.before = .ok m ∧ item.load e.after = .ok m' ∧
          m'.relayEon = m.relayEon) ∧
      ∀ t later, Run Call.perform s t later → 1 ≤ rotationsIn later →
        rotationsIn later ≤ UInt64.size - 1 →
        ∃ l', item.load t = .ok l' ∧
          ∀ chain sender message, message.namedEon? = some l.relayEon →
            (∃ e, execute chain sender message t = .error e) ∧
            (l'.deleted = false → isPaused l'.relayerPause chain.height = false →
              (Registry.ofStore t).holds .relayer sender = true →
              execute chain sender message t =
                .error (.staleEon l'.relayEon l.relayEon)) := by
  have hload := deploy_load hdeploy
  rcases run_relayEon hrun hload with ⟨l, hl, heon⟩
  refine ⟨l, hl, ?_, ?_, ?_⟩
  · -- The largest word, where the count starts, is one less than nothing.
    have hfresh : (fresh ⟨d.token⟩ chain.height d).relayEon.toNat = UInt64.size - 1 :=
      Word.toNat_never
    have hpos : 1 ≤ UInt64.size := by decide
    have hsum : ((UInt64.size - 1 + rotationsIn log : Nat) : Int) =
        (rotationsIn log : Int) - 1 + UInt64.size := by omega
    rw [heon, hfresh, Int.natCast_emod, hsum, Int.add_emod_right]
  · intro e he hrotates
    rcases run_turns hrun hload he with ⟨m, m', hm, hm', hturns⟩
    refine ⟨m, m', hm, hm', ?_⟩
    rw [hturns.relayEon_eq, if_neg (by rw [hrotates]; exact Bool.false_ne_true)]
  · intro t later hlater hpos hbound
    rcases run_relayEon hlater hl with ⟨l', hl', heon'⟩
    have hsize : rotationsIn later < UInt64.size := by omega
    have hstale : l'.relayEon ≠ l.relayEon := ne_of_rotated heon' hpos hsize
    refine ⟨l', hl', ?_⟩
    intro chain sender message hnamed
    refine ⟨execute_eq_error_of_stale hl' hnamed hstale, ?_⟩
    intro hopen hsurface hrelayer
    exact execute_stale hl' hopen hsurface hrelayer hnamed hstale

/-- The deployer becomes a relayer and rotates. A reverse swap that names the eon of
    the deployment comes too late. -/
theorem stale_eons_stay_dead_after_one :
    ∃ start receipt s log t later,
      deploy stillChain ⟨"deployer"⟩ smallTerms .empty = .ok (start, receipt) ∧
      Run Call.perform start s log ∧ Run Call.perform s t later ∧ rotationsIn later = 1 ∧
      execute stillChain ⟨"deployer"⟩
          (.reverseSwap 0 "customer" "origin" "tx" ⟨3, by decide⟩ Word.never) t =
        .error (.staleEon 0 Word.never) := by
  rcases deploy_smallTerms with ⟨start, receipt, hdeploy, hkept⟩
  rcases grant_smallTerms hkept .relayer "deployer" (by decide) rfl with ⟨s, hgrant, hkept₁⟩
  have hrotates :
      Performs ((smallBooks .zero).withHolding .relayer ⟨"deployer"⟩ true).registry stillChain
        ⟨"deployer"⟩ (smallBooks .zero).ledger .newRelayEon _ := .newRelayEon rfl rfl
  rcases hkept₁.proceeds rfl hrotates with ⟨t, hrotate, hkept₂⟩
  have hrun := run_execute .here hgrant
  have hlater := run_execute .here hrotate
  rcases stale_eons_stay_dead hdeploy hrun with ⟨l, hl, -, -, hdead⟩
  cases hl.symm.trans hkept₁.ledger
  have hone : 1 ≤ UInt64.size - 1 := by decide
  rcases hdead t _ hlater (Nat.le_refl 1) hone with ⟨l', hl', hstale⟩
  cases hl'.symm.trans hkept₂.ledger
  have hrelayer : (Registry.ofStore t).holds .relayer ⟨"deployer"⟩ = true := by
    rw [hkept₂.registry_eq]
    rfl
  exact ⟨start, receipt, s, _, t, _, hdeploy, hrun, hlater, rfl,
    (hstale stillChain ⟨"deployer"⟩ _ rfl).2 rfl rfl hrelayer⟩

end Ledger

end BridgeCustody
