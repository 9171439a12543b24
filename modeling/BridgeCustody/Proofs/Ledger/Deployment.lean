import BridgeCustody.Proofs.Admission
import BridgeCustody.Proofs.Ledger.Conditions
import BridgeCustody.Proofs.Ledger.Value
import BridgeCustody.Proofs.Places

/-!
# The Deployment, Specified

Whatever is known of the ledger starts from a deployment, and most of the terms of a
deployment cannot be changed later, or only by an administrator that the deployment made.
So it has to be known of all terms whether a ledger can be deployed under them, what is
wrong with them if not, and what the ledger is like at first.

The deployer is made an administrator before the list of grants is looked at. This is
one of the memberships, so that a list that asks for it again is refused for a
repetition, although there is none within the list. But the deployer's address comes
from the host and is not checked, while the addresses in the list are. If the deployer
has an address that is none, a list that asks for its membership again is refused for
the address, which is looked at first.

That a membership is not held yet is asked of the store. On an empty store the answer
is known from the list alone: what is held is what was granted before.

## Main definitions

* `memberships`: The memberships that a deployment asks for.
* `termsConditions`, `granting`: What decides about the terms, and about the grants.
* `Holding`: The roles that are held are those of a list.
* `AsDeployed`: A value that was just deployed.

## Theorems

* `Holding.checks_grant`, `Holding.checks_grantEach`: Grants are checked against what
  was granted before.
* `checks_deploy`: What a deployment on an empty store checks.
* `asDeployed_fresh`: The value that a deployment stores.
* `deployment_specified`: When a deployment goes through, what refuses it, and what it
  leaves.
-/

namespace BridgeCustody

namespace Ledger

/-- The memberships that a deployment asks for: the deployer's own, and those that are
    listed. -/
def memberships (deployer : Address) (grants : List Grant) : List (Role × Address) :=
  (.admin, deployer) :: grants.map fun g => (g.role, ⟨g.address⟩)

/-- What decides about the terms of a deployment, the grants apart, in the order in which
    it is looked at. -/
def termsConditions [AddressRule] (d : Deployment) : List (Condition Error) :=
  [validAddress d.token,
   .of (d.swapLimits.min ≤ d.swapLimits.max) (.invalidLimits (.swapCrossed d.swapLimits)),
   .of (d.reverseLimits.fee ≤ d.reverseLimits.min)
     (.invalidLimits (.reverseFeeAboveMin d.reverseLimits)),
   .of (d.reverseLimits.min ≤ d.reverseLimits.max)
     (.invalidLimits (.reverseCrossed d.reverseLimits))]

/-- How the grants of a deployment are checked: the address, and then the membership. -/
def granting [AddressRule] : Admission Grant (Role × Address) Error where
  inOrder g := validAddress g.address
  brings g := (g.role, ⟨g.address⟩)
  repeated g := .alreadyGranted g.role ⟨g.address⟩

/-- The roles that are held are those of a list. -/
def Holding (held : List (Role × Address)) (s : Store) : Prop :=
  ∀ role a, (Registry.ofStore s).holds role a = true ↔ (role, a) ∈ held

/-- The block from which a surface is paused at first: the one that was asked for, or
    never, but not before the deployment. -/
def firstPause (requested : Option UInt64) (height : UInt64) : Nat :=
  max (requested.elim (UInt64.size - 1) UInt64.toNat) height.toNat

/-- A value that was just deployed under some terms at a height. -/
structure AsDeployed (height : UInt64) (d : Deployment) (l : Ledger) : Prop where
  token : l.token.text = d.token
  supply : l.supply = .zero
  fees : l.fees = .zero
  cap : l.cap = d.cap
  nextSwapId : l.nextSwapId = d.nextSwapId.getD 0
  relayEon : l.relayEon.toNat = UInt64.size - 1
  allowance : l.allowance = d.allowance
  approverCap : l.approverCap = d.approverCap
  swapLimits : l.swapLimits = d.swapLimits
  reverseLimits : l.reverseLimits = d.reverseLimits
  publicPause : l.publicPause.toNat = firstPause d.publicPause height
  relayerPause : l.relayerPause.toNat = firstPause d.relayerPause height
  deployedAt : l.deployedAt = height
  protectionPeriod : l.protectionPeriod = d.protectionPeriod
  earliestDelete : l.earliestDelete.toNat =
    min (height.toNat + d.protectionPeriod.toNat) (UInt64.size - 1)
  deleted : l.deleted = false

section Grants

variable {held : List (Role × Address)} {s t : Store} {role : Role} {a : Address}

namespace Holding

/-- A grant is refused if it was made before, and for nothing else. -/
theorem checks_grant (h : Holding held s) :
    Checks (grant role a s) [.of ((role, a) ∉ held) (.alreadyGranted role a)] := by
  have hnew : Checks (ensure ((Registry.ofStore s).holds role a = false)
      (Error.alreadyGranted role a)) [.of ((role, a) ∉ held) (.alreadyGranted role a)] := by
    refine checks_of_iff fun e => ?_
    rw [ensure_eq_error_iff, ← h role a, Bool.not_eq_true]
  exact (hnew.bind_ok fun _ => Change.grant role a).bind_ok fun change => change.apply s

/-- What is held afterwards is one membership more. -/
theorem grant (h : Holding held s) (hgrant : grant role a s = .ok t) :
    Holding (held ++ [(role, a)]) t := by
  have hflips := grant_flips hgrant
  intro role' a'
  rw [List.mem_append, List.mem_singleton, ← h role' a', Prod.mk.injEq]
  by_cases hsame : role' = role ∧ a' = a
  · rcases hsame with ⟨rfl, rfl⟩
    exact iff_of_true hflips.after (.inr ⟨rfl, rfl⟩)
  · have hkept : (Registry.ofStore t).holds role' a' = (Registry.ofStore s).holds role' a' :=
      Classical.byContradiction fun hne => hsame ((hflips.holds_ne_iff role' a').mp hne)
    rw [hkept, or_iff_left hsame]

/-- A list of grants is checked entry by entry. -/
theorem checks_grantEach [AddressRule] {grants : List Grant} (h : Holding held s) :
    Checks (grantEach grants s) (granting.conditions held grants) := by
  induction grants generalizing held s with
  | nil => exact checks_ok s
  | cons g rest ih =>
      refine (checks_checkAddress g.address).cons fun holder hholder => ?_
      rcases checkAddress_eq_ok_iff.mp hholder with ⟨-, rfl⟩
      -- The rest is checked against this grant as well.
      exact h.checks_grant.cons fun t hgrant => ih (h.grant hgrant)

end Holding

end Grants

section Deployments

variable {chain : Chain} {deployer : Address} {d : Deployment} {s : Store} {receipt : Receipt}

/-- A deployment on an empty store checks the terms and then the grants. Making the
    deployer an administrator cannot fail. -/
theorem checks_deploy [AddressRule] (chain : Chain) (deployer : Address) (d : Deployment) :
    Checks (deploy chain deployer d .empty)
      (termsConditions d ++ granting.conditions [(.admin, deployer)] d.grants) := by
  refine (checks_checkAddress d.token).cons fun token htoken => ?_
  rcases checkAddress_eq_ok_iff.mp htoken with ⟨-, rfl⟩
  refine d.swapLimits.checks_validate.cons fun _ _ => ?_
  refine d.reverseLimits.checks_validate.bind fun _ _ => ?_
  -- Before the first grant nobody holds anything.
  have hfresh := freshBooks_keptIn chain d
  have hnobody : Holding [] (item.write (fresh ⟨d.token⟩ chain.height d)
      (Release.item.write .ofLedger .empty)) := fun role a => by
    refine iff_of_false (fun hheld => ?_) List.not_mem_nil
    rw [hfresh.registry_eq] at hheld
    cases hheld
  have hadmin : grant .admin deployer _ = .ok _ :=
    grant_eq_ok_iff.mpr ⟨hfresh.holds .admin deployer, rfl⟩
  simp only [hadmin, ok_bind]
  exact (hnobody.grant hadmin).checks_grantEach.bind_ok _

theorem toNat_effectivePause (requested : Option UInt64) (height : UInt64) :
    (effectivePause (requested.getD Word.never) height).toNat = firstPause requested height := by
  rw [effectivePause, Word.toNat_largest, firstPause]
  cases requested with
  | none => rfl
  | some block => rfl

/-- The value that a deployment stores. -/
theorem asDeployed_fresh (height : UInt64) (d : Deployment) :
    AsDeployed height d (fresh ⟨d.token⟩ height d) where
  token := rfl
  supply := rfl
  fees := rfl
  cap := rfl
  nextSwapId := rfl
  relayEon := Word.toNat_never
  allowance := rfl
  approverCap := rfl
  swapLimits := rfl
  reverseLimits := rfl
  publicPause := toNat_effectivePause d.publicPause height
  relayerPause := toNat_effectivePause d.relayerPause height
  deployedAt := rfl
  protectionPeriod := rfl
  earliestDelete := Word.toNat_saturatingAdd height d.protectionPeriod
  deleted := rfl

theorem forall_termsConditions_iff [AddressRule] :
    (∀ c ∈ termsConditions d, c.Holds) ↔
      Address.Valid d.token ∧ d.swapLimits.Ordered ∧ d.reverseLimits.Ordered := by
  simp only [termsConditions, List.forall_mem_cons, Condition.holds_of]
  exact and_congr_right' (and_congr_right' (and_congr_right' (and_iff_left nofun)))

/-- What is listed is what the grants bring, behind what the deployer has. -/
theorem mem_memberships_iff {grants : List Grant} {role : Role} {a : Address} :
    (role, a) ∈ memberships deployer grants ↔
      (role = .admin ∧ a = deployer) ∨ ∃ g ∈ grants, g.role = role ∧ a = ⟨g.address⟩ := by
  simp only [memberships, List.mem_cons, List.mem_map, Prod.mk.injEq, eq_comm (b := a)]

/-- On an empty store a deployment goes through if the token is a valid address, the
    limits are in order, all addresses of the grants are valid and no membership is asked
    for twice, the deployer's own included, and then only. Otherwise it is refused with
    the first of the terms that is not in order, or, if they are, for the first grant
    before which everything was: for its address, and if that is valid for being asked
    for before. If it goes through, the roles that are held are those that were asked for,
    nothing was refunded, and the value is that of a ledger just deployed. -/
theorem deployment_specified [AddressRule] (chain : Chain) (deployer : Address) (d : Deployment) :
    ((∃ s receipt, deploy chain deployer d .empty = .ok (s, receipt)) ↔
      Address.Valid d.token ∧ d.swapLimits.Ordered ∧ d.reverseLimits.Ordered ∧
        (∀ g ∈ d.grants, Address.Valid g.address) ∧ (memberships deployer d.grants).Nodup) ∧
    (∀ e, deploy chain deployer d .empty = .error e ↔
      FirstFails (termsConditions d) e ∨
      (∀ c ∈ termsConditions d, c.Holds) ∧
        ∃ before g after, d.grants = before ++ g :: after ∧
          (∀ b ∈ before, Address.Valid b.address) ∧ (memberships deployer before).Nodup ∧
          FirstFails [validAddress g.address,
            .of ((g.role, ⟨g.address⟩) ∉ memberships deployer before)
              (.alreadyGranted g.role ⟨g.address⟩)] e) ∧
    ∀ s receipt, deploy chain deployer d .empty = .ok (s, receipt) →
      (∀ role a, (Registry.ofStore s).holds role a = true ↔
        (role, a) ∈ memberships deployer d.grants) ∧
      (∀ id, (refundCell id).read? s = .ok none) ∧
      ∃ l, item.load s = .ok l ∧ AsDeployed chain.height d l := by
  have hadmin : [(Role.admin, deployer)].Nodup := List.pairwise_singleton _ _
  have hchecks := checks_deploy chain deployer d
  refine ⟨?_, ?_, ?_⟩
  · rw [hchecks.exists_pair_iff, List.forall_mem_append, forall_termsConditions_iff,
      Admission.forall_holds_iff hadmin, and_assoc, and_assoc]
    exact Iff.rfl
  · intro e
    rw [hchecks e, firstFails_append_iff, Admission.firstFails_iff hadmin]
    exact Iff.rfl
  · intro s receipt hdeploy
    rcases deploy_empty hdeploy with ⟨b, hkept, hfresh, hrefunds, hholds⟩
    refine ⟨fun role a => ?_, fun id => ?_, b.ledger, hkept.ledger, ?_⟩
    · rw [hkept.registry_eq, mem_memberships_iff]
      exact hholds role a
    · rw [hkept.refunds, hrefunds]
    · rw [hfresh]
      exact asDeployed_fresh chain.height d

end Deployments

/-- Small terms with a list of grants. -/
def grantingTerms (grants : List Grant) : Deployment :=
  { smallTerms with grants := grants }

theorem grantingTerms_inOrder (grants : List Grant) :
    ∀ c ∈ termsConditions (grantingTerms grants), c.Holds :=
  forall_termsConditions_iff.mpr ⟨(by decide : Address.Valid "token"), Nat.le_of_ble_eq_true rfl,
    Nat.le_of_ble_eq_true rfl, Nat.le_of_ble_eq_true rfl⟩

/-- With one grant a small ledger is deployed, and can be deleted from block twenty on.
    A list that has the deployer's own membership is refused for it, although the address
    behind it is none. If the deployer's own address is none, such a list is refused for
    the address. -/
theorem deployment_specified_of_grants :
    (∃ s receipt l, deploy stillChain ⟨"deployer"⟩ (grantingTerms [⟨.relayer, "relayer"⟩]) .empty =
        .ok (s, receipt) ∧
      (Registry.ofStore s).holds .relayer ⟨"relayer"⟩ = true ∧
      (Registry.ofStore s).holds .admin ⟨"deployer"⟩ = true ∧
      ¬(Registry.ofStore s).holds .admin ⟨"relayer"⟩ = true ∧
      item.load s = .ok l ∧ l.publicPause.toNat = UInt64.size - 1 ∧
      l.earliestDelete.toNat = 20) ∧
    deploy stillChain ⟨"deployer"⟩
        (grantingTerms [⟨.relayer, "relayer"⟩, ⟨.admin, "deployer"⟩, ⟨.monitor, ""⟩]) .empty =
      .error (.alreadyGranted .admin ⟨"deployer"⟩) ∧
    deploy stillChain ⟨"me"⟩ (grantingTerms [⟨.admin, "me"⟩]) .empty =
      .error (.host (.address .tooShort)) := by
  refine ⟨?_, ?_, ?_⟩
  · rcases deployment_specified stillChain ⟨"deployer"⟩ (grantingTerms [⟨.relayer, "relayer"⟩]) with
      ⟨hwent, -, hleaves⟩
    rcases forall_termsConditions_iff.mp (grantingTerms_inOrder [⟨.relayer, "relayer"⟩]) with
      ⟨htoken, hswap, hreverse⟩
    rcases hwent.mpr ⟨htoken, hswap, hreverse, by decide, by decide⟩ with ⟨s, receipt, hdeploy⟩
    rcases hleaves s receipt hdeploy with ⟨hholds, -, l, hload, hfirst⟩
    refine ⟨s, receipt, l, hdeploy, (hholds _ _).mpr (by decide), (hholds _ _).mpr (by decide),
      fun hheld => absurd ((hholds _ _).mp hheld) (by decide), hload, hfirst.publicPause,
      hfirst.earliestDelete⟩
  · rcases deployment_specified stillChain ⟨"deployer"⟩
      (grantingTerms [⟨.relayer, "relayer"⟩, ⟨.admin, "deployer"⟩, ⟨.monitor, ""⟩]) with
      ⟨-, hrefused, -⟩
    refine (hrefused _).mpr (.inr ⟨grantingTerms_inOrder _, [⟨.relayer, "relayer"⟩], _, _, rfl,
      by decide, by decide, ?_⟩)
    exact .behind (by decide : Address.Valid "deployer")
      (firstFails_of_cons_iff.mpr (.inl ⟨by decide, rfl⟩))
  · rcases deployment_specified stillChain ⟨"me"⟩ (grantingTerms [⟨.admin, "me"⟩]) with
      ⟨-, hrefused, -⟩
    refine (hrefused _).mpr (.inr ⟨grantingTerms_inOrder _, [], _, _, rfl, List.forall_mem_nil _,
      by decide, ?_⟩)
    exact .here (by decide : ¬Address.Valid "me")

end Ledger

end BridgeCustody
