import BridgeCustody.Proofs.Committee.Rounds

/-!
# Stored Rounds Are Well-Formed

Nothing in the type of a round keeps it from being nonsense: a nonce that is not
the committee's, an empty action, the same name twice, names without signatures.
A store could hold such a round, and everything that reads it would go on to
report it. What rules it out is only that a store was reached by a run.

Most of that is known already, since a round that is the log of its history has
the names of those who signed and has them once. What the history does not say
by itself is that the action is not empty. That was checked by the proposal, when
it went through, and the proposal is an entry of the log. `action_ne_of_proposed`
goes back to it.

The nonce and the round are written one after the other and could disagree about
whether there has been a proposal. `isSome_round_iff` says that they do not.

## Main definitions

* `Round.WellFormed`: What a stored round is like.

## Theorems

* `Logged.isSome_round_iff`: There is a round once there was a proposal.
* `RoundOf.exists_proposed`: A round has the action of a proposal in the log.
* `action_ne_of_proposed`: A proposal that went through has an action.
* `round_wellFormed`: Every stored round is well-formed.
-/

namespace BridgeCustody

namespace Committee

/-- What a stored round is like, under a setup and a nonce. -/
structure Round.WellFormed (setup : Setup) (nonce : UInt64) (r : Round) : Prop where
  nonce_eq : r.nonce = nonce
  action_ne : r.action ≠ ""
  signees_ne : r.signees ≠ []
  signees_nodup : r.signees.Nodup
  signees_subset : r.signees ⊆ setup.members
  length_eq : r.signatures.length = r.signees.length
  length_le : r.signatures.length ≤ setup.members.length
  toNat_count : r.count.toNat = r.signatures.length

/-- There is a round once there was a proposal. -/
theorem Logged.isSome_round_iff {f : Founding} {m : Minutes} {log : List (Entry Call Event)}
    (h : Logged f m log) : m.round.isSome = true ↔ 0 < m.nonce.toNat := by
  cases hround : m.round with
  | none =>
      have hzero := h.none_iff hround
      exact iff_of_false Bool.noConfusion (by omega)
  | some r => exact iff_of_true rfl (h.round r hround).positive

/-- A round read off a log has the name of its proposer at least. -/
theorem RoundOf.signees_ne {timeout : UInt64} {log : List (Entry Call Event)} {r : Round}
    (h : RoundOf timeout log r) : r.signees ≠ [] := by
  cases h with
  | cut _ _ _ _ _ hsignees _ _ =>
      rw [hsignees]
      exact List.cons_ne_nil _ _

/-- A round read off a log has the action of a proposal in the log. -/
theorem RoundOf.exists_proposed {timeout : UInt64} {log : List (Entry Call Event)} {r : Round}
    (h : RoundOf timeout log r) :
    ∃ e ∈ log, ∃ chain sender expected signature,
      e.call = .execute chain sender (.propose expected r.action r.actionData signature) := by
  cases h with
  | @cut pre post e chain sender expected action actionData signature _ hcall _ haction hdata =>
      refine ⟨e, List.mem_append_right _ List.mem_cons_self, chain, sender, expected, signature, ?_⟩
      rw [hcall, haction, hdata]

section Runs

variable [AddressRule]
variable {f : Founding} {start s : Store} {event : Event} {log : List (Entry Call Event)}

/-- A proposal that went through has an action. -/
theorem action_ne_of_proposed (hdeploy : deploy f .empty = .ok (start, event))
    (hrun : Run Call.perform start s log) {e : Entry Call Event} (hmem : e ∈ log) {chain : Chain}
    {sender : Address} {expected : UInt64} {action actionData signature : String}
    (hcall : e.call = .execute chain sender (.propose expected action actionData signature)) :
    action ≠ "" := by
  rcases hrun.of_mem hmem with ⟨pre, post, -, hbefore, hperform, -⟩
  -- The store that the proposal met was reached by a run and has minutes.
  rcases run_logged hdeploy hbefore with ⟨m, hkept, -⟩
  rw [hcall] at hperform
  rcases hkept.propose_eq_ok_iff.mp hperform with ⟨nonce, hp, -, -⟩
  exact hp.action_ne

/-- At any point of a run from a founding on an empty store there is a round if and
    only if the nonce is positive, and the round is well-formed. -/
theorem round_wellFormed (hdeploy : deploy f .empty = .ok (start, event))
    (hsize : f.members.length < UInt32.size) (hrun : Run Call.perform start s log) :
    ∃ setup nonce round, setupItem.load s = .ok setup ∧ nonceItem.load s = .ok nonce ∧
      roundCell.read? s = .ok round ∧ setup.members = f.members.map Address.mk ∧
      (round.isSome = true ↔ 0 < nonce.toNat) ∧
      ∀ r, round = some r → r.WellFormed setup nonce := by
  rcases run_logged hdeploy hrun with ⟨m, hkept, hlogged⟩
  have hmembers : m.setup.members = f.members.map Address.mk := by rw [hlogged.setup]
  refine ⟨m.setup, m.nonce, m.round, hkept.setup, hkept.nonce, hkept.round, hmembers,
    hlogged.isSome_round_iff, ?_⟩
  intro r hround
  have hr := hlogged.round r hround
  have hlength := hr.roundOf.length_signatures
  rcases hr.roundOf.exists_proposed with ⟨e, hmem, chain, sender, expected, signature, hcall⟩
  exact {
    nonce_eq := hr.nonce_eq
    action_ne := action_ne_of_proposed hdeploy hrun hmem hcall
    signees_ne := hr.roundOf.signees_ne
    signees_nodup := hr.nodup
    signees_subset := fun a ha => hmembers ▸ hr.member a ha
    length_eq := hlength
    length_le := by
      rw [hlength, hmembers, List.length_map]
      exact hr.length_signees_le
    toNat_count := (hr.toNat_count hsize).trans hlength.symm }

end Runs

/-- After a proposal and a signature in a committee of two there is a well-formed
    round with two names. -/
theorem round_wellFormed_of_two :
    ∃ start event s log setup nonce r, deploy smallTerms .empty = .ok (start, event) ∧
      Run Call.perform start s log ∧ roundCell.read? s = .ok (some r) ∧
      r.signees = [⟨"alice"⟩, ⟨"bob"⟩] ∧ r.WellFormed setup nonce := by
  rcases run_smallTerms with
    ⟨start, event, opened, signed, proposed, signature, hdeploy, hrun, -, hkept⟩
  rcases round_wellFormed hdeploy (by decide) hrun with
    ⟨setup, nonce, round, -, -, hround, -, -, hwell⟩
  -- The round that is read is the one that bob has signed.
  cases hkept.round.symm.trans hround
  exact ⟨start, event, signed, _, setup, nonce, _, hdeploy, hrun, hround, rfl, hwell _ rfl⟩

end Committee

end BridgeCustody
