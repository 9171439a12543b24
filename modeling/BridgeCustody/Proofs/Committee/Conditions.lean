import BridgeCustody.Proofs.Committee.Minutes
import BridgeCustody.Proofs.Conditions

/-!
# What the Committee Checks

The two calls of the committee, with the conditions that they check. Each starts by
asking whether the sender is a member and then looks at the round of the moment, but
the round puts opposite conditions on the two. To a proposal it is an obstacle, which
is there only as long as it is open, and no round is no obstacle. To a signature it is
what the call is about, and no round is the first thing that can be wrong with it. So
the conditions that a round puts on a call are a list for each round, and where there
is none the list is empty.

A member is somebody in the list of the setup. The calls do not look into that list,
they look up a number, and `checks_member` needs to be told that the two agree. The
same holds of reading: a store without minutes can fail in other ways, at a round that
cannot be read for instance, and these are not among the conditions.

A signature is checked for everything before it is stored. The setup is read again
only afterwards, for the report, and that reading cannot fail any more.

## Main definitions

* `Minutes.NumbersMembers`: Having a number is being in the list.
* `proposeConditions`, `signConditions`: What decides about the two calls.

## Theorems

* `checks_member`: The one condition that both calls share.
* `checks_checkNoOpenRound`, `checks_checkSignable`: What the round is checked for.
* `KeptIn.checks_propose`, `KeptIn.checks_sign`: The two calls.
-/

namespace BridgeCustody

namespace Committee

/-- Having a number is being in the list of members. -/
def Minutes.NumbersMembers (m : Minutes) : Prop :=
  ∀ a, (m.numbers a).isSome = true ↔ a ∈ m.setup.members

/-- The conditions that the round of the moment puts on a proposal at a height. -/
def closedRound (height : UInt64) : Option Round → List (Condition Error)
  | none => []
  | some r => [.of (r.expiry ≤ height) (.notYetExpired r.expiry)]

/-- The conditions that the round of the moment puts on a signature under a nonce at a
    height, once there is a round. -/
def openRound (sender : Address) (nonce height : UInt64) :
    Option Round → List (Condition Error)
  | none => []
  | some r =>
    [.of (nonce = r.nonce) (.invalidNonce r.nonce nonce),
     .of (height < r.expiry) (.roundExpired r.expiry),
     .of (sender ∉ r.signees) (.alreadySigned nonce)]

/-- What decides about a proposal, in the order in which it is looked at. -/
def proposeConditions (m : Minutes) (height : UInt64) (sender : Address) (expected : UInt64)
    (action : String) : List (Condition Error) :=
  .of (sender ∈ m.setup.members) .unauthorized :: .of (action ≠ "") .emptyAction ::
    (closedRound height m.round ++
      [.of (expected ≤ m.nonce) (.invalidNonce m.nonce expected),
       .of (m.nonce.toNat < UInt64.size - 1) (.host .noncesExhausted)])

/-- What decides about a signature, in the order in which it is looked at. -/
def signConditions (m : Minutes) (height : UInt64) (sender : Address) (nonce : UInt64) :
    List (Condition Error) :=
  .of (sender ∈ m.setup.members) .unauthorized :: .of (m.round.isSome = true) .noActiveRound ::
    openRound sender nonce height m.round

section Rounds

variable {sender : Address} {nonce height : UInt64}

theorem checks_checkNoOpenRound (round : Option Round) (height : UInt64) :
    Checks (checkNoOpenRound round height) (closedRound height round) := by
  cases round with
  | none => exact checks_ok ()
  | some r =>
      refine checks_of_iff fun e => ?_
      rw [checkNoOpenRound, ensure_eq_error_iff, Round.isExpired, decide_eq_true_iff]

/-- A round can be signed unless something is wrong with it, and without a round that
    is what is wrong. -/
theorem checks_checkSignable (round : Option Round) :
    Checks (checkSignable round sender nonce height)
      (.of (round.isSome = true) .noActiveRound :: openRound sender nonce height round) := by
  cases round with
  | none =>
      refine checks_of_iff fun e => ?_
      simp only [checkSignable, Except.error.injEq, Option.isSome_none, Bool.false_eq_true,
        not_false_eq_true, true_and]
  | some r =>
      have hopen : Checks (ensure (r.isExpired height = false) (Error.roundExpired r.expiry))
          [.of (height < r.expiry) (.roundExpired r.expiry)] := by
        refine checks_of_iff fun e => ?_
        rw [ensure_eq_error_iff, Round.isExpired, decide_eq_false_iff_not, UInt64.not_le]
      have hnew : Checks (ensure (r.hasSigned sender = false) (Error.alreadySigned nonce))
          [.of (sender ∉ r.signees) (.alreadySigned nonce)] := by
        refine checks_of_iff fun e => ?_
        rw [ensure_eq_error_iff, Round.hasSigned, ← Bool.not_eq_true, List.contains_iff_mem]
      have hround : Checks (checkSignable (some r) sender nonce height)
          (openRound sender nonce height (some r)) :=
        Checks.cons checks_ensure fun _ _ => hopen.cons fun _ _ => hnew.bind_ok fun _ => r
      -- That there is a round adds a condition that holds.
      intro e
      rw [firstFails_of_cons_iff, hround e]
      exact ⟨fun h => .inr ⟨rfl, h⟩, fun h => h.elim (fun hfails => absurd rfl hfails.1) And.right⟩

end Rounds

section Calls

variable {m : Minutes} {s : Store} {chain : Chain} {sender : Address}

theorem checks_member (h : m.KeptIn s) (hnumbers : m.NumbersMembers) (sender : Address) :
    Checks (ensure (isMember s sender = true) Error.unauthorized)
      [.of (sender ∈ m.setup.members) .unauthorized] := by
  refine checks_of_iff fun e => ?_
  rw [ensure_eq_error_iff, h.isMember_eq, hnumbers sender]

namespace Minutes.KeptIn

/-- A proposal checks what decides about it. -/
theorem checks_propose (h : m.KeptIn s) (hnumbers : m.NumbersMembers) {expected : UInt64}
    {action actionData signature : String} :
    Checks (propose chain sender expected action actionData signature s)
      (proposeConditions m chain.height sender expected action) := by
  have hround : ofHost (roundCell.read? s) = .ok m.round := ofHost_eq_ok_iff.mpr h.round
  have hnonce : ofHost (nonceItem.load s) = .ok m.nonce := ofHost_eq_ok_iff.mpr h.nonce
  have hsetup : ofHost (setupItem.load s) = .ok m.setup := ofHost_eq_ok_iff.mpr h.setup
  simp only [propose, hround, hnonce, hsetup, ok_bind]
  refine (checks_member h hnumbers sender).cons fun _ _ => Checks.cons checks_ensure fun _ _ => ?_
  refine (checks_checkNoOpenRound m.round chain.height).bind fun _ _ => ?_
  exact Checks.cons checks_ensure fun _ _ => checks_next? m.nonce _ _

/-- A signature checks what decides about it. -/
theorem checks_sign (h : m.KeptIn s) (hnumbers : m.NumbersMembers) {nonce : UInt64}
    {signature : String} :
    Checks (sign chain sender nonce signature s)
      (signConditions m chain.height sender nonce) := by
  have hround : ofHost (roundCell.read? s) = .ok m.round := ofHost_eq_ok_iff.mpr h.round
  have hsetup : ∀ r, ofHost (setupItem.load (roundCell.write r s)) = .ok m.setup := fun r =>
    ofHost_eq_ok_iff.mpr (h.writeRound r).setup
  simp only [sign, hround, hsetup, ok_bind]
  refine (checks_member h hnumbers sender).cons fun _ _ => ?_
  exact (checks_checkSignable m.round).bind_ok _

end Minutes.KeptIn

end Calls

end Committee

end BridgeCustody
