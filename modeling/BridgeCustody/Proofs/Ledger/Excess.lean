import BridgeCustody.Ledger.Query
import BridgeCustody.Proofs.Ledger.Payout
import BridgeCustody.Proofs.Ledger.Refusal
import BridgeCustody.Proofs.Ledger.Value

/-!
# The Excess Is What It Is Said to Be

An administrator asks for the excess before withdrawing it. The answer and the
withdrawal compute it apart from each other, each with a balance that it asks the token
for and a sum that it takes itself, and they fail in different words. For the answer to
be of use it has to be the amount that is then paid. And if there is no answer, this has
to be a failure that the withdrawal meets as well.

None of this needs an honest token. Whatever the token replies, both work with the same
reply, so the two agree also where the balance does not cover what is owed. There the
answer is nothing, since the difference stops at zero, and the withdrawal is refused. An
honest token is needed only for what comes afterwards. If it carries out the payment, it
is left with exactly what is owed, and then there is nothing more to withdraw.

A withdrawal writes the value that it has read. Along a run from a deployment the text of
the value is its own, so the store stays as it was, to the letter.

## Main definitions

* `AsTold`: A withdrawal comes to what the answer says, and the answer is right.
* `Drained`: At this balance there is nothing to withdraw.

## Theorems

* `commit_self`: A call that leaves the value as it was leaves the store.
* `excess_eq_ok`, `excess_eq_noSum`, `excess_eq_fault`: What is answered.
* `execute_withdrawExcess_eq_error_iff`, `execute_withdrawExcess`: What a withdrawal
  comes to.
* `excess_asTold`: The two agree.
* `drained_of_dues`: There is nothing to withdraw from what is owed.
* `carry?_pay`: An honest token that has enough carries a payment out.
* `excess_paid_as_told`: The excess along the runs from a deployment.
-/

namespace BridgeCustody

namespace Ledger

/-- Side by side, what a question about the excess is answered and what a withdrawal of
    it to a target comes to. -/
inductive AsTold (chain : Chain) (s : Store) (l : Ledger) (target : Address) :
    Except Fault Answer → Except Error (Store × Receipt) → Prop
  /-- The token does not state a balance, and this is the failure of both. -/
  | silent {fault} (hbalance : chain.balance l.token = .error fault) :
      AsTold chain s l target (.error fault) (.error (.host fault))
  /-- What is owed is no amount, and both fail for that. -/
  | noSum {balance} (hbalance : chain.balance l.token = .ok balance)
      (hdues : Amount.size ≤ l.dues) :
      AsTold chain s l target (.error (.noSum l.supply l.fees)) (.error (.noSum l.supply l.fees))
  /-- The balance is not above what is owed, so that there is nothing. -/
  | nothing {balance} (hbalance : chain.balance l.token = .ok balance)
      (hle : balance.toNat ≤ l.dues) :
      AsTold chain s l target (.ok (.excess balance l.supply l.fees .zero))
        (.error (.invalidAmount .noExcess))
  /-- What is beyond is paid to the target, by one message and out of the same store. -/
  | paid {balance beyond} (hbalance : chain.balance l.token = .ok balance)
      (hbeyond : balance.toNat = l.dues + beyond.toNat) (hpositive : beyond ≠ .zero) :
      AsTold chain s l target (.ok (.excess balance l.supply l.fees beyond))
        (.ok (s, ⟨some (l.pay target beyond), .excessWithdrawn target beyond⟩))

/-- Where the token states this balance the answer is that there is no excess, and
    withdrawals of it are refused for that. -/
structure Drained [AddressRule] (s : Store) (l : Ledger) (balance : Amount) : Prop where
  told : ∀ chain, chain.balance l.token = .ok balance →
    query chain s .excess = .ok (.excess balance l.supply l.fees .zero)
  refused : ∀ chain admin target, chain.balance l.token = .ok balance →
    (Registry.ofStore s).holds .admin admin = true → Address.Valid target →
    execute chain admin (.withdrawExcess target) s = .error (.invalidAmount .noExcess)

/-- A call that leaves the value and everything beside it as they were leaves the store,
    if the value stands there in its own words. -/
theorem commit_self {s : Store} {l : Ledger} {out : Outcome}
    (hwords : s.get? item.key = some (Wire.encode l)) (hchange : out.change = .nothing)
    (hledger : out.ledger = l) : out.commit s = s := by
  refine Store.ext fun key => ?_
  by_cases hkey : item.key = key
  · rw [← hkey, out.get?_item, hledger, hwords]
  · rw [out.get?_commit_of_ne _ hkey, hchange, Change.apply]

section Answers

variable {chain : Chain} {l : Ledger} {balance owed : Amount} {fault : Fault}

/-- The answer, if the token states a balance and the dues are an amount. -/
theorem excess_eq_ok (hbalance : chain.balance l.token = .ok balance)
    (howed : l.owed? = some owed) :
    excess chain l = .ok (.excess balance l.supply l.fees (balance.monus owed)) := by
  rw [excess, hbalance, ok_bind, howed]
  rfl

theorem excess_eq_noSum (hbalance : chain.balance l.token = .ok balance)
    (howed : l.owed? = none) : excess chain l = .error (.noSum l.supply l.fees) := by
  rw [excess, hbalance, ok_bind, howed]

theorem excess_eq_fault (hbalance : chain.balance l.token = .error fault) :
    excess chain l = .error fault := by
  rw [excess, hbalance, error_bind]

theorem query_excess [AddressRule] {s : Store} (hload : item.load s = .ok l) :
    query chain s .excess = excess chain l := by
  rw [query, hload, ok_bind]

end Answers

section Withdrawals

variable [AddressRule] {admin : Address} {target : String} {l : Ledger} {s : Store}

/-- For an administrator and a valid target a withdrawal fails for the excess alone: the
    token states no balance, what is owed is no amount, or nothing is beyond it. -/
theorem execute_withdrawExcess_eq_error_iff {chain : Chain} {e : Error}
    (hload : item.load s = .ok l) (hopen : l.deleted = false)
    (hadmin : (Registry.ofStore s).holds .admin admin = true) (htarget : Address.Valid target) :
    execute chain admin (.withdrawExcess target) s = .error e ↔
      (∃ fault, chain.balance l.token = .error fault ∧ .host fault = e) ∨
      ∃ balance, chain.balance l.token = .ok balance ∧
        ((Amount.size ≤ l.dues ∧ .noSum l.supply l.fees = e) ∨
          ∃ owed : Amount, owed.toNat = l.dues ∧ balance ≤ owed ∧
            .invalidAmount .noExcess = e) := by
  have hallowed : (Registry.ofStore s).require [.admin] admin = .ok () :=
    Registry.require_one_eq_ok_iff.mpr hadmin
  have hchecked : checkAddress target = .ok ⟨target⟩ := checkAddress_eq_ok_iff.mpr ⟨htarget, rfl⟩
  rw [execute_eq_error_iff hload hopen]
  simp only [operate, withdrawExcess, hallowed, hchecked, ok_bind, bind_eq_error_iff,
    ofHost_eq_error_iff, ofHost_eq_ok_iff, owed, sum_eq_error_iff, sum_eq_ok_iff,
    ensure_eq_error_iff, pure_eq_ok, reduceCtorEq, and_false, exists_false, or_false, dues, ne_eq,
    Decidable.not_not, Amount.monus_eq_zero_iff]

/-- Where something is beyond what is owed, it is paid, and the store stays as it was. -/
theorem execute_withdrawExcess {chain : Chain} {balance owed : Amount}
    (hwords : s.get? item.key = some (Wire.encode l)) (hopen : l.deleted = false)
    (hadmin : (Registry.ofStore s).holds .admin admin = true) (htarget : Address.Valid target)
    (hbalance : chain.balance l.token = .ok balance) (howed : owed.toNat = l.dues)
    (hpositive : balance.monus owed ≠ .zero) :
    execute chain admin (.withdrawExcess target) s =
      .ok (s, ⟨some (l.pay ⟨target⟩ (balance.monus owed)),
        .excessWithdrawn ⟨target⟩ (balance.monus owed)⟩) := by
  have hpays : Performs (.ofStore s) chain admin l (.withdrawExcess target) _ :=
    .withdrawExcess hadmin htarget hbalance howed hpositive
  rw [execute_eq_ok_iff.mpr ⟨l, _, item.load_of_get? hwords, hopen, hpays, rfl, rfl⟩,
    commit_self hwords rfl rfl]

/-- An answer about the excess and a withdrawal of it, by an administrator and to a valid
    target, agree whatever the token replies. -/
theorem excess_asTold (hwords : s.get? item.key = some (Wire.encode l))
    (hopen : l.deleted = false) (hadmin : (Registry.ofStore s).holds .admin admin = true)
    (htarget : Address.Valid target) (chain : Chain) :
    AsTold chain s l ⟨target⟩ (query chain s .excess)
      (execute chain admin (.withdrawExcess target) s) := by
  have hload : item.load s = .ok l := item.load_of_get? hwords
  have hfails {e : Error} : execute chain admin (.withdrawExcess target) s = .error e ↔ _ :=
    execute_withdrawExcess_eq_error_iff hload hopen hadmin htarget
  rw [query_excess hload]
  -- Both ask for the balance first, then add up what is owed, then compare the two.
  cases hbalance : chain.balance l.token with
  | error fault =>
      rw [excess_eq_fault hbalance, hfails.mpr (.inl ⟨fault, hbalance, rfl⟩)]
      exact .silent hbalance
  | ok balance =>
      cases howed : l.owed? with
      | none =>
          have hdues : Amount.size ≤ l.dues := Amount.add?_eq_none_iff.mp howed
          rw [excess_eq_noSum hbalance howed,
            hfails.mpr (.inr ⟨balance, hbalance, .inl ⟨hdues, rfl⟩⟩)]
          exact .noSum hbalance hdues
      | some owed =>
          have hnat : owed.toNat = l.dues := Amount.add?_eq_some_iff.mp howed
          rw [excess_eq_ok hbalance howed]
          by_cases hle : balance ≤ owed
          · rw [hfails.mpr (.inr ⟨balance, hbalance, .inr ⟨owed, hnat, hle, rfl⟩⟩),
              Amount.monus_eq_zero_iff.mpr hle]
            rw [Amount.le_iff_toNat_le, hnat] at hle
            exact .nothing hbalance hle
          · have hpositive : balance.monus owed ≠ .zero := mt Amount.monus_eq_zero_iff.mp hle
            rw [execute_withdrawExcess hwords hopen hadmin htarget hbalance hnat hpositive]
            rw [Amount.le_iff_toNat_le] at hle
            refine .paid hbalance ?_ hpositive
            rw [Amount.toNat_monus]
            omega

/-- There is nothing to withdraw from a balance of exactly what is owed. -/
theorem drained_of_dues (hwords : s.get? item.key = some (Wire.encode l))
    (hopen : l.deleted = false) {balance : Amount} (hdues : balance.toNat = l.dues) :
    Drained s l balance := by
  have hnothing : balance.monus balance = .zero :=
    Amount.monus_eq_zero_iff.mpr (Nat.le_refl _)
  have htold : ∀ chain, chain.balance l.token = .ok balance →
      query chain s .excess = .ok (.excess balance l.supply l.fees .zero) := by
    intro chain hbalance
    rw [query_excess (item.load_of_get? hwords),
      excess_eq_ok hbalance (Amount.add?_eq_some_iff.mpr hdues), hnothing]
  refine ⟨htold, ?_⟩
  intro chain admin target hbalance hadmin htarget
  have hagree := excess_asTold hwords hopen hadmin htarget chain
  rw [htold chain hbalance] at hagree
  -- Where the answer is nothing, the withdrawal is refused.
  generalize execute chain admin (.withdrawExcess target) s = result at hagree
  cases hagree with
  | nothing => rfl
  | paid _ _ hpositive => exact absurd rfl hpositive

end Withdrawals

/-- An honest token that has enough carries out a payment to somebody else. -/
theorem carry?_pay {l : Ledger} {self recipient : Address} {amount balance : Amount}
    {event : Event} (hother : recipient ≠ self) (hle : amount ≤ balance) :
    Receipt.carry? l.token self balance ⟨some (l.pay recipient amount), event⟩ =
      some (balance.monus amount) := by
  have hcharge : charge? self self amount balance = some (balance.monus amount) := by
    rw [Amount.le_iff_toNat_le] at hle
    rw [charge?, if_pos rfl, Amount.sub?_eq_some_iff, Amount.toNat_monus]
    omega
  simp only [Receipt.carry?, pay, TokenCall.plain, if_true, TokenMessage.carry?, hcharge,
    Option.bind_some, credit?, if_neg hother]

/-- What a payment of the excess to somebody else leaves, once it is carried out. -/
theorem AsTold.drains [AddressRule] {chain : Chain} {s s' : Store} {l : Ledger} {target : Address}
    {answer : Except Fault Answer} {receipt : Receipt}
    (h : AsTold chain s l target answer (.ok (s', receipt)))
    (hwords : s.get? item.key = some (Wire.encode l)) (hopen : l.deleted = false)
    (hother : target ≠ chain.self) :
    ∃ balance after, chain.balance l.token = .ok balance ∧
      receipt.carry? l.token chain.self balance = some after ∧ after.toNat = l.dues ∧
      Drained s' l after := by
  cases h with
  | @paid balance beyond hbalance hbeyond _ =>
      have hleft : (balance.monus beyond).toNat = l.dues := by
        rw [Amount.toNat_monus]
        omega
      have hle : beyond ≤ balance := by
        rw [Amount.le_iff_toNat_le]
        omega
      exact ⟨balance, balance.monus beyond, hbalance, carry?_pay hother hle, hleft,
        drained_of_dues hwords hopen hleft⟩

/-- At any point of a run from a deployment, as long as the ledger is not deleted, an
    administrator who asks for the excess and then withdraws it to a valid target is paid
    what the answer says, whatever the token replies: a failure of the question is a
    failure of the withdrawal, nothing is refused, and anything else is paid by one
    message and leaves the store as it was. Once this is carried out to somebody else,
    the balance is what is owed, and there is no more excess to ask for or to withdraw. -/
theorem excess_paid_as_told [AddressRule] {chain : Chain} {deployer : Address} {d : Deployment}
    {found start s : Store} {receipt : Receipt} {log : List (Entry Call Receipt)}
    (hdeploy : deploy chain deployer d found = .ok (start, receipt))
    (hrun : Run Call.perform start s log) :
    ∃ l, item.load s = .ok l ∧ (l.deleted = false → ∀ chain admin target,
      (Registry.ofStore s).holds .admin admin = true → Address.Valid target →
      AsTold chain s l ⟨target⟩ (query chain s .excess)
        (execute chain admin (.withdrawExcess target) s) ∧
      ∀ s' receipt, execute chain admin (.withdrawExcess target) s = .ok (s', receipt) →
        ⟨target⟩ ≠ chain.self →
        ∃ balance after, chain.balance l.token = .ok balance ∧
          receipt.carry? l.token chain.self balance = some after ∧ after.toNat = l.dues ∧
          Drained s' l after) := by
  rcases run_load hrun (deploy_load hdeploy) with ⟨l, hload⟩
  have hwords := run_get?_item hdeploy hrun hload
  refine ⟨l, hload, ?_⟩
  intro hopen chain admin target hadmin htarget
  have hagree := excess_asTold hwords hopen hadmin htarget chain
  refine ⟨hagree, ?_⟩
  intro s' receipt hcall hother
  rw [hcall] at hagree
  exact hagree.drains hwords hopen hother

/-- A ledger owes five. While the token states seven, two can be withdrawn, and once
    they are paid nothing more can be. -/
theorem excess_paid_as_told_of_two :
    ∃ start receipt s log beyond,
      deploy stillChain ⟨"deployer"⟩ smallTerms .empty = .ok (start, receipt) ∧
      Run Call.perform start s log ∧ beyond.toNat = 2 ∧
      execute (.stating ⟨"ledger"⟩ 99 ⟨7, by decide⟩) ⟨"deployer"⟩ (.withdrawExcess "heir") s =
        .ok (s, ⟨some (relayingBooks.ledger.pay ⟨"heir"⟩ beyond),
          .excessWithdrawn ⟨"heir"⟩ beyond⟩) ∧
      execute (.stating ⟨"ledger"⟩ 99 ⟨5, by decide⟩) ⟨"deployer"⟩ (.withdrawExcess "heir") s =
        .error (.invalidAmount .noExcess) := by
  rcases relay_smallTerms with ⟨start, receipt, s, log, hdeploy, hrun, hkept⟩
  rcases excess_paid_as_told hdeploy hrun with ⟨l, hload, htold⟩
  cases hkept.ledger.symm.trans hload
  have hadmin : (Registry.ofStore s).holds .admin ⟨"deployer"⟩ = true := by
    rw [hkept.registry_eq]
    rfl
  have hseven := Chain.balance_stating ⟨"ledger"⟩ 99 ⟨7, by decide⟩ ⟨"token"⟩
  rcases htold rfl (.stating ⟨"ledger"⟩ 99 ⟨7, by decide⟩) ⟨"deployer"⟩ "heir" hadmin (by decide)
    with ⟨hagree, hdrains⟩
  generalize hcall : execute (.stating ⟨"ledger"⟩ 99 ⟨7, by decide⟩) ⟨"deployer"⟩
    (.withdrawExcess "heir") s = result at hagree hdrains
  generalize query _ s .excess = answer at hagree
  cases hagree with
  | silent hbalance => cases hseven.symm.trans hbalance
  | noSum _ hdues => exact absurd hdues (by decide)
  | nothing hbalance hle =>
      cases hseven.symm.trans hbalance
      exact absurd hle (by decide)
  | @paid balance beyond hbalance hbeyond _ =>
      cases hseven.symm.trans hbalance
      rcases hdrains s _ rfl (by decide) with ⟨_, after, -, -, hafter, hdrained⟩
      have hfive : after = ⟨5, by decide⟩ := Amount.ext hafter
      rw [hfive] at hdrained
      refine ⟨start, receipt, s, log, beyond, hdeploy, hrun, Nat.add_left_cancel hbeyond.symm,
        hcall, ?_⟩
      exact hdrained.refused _ _ _ (Chain.balance_stating _ _ _ _) hadmin (by decide)

end Ledger

end BridgeCustody
