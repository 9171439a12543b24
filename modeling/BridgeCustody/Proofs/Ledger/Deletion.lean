import BridgeCustody.Ledger.Query
import BridgeCustody.Proofs.Ledger.Refusal
import BridgeCustody.Proofs.Ledger.Value

/-!
# Deletion Is Final

A ledger is deleted once, and what it says then it says for good. Those who rely
on it are owed two things: that it cannot happen to them all of a sudden, and
that nobody goes on with the ledger afterwards as if nothing had happened.

The first is a matter of a block that is fixed at the deployment. It is the
height of the deployment and the protection period, and if the sum is too large
for a height it is the largest height, which no sum that wraps around would be.
No operation writes it, so a deletion at any time has waited for it.

The second is a matter of order. Whether the ledger is deleted is the first thing
that a call is asked, before anything about the call itself, so all calls are
refused alike. What is left are migrations, and they touch the release record
only.

## Main definitions

* `deletableFrom`: The block from which a ledger may be deleted.
* `DeletedBy`: An entry is a deletion by an administrator, from a block on.
* `Guarded`: The block is kept, and nothing but a deletion deletes.
* `Frozen`: A store is what a deletion left, and nothing can be done on it.

## Theorems

* `Turns.deleted`: What a call that deletes the ledger must have been.
* `execute_of_deleted`: On a deleted ledger every call is refused alike.
* `run_guarded`: The block along a run.
* `run_frozen`: What a deletion left stays.
* `deletion_guarded_and_final`: Both, for all runs from a deployment.
-/

namespace BridgeCustody

namespace Ledger

/-- The block from which a ledger may be deleted that was deployed at a height with
    a protection period: their sum, or the largest height. -/
def deletableFrom (height period : UInt64) : Nat :=
  min (height.toNat + period.toNat) (UInt64.size - 1)

/-- An entry is a deletion that an administrator asked for, at a block or later. -/
def DeletedBy (block : Nat) (e : Entry Call Receipt) : Prop :=
  ∃ chain a target, e.call = .execute chain a (.delete target) ∧
    (Registry.ofStore e.before).holds .admin a = true ∧ block ≤ chain.height.toNat

/-- A value against the log since the deployment: it keeps the block from which it
    may be deleted, and if it is deleted then by a deletion in the log. -/
structure Guarded (block : Nat) (l : Ledger) (log : List (Entry Call Receipt)) : Prop where
  block_eq : l.earliestDelete.toNat = block
  deleted : l.deleted = true → ∃ e ∈ log, DeletedBy block e

/-- A store is what was left of a deleted ledger with this value. The value, the
    roles and the record of refunds are those that were left, as is all else but
    the release record. Every call is refused, and the value is still told. -/
structure Frozen [AddressRule] (l : Ledger) (left s : Store) : Prop where
  kept : ∀ key, key ≠ Release.item.key → s.get? key = left.get? key
  load : item.load s = .ok l
  registry : Registry.ofStore s = Registry.ofStore left
  refunds : ∀ id, (refundCell id).read? s = (refundCell id).read? left
  refused : ∀ chain a message, execute chain a message s = .error .deleted
  told : ∀ chain, query chain s .state = .ok (.state l)

section Steps

variable [AddressRule] {s s' : Store} {l l' : Ledger} {call : Call} {receipt : Receipt}

theorem Turns.earliestDelete_eq (h : Turns s l call receipt l') :
    l'.earliestDelete = l.earliestDelete := by
  cases h with
  | execute _ hperf => cases hperf <;> rfl
  | migrate => rfl

/-- A call after which the ledger is deleted, and before it was not, was a deletion
    by an administrator who has waited. -/
theorem Turns.deleted (h : Turns s l call receipt l') (hopen : l.deleted = false)
    (hdeleted : l'.deleted = true) :
    ∃ chain a target, call = .execute chain a (.delete target) ∧
      (Registry.ofStore s).holds .admin a = true ∧ l.earliestDelete ≤ chain.height := by
  cases h with
  | execute _ hperf =>
      cases hperf with
      | delete hadmin hheight => exact ⟨_, _, _, rfl, hadmin, hheight⟩
      | _ => exact absurd (hopen.symm.trans hdeleted) Bool.false_ne_true
  | migrate => exact absurd (hopen.symm.trans hdeleted) Bool.false_ne_true

/-- A deletion leaves nothing in the books, and the ledger deleted. -/
theorem Turns.of_delete {chain : Chain} {a : Address} {target : String}
    (h : Turns s l (.execute chain a (.delete target)) receipt l') :
    l' = { l with supply := .zero, fees := .zero, deleted := true } := by
  cases h with
  | execute _ hperf =>
      cases hperf with
      | delete => rfl

/-- The guard is kept by every call. -/
theorem Guarded.step {block : Nat} {log : List (Entry Call Receipt)} {e : Entry Call Receipt}
    (hguarded : Guarded block l log) (h : Turns e.before l e.call e.report l') :
    Guarded block l' (log ++ [e]) where
  block_eq := by rw [h.earliestDelete_eq, hguarded.block_eq]
  deleted hdeleted := by
    cases hopen : l.deleted with
    | true =>
        rcases hguarded.deleted hopen with ⟨e', he', hdeletes⟩
        exact ⟨e', List.mem_append_left _ he', hdeletes⟩
    | false =>
        -- Then it is this call that deletes, and it has met the block.
        rcases h.deleted hopen hdeleted with ⟨chain, a, target, hcall, hadmin, hheight⟩
        rw [UInt64.le_iff_toNat_le, hguarded.block_eq] at hheight
        exact exists_mem_snoc.mpr (.inr ⟨chain, a, target, hcall, hadmin, hheight⟩)

/-- On a deleted ledger every call is refused alike. -/
theorem execute_of_deleted (hload : item.load s = .ok l) (hdeleted : l.deleted = true)
    (chain : Chain) (a : Address) (message : Message) :
    execute chain a message s = .error .deleted := by
  simp only [execute, ofHost_eq_ok_iff.mpr hload, ok_bind, ensure_bind, hdeleted,
    Bool.true_eq_false, if_false]

/-- So what goes through is a migration. -/
theorem Call.perform_of_deleted (hload : item.load s = .ok l) (hdeleted : l.deleted = true)
    (hcall : call.perform s = .ok (s', receipt)) : call = .migrate ∧ s' = (Ledger.migrate s).1 := by
  cases call with
  | execute chain a message =>
      rw [Call.perform, execute_of_deleted hload hdeleted] at hcall
      cases hcall
  | migrate =>
      cases hcall
      exact ⟨rfl, rfl⟩

end Steps

section Runs

variable [AddressRule] {left s : Store} {l : Ledger} {log : List (Entry Call Receipt)}

theorem Frozen.of_kept (hload : item.load left = .ok l) (hdeleted : l.deleted = true)
    (hkept : ∀ key, key ≠ Release.item.key → s.get? key = left.get? key) : Frozen l left s := by
  have hvalue : item.load s = .ok l :=
    (item.load_congr (hkept _ release_key_ne_item.symm)).trans hload
  have hrefund : ∀ id, s.get? (refundCell id).key = left.get? (refundCell id).key :=
    fun id => hkept _ (release_key_ne_refundCell id).symm
  refine ⟨hkept, hvalue, ?_, ?_, execute_of_deleted hvalue hdeleted, ?_⟩
  · exact Registry.ofStore_congr (fun role a => hkept _ (release_key_ne_roleCell role a).symm)
      hrefund
  · exact fun id => (refundCell id).read?_congr (hrefund id)
  · intro chain
    rw [query, hvalue]
    rfl

/-- From a deployment on the ledger is guarded by the block that was fixed then. -/
theorem run_guarded {chain : Chain} {deployer : Address} {d : Deployment} {found start : Store}
    {receipt : Receipt} (hdeploy : deploy chain deployer d found = .ok (start, receipt))
    (hrun : Run Call.perform start s log) :
    ∃ l, item.load s = .ok l ∧ Guarded (deletableFrom chain.height d.protectionPeriod) l log := by
  have hfresh : Guarded (deletableFrom chain.height d.protectionPeriod)
      (fresh ⟨d.token⟩ chain.height d) [] :=
    ⟨Word.toNat_saturatingAdd _ _, fun hdeleted => absurd hdeleted Bool.false_ne_true⟩
  exact run_value hrun (deploy_load hdeploy) hfresh fun _ _ _ _ hguarded hturns =>
    hguarded.step hturns

/-- What a deletion left stays as it is, whatever is tried. -/
theorem run_frozen (hrun : Run Call.perform left s log) (hload : item.load left = .ok l)
    (hdeleted : l.deleted = true) : Frozen l left s ∧ ∀ e ∈ log, e.call = .migrate := by
  refine hrun.logged (P := fun s log => Frozen l left s ∧ ∀ e ∈ log, e.call = .migrate)
    ⟨.of_kept hload hdeleted fun _ _ => rfl, List.forall_mem_nil _⟩ ?_
  rintro call s s' report log ⟨hfrozen, hmigrations⟩ hcall
  rcases Call.perform_of_deleted hfrozen.load hdeleted hcall with ⟨rfl, rfl⟩
  refine ⟨.of_kept hload hdeleted ?_, forall_mem_snoc.mpr ⟨hmigrations, rfl⟩⟩
  intro key hkey
  exact (get?_migrate s hkey.symm).trans (hfrozen.kept key hkey)

/-- In a run from a deployment, the block from which the ledger may be deleted is the
    one fixed at the deployment, and if the ledger is deleted then an administrator
    asked for it at that block or later. After a deletion nothing is in the books,
    and what is left is frozen: every call is refused, and only migrations, which
    touch the release record only, go through. -/
theorem deletion_guarded_and_final {chain : Chain} {deployer : Address} {d : Deployment}
    {found start : Store} {receipt : Receipt}
    (hdeploy : deploy chain deployer d found = .ok (start, receipt))
    (hrun : Run Call.perform start s log) :
    (∃ l, item.load s = .ok l ∧
      l.earliestDelete.toNat = deletableFrom chain.height d.protectionPeriod ∧
      (l.deleted = true →
        ∃ e ∈ log, DeletedBy (deletableFrom chain.height d.protectionPeriod) e)) ∧
    ∀ pre e post chain' a target, log = pre ++ e :: post →
      e.call = .execute chain' a (.delete target) →
      ∃ l, l.deleted = true ∧ l.supply = .zero ∧ l.fees = .zero ∧
        Frozen l e.after e.after ∧ Frozen l e.after s ∧ ∀ e' ∈ post, e'.call = .migrate := by
  refine ⟨?_, ?_⟩
  · rcases run_guarded hdeploy hrun with ⟨l, hl, hguarded⟩
    exact ⟨l, hl, hguarded.block_eq, hguarded.deleted⟩
  · rintro pre e post chain' a target rfl hmessage
    have he : e ∈ pre ++ e :: post := List.mem_append_right _ List.mem_cons_self
    rcases run_turns hrun (deploy_load hdeploy) he with ⟨_, l, -, hl, hturns⟩
    rcases hrun.entry with ⟨-, -, hpost⟩
    rw [hmessage] at hturns
    have hleft := hturns.of_delete
    have hdeleted : l.deleted = true := by rw [hleft]
    rcases run_frozen hpost hl hdeleted with ⟨hfrozen, hmigrations⟩
    exact ⟨l, hdeleted, by rw [hleft], by rw [hleft], .of_kept hl hdeleted fun _ _ => rfl,
      hfrozen, hmigrations⟩

end Runs

/-- A ledger deployed at block ten with ten blocks of protection is deleted at block
    twenty and then migrated. Its administrator is refused, and its value is told. -/
theorem deletion_guarded_and_final_at_twenty :
    ∃ start receipt e e' s l,
      deploy stillChain ⟨"deployer"⟩ smallTerms .empty = .ok (start, receipt) ∧
      Run Call.perform start s [e, e'] ∧
      e.call = .execute (.stating ⟨"ledger"⟩ 20 .zero) ⟨"deployer"⟩ (.delete "customer") ∧
      e'.call = .migrate ∧ deletableFrom stillChain.height smallTerms.protectionPeriod = 20 ∧
      item.load s = .ok l ∧ l.earliestDelete.toNat = 20 ∧ l.deleted = true ∧ l.supply = .zero ∧
      execute stillChain ⟨"deployer"⟩ (.setCap ⟨7, by decide⟩) s = .error .deleted ∧
      query stillChain s .state = .ok (.state l) := by
  rcases deploy_smallTerms with ⟨start, receipt, hdeploy, hkept⟩
  have hdeletes : Performs (smallBooks .zero).registry (.stating ⟨"ledger"⟩ 20 .zero)
      ⟨"deployer"⟩ (smallBooks .zero).ledger (.delete "customer") _ :=
    .delete rfl (by decide) (by decide) (Chain.balance_stating _ _ _ _)
  rcases hkept.proceeds rfl hdeletes with ⟨left, hdelete, -⟩
  have hrun := (run_execute .here hdelete).went (show Call.migrate.perform left = _ from rfl)
  rcases deletion_guarded_and_final hdeploy hrun with ⟨⟨l, hl, hblock, -⟩, hfinal⟩
  rcases hfinal [] _ [_] _ _ _ rfl rfl with ⟨l', hdeleted, hsupply, -, -, hfrozen, -⟩
  cases hl.symm.trans hfrozen.load
  exact ⟨start, receipt, _, _, _, l, hdeploy, hrun, rfl, rfl, rfl, hl, hblock, hdeleted, hsupply,
    hfrozen.refused _ _ _, hfrozen.told _⟩

end Ledger

end BridgeCustody
