import BridgeCustody.Proofs.Ledger.Books

/-!
# Two Ledgers Side by Side

That a part of the ledger does not matter to a call is a claim about two runs: on
two stores that differ in that part and in nothing else, the call is refused with
the same error, or goes through, is reported in the same words, and leaves stores
that differ as they did before. The rules of `Performs` are not enough to show
it. They say nothing of refusals, and a refusal may give the part away as well as
a success.

Two values that differ in a part are one value changed in two ways, once by `u`
and once by `v`. An operation is blind to a change if it makes no difference
whether the value is changed before the operation or afterwards. This is one
equation for each operation, it covers refusals, and it speaks of one change
only. What follows for two stores and for whole calls is the same for every
change and is proved here once.

## Main definitions

* `Outcome.update`: An outcome with another value.
* `Message.Blind`: A message whose operation does not see a change.
* `BesideBooks`: A change that the bookkeeping of payouts does not see.
* `Apart`: Two stores that hold one value changed in two ways.
* `Alike`: Two results that differ in their stores only.

## Theorems

* `BesideBooks.lowerSupply`, `BesideBooks.settle`: Payouts go on beside such a
  change.
* `Change.get?_apply_congr`: A change sees of a store what stands under its key.
* `Apart.execute_of_update`, `Apart.execute`: A call goes alike on stores that are
  apart if its operation hands the changes on, as a blind one does.
-/

namespace BridgeCustody

namespace Ledger

/-- An outcome with its value changed. -/
def Outcome.update (u : Ledger → Ledger) (out : Outcome) : Outcome :=
  { out with ledger := u out.ledger }

/-- It makes no difference to a message whether the value is changed before its
    operation or afterwards. -/
def Message.Blind [AddressRule] (u : Ledger → Ledger) (message : Message) : Prop :=
  ∀ g chain sender l, (u l).operate g chain sender message =
    Outcome.update u <$> l.operate g chain sender message

/-- A change beside the books: it does not touch what a payout looks at and writes,
    nor do these writes touch it. -/
structure BesideBooks (u : Ledger → Ledger) : Prop where
  supply_eq : ∀ l, (u l).supply = l.supply
  allowance_eq : ∀ l, (u l).allowance = l.allowance
  fees_eq : ∀ l, (u l).fees = l.fees
  reverseLimits_eq : ∀ l, (u l).reverseLimits = l.reverseLimits
  write_supply : ∀ l supply, u { l with supply := supply } = { u l with supply := supply }
  write_rest : ∀ l allowance fees, u { l with allowance := allowance, fees := fees } =
    { u l with allowance := allowance, fees := fees }

/-- Two stores that hold one value, changed by `u` in the one and by `v` in the
    other, and are the same beside it. -/
structure Apart (u v : Ledger → Ledger) (s t : Store) : Prop where
  values : ∃ l, item.load s = .ok (u l) ∧ item.load t = .ok (v l)
  beside : ∀ key, key ≠ item.key → s.get? key = t.get? key

/-- Two results of a call: the same refusal, or the same receipt with stores that
    are related. -/
inductive Alike (R : Store → Store → Prop) :
    Except Error (Store × Receipt) → Except Error (Store × Receipt) → Prop
  | refused {e} : Alike R (.error e) (.error e)
  | went {s t receipt} (h : R s t) : Alike R (.ok (s, receipt)) (.ok (t, receipt))

theorem Alike.imp {R R' : Store → Store → Prop} {r r' : Except Error (Store × Receipt)}
    (h : Alike R r r') (himp : ∀ s t, R s t → R' s t) : Alike R' r r' := by
  cases h with
  | refused => exact .refused
  | went h => exact .went (himp _ _ h)

/-- What stands under a key after a change depends on what stood there before. -/
theorem Change.get?_apply_congr (change : Change) {s t : Store} {key : Bytes}
    (h : s.get? key = t.get? key) : (change.apply s).get? key = (change.apply t).get? key := by
  cases change with
  | nothing => exact h
  | grant role holder => rw [apply, apply, Cell.get?_occupy, Cell.get?_occupy, h]
  | revoke role holder => rw [apply, apply, Cell.get?_clear, Cell.get?_clear, h]
  | refund id amount => rw [apply, apply, Cell.get?_write, Cell.get?_write, h]

namespace BesideBooks

variable {u : Ledger → Ledger}

/-- Payouts do not see a change beside the books. -/
theorem lowerSupply (h : BesideBooks u) (l : Ledger) (amount : Amount) :
    (u l).lowerSupply amount = u <$> l.lowerSupply amount := by
  rw [Ledger.lowerSupply, Ledger.lowerSupply, h.supply_eq]
  cases l.supply.sub? amount with
  | none => rfl
  | some supply => exact congrArg Except.ok (h.write_supply l supply).symm

theorem settle (h : BesideBooks u) (l : Ledger) (amount fee : Amount) :
    (u l).settle amount fee =
      (fun result => (u result.1, result.2)) <$> l.settle amount fee := by
  rw [Ledger.settle, Ledger.settle, h.lowerSupply, h.allowance_eq, h.fees_eq,
    h.reverseLimits_eq]
  simp only [map_bind, bind_map_left, map_pure]
  -- Both go through the same checks, and then one has yet to write what the other wrote.
  refine bind_congr fun _ => bind_congr fun _ => bind_congr fun allowance =>
    bind_congr fun lowered => bind_congr fun fees => bind_congr fun paid => ?_
  exact congrArg (fun l => Except.ok (l, paid)) (h.write_rest lowered allowance fees).symm

end BesideBooks

namespace Apart

variable {u v : Ledger → Ledger} {s t : Store}

/-- For every store that holds a ledger there is one that is apart from it. -/
theorem of_write {l : Ledger} (hload : item.load s = .ok l) (hu : u l = l) (v : Ledger → Ledger) :
    Apart u v s (item.write (v l) s) where
  values := ⟨l, by rw [hu, hload], item.load_write _ s⟩
  beside key hkey := (Cell.get?_write_of_ne _ _ s hkey.symm).symm

theorem ofStore_eq (h : Apart u v s t) : Registry.ofStore s = Registry.ofStore t :=
  Registry.ofStore_congr (fun role a => h.beside _ (item_key_ne_roleCell role a).symm)
    fun id => h.beside _ (item_key_ne_refundCell id).symm

/-- Outcomes that are one outcome changed in two ways leave stores apart. -/
theorem commit (h : Apart u v s t) (u' v' : Ledger → Ledger) (out : Outcome) :
    Apart u' v' ((out.update u').commit s) ((out.update v').commit t) where
  values := ⟨out.ledger, (out.update u').load_commit s, (out.update v').load_commit t⟩
  beside key hkey := by
    rw [Outcome.get?_commit_of_ne _ s hkey.symm, Outcome.get?_commit_of_ne _ t hkey.symm]
    exact out.change.get?_apply_congr (h.beside key hkey)

/-- A call whose operation makes of either change one to its outcome goes alike on
    stores that are apart. -/
theorem execute_of_update [AddressRule] (h : Apart u v s t)
    (hdeleted : ∀ l, (u l).deleted = (v l).deleted) {message : Message} {u' v' : Ledger → Ledger}
    (hu : ∀ g chain sender l, (u l).operate g chain sender message =
      Outcome.update u' <$> l.operate g chain sender message)
    (hv : ∀ g chain sender l, (v l).operate g chain sender message =
      Outcome.update v' <$> l.operate g chain sender message)
    (chain : Chain) (sender : Address) :
    Alike (Apart u' v') (execute chain sender message s) (execute chain sender message t) := by
  rcases h.values with ⟨l, hs, ht⟩
  have hs' : ofHost (item.load s) = .ok (u l) := ofHost_eq_ok_iff.mpr hs
  have ht' : ofHost (item.load t) = .ok (v l) := ofHost_eq_ok_iff.mpr ht
  simp only [Ledger.execute, hs', ht', ok_bind, ensure_bind, hdeleted l, hu _ _ _ l, hv _ _ _ l,
    h.ofStore_eq]
  split
  · -- What is left is the one operation on the value before either change.
    cases l.operate (.ofStore t) chain sender message with
    | error e => exact .refused
    | ok out => exact .went (h.commit u' v' out)
  · exact .refused

/-- A call that is blind to both changes goes alike on stores that are apart. -/
theorem execute [AddressRule] (h : Apart u v s t) (hdeleted : ∀ l, (u l).deleted = (v l).deleted)
    {message : Message} (hu : message.Blind u) (hv : message.Blind v) (chain : Chain)
    (sender : Address) :
    Alike (Apart u v) (execute chain sender message s) (execute chain sender message t) :=
  h.execute_of_update hdeleted hu hv chain sender

end Apart

end Ledger

end BridgeCustody
