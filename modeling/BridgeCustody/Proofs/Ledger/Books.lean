import BridgeCustody.Proofs.Cell
import BridgeCustody.Proofs.Key
import BridgeCustody.Proofs.Ledger.Operation

/-!
# The Ledger's Books

A store is keys and texts. What the ledger reads out of it are three things: its
own value, who holds which role, and which swap was refunded with how much. These
are its books, and on them a call is a simple thing: one rule of `Performs`, one
value replaced, and at most one entry changed beside it.

`Books.KeptIn` says that a store keeps certain books. It is the only place where
the theory has to look at keys and at JSON: writing the value must not touch the
tables, an entry of one table must not be an entry of the other, and what was
written must be read again. Once `KeptIn.commit` is proved, calls are followed on
the books and the store is forgotten.

A store need not keep any books. The value may be missing or unreadable, and a
refund may be there that cannot be read. `execute_eq_ok_iff` is therefore about
any store, and only afterwards specialized to one that keeps books.

## Main definitions

* `Books`: What a store says, in terms of the ledger.
* `Books.KeptIn`: A store says that.
* `Books.registry`: The yes-or-no questions that operations may ask.
* `Change.post`, `Outcome.post`: The books after a change and after a call.

## Theorems

* `Registry.ofStore_congr`: Operations ask the tables only.
* `KeptIn.commit`, `KeptIn.migrate`: A store that kept books keeps the books
  afterwards.
* `execute_eq_ok_iff`: A call goes through as the rules say, on any store.
* `KeptIn.execute_eq_ok_iff`: The same on the books.
-/

namespace BridgeCustody

namespace Ledger

/-- What a store says, in terms of the ledger. -/
structure Books where
  ledger : Ledger
  holds : Role → Address → Bool
  refunds : UInt64 → Option Amount

namespace Books

/-- The questions that operations may ask, answered from the books. -/
def registry (b : Books) : Registry where
  holds := b.holds
  refunded id := (b.refunds id).isSome

/-- A store says what the books say. -/
structure KeptIn (b : Books) (s : Store) : Prop where
  ledger : item.load s = .ok b.ledger
  holds : ∀ role a, (roleCell role a).occupied s = b.holds role a
  refunds : ∀ id, (refundCell id).read? s = .ok (b.refunds id)

/-- Books with the answer to one question about roles replaced. -/
def withHolding (b : Books) (role : Role) (a : Address) (held : Bool) : Books :=
  { b with holds := fun role' a' =>
      if role' = role ∧ a' = a then held else b.holds role' a' }

/-- Books with the record of one swap replaced. -/
def withRefund (b : Books) (id : UInt64) (amount : Amount) : Books :=
  { b with refunds := fun id' => if id' = id then some amount else b.refunds id' }

theorem registry_refunded (b : Books) (id : UInt64) :
    b.registry.refunded id = (b.refunds id).isSome := rfl

theorem withHolding_holds (b : Books) (role role' : Role) (a a' : Address) (held : Bool) :
    (b.withHolding role a held).holds role' a' =
      if role' = role ∧ a' = a then held else b.holds role' a' := rfl

theorem withRefund_refunds (b : Books) (id id' : UInt64) (amount : Amount) :
    (b.withRefund id amount).refunds id' = if id' = id then some amount else b.refunds id' := rfl

end Books

/-- The books after a change. -/
def Change.post (b : Books) : Change → Books
  | nothing => b
  | grant role holder => b.withHolding role holder true
  | revoke role holder => b.withHolding role holder false
  | refund id amount => b.withRefund id amount

/-- The books after a call with this outcome. -/
def Outcome.post (out : Outcome) (b : Books) : Books :=
  { out.change.post b with ledger := out.ledger }

theorem Change.get?_apply_of_ne (change : Change) (s : Store) (key : Bytes)
    (hrole : ∀ role a, (roleCell role a).key ≠ key) (hrefund : ∀ id, (refundCell id).key ≠ key) :
    (change.apply s).get? key = s.get? key := by
  cases change with
  | nothing => rfl
  -- Each change touches one key, and none of these is it.
  | grant role holder => exact (Cell.get?_occupy _ _ _).trans (if_neg (hrole role holder))
  | revoke role holder => exact (Cell.get?_clear _ _ _).trans (if_neg (hrole role holder))
  | refund id amount => exact Cell.get?_write_of_ne _ _ _ (hrefund id)

/-- A committed ledger is loaded again, whatever the store was. -/
theorem Outcome.load_commit (out : Outcome) (s : Store) :
    item.load (out.commit s) = .ok out.ledger :=
  Item.load_write item out.ledger _

theorem Outcome.get?_item (out : Outcome) (s : Store) :
    (out.commit s).get? item.key = some (Wire.encode out.ledger) := by
  rw [Outcome.commit, Cell.get?_write, if_pos rfl]

theorem Outcome.get?_commit_of_ne (out : Outcome) (s : Store) {key : Bytes}
    (h : item.key ≠ key) : (out.commit s).get? key = (out.change.apply s).get? key :=
  Cell.get?_write_of_ne _ _ _ h

theorem Outcome.get?_roleCell (out : Outcome) (s : Store) (role : Role) (a : Address) :
    (out.commit s).get? (roleCell role a).key =
      (out.change.apply s).get? (roleCell role a).key :=
  out.get?_commit_of_ne s (item_key_ne_roleCell role a)

theorem Outcome.get?_refundCell (out : Outcome) (s : Store) (id : UInt64) :
    (out.commit s).get? (refundCell id).key = (out.change.apply s).get? (refundCell id).key :=
  out.get?_commit_of_ne s (item_key_ne_refundCell id)

/-- A refund that a call records is read again. -/
theorem Outcome.read?_refund (out : Outcome) (s : Store) {id : UInt64} {amount : Amount}
    (h : out.change = .refund id amount) :
    (refundCell id).read? (out.commit s) = .ok (some amount) := by
  refine Cell.read?_eq_some _ ?_
  rw [out.get?_refundCell, h]
  exact (Cell.get?_write _ _ _ _).trans (if_pos rfl)

theorem Registry.holds_ofStore (s : Store) (role : Role) (a : Address) :
    (Registry.ofStore s).holds role a = (s.get? (roleCell role a).key).isSome := rfl

/-- Operations get the same answers from stores that have the same tables. -/
theorem Registry.ofStore_congr {s t : Store}
    (hrole : ∀ role a, s.get? (roleCell role a).key = t.get? (roleCell role a).key)
    (hrefund : ∀ id, s.get? (refundCell id).key = t.get? (refundCell id).key) :
    Registry.ofStore s = Registry.ofStore t := by
  rw [ofStore, ofStore, mk.injEq]
  refine ⟨?_, ?_⟩
  · funext role a
    exact Cell.occupied_congr _ (hrole role a)
  · funext id
    exact Cell.occupied_congr _ (hrefund id)

/-- A migration touches the release record only. -/
theorem get?_migrate (s : Store) {key : Bytes} (h : Release.item.key ≠ key) :
    (migrate s).1.get? key = s.get? key :=
  Release.item.get?_write_of_ne .ofLedger s h

theorem Registry.ofStore_migrate (s : Store) :
    Registry.ofStore (migrate s).1 = Registry.ofStore s :=
  Registry.ofStore_congr (fun role a => get?_migrate s (release_key_ne_roleCell role a))
    fun id => get?_migrate s (release_key_ne_refundCell id)

namespace Books.KeptIn

variable {b : Books} {s t : Store}

/-- Operations get the same answers from the books as from the store. -/
theorem registry_eq (h : b.KeptIn s) : Registry.ofStore s = b.registry := by
  rw [Registry.ofStore, Books.registry, Registry.mk.injEq]
  refine ⟨?_, ?_⟩
  · funext role a
    exact h.holds role a
  · funext id
    exact Cell.occupied_of_read? _ (h.refunds id)

/-- Replacing what stands under the key of one role answers one question anew. -/
theorem occupied_replace (h : b.KeptIn s) (role : Role) (holder : Address) (text? : Option String)
    (ht : ∀ key, t.get? key = if (roleCell role holder).key = key then text? else s.get? key)
    (role' : Role) (a : Address) :
    (roleCell role' a).occupied t = (b.withHolding role holder text?.isSome).holds role' a := by
  rw [Cell.occupied_eq, ht, withHolding_holds]
  -- Different questions are answered under different keys.
  by_cases hsame : role' = role ∧ a = holder
  · rw [if_pos hsame, hsame.1, hsame.2, if_pos rfl]
  · rw [if_neg hsame, if_neg, ← h.holds, Cell.occupied_eq]
    intro hkey
    rcases roleCell_key_inj hkey with ⟨hrole, ha⟩
    exact hsame ⟨hrole.symm, ha.symm⟩

theorem read?_write (h : b.KeptIn s) (id : UInt64) (amount : Amount) (id' : UInt64) :
    (refundCell id').read? ((refundCell id).write amount s) =
      .ok ((b.withRefund id amount).refunds id') := by
  rw [withRefund_refunds]
  -- The record of another swap stands under another key.
  by_cases hsame : id' = id
  · rw [if_pos hsame, hsame, Cell.read?_write]
  · rw [if_neg hsame, ← h.refunds]
    refine Cell.read?_write_of_ne _ _ amount s ?_
    intro hkey
    exact hsame (refundCell_key_inj hkey).symm

/-- A change of one entry changes that entry of the books. -/
theorem apply (h : b.KeptIn s) (change : Change) : (change.post b).KeptIn (change.apply s) := by
  -- No change touches the value, whichever table it is made in.
  have hitem : (change.apply s).get? item.key = s.get? item.key :=
    change.get?_apply_of_ne s item.key (fun role a => (item_key_ne_roleCell role a).symm)
      fun id => (item_key_ne_refundCell id).symm
  cases change with
  | nothing => exact h
  | grant role holder =>
      refine ⟨(Item.load_congr _ hitem).trans h.ledger,
        h.occupied_replace role holder (some Mark.text) (Cell.get?_occupy _ _), ?_⟩
      intro id
      refine (Cell.read?_congr _ ?_).trans (h.refunds id)
      exact (Cell.get?_occupy _ _ _).trans (if_neg (roleCell_key_ne_refundCell role holder id))
  | revoke role holder =>
      refine ⟨(Item.load_congr _ hitem).trans h.ledger,
        h.occupied_replace role holder none (Cell.get?_clear _ _), ?_⟩
      intro id
      refine (Cell.read?_congr _ ?_).trans (h.refunds id)
      exact (Cell.get?_clear _ _ _).trans (if_neg (roleCell_key_ne_refundCell role holder id))
  | refund id amount =>
      refine ⟨(Item.load_congr _ hitem).trans h.ledger, ?_, h.read?_write id amount⟩
      intro role a
      have hother := (roleCell_key_ne_refundCell role a id).symm
      exact (Cell.occupied_write_of_ne _ _ _ s hother).trans (h.holds role a)

/-- Writing the value replaces it and leaves the tables as they were. -/
theorem write (h : b.KeptIn s) (l : Ledger) :
    Books.KeptIn { b with ledger := l } (item.write l s) where
  ledger := Item.load_write item l s
  holds role a :=
    (Cell.occupied_write_of_ne item.toCell _ l s (item_key_ne_roleCell role a)).trans
      (h.holds role a)
  refunds id :=
    (Cell.read?_write_of_ne item.toCell _ l s (item_key_ne_refundCell id)).trans (h.refunds id)

/-- The store after a call keeps the books after the call. -/
theorem commit (h : b.KeptIn s) (out : Outcome) : (out.post b).KeptIn (out.commit s) :=
  (h.apply out.change).write out.ledger

/-- A migration changes nothing in the books. -/
theorem migrate (h : b.KeptIn s) : b.KeptIn (Ledger.migrate s).1 where
  ledger := (item.load_write_of_ne Release.item.toCell _ s release_key_ne_item).trans h.ledger
  holds role a :=
    (Cell.occupied_write_of_ne Release.item.toCell _ _ s (release_key_ne_roleCell role a)).trans
      (h.holds role a)
  refunds id :=
    (Cell.read?_write_of_ne Release.item.toCell _ _ s (release_key_ne_refundCell id)).trans
      (h.refunds id)

end Books.KeptIn

/-- A call goes through as the rules say, on any store. -/
theorem execute_eq_ok_iff [AddressRule] {chain : Chain} {sender : Address} {message : Message}
    {s s' : Store} {receipt : Receipt} :
    execute chain sender message s = .ok (s', receipt) ↔
      ∃ l out, item.load s = .ok l ∧ l.deleted = false ∧
        Performs (.ofStore s) chain sender l message out ∧ s' = out.commit s ∧
        receipt = ⟨out.call, out.event⟩ := by
  -- Whether the ledger is deleted is asked before anything about the message.
  simp only [execute, bind_eq_ok_iff, ofHost_eq_ok_iff, ensure_eq_ok_iff, operate_eq_ok_iff,
    pure_eq_ok, Except.ok.injEq, Prod.mk.injEq, exists_and_left, exists_const]
  constructor
  · intro hcall
    rcases hcall with ⟨l, hload, hopen, out, hperf, rfl, rfl⟩
    exact ⟨l, hload, hopen, out, hperf, rfl, rfl⟩
  · intro hcall
    rcases hcall with ⟨l, hload, hopen, out, hperf, rfl, rfl⟩
    exact ⟨l, hload, hopen, out, hperf, rfl, rfl⟩

/-- On a store that holds a ledger that is not deleted, a call goes through if a rule
    lets it. -/
theorem exists_execute_eq_ok_iff [AddressRule] {s : Store} {l : Ledger} {chain : Chain}
    {sender : Address} {message : Message} (hload : item.load s = .ok l)
    (hopen : l.deleted = false) :
    (∃ s' receipt, execute chain sender message s = .ok (s', receipt)) ↔
      ∃ out, Performs (.ofStore s) chain sender l message out := by
  constructor
  · rintro ⟨s', receipt, hcall⟩
    rcases execute_eq_ok_iff.mp hcall with ⟨l', out, hload', -, hperf, -, -⟩
    -- There is only one value to load.
    cases hload.symm.trans hload'
    exact ⟨out, hperf⟩
  · rintro ⟨out, hperf⟩
    exact ⟨_, _, execute_eq_ok_iff.mpr ⟨l, out, hload, hopen, hperf, rfl, rfl⟩⟩

/-- A call goes through as the rules say on the books that the store keeps. -/
theorem Books.KeptIn.execute_eq_ok_iff [AddressRule] {b : Books} {s : Store} (h : b.KeptIn s)
    {chain : Chain} {sender : Address} {message : Message} {s' : Store} {receipt : Receipt} :
    execute chain sender message s = .ok (s', receipt) ↔
      b.ledger.deleted = false ∧ ∃ out, Performs b.registry chain sender b.ledger message out ∧
        s' = out.commit s ∧ receipt = ⟨out.call, out.event⟩ := by
  -- The books say which value is loaded and what the roles and the record answer.
  rw [Ledger.execute_eq_ok_iff, h.registry_eq, h.ledger]
  constructor
  · intro hcall
    rcases hcall with ⟨l, out, hl, hopen, hperf, hs, hr⟩
    cases hl
    exact ⟨hopen, out, hperf, hs, hr⟩
  · intro hcall
    rcases hcall with ⟨hopen, out, hperf, hs, hr⟩
    exact ⟨b.ledger, out, rfl, hopen, hperf, hs, hr⟩

end Ledger

end BridgeCustody
