import BridgeCustody.Proofs.Committee.Minutes
import BridgeCustody.Proofs.Ledger.Roles

/-!
# Every Place Has a Key of Its Own

The contracts never look at keys. They ask who holds a role or what was refunded,
and the store answers from whatever stands under some bytes. Everything that is
known about the two contracts rests on these questions being separate, so it is
worth saying on the bytes themselves, for any store at all: one that no call has
led to, that holds values nobody can read, or keys that nobody has written.

The questions are listed as places. That no two places share a key is the whole
argument. What is saved at one place is then not seen from any other, and this is
all that has to be said of the various ways of saving.

Listing the holders of a role is the one question that does not go to a single
key. It goes to all keys with a common start, so a place of another kind must not
even start like a role. Here the holder is what is left of the key, and any bytes
can be left, the name of another role among them. The lengths in front are what
tells the two apart.

## Main definitions

* `Ledger.Place`, `Committee.Place`: The places of the two stores, with their keys.
* `Ledger.Place.SameAnswer`, `Committee.Place.SameAnswer`: Two stores answer alike
  at a place.
* `Ledger.Saves`, `Committee.Saves`: Something is saved at a place.
* `Ledger.Flips`: One membership is the other way round, and nothing else is.

## Theorems

* `Store.below_congr`: A scan depends on the keys under its start.
* `Ledger.Place.roleStart_append_eq_key_iff`: What starts like a role is one of its
  memberships.
* `Ledger.Place.key_inj`, `Committee.Place.key_inj`: The key names the place.
* `Ledger.Saves.sameAnswer`, `Committee.Saves.sameAnswer`: What is saved at one
  place is not seen from another.
* `Ledger.grant_flips`, `Ledger.revoke_flips`, `Ledger.execute_flips`: A grant and a
  revocation flip one membership.
* `places_keep_apart`: All of it, for both contracts and any store.
-/

namespace BridgeCustody

namespace Store

/-- A scan picks entries by their keys and cuts off the start. -/
theorem below_eq_map (s : Store) (start : Bytes) :
    s.below start = (s.map.filter fun key _ => start.isPrefixOf key).toList.map
      fun entry => (entry.1.drop start.length, entry.2) := by
  rw [Std.ExtTreeMap.toList_filter, ← List.filterMap_eq_map, List.filterMap_filter]
  rfl

/-- A scan depends on what stands under the keys with its start, and on nothing
    else. -/
theorem below_congr {s t : Store} {start : Bytes}
    (h : ∀ rest, t.get? (start ++ rest) = s.get? (start ++ rest)) :
    t.below start = s.below start := by
  have hfilter : (t.map.filter fun key _ => start.isPrefixOf key) =
      s.map.filter fun key _ => start.isPrefixOf key := by
    refine Std.ExtTreeMap.ext_getElem? fun {key} => ?_
    rw [Std.ExtTreeMap.getElem?_filter', Std.ExtTreeMap.getElem?_filter']
    by_cases hstart : start.isPrefixOf key = true
    · rcases List.isPrefixOf_iff_prefix.mp hstart with ⟨rest, rfl⟩
      have hsame : t.map[start ++ rest]? = s.map[start ++ rest]? := h rest
      rw [hsame]
    · -- Neither filter lets this key pass.
      have hnone : ∀ o : Option String, o.filter (fun _ => start.isPrefixOf key) = none :=
        fun o => Option.filter_eq_none_iff.mpr fun _ _ => hstart
      rw [hnone, hnone]
  rw [below_eq_map, below_eq_map, hfilter]

end Store

namespace Ledger

/-- The places of the ledger's store. -/
inductive Place
  | release
  | value
  | role (r : Role) (a : Address)
  | refund (id : UInt64)
deriving DecidableEq

namespace Place

/-- The key of a place. -/
def key : Place → Bytes
  | release => Release.item.key
  | value => item.key
  | role r a => (roleCell r a).key
  | refund id => (refundCell id).key

/-- Two stores answer alike at a place, whichever way they are asked. -/
def SameAnswer (s t : Store) : Place → Prop
  | release => Release.item.load t = Release.item.load s
  | value => item.load t = item.load s
  | role r a => (Registry.ofStore t).holds r a = (Registry.ofStore s).holds r a
  | refund id => (refundCell id).read? t = (refundCell id).read? s ∧
      (Registry.ofStore t).refunded id = (Registry.ofStore s).refunded id

variable {p q : Place} {s t : Store}

/-- What starts like the memberships of a role is a membership of that role, and
    what is left is the holder. -/
theorem roleStart_append_eq_key_iff {r : Role} {rest : Bytes} :
    roleStart r ++ rest = p.key ↔ ∃ a, p = .role r a ∧ a.bytes = rest := by
  constructor
  · intro h
    rw [roleStart_eq, List.append_assoc] at h
    cases p with
    | release => exact absurd h.symm (Key.single_ne_measured _ _ _ (by decide) (by decide))
    | value => exact absurd h.symm (Key.single_ne_measured _ _ _ (by decide) (by decide))
    | role r' a =>
        rw [key, roleCell, roleStart_eq, List.append_assoc] at h
        rcases Key.measured_append_inj (by decide) (by decide) h with ⟨-, hparts⟩
        rcases Key.measured_append_inj r.length_name_lt r'.length_name_lt hparts with
          ⟨hname, hrest⟩
        have hrole : r = r' := Role.name_inj.mp (Bytes.ofText_inj.mp hname)
        exact ⟨a, by rw [hrole], hrest.symm⟩
    | refund id =>
        rw [key, refundCell_key] at h
        rcases Key.measured_append_inj (by decide) (by decide) h with ⟨hname, -⟩
        exact absurd (Bytes.ofText_inj.mp hname) (by decide)
  · intro h
    rcases h with ⟨a, rfl, rfl⟩
    rfl

/-- The key of a place names the place. -/
theorem key_inj (h : p.key = q.key) : p = q := by
  cases p with
  | role r a =>
      -- The other key starts like this role, so it is one of its memberships.
      rcases roleStart_append_eq_key_iff.mp h with ⟨a', rfl, ha⟩
      rw [Address.bytes_inj ha]
  | release =>
      cases q with
      | release => rfl
      | value => exact absurd h release_key_ne_item
      | role r a => exact absurd h (release_key_ne_roleCell r a)
      | refund id => exact absurd h (release_key_ne_refundCell id)
  | value =>
      cases q with
      | release => exact absurd h.symm release_key_ne_item
      | value => rfl
      | role r a => exact absurd h (item_key_ne_roleCell r a)
      | refund id => exact absurd h (item_key_ne_refundCell id)
  | refund id =>
      cases q with
      | release => exact absurd h.symm (release_key_ne_refundCell id)
      | value => exact absurd h.symm (item_key_ne_refundCell id)
      | role r a => exact absurd h.symm (roleCell_key_ne_refundCell r a id)
      | refund id' => rw [refundCell_key_inj h]

theorem key_eq_iff : p.key = q.key ↔ p = q :=
  ⟨key_inj, congrArg key⟩

/-- The answer at a place depends on what stands under its key. -/
theorem sameAnswer_of_get? (h : t.get? p.key = s.get? p.key) : p.SameAnswer s t := by
  cases p with
  | release => exact Item.load_congr _ h
  | value => exact Item.load_congr _ h
  | role r a => exact Cell.occupied_congr _ h
  | refund id => exact ⟨Cell.read?_congr _ h, Cell.occupied_congr _ h⟩

end Place

/-- Something is saved at a place. -/
inductive Saves : Place → Store → Store → Prop
  | release (r : Release) (s : Store) : Saves .release s (Release.item.write r s)
  | value (l : Ledger) (s : Store) : Saves .value s (item.write l s)
  | grant (r : Role) (a : Address) (s : Store) : Saves (.role r a) s ((roleCell r a).occupy s)
  | revoke (r : Role) (a : Address) (s : Store) : Saves (.role r a) s ((roleCell r a).clear s)
  | refund (id : UInt64) (amount : Amount) (s : Store) :
      Saves (.refund id) s ((refundCell id).write amount s)

namespace Saves

variable {p q : Place} {s t : Store}

/-- Only what stands under the key of the place is another. -/
theorem get?_of_ne (h : Saves p s t) {key : Bytes} (hkey : key ≠ p.key) :
    t.get? key = s.get? key := by
  cases h with
  | release r => exact Cell.get?_write_of_ne _ _ _ hkey.symm
  | value l => exact Cell.get?_write_of_ne _ _ _ hkey.symm
  | grant r a => exact (Cell.get?_occupy _ _ _).trans (if_neg hkey.symm)
  | revoke r a => exact (Cell.get?_clear _ _ _).trans (if_neg hkey.symm)
  | refund id amount => exact Cell.get?_write_of_ne _ _ _ hkey.symm

/-- What is saved at one place is not seen from another. -/
theorem sameAnswer (h : Saves p s t) (hne : q ≠ p) : q.SameAnswer s t :=
  Place.sameAnswer_of_get? (h.get?_of_ne fun hkey => hne (Place.key_inj hkey))

/-- A list of holders does not see what is saved at places of another kind or of
    another role. -/
theorem below_eq (h : Saves p s t) {r : Role} (hne : ∀ a, p ≠ .role r a) :
    t.below (roleStart r) = s.below (roleStart r) := by
  refine Store.below_congr fun rest => h.get?_of_ne fun hkey => ?_
  rcases Place.roleStart_append_eq_key_iff.mp hkey with ⟨a, hp, -⟩
  exact hne a hp

end Saves

/-- Who holds a role is found by a scan of its memberships. -/
theorem Registry.holds_iff_mem_below {s : Store} {r : Role} {a : Address} :
    (Registry.ofStore s).holds r a = true ↔ ∃ text, (a.bytes, text) ∈ s.below (roleStart r) := by
  rw [Registry.holds_ofStore, Option.isSome_iff_exists]
  exact exists_congr fun text => Store.mem_below_iff.symm

/-- One membership is the other way round, and every other answer is the same. -/
structure Flips (r : Role) (a : Address) (held : Bool) (s t : Store) : Prop where
  before : (Registry.ofStore s).holds r a = !held
  after : (Registry.ofStore t).holds r a = held
  beside : ∀ q, q ≠ Place.role r a → q.SameAnswer s t

section Memberships

variable {r : Role} {a : Address} {s t : Store} {held : Bool}

/-- A pair of role and address is answered anew if it is the one that was flipped,
    and only then. -/
theorem Flips.holds_ne_iff (h : Flips r a held s t) (r' : Role) (a' : Address) :
    (Registry.ofStore t).holds r' a' ≠ (Registry.ofStore s).holds r' a' ↔ r' = r ∧ a' = a := by
  constructor
  · intro hne
    by_contra hother
    refine hne (h.beside (.role r' a') fun hplace => hother ?_)
    cases hplace
    exact ⟨rfl, rfl⟩
  · intro hsame
    rcases hsame with ⟨rfl, rfl⟩
    rw [h.before, h.after]
    cases held <;> decide

theorem grant_flips (h : grant r a s = .ok t) : Flips r a true s t := by
  rcases grant_eq_ok_iff.mp h with ⟨hnew, rfl⟩
  refine ⟨hnew, ?_, fun q => (Saves.grant r a s).sameAnswer⟩
  rw [Registry.holds_ofStore, Cell.get?_occupy, if_pos rfl]
  rfl

theorem revoke_eq_ok_iff : revoke r a s = .ok t ↔
    (Registry.ofStore s).holds r a = true ∧ t = (roleCell r a).clear s := by
  simp only [revoke, Registry.revoking, bind_eq_ok_iff, ensure_eq_ok_iff, pure_eq_ok,
    Except.ok.injEq, exists_and_left, exists_const, and_assoc, exists_eq_left']
  exact and_congr_right fun _ => eq_comm

theorem revoke_flips (h : revoke r a s = .ok t) : Flips r a false s t := by
  rcases revoke_eq_ok_iff.mp h with ⟨hheld, rfl⟩
  refine ⟨hheld, ?_, fun q => (Saves.revoke r a s).sameAnswer⟩
  rw [Registry.holds_ofStore, Cell.get?_clear, if_pos rfl]
  rfl

/-- A message about a role saves the value as well, but the value is what it was. -/
theorem execute_flips [AddressRule] {chain : Chain} {sender : Address} {message : Message}
    {receipt : Receipt} (hcall : execute chain sender message s = .ok (t, receipt))
    (hmember : message.membership? sender = some (r, a, held)) : Flips r a held s t := by
  rcases execute_eq_ok_iff.mp hcall with ⟨l, out, hload, -, hperf, rfl, -⟩
  rcases hperf.membership hmember with ⟨hbefore, hledger, hchange⟩
  refine ⟨hbefore, ?_, ?_⟩
  · rw [Registry.holds_ofStore, out.get?_roleCell, hchange, if_pos rfl]
    cases held <;> rfl
  · intro q hq
    have hkey : (roleCell r a).key ≠ q.key := fun hkey =>
      hq (Place.key_inj (p := .role r a) hkey).symm
    by_cases hvalue : q = .value
    · rw [hvalue]
      exact (out.load_commit s).trans (by rw [hledger, hload])
    · have hitem : item.key ≠ q.key := fun hkey =>
        hvalue (Place.key_inj (p := .value) hkey).symm
      refine Place.sameAnswer_of_get? ?_
      rw [out.get?_commit_of_ne s hitem, hchange, if_neg hkey]

end Memberships

end Ledger

namespace Committee

/-- The places of the committee's store. -/
inductive Place
  | release
  | setup
  | nonce
  | round
  | number (member : Address)
deriving DecidableEq

namespace Place

/-- The key of a place. -/
def key : Place → Bytes
  | release => Release.item.key
  | setup => setupItem.key
  | nonce => nonceItem.key
  | round => roundCell.key
  | number member => (numberCell member).key

/-- Two stores answer alike at a place, whichever way they are asked. -/
def SameAnswer (s t : Store) : Place → Prop
  | release => Release.item.load t = Release.item.load s
  | setup => setupItem.load t = setupItem.load s
  | nonce => nonceItem.load t = nonceItem.load s
  | round => roundCell.read? t = roundCell.read? s
  | number member => (numberCell member).read? t = (numberCell member).read? s ∧
      isMember t member = isMember s member

variable {p q : Place} {s t : Store}

/-- The key of a place names the place. -/
theorem key_inj (h : p.key = q.key) : p = q := by
  cases p with
  | number a =>
      cases q with
      | number a' => rw [numberCell_key_inj h]
      | release => exact absurd h.symm (release_key_ne_number a)
      | setup => exact absurd h.symm (setup_key_ne_number a)
      | nonce => exact absurd h.symm (nonce_key_ne_number a)
      | round => exact absurd h.symm (round_key_ne_number a)
  -- Of two single values it is enough to compare the names.
  | release =>
      cases q with
      | release => rfl
      | number a => exact absurd h (release_key_ne_number a)
      | setup | nonce | round => exact absurd h (by decide)
  | setup =>
      cases q with
      | setup => rfl
      | number a => exact absurd h (setup_key_ne_number a)
      | release | nonce | round => exact absurd h (by decide)
  | nonce =>
      cases q with
      | nonce => rfl
      | number a => exact absurd h (nonce_key_ne_number a)
      | release | setup | round => exact absurd h (by decide)
  | round =>
      cases q with
      | round => rfl
      | number a => exact absurd h (round_key_ne_number a)
      | release | setup | nonce => exact absurd h (by decide)

theorem key_eq_iff : p.key = q.key ↔ p = q :=
  ⟨key_inj, congrArg key⟩

/-- The answer at a place depends on what stands under its key. -/
theorem sameAnswer_of_get? (h : t.get? p.key = s.get? p.key) : p.SameAnswer s t := by
  cases p with
  | release => exact Item.load_congr _ h
  | setup => exact Item.load_congr _ h
  | nonce => exact Item.load_congr _ h
  | round => exact Cell.read?_congr _ h
  | number a => exact ⟨Cell.read?_congr _ h, Cell.occupied_congr _ h⟩

end Place

/-- Something is saved at a place. -/
inductive Saves : Place → Store → Store → Prop
  | release (r : Release) (s : Store) : Saves .release s (Release.item.write r s)
  | setup (c : Setup) (s : Store) : Saves .setup s (setupItem.write c s)
  | nonce (n : UInt64) (s : Store) : Saves .nonce s (nonceItem.write n s)
  | round (r : Round) (s : Store) : Saves .round s (roundCell.write r s)
  | number (a : Address) (n : UInt32) (s : Store) : Saves (.number a) s ((numberCell a).write n s)

namespace Saves

variable {p q : Place} {s t : Store}

theorem get?_of_ne (h : Saves p s t) {key : Bytes} (hkey : key ≠ p.key) :
    t.get? key = s.get? key := by
  cases h with
  | release | setup | nonce | round | number => exact Cell.get?_write_of_ne _ _ _ hkey.symm

/-- What is saved at one place is not seen from another. -/
theorem sameAnswer (h : Saves p s t) (hne : q ≠ p) : q.SameAnswer s t :=
  Place.sameAnswer_of_get? (h.get?_of_ne fun hkey => hne (Place.key_inj hkey))

end Saves

end Committee

open Ledger in
/-- In the store of the ledger the key of a place names the place, so the key of a
    membership names role and holder and the key of a refund the swap. The scan for
    a role meets its memberships: all of them, and nothing that belongs elsewhere.
    Whatever is saved at a place is not seen from any other, nor in the list of a
    role that the place does not belong to. A grant or a revocation that goes
    through, by itself or as a call, flips the membership that it is about and no
    other answer. And in the store of the committee as well the key of a place
    names the place, and what is saved at one is not seen from another. -/
theorem places_keep_apart [AddressRule] :
    (∀ p q : Ledger.Place, p.key = q.key ↔ p = q) ∧
    (∀ (r : Role) (rest : Bytes) (p : Ledger.Place),
      roleStart r ++ rest = p.key ↔ ∃ a, p = .role r a ∧ a.bytes = rest) ∧
    (∀ (s : Store) (r : Role),
      (∀ rest text, (rest, text) ∈ s.below (roleStart r) ↔
        s.get? (roleStart r ++ rest) = some text) ∧
      ∀ a, (Registry.ofStore s).holds r a = true ↔
        ∃ text, (a.bytes, text) ∈ s.below (roleStart r)) ∧
    (∀ p s t, Ledger.Saves p s t →
      (∀ q, q ≠ p → q.SameAnswer s t) ∧
      ∀ r, (∀ a, p ≠ .role r a) → t.below (roleStart r) = s.below (roleStart r)) ∧
    (∀ r a held s t,
      (held = true ∧ grant r a s = .ok t) ∨ (held = false ∧ revoke r a s = .ok t) ∨
        (∃ chain sender message receipt, execute chain sender message s = .ok (t, receipt) ∧
          message.membership? sender = some (r, a, held)) →
      (Registry.ofStore s).holds r a = !held ∧ (Registry.ofStore t).holds r a = held ∧
        (∀ r' a', (Registry.ofStore t).holds r' a' ≠ (Registry.ofStore s).holds r' a' ↔
          r' = r ∧ a' = a) ∧
        ∀ q, q ≠ Place.role r a → q.SameAnswer s t) ∧
    (∀ p q : Committee.Place, p.key = q.key ↔ p = q) ∧
    ∀ p s t, Committee.Saves p s t → ∀ q, q ≠ p → q.SameAnswer s t := by
  refine ⟨fun _ _ => Place.key_eq_iff, fun _ _ _ => Place.roleStart_append_eq_key_iff,
    fun _ _ => ⟨fun _ _ => Store.mem_below_iff, fun _ => Registry.holds_iff_mem_below⟩,
    fun _ _ _ hsaves => ⟨fun _ => hsaves.sameAnswer, fun _ => hsaves.below_eq⟩, ?_,
    fun _ _ => Committee.Place.key_eq_iff, fun _ _ _ hsaves _ => hsaves.sameAnswer⟩
  intro r a held s t hway
  have hflips : Flips r a held s t := by
    rcases hway with ⟨rfl, hgrant⟩ | ⟨rfl, hrevoke⟩ | ⟨_, _, _, _, hcall, hmember⟩
    · exact grant_flips hgrant
    · exact revoke_flips hrevoke
    · exact execute_flips hcall hmember
  exact ⟨hflips.before, hflips.after, hflips.holds_ne_iff, hflips.beside⟩

open Ledger in
/-- In an empty store the address without a single character is made a monitor, and
    this is the only answer that changes. -/
theorem places_keep_apart_of_first_grant :
    ∃ t, grant .monitor ⟨""⟩ .empty = .ok t ∧ (Registry.ofStore t).holds .monitor ⟨""⟩ = true ∧
      (∀ r a, (Registry.ofStore t).holds r a ≠ (Registry.ofStore .empty).holds r a ↔
        r = .monitor ∧ a = ⟨""⟩) ∧
      (refundCell 0).read? t = (refundCell 0).read? .empty ∧
      t.below (roleStart .admin) = Store.empty.below (roleStart .admin) := by
  have hfree : (roleCell .monitor ⟨""⟩).occupied .empty = false := by
    rw [Cell.occupied_eq, Store.get?_empty]
    rfl
  have hgrant : grant .monitor ⟨""⟩ .empty = .ok ((roleCell .monitor ⟨""⟩).occupy .empty) :=
    grant_eq_ok_iff.mpr ⟨hfree, rfl⟩
  rcases places_keep_apart with ⟨-, -, -, hsaves, hflips, -⟩
  rcases hflips .monitor ⟨""⟩ true .empty _ (.inl ⟨rfl, hgrant⟩) with ⟨-, hheld, honly, hbeside⟩
  rcases hsaves _ _ _ (.grant .monitor ⟨""⟩ .empty) with ⟨-, hlists⟩
  exact ⟨_, hgrant, hheld, honly, (hbeside (.refund 0) nofun).1, hlists .admin (by simp)⟩

end BridgeCustody
