import BridgeCustody.Committee.Round
import BridgeCustody.Ledger.Registry

/-!
# Keys Keep Entries Apart

Two entries of a store disturb each other only if they stand under the same key,
so every frame fact about a contract comes down to keys being different.

Two things tell keys apart. A part of a table key carries its length in front,
so where one part ends is never in doubt: `measured_append_inj` splits a key into
its first part and the rest, and everything about tables follows by repeating it.
And the length of a short part starts with a zero byte, while the name of a
single value starts with a letter, so a single value never meets a table.

The rest of a key is left arbitrary throughout. A holder's address may be any
text at all, and it cannot spill over into the parts before it.

## Theorems

* `Key.measured_append_inj`: A measured part is recovered from what follows it.
* `Key.single_ne_measured`: A single value never meets a table.
* `Address.bytes_inj`: Different addresses are stored under different bytes.
* `Ledger.roleCell_key_inj`: The key of a role names the role and the holder.
* `Ledger.refundCell_key_inj`: The key of a refund names the swap.
* `Ledger.roleCell_key_ne_refundCell`, `Ledger.item_key_ne_roleCell`,
  `Ledger.item_key_ne_refundCell`: Keys of the ledger of different kinds differ.
* `Committee.numberCell_key_inj`: The key of a number names the member.
-/

namespace BridgeCustody

namespace Key

/-- A measured part is recovered from what follows it, if two bytes hold its
    length. -/
theorem measured_append_inj {part part' rest rest' : Bytes} (hp : part.length < 65536)
    (hp' : part'.length < 65536) (h : measured part ++ rest = measured part' ++ rest') :
    part = part' ∧ rest = rest' := by
  rw [measured, measured, List.append_assoc, List.append_assoc] at h
  rcases List.append_inj h (by rw [Bytes.length_bigEndian, Bytes.length_bigEndian]) with
    ⟨hlen, htail⟩
  -- The lengths agree, so the parts are cut off at the same place.
  exact List.append_inj htail ((Bytes.bigEndian_inj hp hp').mp hlen)

/-- The length of a short part starts with a zero byte. -/
theorem head?_measured (part : Bytes) (h : part.length < 256) :
    (measured part).head? = some 0 := by
  -- The higher of the two bytes of the length.
  have hz : part.length / 256 = 0 := by omega
  simp only [measured, Bytes.bigEndian, hz, List.nil_append, List.cons_append, List.head?_cons]
  rfl

/-- A single value whose name does not start with a zero byte never meets a
    table. -/
theorem single_ne_measured (name : String) (part rest : Bytes) (hp : part.length < 256)
    (hn : (single name).head? ≠ some 0) : single name ≠ measured part ++ rest := by
  intro h
  -- The name would have to start with the zero byte of the length.
  have hm := head?_measured part hp
  rw [h, List.head?_append, hm] at hn
  exact hn rfl

end Key

theorem Address.bytes_inj {a a' : Address} (h : a.bytes = a'.bytes) : a = a' := by
  have ht : a.text = a'.text := Bytes.ofText_inj.mp h
  cases a
  cases a'
  rw [Address.mk.injEq]
  exact ht

namespace Ledger

theorem roleStart_eq (role : Role) :
    roleStart role = Key.measured (Bytes.ofText "roles") ++
      Key.measured (Bytes.ofText role.name) := by
  simp only [roleStart, Key.table, List.flatMap_cons, List.flatMap_nil, List.append_nil]

theorem Role.length_name_lt (role : Role) : (Bytes.ofText role.name).length < 65536 := by
  cases role <;> decide

/-- The key of a role names the role and the holder, whatever text the holder's
    address is. -/
theorem roleCell_key_inj {role role' : Role} {a a' : Address}
    (h : (roleCell role a).key = (roleCell role' a').key) : role = role' ∧ a = a' := by
  simp only [roleCell, roleStart_eq, List.append_assoc] at h
  rcases Key.measured_append_inj (by decide) (by decide) h with ⟨-, hparts⟩
  -- What is left behind the name of the table is the name of the role, then the holder.
  rcases Key.measured_append_inj role.length_name_lt role'.length_name_lt hparts with
    ⟨hrole, haddr⟩
  exact ⟨Role.name_inj.mp (Bytes.ofText_inj.mp hrole), Address.bytes_inj haddr⟩

theorem refundCell_key (id : UInt64) :
    (refundCell id).key = Key.measured (Bytes.ofText "refunds") ++
      Bytes.bigEndian 8 id.toNat := by
  simp only [refundCell, Key.table, List.flatMap_nil, List.append_nil]

theorem refundCell_key_inj {id id' : UInt64} (h : (refundCell id).key = (refundCell id').key) :
    id = id' := by
  rw [refundCell_key, refundCell_key] at h
  rcases Key.measured_append_inj (by decide) (by decide) h with ⟨-, hid⟩
  exact UInt64.toNat_inj.mp ((Bytes.bigEndian_inj id.toNat_lt_size id'.toNat_lt_size).mp hid)

theorem roleCell_key_ne_refundCell (role : Role) (a : Address) (id : UInt64) :
    (roleCell role a).key ≠ (refundCell id).key := by
  intro h
  rw [refundCell_key] at h
  simp only [roleCell, roleStart_eq, List.append_assoc] at h
  -- The first parts are the names of the two tables.
  rcases Key.measured_append_inj (by decide) (by decide) h with ⟨hname, -⟩
  exact absurd (Bytes.ofText_inj.mp hname) (by decide)

theorem item_key_ne_roleCell (role : Role) (a : Address) : item.key ≠ (roleCell role a).key := by
  simp only [item, roleCell, roleStart_eq, List.append_assoc]
  exact Key.single_ne_measured _ _ _ (by decide) (by decide)

theorem item_key_ne_refundCell (id : UInt64) : item.key ≠ (refundCell id).key := by
  rw [refundCell_key]
  exact Key.single_ne_measured _ _ _ (by decide) (by decide)

theorem release_key_ne_item : Release.item.key ≠ item.key := by
  decide

theorem release_key_ne_roleCell (role : Role) (a : Address) :
    Release.item.key ≠ (roleCell role a).key := by
  simp only [Release.item, roleCell, roleStart_eq, List.append_assoc]
  exact Key.single_ne_measured _ _ _ (by decide) (by decide)

theorem release_key_ne_refundCell (id : UInt64) : Release.item.key ≠ (refundCell id).key := by
  rw [refundCell_key]
  exact Key.single_ne_measured _ _ _ (by decide) (by decide)

end Ledger

namespace Committee

theorem numberCell_key (a : Address) :
    (numberCell a).key = Key.measured (Bytes.ofText "committee_index") ++ a.bytes := by
  simp only [numberCell, Key.table, List.flatMap_nil, List.append_nil]

theorem numberCell_key_inj {a a' : Address} (h : (numberCell a).key = (numberCell a').key) :
    a = a' := by
  rw [numberCell_key, numberCell_key] at h
  rcases Key.measured_append_inj (by decide) (by decide) h with ⟨-, haddr⟩
  exact Address.bytes_inj haddr

/-- A single value of the committee never meets the number of a member. -/
theorem single_ne_numberCell (name : String) (a : Address)
    (hn : (Key.single name).head? ≠ some 0) : Key.single name ≠ (numberCell a).key := by
  rw [numberCell_key]
  exact Key.single_ne_measured _ _ _ (by decide) hn

end Committee

end BridgeCustody
