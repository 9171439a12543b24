import BridgeCustody.Proofs.Wire

/-!
# Reading After Writing

What a cell answers once something was written to a store. There are only two
cases: the write was to this cell, and then the cell holds what was written, or
it was to another key, and then the cell answers as before. The first case is
where the law of the type is needed, the second asks for the keys alone.

The second case is stated through look-ups rather than through particular
writes. A call may write several entries, and what matters to a cell in the end
is only whether the text under its own key is the one it was.

## Theorems

* `Cell.get?_write`, `Cell.get?_occupy`, `Cell.get?_clear`: Look-ups after a
  change of one cell.
* `Cell.read?_write`, `Item.load_write`: A cell holds what was written to it.
* `Cell.read?_write_of_ne`, `Cell.occupied_write_of_ne`, `Item.load_write_of_ne`: A
  write under another key is not seen.
* `Cell.occupied_of_read?`: Reading tells whether a cell is occupied.
* `Cell.read?_congr`, `Cell.occupied_congr`, `Item.load_congr`: What a cell
  answers depends on its own key only.
-/

namespace BridgeCustody

namespace Cell

variable {α : Type}

theorem get?_clear (c : Cell α) (s : Store) (key : Bytes) :
    (c.clear s).get? key = if c.key = key then none else s.get? key :=
  Store.get?_erase s c.key key

theorem get?_occupy (c : Cell Mark) (s : Store) (key : Bytes) :
    (c.occupy s).get? key = if c.key = key then some Mark.text else s.get? key :=
  Store.get?_set s c.key key Mark.text

theorem get?_write [Wire α] (c : Cell α) (a : α) (s : Store) (key : Bytes) :
    (c.write a s).get? key = if c.key = key then some (Wire.encode a) else s.get? key :=
  Store.get?_set s c.key key (Wire.encode a)

/-- A write under another key leaves a look-up alone. -/
theorem get?_write_of_ne [Wire α] (c : Cell α) (a : α) (s : Store) {key : Bytes}
    (h : c.key ≠ key) : (c.write a s).get? key = s.get? key := by
  rw [get?_write, if_neg h]

theorem occupied_congr (c : Cell α) {s t : Store} (h : s.get? c.key = t.get? c.key) :
    c.occupied s = c.occupied t := by
  rw [occupied_eq, occupied_eq, h]

theorem read?_congr [Wire α] (c : Cell α) {s t : Store} (h : s.get? c.key = t.get? c.key) :
    c.read? s = c.read? t := by
  rw [read?, read?, h]

theorem ofText_encode [Wire α] [Wire.Lawful α] (a : α) : ofText (Wire.encode a) = .ok a := by
  rw [ofText, Wire.decode?_encode]

theorem read?_eq_none [Wire α] (c : Cell α) {s : Store} (h : s.get? c.key = none) :
    c.read? s = .ok none := by
  rw [read?, h]

theorem read?_eq_some [Wire α] [Wire.Lawful α] (c : Cell α) {s : Store} {a : α}
    (h : s.get? c.key = some (Wire.encode a)) : c.read? s = .ok (some a) := by
  rw [read?, h]
  simp only [ofText_encode]
  rfl

theorem get?_eq_none (c : Cell α) {s : Store} (h : c.occupied s = false) :
    s.get? c.key = none :=
  Option.isNone_iff_eq_none.mp (Option.isSome_eq_false_iff.mp h)

/-- A cell that can be read is occupied if there is something to read. -/
theorem occupied_of_read? [Wire α] (c : Cell α) {s : Store} {a : Option α}
    (h : c.read? s = .ok a) : c.occupied s = a.isSome := by
  rw [occupied_eq]
  cases hg : s.get? c.key with
  | none =>
      rw [read?, hg] at h
      cases h
      rfl
  | some text =>
      rw [read?, hg] at h
      simp only [ofText] at h
      -- A text that cannot be read makes the reading fail, and it did not fail.
      split at h
      · cases h
        rfl
      · cases h

/-- A cell holds what was written to it. -/
theorem read?_write [Wire α] [Wire.Lawful α] (c : Cell α) (a : α) (s : Store) :
    c.read? (c.write a s) = .ok (some a) :=
  c.read?_eq_some (by rw [get?_write, if_pos rfl])

/-- A cell answers as before after a write to another one. -/
theorem read?_write_of_ne {β : Type} [Wire α] [Wire β] (c : Cell α) (c' : Cell β) (a : α)
    (s : Store) (h : c.key ≠ c'.key) : c'.read? (c.write a s) = c'.read? s :=
  c'.read?_congr (c.get?_write_of_ne a s h)

theorem occupied_write_of_ne {β : Type} [Wire α] (c : Cell α) (c' : Cell β) (a : α) (s : Store)
    (h : c.key ≠ c'.key) : c'.occupied (c.write a s) = c'.occupied s :=
  c'.occupied_congr (c.get?_write_of_ne a s h)

end Cell

namespace Item

variable {α : Type} [Wire α]

theorem load_congr (i : Item α) {s t : Store} (h : s.get? i.key = t.get? i.key) :
    i.load s = i.load t := by
  rw [load, load, h]

theorem load_of_get? [Wire.Lawful α] (i : Item α) {s : Store} {a : α}
    (h : s.get? i.key = some (Wire.encode a)) : i.load s = .ok a := by
  rw [load, h]
  exact Cell.ofText_encode a

/-- An item holds what was written to it. -/
theorem load_write [Wire.Lawful α] (i : Item α) (a : α) (s : Store) :
    i.load (i.write a s) = .ok a :=
  i.load_of_get? (by rw [Cell.get?_write, if_pos rfl])

/-- An item is loaded as before after a write to another cell. -/
theorem load_write_of_ne {β : Type} [Wire β] (i : Item α) (c : Cell β) (b : β) (s : Store)
    (h : c.key ≠ i.key) : i.load (c.write b s) = i.load s :=
  i.load_congr (c.get?_write_of_ne b s h)

end Item

end BridgeCustody
