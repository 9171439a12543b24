import BridgeCustody.Bytes.Basic
import Std.Data.ExtTreeMap

/-!
# The Byte Store

Everything a contract remembers is a map from byte keys to texts, ordered by
key. Two stores that answer every look-up alike are equal, so a claim about what
a call leaves behind can be made of the store itself.

## Main definitions

* `Store`: The map.
* `Store.get?`, `Store.set`, `Store.erase`: One key.
* `Store.entries`: All entries in key order.
* `Store.below`: The entries whose keys start alike, with the rest of each key.

## Theorems

* `Store.get?_set`, `Store.get?_erase`: What a write does to look-ups.
* `Store.ext`: Look-ups determine the store.
* `Store.mem_below_iff`: What `below` meets.
-/

namespace BridgeCustody

/-- A map from byte keys to texts, ordered by key. -/
structure Store where
  map : Std.ExtTreeMap Bytes String

namespace Store

/-- The store that holds nothing. -/
def empty : Store :=
  ⟨∅⟩

/-- The text under a key. -/
def get? (s : Store) (key : Bytes) : Option String :=
  s.map[key]?

/-- Puts a text under a key. -/
def set (s : Store) (key : Bytes) (value : String) : Store :=
  ⟨s.map.insert key value⟩

/-- Removes what is under a key. -/
def erase (s : Store) (key : Bytes) : Store :=
  ⟨s.map.erase key⟩

/-- Whether a key holds anything. -/
def has (s : Store) (key : Bytes) : Bool :=
  (s.get? key).isSome

/-- All entries, in key order. -/
def entries (s : Store) : List (Bytes × String) :=
  s.map.toList

/-- The entries whose keys start with `start`, in key order, each with the rest
    of its key. -/
def below (s : Store) (start : Bytes) : List (Bytes × String) :=
  s.entries.filterMap fun (key, value) =>
    if start.isPrefixOf key then some (key.drop start.length, value) else none

theorem ext {s t : Store} (h : ∀ key, s.get? key = t.get? key) : s = t := by
  cases s
  cases t
  exact congrArg Store.mk (Std.ExtTreeMap.ext_getElem? h)

@[simp] theorem get?_empty (key : Bytes) : empty.get? key = none :=
  Std.ExtTreeMap.getElem?_empty

theorem get?_set (s : Store) (key key' : Bytes) (value : String) :
    (s.set key value).get? key' = if key = key' then some value else s.get? key' := by
  simp only [get?, set, Std.ExtTreeMap.getElem?_insert, Std.LawfulEqCmp.compare_eq_iff_eq]

theorem get?_erase (s : Store) (key key' : Bytes) :
    (s.erase key).get? key' = if key = key' then none else s.get? key' := by
  simp only [get?, erase, Std.ExtTreeMap.getElem?_erase, Std.LawfulEqCmp.compare_eq_iff_eq]

theorem mem_entries_iff {s : Store} {key : Bytes} {value : String} :
    (key, value) ∈ s.entries ↔ s.get? key = some value :=
  Std.ExtTreeMap.mem_toList_iff_getElem?_eq_some

theorem mem_below_iff {s : Store} {start rest : Bytes} {value : String} :
    (rest, value) ∈ s.below start ↔ s.get? (start ++ rest) = some value := by
  simp only [below, List.mem_filterMap, ← mem_entries_iff, Prod.exists]
  constructor
  · rintro ⟨key, v, hm, h⟩
    split at h
    · next hp =>
      obtain ⟨t, rfl⟩ := List.isPrefixOf_iff_prefix.mp hp
      simp only [List.drop_left, Option.some.injEq, Prod.mk.injEq] at h
      rwa [← h.1, ← h.2]
    · cases h
  · intro hm
    refine ⟨start ++ rest, value, hm, ?_⟩
    rw [if_pos (List.isPrefixOf_iff_prefix.mpr (List.prefix_append ..)), List.drop_left]

end Store

end BridgeCustody
