/-!
# Machine Words

Block heights, swap ids, relay eons and nonces are 64-bit words. Each place
that counts past the largest word has its own rule for what happens there, and
the three rules are the three functions here: stop at the largest word, fail,
or wrap around.

## Main definitions

* `Word.saturatingAdd`: The sum, or the largest word.
* `Word.next?`: The next word, if there is one.
* `Word.never`: The largest word, which stands for a height never reached.

## Theorems

* `Word.toNat_saturatingAdd`: The sum capped at the largest word.
* `Word.next?_eq_some_iff`: The next word is one more, without wrapping.
-/

namespace BridgeCustody

namespace Word

/-- The largest word. -/
def never : UInt64 :=
  0xFFFFFFFFFFFFFFFF

/-- The sum of two words, or the largest word if the sum is none. -/
def saturatingAdd (a b : UInt64) : UInt64 :=
  if a.toNat + b.toNat < UInt64.size then a + b else never

/-- The next word; the largest one has none. -/
def next? (a : UInt64) : Option UInt64 :=
  if a = never then none else some (a + 1)

/-- The larger of two words. -/
def largest (a b : UInt64) : UInt64 :=
  if a ≤ b then b else a

theorem toNat_never : never.toNat = UInt64.size - 1 := rfl

theorem toNat_saturatingAdd (a b : UInt64) :
    (saturatingAdd a b).toNat = min (a.toNat + b.toNat) (UInt64.size - 1) := by
  unfold saturatingAdd
  split
  · next h =>
    rw [UInt64.toNat_add, Nat.mod_eq_of_lt h]
    omega
  · next h =>
    rw [toNat_never]
    omega

theorem next?_eq_none_iff {a : UInt64} : next? a = none ↔ a = never := by
  unfold next?
  split <;> simp_all

theorem next?_eq_none_iff_not_lt {a : UInt64} : next? a = none ↔ ¬a.toNat < UInt64.size - 1 := by
  have hlt := a.toNat_lt_size
  rw [next?_eq_none_iff, ← UInt64.toNat_inj, toNat_never]
  omega

theorem next?_eq_some_iff {a b : UInt64} : next? a = some b ↔ b.toNat = a.toNat + 1 := by
  have ha := a.toNat_lt_size
  have hb := b.toNat_lt_size
  unfold next?
  split
  · next h =>
    rw [h, toNat_never]
    refine ⟨nofun, fun h' => ?_⟩
    omega
  · next h =>
    have hne : a.toNat ≠ UInt64.size - 1 := fun hn => h (UInt64.toNat_inj.mp hn)
    rw [Option.some.injEq, ← UInt64.toNat_inj, UInt64.toNat_add, UInt64.toNat_one,
      Nat.mod_eq_of_lt (show a.toNat + 1 < UInt64.size by omega)]
    exact eq_comm

theorem toNat_largest (a b : UInt64) : (largest a b).toNat = max a.toNat b.toNat := by
  unfold largest
  split
  · next h => exact (Nat.max_eq_right (UInt64.le_iff_toNat_le.mp h)).symm
  · next h =>
    rw [UInt64.le_iff_toNat_le] at h
    omega

end Word

end BridgeCustody
