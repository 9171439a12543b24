import BridgeCustody.Decimal

/-!
# Token Amounts

A token amount is a number below 2^128. Sums that leave this range do not exist
here: addition and subtraction return an option, and the caller says which
failure a missing result is. Laws are stated through `toNat`, where ordinary
arithmetic applies.

## Main definitions

* `Amount.size`: How many amounts there are.
* `Amount`: A number of token units below that.
* `Amount.add?`, `Amount.sub?`: Exact arithmetic, if the result is an amount.
* `Amount.monus`: Subtraction that stops at zero.
* `Amount.read?`, `Amount.text`: Decimal text.

## Theorems

* `Amount.add?_eq_some_iff`, `Amount.sub?_eq_some_iff`: When results exist, and
  what they are.
* `Amount.read?_text`: Written amounts read back.
-/

namespace BridgeCustody

/-- How many amounts there are: 2^128. -/
def Amount.size : Nat :=
  0x100000000000000000000000000000000

/-- A number of token units below 2^128. -/
structure Amount where
  toNat : Nat
  toNat_lt : toNat < Amount.size

namespace Amount

theorem ext {a b : Amount} (h : a.toNat = b.toNat) : a = b := by
  cases a
  cases b
  cases h
  rfl

theorem toNat_inj {a b : Amount} : a.toNat = b.toNat ↔ a = b :=
  ⟨ext, congrArg toNat⟩

instance : DecidableEq Amount := fun _ _ => decidable_of_iff _ toNat_inj

/-- The amount of a number that is in range. -/
def ofNat? (n : Nat) : Option Amount :=
  if h : n < size then some ⟨n, h⟩ else none

/-- Nothing. -/
def zero : Amount :=
  ⟨0, by decide⟩

instance : LE Amount := ⟨fun a b => a.toNat ≤ b.toNat⟩

instance : LT Amount := ⟨fun a b => a.toNat < b.toNat⟩

instance (a b : Amount) : Decidable (a ≤ b) := inferInstanceAs (Decidable (a.toNat ≤ b.toNat))

instance (a b : Amount) : Decidable (a < b) := inferInstanceAs (Decidable (a.toNat < b.toNat))

/-- The sum, if it is an amount. -/
def add? (a b : Amount) : Option Amount :=
  ofNat? (a.toNat + b.toNat)

/-- The difference, if it is an amount. -/
def sub? (a b : Amount) : Option Amount :=
  if b ≤ a then ofNat? (a.toNat - b.toNat) else none

/-- The difference, or nothing where there is none. -/
def monus (a b : Amount) : Amount :=
  ⟨a.toNat - b.toNat, Nat.lt_of_le_of_lt (Nat.sub_le ..) a.toNat_lt⟩

/-- The smaller of two amounts. -/
def least (a b : Amount) : Amount :=
  if a ≤ b then a else b

/-- The amount in decimal digits. -/
def text (a : Amount) : String :=
  Decimal.text a.toNat

/-- Reads an amount: one plus sign and leading zeros are allowed. -/
def read? (s : String) : Option Amount := do
  let n ← match s.toList with
    | '+' :: digits => Decimal.read? digits
    | digits => Decimal.read? digits
  ofNat? n

theorem le_iff_toNat_le {a b : Amount} : a ≤ b ↔ a.toNat ≤ b.toNat := Iff.rfl

theorem lt_iff_toNat_lt {a b : Amount} : a < b ↔ a.toNat < b.toNat := Iff.rfl

@[simp] theorem toNat_zero : zero.toNat = 0 := rfl

@[simp] theorem toNat_monus (a b : Amount) : (a.monus b).toNat = a.toNat - b.toNat := rfl

theorem monus_eq_zero_iff {a b : Amount} : a.monus b = zero ↔ a ≤ b := by
  rw [← toNat_inj, toNat_monus, toNat_zero, le_iff_toNat_le]
  omega

theorem toNat_least (a b : Amount) : (a.least b).toNat = min a.toNat b.toNat := by
  unfold least
  split
  · next h => exact (Nat.min_eq_left h).symm
  · next h => exact (Nat.min_eq_right (Nat.le_of_not_le h)).symm

theorem ofNat?_eq_some_iff {n : Nat} {a : Amount} : ofNat? n = some a ↔ a.toNat = n := by
  unfold ofNat?
  split
  · rw [Option.some.injEq]
    exact ⟨fun h => h ▸ rfl, fun h => ext h.symm⟩
  · next h =>
    refine ⟨nofun, fun hn => absurd a.toNat_lt ?_⟩
    rwa [hn]

theorem ofNat?_eq_none_iff {n : Nat} : ofNat? n = none ↔ size ≤ n := by
  unfold ofNat?
  split <;> simp <;> omega

theorem ofNat?_toNat (a : Amount) : ofNat? a.toNat = some a :=
  ofNat?_eq_some_iff.mpr rfl

theorem add?_eq_some_iff {a b c : Amount} : a.add? b = some c ↔ c.toNat = a.toNat + b.toNat :=
  ofNat?_eq_some_iff

theorem add?_eq_none_iff {a b : Amount} : a.add? b = none ↔ size ≤ a.toNat + b.toNat :=
  ofNat?_eq_none_iff

theorem sub?_eq_some_iff {a b c : Amount} : a.sub? b = some c ↔ a.toNat = c.toNat + b.toNat := by
  unfold sub?
  split
  · next h =>
    have h' : b.toNat ≤ a.toNat := h
    rw [ofNat?_eq_some_iff]
    omega
  · next h =>
    have h' : ¬b.toNat ≤ a.toNat := h
    refine ⟨nofun, fun hc => ?_⟩
    omega

theorem sub?_eq_none_iff {a b : Amount} : a.sub? b = none ↔ a < b := by
  unfold sub?
  split
  · next h =>
    have h' : b.toNat ≤ a.toNat := h
    have := a.toNat_lt
    rw [ofNat?_eq_none_iff, lt_iff_toNat_lt]
    omega
  · next h => simpa [lt_iff_toNat_lt, le_iff_toNat_le] using h

theorem read?_text (a : Amount) : read? a.text = some a := by
  have hd := fun c (h : c ∈ Decimal.write a.toNat) => Decimal.isDigit_of_mem_write _ h
  unfold read? text Decimal.text
  rw [String.toList_ofList]
  cases hw : Decimal.write a.toNat with
  | nil => exact absurd hw (Decimal.write_ne_nil _)
  | cons c cs =>
    have hc : c ≠ '+' := by
      rintro rfl
      exact absurd (hd '+' (by rw [hw]; exact List.mem_cons_self)) (by decide)
    have hr := Decimal.read?_write a.toNat
    rw [hw] at hr
    split
    · next h => exact absurd (List.cons.inj h).1 hc
    · rw [hr]
      exact ofNat?_toNat a

end Amount

end BridgeCustody
