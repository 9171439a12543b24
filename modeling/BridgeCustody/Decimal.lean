/-!
# Decimal Numerals

How whole numbers are written and read. Writing is unique: no sign and no
leading zero. Reading comes in two strengths, because the two places that read
numerals differ. A bare number in a message must stand in exactly the form that
writing produces; a number inside quotes may carry leading zeros.

## Main definitions

* `write`: The digits of a number.
* `read?`: Reads a run of digits, leading zeros allowed.
* `readCanonical?`: Reads only what `write` produces.
* `text`: The digits as a string.

## Theorems

* `read?_write`: Reading gives back the number that was written.
* `readCanonical?_write`: So does the strict reader.
* `text_inj`: No two numbers are written alike.
* `isDigit_of_mem_write`: A numeral holds digits only.
-/

namespace BridgeCustody

namespace Decimal

/-- The decimal digits of a number, most significant first. -/
def write (n : Nat) : List Char :=
  Nat.toDigits 10 n

/-- The decimal digits of a number, as a string. -/
def text (n : Nat) : String :=
  String.ofList (write n)

/-- The value of one digit. -/
def digit? (c : Char) : Option Nat :=
  if c.isDigit then some (c.toNat - 48) else none

/-- Reads digits behind a numeral that already stands for `acc`. -/
def readOn (acc : Nat) : List Char → Option Nat
  | [] => some acc
  | c :: rest => do
    let d ← digit? c
    readOn (10 * acc + d) rest

/-- The value of a non-empty run of digits. -/
def read? : List Char → Option Nat
  | [] => none
  | cs => readOn 0 cs

/-- The value of a numeral in the one form in which numbers are written: a zero
    leads only when it stands alone. -/
def readCanonical? : List Char → Option Nat
  | ['0'] => some 0
  | '0' :: _ => none
  | cs => read? cs

theorem readOn_append (acc : Nat) (cs ds : List Char) :
    readOn acc (cs ++ ds) = (readOn acc cs).bind (readOn · ds) := by
  induction cs generalizing acc with
  | nil => rfl
  | cons c cs ih => cases h : digit? c <;> simp [readOn, h, ih]

theorem digit?_digitChar {n : Nat} (h : n < 10) : digit? n.digitChar = some n := by
  simp [digit?, Nat.isDigit_digitChar, Nat.toNat_digitChar_sub_48_of_lt_ten h, h]

theorem write_of_lt_ten {n : Nat} (h : n < 10) : write n = [n.digitChar] :=
  Nat.toDigits_of_lt_base h

theorem write_of_ten_le {n : Nat} (h : 10 ≤ n) :
    write n = write (n / 10) ++ [(n % 10).digitChar] :=
  Nat.toDigits_of_base_le (by decide) h

theorem write_ne_nil (n : Nat) : write n ≠ [] := by
  by_cases h : n < 10
  · simp [write_of_lt_ten h]
  · simp [write_of_ten_le (Nat.le_of_not_lt h)]

theorem isDigit_of_mem_write {c : Char} (n : Nat) (h : c ∈ write n) : c.isDigit :=
  Nat.isDigit_of_mem_toDigits (n := n) (by decide) (by decide) h

theorem readOn_write (n : Nat) : readOn 0 (write n) = some n := by
  induction n using Nat.strongRecOn with
  | ind n ih =>
    by_cases h : n < 10
    · simp [write_of_lt_ten h, readOn, digit?_digitChar h]
    · have hle := Nat.le_of_not_lt h
      rw [write_of_ten_le hle, readOn_append, ih (n / 10) (by omega)]
      simp [readOn, digit?_digitChar (Nat.mod_lt n (by decide : 10 > 0))]
      omega

theorem read?_write (n : Nat) : read? (write n) = some n := by
  rw [← readOn_write n]
  cases h : write n with
  | nil => exact absurd h (write_ne_nil n)
  | cons c cs => rfl

theorem text_inj {m n : Nat} : text m = text n ↔ m = n := by
  refine ⟨?_, congrArg text⟩
  intro h
  have hm := read?_write m
  rw [String.ofList_inj.mp h, read?_write n] at hm
  exact (Option.some.inj hm).symm

/-- Only zero is written with a leading zero. -/
theorem write_head_zero {n : Nat} {cs : List Char} (h : write n = '0' :: cs) : cs = [] := by
  induction n using Nat.strongRecOn generalizing cs with
  | ind n ih =>
    by_cases hn : n < 10
    · rw [write_of_lt_ten hn] at h
      exact (List.cons.inj h).2.symm
    · have hle := Nat.le_of_not_lt hn
      rw [write_of_ten_le hle] at h
      cases hw : write (n / 10) with
      | nil => exact absurd hw (write_ne_nil _)
      | cons d ds =>
        rw [hw, List.cons_append] at h
        have hd : d = '0' := (List.cons.inj h).1
        have hds := ih (n / 10) (by omega) (hd ▸ hw)
        -- The leading part would be the lone zero, but it is not zero.
        have hz : write (n / 10) = ['0'] := by rw [hw, hd, hds]
        have h0 := readOn_write (n / 10)
        rw [hz] at h0
        have : n / 10 = 0 := by simpa [readOn, digit?] using h0.symm
        omega

theorem readCanonical?_write (n : Nat) : readCanonical? (write n) = some n := by
  have hr := read?_write n
  cases h : write n with
  | nil => exact absurd h (write_ne_nil n)
  | cons c cs =>
    rw [h] at hr
    by_cases hc : c = '0'
    · subst hc
      have := write_head_zero h
      subst this
      simpa [readCanonical?, read?, readOn, digit?] using hr
    · rw [← hr]
      unfold readCanonical?
      split
      · rename_i heq; exact absurd (List.cons.inj heq).1 hc
      · rename_i heq; exact absurd (List.cons.inj heq).1 hc
      · rfl

end Decimal

end BridgeCustody
