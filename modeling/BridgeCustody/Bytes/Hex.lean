import BridgeCustody.Bytes.Basic

/-!
# Hexadecimal

Bytes as pairs of hexadecimal digits. Reading takes digits of either case;
which case is written is the caller's choice, since keys in error texts are
upper case and digests lower case.

## Main definitions

* `digit?`: The value of a hexadecimal digit.
* `lower`, `upper`: The digit for a value below sixteen.
* `lowerText`: A byte string as lower-case digits.
* `read?`: The bytes that a run of digits stands for.

## Theorems

* `digit?_upper`: A written digit reads back.
-/

namespace BridgeCustody

namespace Hex

/-- The value of a hexadecimal digit of either case. -/
def digit? (c : Char) : Option Nat :=
  if '0' ≤ c ∧ c ≤ '9' then some (c.toNat - 48)
  else if 'a' ≤ c ∧ c ≤ 'f' then some (c.toNat - 87)
  else if 'A' ≤ c ∧ c ≤ 'F' then some (c.toNat - 55)
  else none

/-- The lower-case digit for a value below sixteen. -/
def lower (n : Nat) : Char :=
  if n < 10 then Char.ofNat (48 + n) else Char.ofNat (87 + n)

/-- The upper-case digit for a value below sixteen. -/
def upper (n : Nat) : Char :=
  if n < 10 then Char.ofNat (48 + n) else Char.ofNat (55 + n)

/-- The two digits of a byte, in the alphabet that `digit` draws from. -/
def writeByte (digit : Nat → Char) (b : UInt8) : List Char :=
  [digit (b.toNat / 16), digit (b.toNat % 16)]

/-- A byte string as lower-case digits. -/
def lowerText (bytes : Bytes) : String :=
  String.ofList (bytes.flatMap (writeByte lower))

/-- The bytes that a run of digits stands for, two digits to a byte. -/
def read? : List Char → Option Bytes
  | [] => some []
  | [_] => none
  | a :: b :: rest => do
    let hi ← digit? a
    let lo ← digit? b
    let bytes ← read? rest
    return UInt8.ofNat (16 * hi + lo) :: bytes

theorem digit?_upper : ∀ n, n < 16 → digit? (upper n) = some n := by decide

end Hex

end BridgeCustody
