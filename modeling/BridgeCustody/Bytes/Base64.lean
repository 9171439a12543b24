import BridgeCustody.Bytes.Hex

/-!
# Base64

Bytes in the standard alphabet. Writing always pads. Reading takes padding as
an optional courtesy, full, partial or absent, but only behind a last group
that needs it, and it refuses a last group whose unused bits are not zero, so
every byte string has one spelling up to padding.

## Main definitions

* `symbol`, `value?`: The alphabet in both directions.
* `encode`: Padded base64.
* `decode?`: The bytes that a text stands for.

## Theorems

* `decode?_encode`: Reading inverts writing.
-/

namespace BridgeCustody

namespace Base64

/-- The symbol for a value below 64. -/
def symbol (n : Nat) : Char :=
  if n < 26 then Char.ofNat (65 + n)
  else if n < 52 then Char.ofNat (71 + n)
  else if n < 62 then Char.ofNat (n - 4)
  else if n = 62 then '+'
  else '/'

/-- The value of a symbol. -/
def value? (c : Char) : Option Nat :=
  if 'A' ≤ c ∧ c ≤ 'Z' then some (c.toNat - 65)
  else if 'a' ≤ c ∧ c ≤ 'z' then some (c.toNat - 71)
  else if '0' ≤ c ∧ c ≤ '9' then some (c.toNat + 4)
  else if c = '+' then some 62
  else if c = '/' then some 63
  else none

/-- Padded base64 of a byte string. -/
def encode : Bytes → List Char
  | [] => []
  | [x] =>
    [symbol (x.toNat / 4), symbol (x.toNat % 4 * 16), '=', '=']
  | [x, y] =>
    [symbol (x.toNat / 4), symbol (x.toNat % 4 * 16 + y.toNat / 16),
      symbol (y.toNat % 16 * 4), '=']
  | x :: y :: z :: rest =>
    symbol (x.toNat / 4) :: symbol (x.toNat % 4 * 16 + y.toNat / 16) ::
      symbol (y.toNat % 16 * 4 + z.toNat / 64) :: symbol (z.toNat % 64) :: encode rest

/-- The byte behind a last group of two symbols. -/
def lastOne? (a b : Char) : Option Bytes := do
  let a ← value? a
  let b ← value? b
  if b % 16 = 0 then some [UInt8.ofNat (a * 4 + b / 16)] else none

/-- The bytes behind a last group of three symbols. -/
def lastTwo? (a b c : Char) : Option Bytes := do
  let a ← value? a
  let b ← value? b
  let c ← value? c
  if c % 4 = 0 then
    some [UInt8.ofNat (a * 4 + b / 16), UInt8.ofNat (b % 16 * 16 + c / 4)]
  else none

/-- The bytes that a text stands for. -/
def decode? : List Char → Option Bytes
  | [] => some []
  | [_] => none
  | [a, b] => lastOne? a b
  | [a, b, '='] => lastOne? a b
  | [a, b, c] => lastTwo? a b c
  | [a, b, '=', '='] => lastOne? a b
  | [a, b, c, '='] => lastTwo? a b c
  | a :: b :: c :: d :: rest => do
    let a ← value? a
    let b ← value? b
    let c ← value? c
    let d ← value? d
    let bytes ← decode? rest
    return UInt8.ofNat (a * 4 + b / 16) :: UInt8.ofNat (b % 16 * 16 + c / 4) ::
      UInt8.ofNat (c % 4 * 64 + d) :: bytes

theorem value?_symbol : ∀ n, n < 64 → value? (symbol n) = some n := by decide

theorem symbol_ne_pad : ∀ n, n < 64 → symbol n ≠ '=' := by decide

/-- A group of four symbols, none of them padding, is three bytes. -/
theorem decode?_group {a b c d : Char} (rest : List Char) (hc : c ≠ '=') (hd : d ≠ '=') :
    decode? (a :: b :: c :: d :: rest) = (do
      let a ← value? a
      let b ← value? b
      let c ← value? c
      let d ← value? d
      let bytes ← decode? rest
      return UInt8.ofNat (a * 4 + b / 16) :: UInt8.ofNat (b % 16 * 16 + c / 4) ::
        UInt8.ofNat (c % 4 * 64 + d) :: bytes) := by
  rw [decode?.eq_def]
  split <;> simp_all

theorem decode?_onePad {a b c : Char} (hc : c ≠ '=') : decode? [a, b, c, '='] = lastTwo? a b c := by
  rw [decode?]
  exact hc

theorem decode?_encode (bytes : Bytes) : decode? (encode bytes) = some bytes := by
  induction bytes using encode.induct with
  | case1 => rfl
  | case2 x =>
    have hx := x.toNat_lt
    have h1 := value?_symbol (x.toNat / 4) (by omega)
    have h2 := value?_symbol (x.toNat % 4 * 16) (by omega)
    -- The second symbol holds two bits of the byte and four that are zero.
    have hb : x.toNat / 4 * 4 + x.toNat % 4 * 16 / 16 = x.toNat := by omega
    have hz : x.toNat % 4 * 16 % 16 = 0 := by omega
    simp only [encode, decode?, lastOne?, h1, h2, bind, Option.bind_some, hz, if_true, hb,
      UInt8.ofNat_toNat]
  | case3 x y =>
    have hx := x.toNat_lt
    have hy := y.toNat_lt
    have h1 := value?_symbol (x.toNat / 4) (by omega)
    have h2 := value?_symbol (x.toNat % 4 * 16 + y.toNat / 16) (by omega)
    have h3 := value?_symbol (y.toNat % 16 * 4) (by omega)
    have hp := symbol_ne_pad (y.toNat % 16 * 4) (by omega)
    -- The third symbol holds four bits of the second byte and two that are zero.
    have hb1 : x.toNat / 4 * 4 + (x.toNat % 4 * 16 + y.toNat / 16) / 16 = x.toNat := by omega
    have hb2 : (x.toNat % 4 * 16 + y.toNat / 16) % 16 * 16 + y.toNat % 16 * 4 / 4 = y.toNat := by
      omega
    have hz : y.toNat % 16 * 4 % 4 = 0 := by omega
    rw [encode, decode?_onePad hp]
    simp only [lastTwo?, h1, h2, h3, bind, Option.bind_some, hz, if_true, hb1, hb2,
      UInt8.ofNat_toNat]
  | case4 x y z rest ih =>
    have hx := x.toNat_lt
    have hy := y.toNat_lt
    have hz := z.toNat_lt
    have h1 := value?_symbol (x.toNat / 4) (by omega)
    have h2 := value?_symbol (x.toNat % 4 * 16 + y.toNat / 16) (by omega)
    have h3 := value?_symbol (y.toNat % 16 * 4 + z.toNat / 64) (by omega)
    have h4 := value?_symbol (z.toNat % 64) (by omega)
    -- Every bit of the three bytes is in exactly one of the four symbols.
    have hb1 : x.toNat / 4 * 4 + (x.toNat % 4 * 16 + y.toNat / 16) / 16 = x.toNat := by omega
    have hb2 : (x.toNat % 4 * 16 + y.toNat / 16) % 16 * 16
        + (y.toNat % 16 * 4 + z.toNat / 64) / 4 = y.toNat := by omega
    have hb3 : (y.toNat % 16 * 4 + z.toNat / 64) % 4 * 64 + z.toNat % 64 = z.toNat := by omega
    rw [encode, decode?_group _ (symbol_ne_pad _ (by omega)) (symbol_ne_pad _ (by omega))]
    simp only [h1, h2, h3, h4, ih, bind, Option.bind_some, hb1, hb2, hb3, UInt8.ofNat_toNat,
      pure]

end Base64

end BridgeCustody
