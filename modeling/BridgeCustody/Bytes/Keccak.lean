import BridgeCustody.Bytes.Hex

/-!
# Keccak-256

The 256-bit Keccak digest with the padding of Keccak itself, whose first byte
is one. Events carry it as a fixed-width key for free-form remote addresses.

The state is 25 lanes of 64 bits, lane `(x, y)` at index `x + 5 * y`. Each round
rebuilds the state from the previous one lane by lane.

## Main definitions

* `permute`: The permutation, 24 rounds.
* `digest`: The 32 digest bytes of a byte string.
* `indexKey`: The digest of a text as it stands in events.
-/

namespace BridgeCustody

namespace Keccak

/-- The 25 lanes. -/
abbrev State := Vector UInt64 25

/-- The lane in column `x` and row `y`, both taken modulo five. -/
def lane (s : State) (x y : Nat) : UInt64 :=
  s.get ⟨x % 5 + 5 * (y % 5), by omega⟩

/-- Rotates a lane to the left. -/
def rotate (w : UInt64) (n : Nat) : UInt64 :=
  if n % 64 = 0 then w
  else w <<< UInt64.ofNat (n % 64) ||| w >>> UInt64.ofNat (64 - n % 64)

/-- How far each lane is rotated, in index order. -/
def rotations : Vector Nat 25 :=
  #v[0, 1, 62, 28, 27, 36, 44, 6, 55, 20, 3, 10, 43, 25, 39, 41, 45, 15, 21, 8, 18, 2, 61, 56, 14]

/-- What each round adds to the first lane. -/
def roundConstants : List UInt64 := [
  0x0000000000000001, 0x0000000000008082, 0x800000000000808A, 0x8000000080008000,
  0x000000000000808B, 0x0000000080000001, 0x8000000080008081, 0x8000000000008009,
  0x000000000000008A, 0x0000000000000088, 0x0000000080008009, 0x000000008000000A,
  0x000000008000808B, 0x800000000000008B, 0x8000000000008089, 0x8000000000008003,
  0x8000000000008002, 0x8000000000000080, 0x000000000000800A, 0x800000008000000A,
  0x8000000080008081, 0x8000000000008080, 0x0000000080000001, 0x8000000080008008]

/-- The parity of a column. -/
def parity (s : State) (x : Nat) : UInt64 :=
  lane s x 0 ^^^ lane s x 1 ^^^ lane s x 2 ^^^ lane s x 3 ^^^ lane s x 4

/-- Adds to every lane the parities of the two columns beside it. -/
def mixColumns (s : State) : State :=
  let parities := Vector.ofFn fun x : Fin 5 => parity s x
  let effects := Vector.ofFn fun x : Fin 5 =>
    parities.get (x + 4) ^^^ rotate (parities.get (x + 1)) 1
  Vector.ofFn fun i : Fin 25 => s[i] ^^^ effects.get ⟨i.val % 5, by omega⟩

/-- Rotates each lane and moves it to its new place: what lands at `(x, y)`
    comes from `(x + 3 * y, x)`. -/
def spreadLanes (s : State) : State :=
  Vector.ofFn fun i : Fin 25 =>
    let x := i.val % 5
    let y := i.val / 5
    rotate (lane s (x + 3 * y) x) (rotations.get ⟨(x + 3 * y) % 5 + 5 * x, by omega⟩)

/-- Combines each lane with the next two of its row, the only step that is not
    linear. -/
def mixRows (s : State) : State :=
  Vector.ofFn fun i : Fin 25 =>
    let x := i.val % 5
    let y := i.val / 5
    s[i] ^^^ (~~~ lane s (x + 1) y &&& lane s (x + 2) y)

/-- One round. -/
def round (s : State) (constant : UInt64) : State :=
  let t := mixRows (spreadLanes (mixColumns s))
  t.set 0 (t[0] ^^^ constant)

/-- The permutation. -/
def permute (s : State) : State :=
  roundConstants.foldl round s

/-- Bytes that one block takes in. -/
def rate : Nat := 136

/-- What fills the last block: a one behind the message and the top bit of the
    block's last byte, in one byte if only one is left. -/
def padding (length : Nat) : Bytes :=
  match rate - length % rate with
  | 0 | 1 => [0x81]
  | n + 2 => 0x01 :: List.replicate n 0x00 ++ [0x80]

/-- The message with its padding. -/
def padded (message : Bytes) : Bytes :=
  message ++ padding message.length

/-- A lane from eight bytes, the least significant first. -/
def laneOfBytes (bytes : Bytes) : UInt64 :=
  bytes.foldr (fun b w => w <<< 8 ||| b.toUInt64) 0

/-- The eight bytes of a lane, the least significant first. -/
def bytesOfLane (w : UInt64) : Bytes :=
  (List.range 8).map fun i => (w >>> UInt64.ofNat (8 * i)).toUInt8

/-- Adds a block to the front of the state and permutes. -/
def absorb (s : State) (block : Bytes) : State :=
  permute (Vector.ofFn fun i : Fin 25 => s[i] ^^^ laneOfBytes ((block.drop (8 * i.val)).take 8))

/-- The digest of a byte string. -/
def digest (message : Bytes) : Bytes :=
  let text := padded message
  let blocks := (List.range (text.length / rate)).map fun i => (text.drop (rate * i)).take rate
  let final := blocks.foldl absorb (Vector.replicate 25 0)
  [0, 1, 2, 3].flatMap fun x => bytesOfLane (lane final x 0)

/-- The digest of a text as it stands in events. -/
def indexKey (text : String) : String :=
  "0x" ++ Hex.lowerText (digest (Bytes.ofText text))

end Keccak

end BridgeCustody
