/-!
# Byte Strings

Byte strings are lists, so that what is said about a key or a payload can be
said by recursion. Text becomes bytes by its UTF-8 encoding, numbers by their
big-endian digits to the base 256.

## Main definitions

* `Bytes`: A string of bytes.
* `Bytes.ofText`, `Bytes.toText?`: UTF-8 in both directions.
* `Bytes.bigEndian`: A number in a given number of bytes.

## Theorems

* `Bytes.toText?_ofText`: Text survives the way there and back.
* `Bytes.ofText_inj`: Different texts have different bytes.
* `Bytes.bigEndian_inj`: Numbers that fit have different bytes.
-/

namespace BridgeCustody

/-- A string of bytes. -/
abbrev Bytes := List UInt8

namespace Bytes

/-- The UTF-8 encoding of a text. -/
def ofText (s : String) : Bytes :=
  s.toByteArray.data.toList

/-- The text that a byte string encodes, if it is valid UTF-8. -/
def toText? (bytes : Bytes) : Option String :=
  String.fromUTF8? ⟨bytes.toArray⟩

/-- A number in `width` bytes, the most significant first. -/
def bigEndian : Nat → Nat → Bytes
  | 0, _ => []
  | width + 1, n => bigEndian width (n / 256) ++ [UInt8.ofNat n]

theorem toText?_ofText (s : String) : toText? (ofText s) = some s := by
  have : (⟨(ofText s).toArray⟩ : ByteArray) = s.toByteArray := rfl
  unfold toText?
  rw [this, String.fromUTF8?, dif_pos s.isValidUTF8]
  rfl

theorem ofText_inj {s t : String} : ofText s = ofText t ↔ s = t :=
  ⟨fun h => Option.some.inj (by rw [← toText?_ofText s, h, toText?_ofText]), congrArg ofText⟩

@[simp] theorem length_bigEndian (width n : Nat) : (bigEndian width n).length = width := by
  induction width generalizing n with
  | zero => rfl
  | succ width ih => simp [bigEndian, ih]

theorem bigEndian_inj {width m n : Nat} (hm : m < Nat.pow 256 width)
    (hn : n < Nat.pow 256 width) :
    bigEndian width m = bigEndian width n ↔ m = n := by
  refine ⟨fun h => ?_, fun h => h ▸ rfl⟩
  induction width generalizing m n with
  | zero => exact (Nat.lt_one_iff.mp hm).trans (Nat.lt_one_iff.mp hn).symm
  | succ width ih =>
    have hlast := List.append_inj h (by simp)
    have hhigh : m / 256 = n / 256 := by
      refine ih ?_ ?_ hlast.1 <;> rw [Nat.div_lt_iff_lt_mul (by decide)]
      · exact hm
      · exact hn
    have hlow : (UInt8.ofNat m).toNat = (UInt8.ofNat n).toNat := by
      rw [(List.cons.inj hlast.2).1]
    rw [UInt8.toNat_ofNat', UInt8.toNat_ofNat'] at hlow
    omega

end Bytes

end BridgeCustody
