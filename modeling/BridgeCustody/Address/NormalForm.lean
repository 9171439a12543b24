import BridgeCustody.Address
import BridgeCustody.Text.Lowercase

/-!
# Addresses in Normal Form

The rule that a program goes by if it is not given another. An address has room
for ninety bytes. A text of a fitting length is brought into its normal form, which
is in lower case and free of NUL, and must be that form already. A few small letters
need more bytes than their capitals, so the lower case of a text that fits may not
fit. It is then cut to its first ninety bytes, and a cut through a character leaves
no text to compare with.

Nothing is proved from this rule except about addresses that are written out.

## Main definitions

* `AddressFault.tooShort`, `AddressFault.tooLong`, `AddressFault.cut`,
  `AddressFault.notNormalized`: What can be wrong with a text.
* `NormalForm.of?`: What is left of a text in the room of an address.
* `NormalForm.fault?`: The first fault of a text.
* `NormalForm.rule`: The rule as an instance, which gives way to any other.
-/

namespace BridgeCustody

namespace AddressFault

def tooShort : AddressFault :=
  ⟨some "Invalid input: human address too short for this mock implementation (must be >= 3)."⟩

def tooLong : AddressFault :=
  ⟨some "Invalid input: human address too long for this mock implementation (must be <= 90)."⟩

/-- The normal form is cut inside a character. -/
@[match_pattern]
def cut : AddressFault :=
  ⟨none⟩

def notNormalized : AddressFault :=
  ⟨some "Invalid input: address not normalized"⟩

end AddressFault

namespace NormalForm

/-- The characters that stand in the first `room` bytes of a text, unless the
    last of these bytes is inside a character. -/
def cut? (room : Nat) : List Char → Option (List Char)
  | [] => some []
  | c :: rest =>
    if room = 0 then some []
    else if room < c.utf8Size then none
    else (cut? (room - c.utf8Size) rest).map (c :: ·)

/-- What is left of a text in the room of an address. NUL fills unused room and
    is no part of the form. -/
def of? (text : String) : Option String := do
  let kept ← cut? 90 (Text.lowercase text.toList)
  return String.ofList (kept.filter (· ≠ '\x00'))

/-- The first fault of a text that should be an address in normal form. -/
def fault? (text : String) : Option AddressFault :=
  if text.utf8ByteSize < 3 then some .tooShort
  else if 90 < text.utf8ByteSize then some .tooLong
  else match of? text with
    | none => some .cut
    | some form => if form = text then none else some .notNormalized

/-- The rule in force where no other is given. -/
instance (priority := low) rule : AddressRule where
  fault? := fault?

end NormalForm

end BridgeCustody
