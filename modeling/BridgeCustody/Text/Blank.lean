/-!
# Blank Text

White space in the sense of the Unicode property. A destination on the remote
chain is free-form text, but one that holds white space only is no destination.

## Main definitions

* `isSpace`: A white-space character.
* `isBlank`: A text of white space only.
-/

namespace BridgeCustody

namespace Text

/-- Code points with the Unicode property White_Space, as first and last of
    each run. -/
def spaces : List (Nat × Nat) := [
  (0x09, 0x0D), (0x20, 0x20), (0x85, 0x85), (0xA0, 0xA0), (0x1680, 0x1680), (0x2000, 0x200A),
  (0x2028, 0x2029), (0x202F, 0x202F), (0x205F, 0x205F), (0x3000, 0x3000)]

/-- Whether a character is white space. -/
def isSpace (c : Char) : Bool :=
  spaces.any fun (first, last) => first ≤ c.toNat && c.toNat ≤ last

/-- Whether nothing is left of a text once white space is trimmed. -/
def isBlank (s : String) : Bool :=
  s.toList.all isSpace

end Text

end BridgeCustody
