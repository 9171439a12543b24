import BridgeCustody.Bytes.Basic

/-!
# Addresses

Accounts and contracts are named by text. A caller's own address is vouched for
by the host; every address that arrives inside a message is checked first.

What makes a text an address is a matter of the host, and hosts differ in it: one
asks for the checksum of its network, another for a normal form. All that a
contract learns is whether a text passed and, if it did not, what the host has to
say about it. So the rule is left open here, and whatever depends on it takes it
as a parameter. It is one rule for the whole life of a contract. An address that
was stored because it passed is still an address when it is asked for.

A text that passes is taken as it stands. The host may compare it with a normal
form, but it does not put the normal form in its place.

## Main definitions

* `Address`: The name of an account or a contract.
* `AddressFault`: Why a text is no address.
* `AddressRule`: How the host tells.
* `Address.check`: A text as an address, or its first fault.

## Theorems

* `Address.check_eq_ok_iff`: What `check` accepts, and that it changes nothing.
-/

namespace BridgeCustody

/-- The name of an account or a contract. -/
structure Address where
  text : String
deriving DecidableEq, Repr

/-- Why a text is no address, in the words of the host. Of a text that it could not
    read the host says nothing. -/
structure AddressFault where
  message? : Option String
deriving DecidableEq, Repr

/-- How the host tells addresses from other texts. -/
class AddressRule where
  /-- The first fault of a text as an address. -/
  fault? : String → Option AddressFault

namespace Address

variable [AddressRule]

/-- A text that names an account. -/
def Valid (text : String) : Prop :=
  AddressRule.fault? text = none

instance (text : String) : Decidable (Valid text) :=
  inferInstanceAs (Decidable (AddressRule.fault? text = none))

/-- A text as an address, or its first fault. -/
def check (text : String) : Except AddressFault Address :=
  match AddressRule.fault? text with
  | some fault => .error fault
  | none => .ok ⟨text⟩

/-- The bytes under which an address is stored. -/
def bytes (a : Address) : Bytes :=
  Bytes.ofText a.text

theorem check_eq_ok_iff {text : String} {a : Address} :
    check text = .ok a ↔ Valid text ∧ a.text = text := by
  unfold check Valid
  cases AddressRule.fault? text with
  | some fault => simp
  | none =>
    simp only [Except.ok.injEq, true_and]
    exact ⟨fun h => h ▸ rfl, fun h => by cases a; cases h; rfl⟩

theorem check_eq_error_iff {text : String} {fault : AddressFault} :
    check text = .error fault ↔ AddressRule.fault? text = some fault := by
  unfold check
  cases AddressRule.fault? text <;> simp

end Address

end BridgeCustody
