import BridgeCustody.Json.Wire

/-!
# Roles

The closed set of roles that the ledger knows. A role is named in messages, in
keys and in error texts by one and the same word.

## Main definitions

* `Ledger.Role`: A role.
* `Ledger.Role.name`: Its word.

## Theorems

* `Ledger.Role.name_inj`: Different roles have different words.
-/

namespace BridgeCustody

namespace Ledger

/-- A role that an address may hold. -/
inductive Role
  /-- Everything: roles, limits, cap, funds, pauses, deletion. -/
  | admin
  /-- Refunds, reverse swaps and the relay eon. -/
  | relayer
  /-- Sets the allowance, up to the approver cap. -/
  | approver
  /-- Brings pauses forward. -/
  | monitor
  /-- Nothing on the ledger itself. -/
  | delegate
deriving DecidableEq, Repr

namespace Role

/-- The word for a role. -/
def name : Role → String
  | admin => "admin"
  | relayer => "relayer"
  | approver => "approver"
  | monitor => "monitor"
  | delegate => "delegate"

theorem name_inj {r r' : Role} : r.name = r'.name ↔ r = r' := by
  cases r <;> cases r' <;> decide

end Role

instance : Wire Role where
  toJson r := .string r.name
  ofJson?
    | .string "admin" => some .admin
    | .string "relayer" => some .relayer
    | .string "approver" => some .approver
    | .string "monitor" => some .monitor
    | .string "delegate" => some .delegate
    | _ => none

end Ledger

end BridgeCustody
