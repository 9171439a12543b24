import BridgeCustody.Ledger.Basic

/-!
# The Registry Beside the Ledger

Two tables stand beside the ledger: which address holds which role, and which
swap was refunded with which amount. An operation does not get the store. It is
shown the registry, that is, the two yes-or-no questions it may ask, and it
answers with at most one change. So what an operation can depend on, and what it
can write, is visible from its type.

## Main definitions

* `Ledger.roleCell`, `Ledger.refundCell`: Where the entries are stored.
* `Ledger.Registry`: The questions, and `Registry.ofStore` their answers.
* `Ledger.Registry.require`: Refuses unless an address holds one of some roles.
* `Ledger.Change`: What a call writes beside the ledger.

## Theorems

* `Ledger.Registry.require_eq_ok_iff`: When a role check passes.
-/

namespace BridgeCustody

namespace Ledger

/-- What the keys of a role's holders start with. -/
def roleStart (role : Role) : Bytes :=
  Key.table "roles" [role.name]

/-- Where it is stored that an address holds a role. -/
def roleCell (role : Role) (holder : Address) : Cell Mark :=
  ⟨roleStart role ++ holder.bytes⟩

/-- Where the amount refunded for a swap is stored. -/
def refundCell (id : UInt64) : Cell Amount :=
  ⟨Key.table "refunds" [] ++ Bytes.bigEndian 8 id.toNat⟩

/-- What an operation may ask of the tables beside the ledger. -/
structure Registry where
  holds : Role → Address → Bool
  refunded : UInt64 → Bool

/-- What a call writes beside the ledger. -/
inductive Change
  | nothing
  | grant (role : Role) (holder : Address)
  | revoke (role : Role) (holder : Address)
  | refund (id : UInt64) (amount : Amount)
deriving DecidableEq

namespace Registry

/-- The tables as they stand in a store. -/
def ofStore (s : Store) : Registry where
  holds role holder := (roleCell role holder).occupied s
  refunded id := (refundCell id).occupied s

/-- Refuses unless an address holds at least one of the roles. -/
def require (g : Registry) (roles : List Role) (a : Address) : Except Error Unit :=
  ensure (roles.any (g.holds · a) = true) (.unauthorized roles)

/-- The change that gives a role to an address that does not hold it. -/
def granting (g : Registry) (role : Role) (holder : Address) : Except Error Change := do
  ensure (g.holds role holder = false) (.alreadyGranted role holder)
  return .grant role holder

/-- The change that takes a role from its holder. -/
def revoking (g : Registry) (role : Role) (holder : Address) : Except Error Change := do
  ensure (g.holds role holder = true) (.notGranted role holder)
  return .revoke role holder

theorem require_eq_ok_iff {g : Registry} {roles : List Role} {a : Address} {u : Unit} :
    g.require roles a = .ok u ↔ ∃ role ∈ roles, g.holds role a = true := by
  rw [require, ensure_eq_ok_iff, List.any_eq_true]

end Registry

/-- A store after a change. -/
def Change.apply (s : Store) : Change → Store
  | nothing => s
  | grant role holder => (roleCell role holder).occupy s
  | revoke role holder => (roleCell role holder).clear s
  | refund id amount => (refundCell id).write amount s

end Ledger

end BridgeCustody
