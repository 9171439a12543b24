import BridgeCustody.Committee.Execute

/-!
# Setting Up a Committee

A committee needs at least one member, valid and different addresses, and a
threshold between one and its size. Members are checked in the order in which
they are listed, each for being an address first and for being new second.

## Main definitions

* `Committee.enrol`: The members of a list, checked in order.
* `Committee.number`: Stores the number of each member.
* `Committee.deploy`: Sets up a committee.
-/

namespace BridgeCustody

namespace Committee

variable [AddressRule]

/-- The members that a list of texts adds to those enrolled already. -/
def enrol (enrolled : List Address) : List String → Except Error (List Address)
  | [] => .ok enrolled
  | text :: rest => do
    let member ← ofHost ((Address.check text).mapError .address)
    ensure (member ∉ enrolled) (.duplicateMember member)
    enrol (enrolled ++ [member]) rest

/-- Stores the number of each member, the first of them being number `first`. -/
def number (first : Nat) : List Address → Store → Store
  | [], s => s
  | member :: rest, s =>
    number (first + 1) rest ((numberCell member).write (UInt32.ofNat first) s)

/-- Sets up a committee on a store. -/
def deploy (f : Founding) (s : Store) : Except Error (Store × Event) := do
  let s := Release.item.write .ofCommittee s
  ensure (f.members ≠ []) .emptyCommittee
  let members ← enrol [] f.members
  let size := UInt32.ofNat members.length
  ensure (f.threshold ≠ 0 ∧ f.threshold ≤ size) (.invalidThreshold f.threshold size)
  let s := number 1 members s
  let s := setupItem.write ⟨members, f.threshold, f.timeout⟩ s
  let s := nonceItem.write 0 s
  return (s, .founded size f.threshold f.timeout)

end Committee

end BridgeCustody
