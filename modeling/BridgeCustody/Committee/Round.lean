import BridgeCustody.Release
import BridgeCustody.Word

/-!
# Committees and Rounds

A committee is fixed when it is set up. It works in rounds: a proposal opens a
round, members sign it, and from a certain block on it takes no more signatures.
A new proposal replaces the round, under a nonce that is one higher.

The number of a member is its place in the committee, counted from one; it is
stored apart from the committee so that membership is a single look-up.

## Main definitions

* `Committee.Setup`: What was fixed.
* `Committee.Round`: The proposal of the moment and who has signed it.
* `Committee.setupItem`, `Committee.nonceItem`, `Committee.roundCell`,
  `Committee.numberCell`: Where things are stored.
-/

namespace BridgeCustody

namespace Committee

/-- What is fixed when a committee is set up. -/
structure Setup where
  members : List Address
  threshold : UInt32
  timeout : UInt64
deriving DecidableEq

/-- A proposal and the signatures on it, the proposer's first. -/
structure Round where
  nonce : UInt64
  action : String
  actionData : String
  /-- The first block at which the round takes no more signatures. -/
  expiry : UInt64
  signees : List Address
  signatures : List String
deriving DecidableEq

instance : Wire Setup where
  toJson s := .object [
    ("committee", Wire.toJson s.members),
    ("threshold", Wire.toJson s.threshold),
    ("timeout_blocks", Wire.toJson s.timeout)]
  ofJson? j := do
    let f ← j.record? ["committee", "threshold", "timeout_blocks"]
    return {
      members := ← Json.required? f "committee"
      threshold := ← Json.required? f "threshold"
      timeout := ← Json.required? f "timeout_blocks" }

instance : Wire Round where
  toJson r := .object [
    ("nonce", Wire.toJson r.nonce),
    ("action", Wire.toJson r.action),
    ("action_data", Wire.toJson r.actionData),
    ("expired_since_block", Wire.toJson r.expiry),
    ("signees", Wire.toJson r.signees),
    ("signatures", Wire.toJson r.signatures)]
  ofJson? j := do
    let f ← j.record? ["nonce", "action", "action_data", "expired_since_block", "signees",
      "signatures"]
    return {
      nonce := ← Json.required? f "nonce"
      action := ← Json.required? f "action"
      actionData := ← Json.required? f "action_data"
      expiry := ← Json.required? f "expired_since_block"
      signees := ← Json.required? f "signees"
      signatures := ← Json.required? f "signatures" }

namespace Round

/-- Whether the round takes no more signatures at a height. -/
def isExpired (r : Round) (height : UInt64) : Bool :=
  r.expiry ≤ height

/-- Whether an address has signed. -/
def hasSigned (r : Round) (a : Address) : Bool :=
  r.signees.contains a

/-- How many signatures the round holds, as a 32-bit count. -/
def count (r : Round) : UInt32 :=
  UInt32.ofNat r.signatures.length

/-- Whether the round holds as many signatures as a threshold asks for. -/
def reaches (r : Round) (threshold : UInt32) : Bool :=
  threshold ≤ r.count

/-- The round with one more signature. -/
def signedBy (r : Round) (a : Address) (signature : String) : Round :=
  { r with signees := r.signees ++ [a], signatures := r.signatures ++ [signature] }

end Round

/-- Where the setup is stored. -/
def setupItem : Item Setup where
  key := Key.single "setup"
  kind := "multisig_coordinator::state::Setup"

/-- Where the nonce of the latest round is stored. -/
def nonceItem : Item UInt64 where
  key := Key.single "coordination_nonce"
  kind := "u64"

/-- Where the latest round is stored, once there is one. -/
def roundCell : Cell Round where
  key := Key.single "round"

/-- Where the number of a member is stored. -/
def numberCell (a : Address) : Cell UInt32 where
  key := Key.table "committee_index" [] ++ a.bytes

end Committee

end BridgeCustody
