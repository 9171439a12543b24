import BridgeCustody.Release

/-!
# Events of the Committee

What successful calls of the committee are reported as.

## Main definitions

* `Committee.Event`: What a call is reported as.
* `Committee.Event.attributes`: The report.
-/

namespace BridgeCustody

namespace Committee

/-- What a successful call is reported as. -/
inductive Event
  | founded (size threshold : UInt32) (timeout : UInt64)
  | migrated
  | proposed (nonce : UInt64) (proposer : Address) (action : String) (expiry : UInt64)
  | signed (nonce : UInt64) (signee : Address) (signatures : Nat) (reached : Bool)
deriving DecidableEq

/-- The report of an event. -/
def Event.attributes : Event → List (String × String)
  | founded size threshold timeout => [
      ("action", "instantiate"),
      ("committee_size", Decimal.text size.toNat),
      ("threshold", Decimal.text threshold.toNat),
      ("timeout_blocks", Decimal.text timeout.toNat)]
  | migrated => [("action", "migrate"), ("version", Release.current)]
  | proposed nonce proposer action expiry => [
      ("action", "propose"),
      ("nonce", Decimal.text nonce.toNat),
      ("proposer", proposer.text),
      ("proposed_action", action),
      ("expired_since_block", Decimal.text expiry.toNat)]
  | signed nonce signee signatures reached => [
      ("action", "sign"),
      ("nonce", Decimal.text nonce.toNat),
      ("signee", signee.text),
      ("signatures", Decimal.text signatures),
      ("threshold_reached", if reached then "true" else "false")]

end Committee

end BridgeCustody
