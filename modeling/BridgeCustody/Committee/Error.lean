import BridgeCustody.Fault
import BridgeCustody.Guard

/-!
# Refusals of the Committee

Why the committee refuses a call.

## Main definitions

* `Committee.Error`: Why a call is refused.
* `Committee.Error.message?`: The wording.
-/

namespace BridgeCustody

namespace Committee

/-- Why a call is refused. -/
inductive Error
  | host (fault : Fault)
  | unauthorized
  | emptyCommittee
  | duplicateMember (member : Address)
  | invalidThreshold (threshold size : UInt32)
  | emptyAction
  | notYetExpired (expiry : UInt64)
  | invalidNonce (current got : UInt64)
  | noActiveRound
  | roundExpired (expiry : UInt64)
  | alreadySigned (nonce : UInt64)
deriving DecidableEq

/-- Why a call is refused, in words. -/
def Error.message? : Error → Option String
  | host fault => fault.message?
  | unauthorized => some "Unauthorized: caller is not a committee member"
  | emptyCommittee => some "Committee must not be empty"
  | duplicateMember member => some ("Duplicate committee member: " ++ member.text)
  | invalidThreshold threshold size =>
    some ("Invalid threshold " ++ Decimal.text threshold.toNat ++ " for committee of "
      ++ Decimal.text size.toNat)
  | emptyAction => some "Action must not be empty"
  | notYetExpired expiry =>
    some ("Current round not yet expired: expires at block " ++ Decimal.text expiry.toNat)
  | invalidNonce current got =>
    some ("Invalid nonce: current " ++ Decimal.text current.toNat ++ ", got "
      ++ Decimal.text got.toNat)
  | noActiveRound => some "No active coordination round"
  | roundExpired expiry =>
    some ("Coordination round expired at block " ++ Decimal.text expiry.toNat)
  | alreadySigned nonce => some ("Already signed round " ++ Decimal.text nonce.toNat)

/-- What a step around the committee came to, with its fault as a refusal. -/
def ofHost {α : Type} (result : Except Fault α) : Except Error α :=
  result.mapError .host

end Committee

end BridgeCustody
