import BridgeCustody.Json.Wire

/-!
# Messages to the Committee

What the committee is told when it is set up and in calls.

## Main definitions

* `Committee.Founding`: The terms of a committee.
* `Committee.Message`: A call.
-/

namespace BridgeCustody

namespace Committee

/-- The terms of a committee, its members not yet checked. -/
structure Founding where
  members : List String
  threshold : UInt32
  timeout : UInt64
deriving DecidableEq

/-- A call of the committee. -/
inductive Message
  /-- Open a round. The caller states the nonce it believes to be the latest. -/
  | propose (expected : UInt64) (action actionData signature : String)
  /-- Sign the round with a nonce. -/
  | sign (nonce : UInt64) (signature : String)
deriving DecidableEq

instance : Wire Founding where
  toJson f := .object [
    ("committee", Wire.toJson f.members),
    ("threshold", Wire.toJson f.threshold),
    ("timeout_blocks", Wire.toJson f.timeout)]
  ofJson? j := do
    let f ← j.record? ["committee", "threshold", "timeout_blocks"]
    return {
      members := ← Json.required? f "committee"
      threshold := ← Json.required? f "threshold"
      timeout := ← Json.required? f "timeout_blocks" }

instance : Wire Message where
  toJson
    | .propose expected action actionData signature => .alternative "propose"
        [("expected_nonce", Wire.toJson expected), ("action", Wire.toJson action),
          ("action_data", Wire.toJson actionData), ("signature", Wire.toJson signature)]
    | .sign nonce signature => .alternative "sign"
        [("nonce", Wire.toJson nonce), ("signature", Wire.toJson signature)]
  ofJson? j := do
    let (name, body) ← j.alternative?
    match name with
    | "propose" =>
      let f ← body.record? ["expected_nonce", "action", "action_data", "signature"]
      return .propose (← Json.required? f "expected_nonce") (← Json.required? f "action")
        (← Json.required? f "action_data") (← Json.required? f "signature")
    | "sign" =>
      let f ← body.record? ["nonce", "signature"]
      return .sign (← Json.required? f "nonce") (← Json.required? f "signature")
    | _ => none

end Committee

end BridgeCustody
