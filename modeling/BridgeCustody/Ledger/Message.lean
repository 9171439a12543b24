import BridgeCustody.Bytes.Base64
import BridgeCustody.Ledger.Limits
import BridgeCustody.Ledger.Role

/-!
# Messages to the Ledger

What the ledger is told, at deployment, in calls, and through the hook by which
a token announces that it has credited the ledger.

Addresses in messages are plain text until an operation checks them.

## Main definitions

* `Ledger.Deployment`: The terms of a deployment.
* `Ledger.Message`: A call.
* `Ledger.Hook`: What the payload of an announced credit asks for.
-/

namespace BridgeCustody

/-- A payload stands in messages as base64. -/
structure Payload where
  bytes : Bytes
deriving DecidableEq

instance : Wire Payload where
  toJson p := .string (String.ofList (Base64.encode p.bytes))
  ofJson?
    | .string s => (Base64.decode? s.toList).map Payload.mk
    | _ => none

namespace Ledger

/-- A role for an address, as part of a deployment. -/
structure Grant where
  role : Role
  address : String
deriving DecidableEq

/-- The terms of a deployment. Who deploys becomes the first administrator. -/
structure Deployment where
  token : String
  cap : Amount
  swapLimits : SwapLimits
  reverseLimits : ReverseLimits
  allowance : Amount
  approverCap : Amount
  /-- Never, if absent. -/
  publicPause : Option UInt64
  /-- Never, if absent. -/
  relayerPause : Option UInt64
  protectionPeriod : UInt64
  /-- Zero, if absent. -/
  nextSwapId : Option UInt64
  grants : List Grant
deriving DecidableEq

/-- A call of the ledger. -/
inductive Message
  | swap (amount : Amount) (destination : String)
  | receive (sender : String) (amount : Amount) (payload : Payload)
  | refund (id : UInt64) (recipient : String) (amount : Amount) (eon : UInt64)
  | refundInFull (id : UInt64) (recipient : String) (amount : Amount) (eon : UInt64)
  | reverseSwap (rid : UInt64) (recipient originFrom originTx : String) (amount : Amount)
      (eon : UInt64)
  | newRelayEon
  | pausePublicApi (since : UInt64)
  | pauseRelayerApi (since : UInt64)
  | deposit (amount : Amount)
  | withdraw (target : String) (amount : Amount)
  | mint (amount : Amount)
  | burn (amount : Amount)
  | withdrawFees (target : String)
  | withdrawExcess (target : String)
  | delete (target : String)
  | setCap (cap : Amount)
  | setSwapLimits (limits : SwapLimits)
  | setReverseLimits (limits : ReverseLimits)
  | setAllowance (amount : Amount)
  | setApproverCap (amount : Amount)
  | grantRole (role : Role) (address : String)
  | revokeRole (role : Role) (address : String)
  | renounceRole (role : Role)
deriving DecidableEq

/-- What the payload of an announced credit asks for. -/
inductive Hook
  | swap (destination : String)
  | deposit
deriving DecidableEq

instance : Wire Grant where
  toJson g := .object [("role", Wire.toJson g.role), ("address", Wire.toJson g.address)]
  ofJson? j := do
    let f ← j.record? ["role", "address"]
    return { role := ← Json.required? f "role", address := ← Json.required? f "address" }

instance : Wire Deployment where
  toJson d := .object [
    ("token", Wire.toJson d.token),
    ("cap", Wire.toJson d.cap),
    ("swap_limits", Wire.toJson d.swapLimits),
    ("reverse_swap_limits", Wire.toJson d.reverseLimits),
    ("reverse_aggregated_allowance", Wire.toJson d.allowance),
    ("reverse_aggregated_allowance_approver_cap", Wire.toJson d.approverCap),
    ("paused_since_block_public_api", Json.ofOption d.publicPause),
    ("paused_since_block_relayer_api", Json.ofOption d.relayerPause),
    ("delete_protection_period", Wire.toJson d.protectionPeriod),
    ("next_swap_id", Json.ofOption d.nextSwapId),
    ("roles", Wire.toJson d.grants)]
  ofJson? j := do
    let f ← j.record? ["token", "cap", "swap_limits", "reverse_swap_limits",
      "reverse_aggregated_allowance", "reverse_aggregated_allowance_approver_cap",
      "paused_since_block_public_api", "paused_since_block_relayer_api",
      "delete_protection_period", "next_swap_id", "roles"]
    return {
      token := ← Json.required? f "token"
      cap := ← Json.required? f "cap"
      swapLimits := ← Json.required? f "swap_limits"
      reverseLimits := ← Json.required? f "reverse_swap_limits"
      allowance := ← Json.required? f "reverse_aggregated_allowance"
      approverCap := ← Json.required? f "reverse_aggregated_allowance_approver_cap"
      publicPause := ← Json.optional? f "paused_since_block_public_api"
      relayerPause := ← Json.optional? f "paused_since_block_relayer_api"
      protectionPeriod := ← Json.required? f "delete_protection_period"
      nextSwapId := ← Json.optional? f "next_swap_id"
      grants := ← Json.required? f "roles" }

instance : Wire Message where
  toJson
    | .swap amount destination => .alternative "swap"
        [("amount", Wire.toJson amount), ("destination", Wire.toJson destination)]
    | .receive sender amount payload => .alternative "receive"
        [("sender", Wire.toJson sender), ("amount", Wire.toJson amount),
          ("msg", Wire.toJson payload)]
    | .refund id recipient amount eon => .alternative "refund"
        [("id", Wire.toJson id), ("to", Wire.toJson recipient), ("amount", Wire.toJson amount),
          ("relay_eon", Wire.toJson eon)]
    | .refundInFull id recipient amount eon => .alternative "refund_in_full"
        [("id", Wire.toJson id), ("to", Wire.toJson recipient), ("amount", Wire.toJson amount),
          ("relay_eon", Wire.toJson eon)]
    | .reverseSwap rid recipient originFrom originTx amount eon => .alternative "reverse_swap"
        [("rid", Wire.toJson rid), ("to", Wire.toJson recipient),
          ("origin_from", Wire.toJson originFrom), ("origin_tx_hash", Wire.toJson originTx),
          ("amount", Wire.toJson amount), ("relay_eon", Wire.toJson eon)]
    | .newRelayEon => .alternative "new_relay_eon" []
    | .pausePublicApi since => .alternative "pause_public_api_since"
        [("block_number", Wire.toJson since)]
    | .pauseRelayerApi since => .alternative "pause_relayer_api_since"
        [("block_number", Wire.toJson since)]
    | .deposit amount => .alternative "deposit" [("amount", Wire.toJson amount)]
    | .withdraw target amount => .alternative "withdraw"
        [("target", Wire.toJson target), ("amount", Wire.toJson amount)]
    | .mint amount => .alternative "mint" [("amount", Wire.toJson amount)]
    | .burn amount => .alternative "burn" [("amount", Wire.toJson amount)]
    | .withdrawFees target => .alternative "withdraw_fees" [("target", Wire.toJson target)]
    | .withdrawExcess target => .alternative "withdraw_excess_funds"
        [("target", Wire.toJson target)]
    | .delete target => .alternative "delete_contract" [("target", Wire.toJson target)]
    | .setCap cap => .alternative "set_cap" [("cap", Wire.toJson cap)]
    | .setSwapLimits limits => .object [("set_swap_limits", Wire.toJson limits)]
    | .setReverseLimits limits => .object [("set_reverse_swap_limits", Wire.toJson limits)]
    | .setAllowance amount => .alternative "set_reverse_aggregated_allowance"
        [("amount", Wire.toJson amount)]
    | .setApproverCap amount => .alternative "set_reverse_aggregated_allowance_approver_cap"
        [("amount", Wire.toJson amount)]
    | .grantRole role address => .alternative "grant_role"
        [("role", Wire.toJson role), ("address", Wire.toJson address)]
    | .revokeRole role address => .alternative "revoke_role"
        [("role", Wire.toJson role), ("address", Wire.toJson address)]
    | .renounceRole role => .alternative "renounce_role" [("role", Wire.toJson role)]
  ofJson? j := do
    let (name, body) ← j.alternative?
    match name with
    | "swap" =>
      let f ← body.record? ["amount", "destination"]
      return .swap (← Json.required? f "amount") (← Json.required? f "destination")
    | "receive" =>
      let f ← body.record? ["sender", "amount", "msg"]
      return .receive (← Json.required? f "sender") (← Json.required? f "amount")
        (← Json.required? f "msg")
    | "refund" =>
      let f ← body.record? ["id", "to", "amount", "relay_eon"]
      return .refund (← Json.required? f "id") (← Json.required? f "to")
        (← Json.required? f "amount") (← Json.required? f "relay_eon")
    | "refund_in_full" =>
      let f ← body.record? ["id", "to", "amount", "relay_eon"]
      return .refundInFull (← Json.required? f "id") (← Json.required? f "to")
        (← Json.required? f "amount") (← Json.required? f "relay_eon")
    | "reverse_swap" =>
      let f ← body.record? ["rid", "to", "origin_from", "origin_tx_hash", "amount", "relay_eon"]
      return .reverseSwap (← Json.required? f "rid") (← Json.required? f "to")
        (← Json.required? f "origin_from") (← Json.required? f "origin_tx_hash")
        (← Json.required? f "amount") (← Json.required? f "relay_eon")
    | "new_relay_eon" =>
      let _ ← body.record? []
      return .newRelayEon
    | "pause_public_api_since" =>
      let f ← body.record? ["block_number"]
      return .pausePublicApi (← Json.required? f "block_number")
    | "pause_relayer_api_since" =>
      let f ← body.record? ["block_number"]
      return .pauseRelayerApi (← Json.required? f "block_number")
    | "deposit" =>
      let f ← body.record? ["amount"]
      return .deposit (← Json.required? f "amount")
    | "withdraw" =>
      let f ← body.record? ["target", "amount"]
      return .withdraw (← Json.required? f "target") (← Json.required? f "amount")
    | "mint" =>
      let f ← body.record? ["amount"]
      return .mint (← Json.required? f "amount")
    | "burn" =>
      let f ← body.record? ["amount"]
      return .burn (← Json.required? f "amount")
    | "withdraw_fees" =>
      let f ← body.record? ["target"]
      return .withdrawFees (← Json.required? f "target")
    | "withdraw_excess_funds" =>
      let f ← body.record? ["target"]
      return .withdrawExcess (← Json.required? f "target")
    | "delete_contract" =>
      let f ← body.record? ["target"]
      return .delete (← Json.required? f "target")
    | "set_cap" =>
      let f ← body.record? ["cap"]
      return .setCap (← Json.required? f "cap")
    | "set_swap_limits" => return .setSwapLimits (← Wire.ofJson? body)
    | "set_reverse_swap_limits" => return .setReverseLimits (← Wire.ofJson? body)
    | "set_reverse_aggregated_allowance" =>
      let f ← body.record? ["amount"]
      return .setAllowance (← Json.required? f "amount")
    | "set_reverse_aggregated_allowance_approver_cap" =>
      let f ← body.record? ["amount"]
      return .setApproverCap (← Json.required? f "amount")
    | "grant_role" =>
      let f ← body.record? ["role", "address"]
      return .grantRole (← Json.required? f "role") (← Json.required? f "address")
    | "revoke_role" =>
      let f ← body.record? ["role", "address"]
      return .revokeRole (← Json.required? f "role") (← Json.required? f "address")
    | "renounce_role" =>
      let f ← body.record? ["role"]
      return .renounceRole (← Json.required? f "role")
    | _ => none

instance : Wire Hook where
  toJson
    | .swap destination => .alternative "swap" [("destination", Wire.toJson destination)]
    | .deposit => .alternative "deposit" []
  ofJson? j := do
    let (name, body) ← j.alternative?
    match name with
    | "swap" =>
      let f ← body.record? ["destination"]
      return .swap (← Json.required? f "destination")
    | "deposit" =>
      let _ ← body.record? []
      return .deposit
    | _ => none

end Ledger

end BridgeCustody
