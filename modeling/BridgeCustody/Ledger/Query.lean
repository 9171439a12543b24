import BridgeCustody.Ledger.Deploy

/-!
# Questions to the Ledger

What can be asked of the ledger without changing it. Questions about roles and
refunds read the tables beside the ledger and work on any store; all others need
the ledger itself.

The holders of a role are listed in pages, in the byte order of their addresses.
A page starts behind the last address of the previous one. It is answered only
if each of its entries is one that a grant could have left behind: a key that
ends in text, with a mark under it.

## Main definitions

* `Ledger.Query`: A question.
* `Ledger.Answer`: What it is answered with.
* `Ledger.query`: The answer on a store.
* `Ledger.members`: One page of the holders of a role.
-/

namespace BridgeCustody

namespace Ledger

variable [AddressRule]

/-- A question to the ledger. -/
inductive Query
  | config
  | state
  | supply
  | fees
  | cap
  | nextSwapId
  | relayEon
  | refunded (id : UInt64)
  | swapLimits
  | reverseLimits
  | allowance
  | approverCap
  | pauses
  | hasRole (role : Role) (address : String)
  | members (role : Role) (startAfter : Option String) (limit : Option UInt32)
  | excess
deriving DecidableEq

/-- What a question is answered with. -/
inductive Answer
  | config (l : Ledger)
  | state (l : Ledger)
  | amount (amount : Amount)
  | nextSwapId (id : UInt64)
  | relayEon (eon : UInt64)
  | refunded (id : UInt64) (amount : Amount)
  | swapLimits (limits : SwapLimits)
  | reverseLimits (limits : ReverseLimits)
  | pauses (publicApi relayerApi : UInt64) (publicPaused relayerPaused : Bool)
  | hasRole (held : Bool)
  | members (role : Role) (holders : List Address)
  | excess (balance supply fees beyond : Amount)
deriving DecidableEq

instance : Wire Query where
  toJson
    | .config => .alternative "config" []
    | .state => .alternative "state" []
    | .supply => .alternative "supply" []
    | .fees => .alternative "fees_accrued" []
    | .cap => .alternative "cap" []
    | .nextSwapId => .alternative "next_swap_id" []
    | .relayEon => .alternative "relay_eon" []
    | .refunded id => .alternative "refunded" [("id", Wire.toJson id)]
    | .swapLimits => .alternative "swap_limits" []
    | .reverseLimits => .alternative "reverse_swap_limits" []
    | .allowance => .alternative "reverse_aggregated_allowance" []
    | .approverCap => .alternative "reverse_aggregated_allowance_approver_cap" []
    | .pauses => .alternative "paused_since_block" []
    | .hasRole role address => .alternative "has_role"
        [("role", Wire.toJson role), ("address", Wire.toJson address)]
    | .members role startAfter limit => .alternative "role_members"
        [("role", Wire.toJson role), ("start_after", Json.ofOption startAfter),
          ("limit", Json.ofOption limit)]
    | .excess => .alternative "excess_funds" []
  ofJson? j := do
    let (name, body) ← j.alternative?
    match name with
    | "config" => let _ ← body.record? []; return .config
    | "state" => let _ ← body.record? []; return .state
    | "supply" => let _ ← body.record? []; return .supply
    | "fees_accrued" => let _ ← body.record? []; return .fees
    | "cap" => let _ ← body.record? []; return .cap
    | "next_swap_id" => let _ ← body.record? []; return .nextSwapId
    | "relay_eon" => let _ ← body.record? []; return .relayEon
    | "refunded" =>
      let f ← body.record? ["id"]
      return .refunded (← Json.required? f "id")
    | "swap_limits" => let _ ← body.record? []; return .swapLimits
    | "reverse_swap_limits" => let _ ← body.record? []; return .reverseLimits
    | "reverse_aggregated_allowance" => let _ ← body.record? []; return .allowance
    | "reverse_aggregated_allowance_approver_cap" => let _ ← body.record? []; return .approverCap
    | "paused_since_block" => let _ ← body.record? []; return .pauses
    | "has_role" =>
      let f ← body.record? ["role", "address"]
      return .hasRole (← Json.required? f "role") (← Json.required? f "address")
    | "role_members" =>
      let f ← body.record? ["role", "start_after", "limit"]
      return .members (← Json.required? f "role") (← Json.optional? f "start_after")
        (← Json.optional? f "limit")
    | "excess_funds" => let _ ← body.record? []; return .excess
    | _ => none

/-- The form of an answer. -/
def Answer.toJson : Answer → Json
  | config l => .object [
      ("token", Wire.toJson l.token),
      ("cap", Wire.toJson l.cap),
      ("swap_limits", Wire.toJson l.swapLimits),
      ("reverse_swap_limits", Wire.toJson l.reverseLimits),
      ("reverse_aggregated_allowance_approver_cap", Wire.toJson l.approverCap),
      ("deployment_block_number", Wire.toJson l.deployedAt),
      ("delete_protection_period", Wire.toJson l.protectionPeriod),
      ("earliest_delete", Wire.toJson l.earliestDelete),
      ("deleted", Wire.toJson l.deleted)]
  | state l => Wire.toJson l
  | amount a => .object [("amount", Wire.toJson a)]
  | nextSwapId id => .object [("next_swap_id", Wire.toJson id)]
  | relayEon eon => .object [("eon", Wire.toJson eon)]
  | refunded id a => .object [("id", Wire.toJson id), ("amount", Wire.toJson a)]
  | swapLimits limits => Wire.toJson limits
  | reverseLimits limits => Wire.toJson limits
  | pauses publicApi relayerApi publicPaused relayerPaused => .object [
      ("public_api", Wire.toJson publicApi),
      ("relayer_api", Wire.toJson relayerApi),
      ("public_api_paused", Wire.toJson publicPaused),
      ("relayer_api_paused", Wire.toJson relayerPaused)]
  | hasRole held => .object [("has_role", Wire.toJson held)]
  | members role holders => .object [
      ("role", Wire.toJson role), ("members", Wire.toJson holders)]
  | excess balance supply fees beyond => .object [
      ("balance", Wire.toJson balance),
      ("supply", Wire.toJson supply),
      ("fees_accrued", Wire.toJson fees),
      ("excess", Wire.toJson beyond)]

/-- The text of an answer. -/
def Answer.text (a : Answer) : String :=
  a.toJson.text

/-- How many holders a page has at most. -/
def pageSize (limit : Option UInt32) : Nat :=
  min (limit.getD 10).toNat 30

/-- The holder that the rest of a key names. -/
def holderOfKey (rest : Bytes) : Except Fault Address :=
  match Bytes.toText? rest with
  | some text => .ok ⟨text⟩
  | none => .error .keyNotText

/-- The holder that an entry names, given the rest of its key. The key is looked
    at first, then what stands under it, which has to be a mark. -/
def holderOfEntry : Bytes × String → Except Fault Address
  | (rest, text) => do
    let holder ← holderOfKey rest
    let _ ← Mark.ofText text
    return holder

/-- One page of the holders of a role, in the order of their keys, behind a
    given address. -/
def members (s : Store) (role : Role) (startAfter : Option Address) (limit : Option UInt32) :
    Except Fault (List Address) :=
  let entries := s.below (roleStart role)
  let behind := match startAfter with
    | none => entries
    | some a => entries.filter fun (rest, _) => a.bytes < rest
  (behind.take (pageSize limit)).mapM holderOfEntry

/-- The excess of the ledger's balance over what it owes. -/
def excess (chain : Chain) (l : Ledger) : Except Fault Answer := do
  let balance ← chain.balance l.token
  match l.owed? with
  | none => .error (.noSum l.supply l.fees)
  | some owed => return .excess balance l.supply l.fees (balance.monus owed)

/-- An address out of a question. -/
def queryAddress (text : String) : Except Fault Address :=
  (Address.check text).mapError .address

/-- The answer to a question on a store. -/
def query (chain : Chain) (s : Store) : Query → Except Fault Answer
  | .config => return .config (← item.load s)
  | .state => return .state (← item.load s)
  | .supply => return .amount (← item.load s).supply
  | .fees => return .amount (← item.load s).fees
  | .cap => return .amount (← item.load s).cap
  | .nextSwapId => return .nextSwapId (← item.load s).nextSwapId
  | .relayEon => return .relayEon (← item.load s).relayEon
  | .refunded id => return .refunded id ((← (refundCell id).read? s).getD .zero)
  | .swapLimits => return .swapLimits (← item.load s).swapLimits
  | .reverseLimits => return .reverseLimits (← item.load s).reverseLimits
  | .allowance => return .amount (← item.load s).allowance
  | .approverCap => return .amount (← item.load s).approverCap
  | .pauses => do
    let l ← item.load s
    return .pauses l.publicPause l.relayerPause (isPaused l.publicPause chain.height)
      (isPaused l.relayerPause chain.height)
  | .hasRole role address => do
    let holder ← queryAddress address
    return .hasRole ((Registry.ofStore s).holds role holder)
  | .members role startAfter limit => do
    let startAfter ← startAfter.mapM queryAddress
    return .members role (← members s role startAfter limit)
  | .excess => do
    let l ← item.load s
    excess chain l

end Ledger

end BridgeCustody
