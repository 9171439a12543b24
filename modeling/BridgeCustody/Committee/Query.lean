import BridgeCustody.Committee.Deploy

/-!
# Questions to the Committee

What can be asked of a committee without changing it. Positions in the committee
count from zero, numbers of members from one; the number zero means no member.

## Main definitions

* `Committee.Query`: A question.
* `Committee.Answer`: What it is answered with.
* `Committee.query`: The answer on a store.
-/

namespace BridgeCustody

namespace Committee

variable [AddressRule]

/-- A question to the committee. -/
inductive Query
  | setup
  | nonce
  | member (position : UInt32)
  | number (address : String)
  | signing
deriving DecidableEq

/-- What a question is answered with. -/
inductive Answer
  | setup (next : UInt64) (setup : Setup)
  | nonce (nonce : UInt64)
  | member (member : Address)
  | number (number : UInt32)
  | signing (round : Round) (reached expired : Bool)
deriving DecidableEq

instance : Wire Query where
  toJson
    | .setup => .alternative "coordination_setup" []
    | .nonce => .alternative "coordination_nonce" []
    | .member position => .alternative "committee_member" [("index", Wire.toJson position)]
    | .number address => .alternative "committee_index" [("address", Wire.toJson address)]
    | .signing => .alternative "signing_state" []
  ofJson? j := do
    let (name, body) ← j.alternative?
    match name with
    | "coordination_setup" => let _ ← body.record? []; return .setup
    | "coordination_nonce" => let _ ← body.record? []; return .nonce
    | "committee_member" =>
      let f ← body.record? ["index"]
      return .member (← Json.required? f "index")
    | "committee_index" =>
      let f ← body.record? ["address"]
      return .number (← Json.required? f "address")
    | "signing_state" => let _ ← body.record? []; return .signing
    | _ => none

/-- The form of an answer. -/
def Answer.toJson : Answer → Json
  | setup next s => .object [
      ("next_coordination_nonce", Wire.toJson next),
      ("threshold", Wire.toJson s.threshold),
      ("timeout_blocks", Wire.toJson s.timeout),
      ("committee", Wire.toJson s.members)]
  | nonce n => .object [("nonce", Wire.toJson n)]
  | member a => .object [("member", Wire.toJson a)]
  | number n => .object [("index", Wire.toJson n)]
  | signing r reached expired => .object [
      ("coordination_nonce", Wire.toJson r.nonce),
      ("action", Wire.toJson r.action),
      ("action_data", Wire.toJson r.actionData),
      ("expired_since_block", Wire.toJson r.expiry),
      ("signees", Wire.toJson r.signees),
      ("signatures", Wire.toJson r.signatures),
      ("threshold_reached", Wire.toJson reached),
      ("expired", Wire.toJson expired)]

/-- The text of an answer. -/
def Answer.text (a : Answer) : String :=
  a.toJson.text

/-- What is shown in place of a round before there is any. -/
def noRound (nonce : UInt64) : Round :=
  ⟨nonce, "", "", 0, [], []⟩

/-- The answer to a question on a store. -/
def query (chain : Chain) (s : Store) : Query → Except Fault Answer
  | .setup => do
    let setup ← setupItem.load s
    let nonce ← nonceItem.load s
    return .setup (Word.saturatingAdd nonce 1) setup
  | .nonce => return .nonce (← nonceItem.load s)
  | .member position => do
    let setup ← setupItem.load s
    match setup.members[position.toNat]? with
    | some member => return .member member
    | none => .error (.noMember position)
  | .number address => do
    let a ← (Address.check address).mapError .address
    return .number ((← (numberCell a).read? s).getD 0)
  | .signing => do
    let setup ← setupItem.load s
    let nonce ← nonceItem.load s
    match ← roundCell.read? s with
    | some r => return .signing r (r.reaches setup.threshold) (r.isExpired chain.height)
    | none => return .signing (noRound nonce) false true

end Committee

end BridgeCustody
