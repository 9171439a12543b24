import BridgeCustody.Json.Wire

/-!
# Messages to a Token

The only way value moves is a message to the token contract, sent along with the
answer to a call and carried out after the bookkeeping. These are the four that
are ever sent.

## Main definitions

* `TokenMessage`: What the token is asked to do.
* `TokenCall`: A message with the token it goes to.
* `TokenMessage.amount`: The amount that moves.
-/

namespace BridgeCustody

/-- What a token contract is asked to do. -/
inductive TokenMessage
  /-- Move an amount from the caller's balance. -/
  | transfer (recipient : Address) (amount : Amount)
  /-- Move an amount that its owner allowed the caller to move. -/
  | transferFrom (owner recipient : Address) (amount : Amount)
  /-- Create an amount. -/
  | mint (recipient : Address) (amount : Amount)
  /-- Destroy an amount of the caller's balance. -/
  | burn (amount : Amount)
deriving DecidableEq

namespace TokenMessage

/-- The amount that moves. -/
def amount : TokenMessage → Amount
  | transfer _ amount => amount
  | transferFrom _ _ amount => amount
  | mint _ amount => amount
  | burn amount => amount

end TokenMessage

instance : Wire TokenMessage where
  toJson
    | .transfer recipient amount => .alternative "transfer"
        [("recipient", Wire.toJson recipient), ("amount", Wire.toJson amount)]
    | .transferFrom owner recipient amount => .alternative "transfer_from"
        [("owner", Wire.toJson owner), ("recipient", Wire.toJson recipient),
          ("amount", Wire.toJson amount)]
    | .mint recipient amount => .alternative "mint"
        [("recipient", Wire.toJson recipient), ("amount", Wire.toJson amount)]
    | .burn amount => .alternative "burn" [("amount", Wire.toJson amount)]
  ofJson? j := do
    let (name, body) ← j.alternative?
    match name with
    | "transfer" =>
      let f ← body.record? ["recipient", "amount"]
      return .transfer (← Json.required? f "recipient") (← Json.required? f "amount")
    | "transfer_from" =>
      let f ← body.record? ["owner", "recipient", "amount"]
      return .transferFrom (← Json.required? f "owner") (← Json.required? f "recipient")
        (← Json.required? f "amount")
    | "mint" =>
      let f ← body.record? ["recipient", "amount"]
      return .mint (← Json.required? f "recipient") (← Json.required? f "amount")
    | "burn" =>
      let f ← body.record? ["amount"]
      return .burn (← Json.required? f "amount")
    | _ => none

/-- An amount of a coin of the chain itself. -/
structure Coin where
  denomination : String
  amount : Amount
deriving DecidableEq

/-- A message, the token it goes to and the coins it takes along. -/
structure TokenCall where
  token : Address
  message : TokenMessage
  coins : List Coin
deriving DecidableEq

namespace TokenCall

/-- A message without coins. -/
def plain (token : Address) (message : TokenMessage) : TokenCall :=
  ⟨token, message, []⟩

end TokenCall

end BridgeCustody
