import BridgeCustody.Address
import BridgeCustody.Amount
import BridgeCustody.Bytes.Hex
import BridgeCustody.Word

/-!
# Faults of the Surroundings

What can go wrong around a call, apart from the rules of the contract that is
called: an address that is none, a stored value that is missing or unreadable,
a token that does not answer, a counter that has run out.

## Main definitions

* `Fault`: What went wrong.
* `Fault.message?`: How it is reported; what is unreadable carries no message.
-/

namespace BridgeCustody

/-- What went wrong around a call. -/
inductive Fault
  /-- A text is no address. -/
  | address (fault : AddressFault)
  /-- No value is stored under a key that should hold one. -/
  | absent (kind : String) (key : Bytes)
  /-- The committee has no such position. -/
  | noMember (position : UInt32)
  /-- A stored value, a payload or an answer does not have its form. -/
  | unreadable
  /-- A stored key does not end in text. -/
  | keyNotText
  /-- No token contract stands at the address. -/
  | noSuchToken (token : Address)
  /-- The token contract refused to answer. -/
  | tokenFailed (text : String)
  /-- A sum is no amount. -/
  | noSum (a b : Amount)
  /-- Every swap id has been issued. -/
  | swapIdsExhausted
  /-- Every coordination nonce has been used. -/
  | noncesExhausted
deriving DecidableEq

/-- A sum that is no amount, in words. -/
def noSumText (a b : Amount) : String :=
  "Cannot Add with " ++ a.text ++ " and " ++ b.text

/-- A difference that is no amount, in words. -/
def noDifferenceText (a b : Amount) : String :=
  "Cannot Sub with " ++ a.text ++ " and " ++ b.text

/-- A key as a bracketed list of its bytes. -/
def keyText (key : Bytes) : String :=
  let bytes := key.map fun b => String.ofList (Hex.writeByte Hex.upper b)
  "[" ++ ", ".intercalate bytes ++ "]"

/-- How a fault is reported. What does not have its form, or is no text, is
    reported as such and without a message. -/
def Fault.message? : Fault → Option String
  | address fault => fault.message?.map ("Generic error: " ++ ·)
  | absent kind key => some ("type: " ++ kind ++ "; key: " ++ keyText key ++ " not found")
  | noMember position => some ("committee member " ++ Decimal.text position.toNat ++ " not found")
  | unreadable => none
  | keyNotText => none
  | noSuchToken token =>
    some ("Generic error: Querier system error: No such contract: " ++ token.text)
  | tokenFailed text => some ("Generic error: Querier contract error: " ++ text)
  | noSum a b => some ("Overflow: " ++ noSumText a b)
  | swapIdsExhausted => some "Generic error: swap id sequence exhausted"
  | noncesExhausted => some "Generic error: coordination nonce exhausted"

end BridgeCustody
