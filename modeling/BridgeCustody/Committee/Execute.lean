import BridgeCustody.Chain
import BridgeCustody.Committee.Error
import BridgeCustody.Committee.Event
import BridgeCustody.Committee.Message
import BridgeCustody.Committee.Round

/-!
# Proposing and Signing

A member opens a round once the previous one has expired. It may be behind on
the latest nonce, but not ahead of it. Members sign the round of the moment,
each once, as long as it has not expired, and must name its nonce, so that a
signature never lands on a proposal it was not meant for.

A round that has gathered enough signatures is not closed by that: it runs to
its expiry, and further members may still sign.

## Main definitions

* `Committee.propose`, `Committee.sign`: The two calls.
* `Committee.execute`: A call on a store.
* `Committee.migrate`: Renews the release record.
-/

namespace BridgeCustody

namespace Committee

/-- Whether an address is a member. -/
def isMember (s : Store) (a : Address) : Bool :=
  (numberCell a).occupied s

/-- Refuses unless no round is open at a height. -/
def checkNoOpenRound (round : Option Round) (height : UInt64) : Except Error Unit :=
  match round with
  | none => .ok ()
  | some r => ensure (r.isExpired height = true) (.notYetExpired r.expiry)

/-- The first block at which a round opened at a height takes no signatures. -/
def expiryFor (height timeout : UInt64) : UInt64 :=
  Word.saturatingAdd (Word.saturatingAdd height timeout) 1

/-- Opens a round. -/
def propose (chain : Chain) (sender : Address) (expected : UInt64)
    (action actionData signature : String) (s : Store) : Except Error (Store × Event) := do
  ensure (isMember s sender = true) .unauthorized
  ensure (action ≠ "") .emptyAction
  let latest ← ofHost (roundCell.read? s)
  checkNoOpenRound latest chain.height
  let current ← ofHost (nonceItem.load s)
  ensure (expected ≤ current) (.invalidNonce current expected)
  let setup ← ofHost (setupItem.load s)
  match Word.next? current with
  | none => .error (.host .noncesExhausted)
  | some nonce =>
    let round : Round := {
      nonce := nonce
      action := action
      actionData := actionData
      expiry := expiryFor chain.height setup.timeout
      signees := [sender]
      signatures := [signature] }
    return (nonceItem.write nonce (roundCell.write round s),
      .proposed nonce sender action round.expiry)

/-- The round that can be signed with a nonce at a height. -/
def checkSignable (round : Option Round) (sender : Address) (nonce height : UInt64) :
    Except Error Round :=
  match round with
  | none => .error .noActiveRound
  | some r => do
    ensure (nonce = r.nonce) (.invalidNonce r.nonce nonce)
    ensure (r.isExpired height = false) (.roundExpired r.expiry)
    ensure (r.hasSigned sender = false) (.alreadySigned nonce)
    return r

/-- Adds a signature to the round. -/
def sign (chain : Chain) (sender : Address) (nonce : UInt64) (signature : String) (s : Store) :
    Except Error (Store × Event) := do
  ensure (isMember s sender = true) .unauthorized
  let latest ← ofHost (roundCell.read? s)
  let round ← checkSignable latest sender nonce chain.height
  let signed := round.signedBy sender signature
  let s := roundCell.write signed s
  let setup ← ofHost (setupItem.load s)
  return (s, .signed nonce sender signed.signatures.length (signed.reaches setup.threshold))

/-- A call on a store. -/
def execute (chain : Chain) (sender : Address) (message : Message) (s : Store) :
    Except Error (Store × Event) :=
  match message with
  | .propose expected action actionData signature =>
    propose chain sender expected action actionData signature s
  | .sign nonce signature => sign chain sender nonce signature s

/-- Renews the release record and touches nothing else. -/
def migrate (s : Store) : Store × Event :=
  (Release.item.write .ofCommittee s, .migrated)

end Committee

end BridgeCustody
