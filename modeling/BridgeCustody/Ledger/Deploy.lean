import BridgeCustody.Ledger.Execute

/-!
# Deployment of the Ledger

A deployment checks the token and the limits, stores a fresh ledger, makes the
deployer an administrator, and grants the listed roles one after the other. The
deployer's own address is not checked: the host vouches for it.

## Main definitions

* `Ledger.fresh`: The ledger that a deployment starts from.
* `Ledger.grantEach`: Grants a list of roles in order.
* `Ledger.deploy`: A deployment.
-/

namespace BridgeCustody

namespace Ledger

variable [AddressRule]

/-- The ledger that a deployment at a height starts from. -/
def fresh (token : Address) (height : UInt64) (d : Deployment) : Ledger where
  token := token
  supply := .zero
  fees := .zero
  cap := d.cap
  nextSwapId := d.nextSwapId.getD 0
  relayEon := Word.never
  allowance := d.allowance
  approverCap := d.approverCap
  swapLimits := d.swapLimits
  reverseLimits := d.reverseLimits
  publicPause := effectivePause (d.publicPause.getD Word.never) height
  relayerPause := effectivePause (d.relayerPause.getD Word.never) height
  deployedAt := height
  protectionPeriod := d.protectionPeriod
  earliestDelete := Word.saturatingAdd height d.protectionPeriod
  deleted := false

/-- Gives a role that is not held yet. -/
def grant (role : Role) (holder : Address) (s : Store) : Except Error Store := do
  let change ← (Registry.ofStore s).granting role holder
  return change.apply s

/-- Takes a role that is held. -/
def revoke (role : Role) (holder : Address) (s : Store) : Except Error Store := do
  let change ← (Registry.ofStore s).revoking role holder
  return change.apply s

/-- Grants the listed roles in order. -/
def grantEach : List Grant → Store → Except Error Store
  | [], s => .ok s
  | g :: rest, s => do
    let holder ← checkAddress g.address
    let s ← grant g.role holder s
    grantEach rest s

/-- A deployment on a store. -/
def deploy (chain : Chain) (sender : Address) (d : Deployment) (s : Store) :
    Except Error (Store × Receipt) := do
  let token ← checkAddress d.token
  d.swapLimits.validate
  d.reverseLimits.validate
  let l := fresh token chain.height d
  let s := item.write l (Release.item.write .ofLedger s)
  let s ← grant .admin sender s
  let s ← grantEach d.grants s
  return (s, ⟨none, .deployed sender token l.publicPause l.relayerPause l.earliestDelete⟩)

end Ledger

end BridgeCustody
