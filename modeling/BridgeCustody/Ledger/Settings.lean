import BridgeCustody.Ledger.Outcome

/-!
# Settings and Roles

The settings of the ledger, each with its own operation that touches nothing
else, and the granting and taking of roles. Most are for administrators alone.
Three widen the circle: a monitor may bring a pause forward, an approver may set
an allowance up to the approver cap, and anybody may give up a role of its own.

## Main definitions

* `Ledger.movePause`: The pause of a surface.
* `Ledger.setCap`, `Ledger.setSwapLimits`, `Ledger.setReverseLimits`,
  `Ledger.setAllowance`, `Ledger.setApproverCap`: The other settings.
* `Ledger.grantRole`, `Ledger.revokeRole`, `Ledger.renounceRole`: Roles.
-/

namespace BridgeCustody

namespace Ledger

variable [AddressRule]

/-- Moves the pause of a surface to a block, or to now if that has passed. -/
def movePause (g : Registry) (chain : Chain) (sender : Address) (surface : Surface)
    (requested : UInt64) (l : Ledger) : Except Error Outcome := do
  let since := effectivePause requested chain.height
  g.require (pauseSetters since (l.pausedSince surface)) sender
  return {
    ledger := l.setPausedSince surface since
    event := .pauseMoved surface since }

/-- Sets the cap. A supply above it stays, but cannot grow. -/
def setCap (g : Registry) (sender : Address) (cap : Amount) (l : Ledger) :
    Except Error Outcome := do
  g.require [.admin] sender
  return { ledger := { l with cap := cap }, event := .capSet cap }

/-- Sets the limits for forward swaps. -/
def setSwapLimits (g : Registry) (sender : Address) (limits : SwapLimits) (l : Ledger) :
    Except Error Outcome := do
  g.require [.admin] sender
  limits.validate
  return { ledger := { l with swapLimits := limits }, event := .swapLimitsSet limits }

/-- Sets the limits for the reverse direction. -/
def setReverseLimits (g : Registry) (sender : Address) (limits : ReverseLimits) (l : Ledger) :
    Except Error Outcome := do
  g.require [.admin] sender
  limits.validate
  return { ledger := { l with reverseLimits := limits }, event := .reverseLimitsSet limits }

/-- Sets what relayed operations may consume from now on. -/
def setAllowance (g : Registry) (sender : Address) (amount : Amount) (l : Ledger) :
    Except Error Outcome := do
  g.require (allowanceSetters amount l.approverCap) sender
  return { ledger := { l with allowance := amount }, event := .allowanceSet amount }

/-- Sets the largest allowance that an approver may set. -/
def setApproverCap (g : Registry) (sender : Address) (amount : Amount) (l : Ledger) :
    Except Error Outcome := do
  g.require [.admin] sender
  return { ledger := { l with approverCap := amount }, event := .approverCapSet amount }

/-- Gives a role. -/
def grantRole (g : Registry) (sender : Address) (role : Role) (address : String) (l : Ledger) :
    Except Error Outcome := do
  g.require [.admin] sender
  let holder ← checkAddress address
  let change ← g.granting role holder
  return { ledger := l, change := change, event := .roleGranted role holder }

/-- Takes a role away. -/
def revokeRole (g : Registry) (sender : Address) (role : Role) (address : String) (l : Ledger) :
    Except Error Outcome := do
  g.require [.admin] sender
  let holder ← checkAddress address
  let change ← g.revoking role holder
  return { ledger := l, change := change, event := .roleRevoked role holder }

/-- Gives up a role of one's own. -/
def renounceRole (g : Registry) (sender : Address) (role : Role) (l : Ledger) :
    Except Error Outcome := do
  let change ← g.revoking role sender
  return { ledger := l, change := change, event := .roleRenounced role sender }

end Ledger

end BridgeCustody
