import BridgeCustody.Ledger.Outcome

/-!
# Funds in Custody

What an administrator may do with the funds: pay out of the supply, mint into
it, burn out of it, collect fees, collect what the ledger holds beyond what it
owes, and in the end close the ledger.

The supply never covers more than the token's own books say the ledger holds;
what lies beyond is excess, and only the last two operations ask the token.

## Main definitions

* `Ledger.withdraw`, `Ledger.mint`, `Ledger.burn`: Changes of the supply.
* `Ledger.withdrawFees`, `Ledger.withdrawExcess`: What is owed to nobody else.
* `Ledger.close`: Pays out everything and freezes the ledger.
-/

namespace BridgeCustody

namespace Ledger

variable [AddressRule]

/-- Pays an amount out of the supply. -/
def withdraw (g : Registry) (sender : Address) (target : String) (amount : Amount)
    (l : Ledger) : Except Error Outcome := do
  g.require [.admin] sender
  checkPositive amount
  let target ← checkAddress target
  let lowered ← l.lowerSupply amount
  return {
    ledger := lowered
    call := some (l.pay target amount)
    event := .withdrawn target amount }

/-- Mints an amount into custody. -/
def mint (g : Registry) (chain : Chain) (sender : Address) (amount : Amount) (l : Ledger) :
    Except Error Outcome := do
  g.require [.admin] sender
  checkPositive amount
  let raised ← l.raiseSupply amount
  return {
    ledger := raised
    call := some (.plain l.token (.mint chain.self amount))
    event := .minted amount }

/-- Burns an amount out of custody. -/
def burn (g : Registry) (sender : Address) (amount : Amount) (l : Ledger) :
    Except Error Outcome := do
  g.require [.admin] sender
  checkPositive amount
  let lowered ← l.lowerSupply amount
  return {
    ledger := lowered
    call := some (.plain l.token (.burn amount))
    event := .burned amount }

/-- Pays out all fees. -/
def withdrawFees (g : Registry) (sender : Address) (target : String) (l : Ledger) :
    Except Error Outcome := do
  g.require [.admin] sender
  let target ← checkAddress target
  ensure (l.fees ≠ .zero) (.invalidAmount .noFees)
  return {
    ledger := { l with fees := .zero }
    call := some (l.pay target l.fees)
    event := .feesWithdrawn target l.fees }

/-- Pays out what the ledger holds beyond what it owes. -/
def withdrawExcess (g : Registry) (chain : Chain) (sender : Address) (target : String)
    (l : Ledger) : Except Error Outcome := do
  g.require [.admin] sender
  let target ← checkAddress target
  let balance ← ofHost (chain.balance l.token)
  let owed ← l.owed
  let excess := balance.monus owed
  ensure (excess ≠ .zero) (.invalidAmount .noExcess)
  return {
    ledger := l
    call := some (l.pay target excess)
    event := .excessWithdrawn target excess }

/-- Pays out the whole balance and freezes the ledger for good. -/
def close (g : Registry) (chain : Chain) (sender : Address) (target : String) (l : Ledger) :
    Except Error Outcome := do
  g.require [.admin] sender
  ensure (l.earliestDelete ≤ chain.height) (.deletionTooEarly l.earliestDelete)
  let target ← checkAddress target
  let balance ← ofHost (chain.balance l.token)
  return {
    ledger := { l with supply := .zero, fees := .zero, deleted := true }
    call := if balance = .zero then none else some (l.pay target balance)
    event := .closed target balance }

end Ledger

end BridgeCustody
