import BridgeCustody.Ledger.Event
import BridgeCustody.Proofs.Wire

/-!
# A Report Tells Its Event

Whoever watches a ledger sees no events. What is published of a call is a list of
named texts, and every number in it is a decimal numeral. An observer who wants
to follow the ledger has to get from there back to what happened.

Nothing is lost on the way out. The first field names the action, no two kinds of
event share an action, and each further field is a text from which its value can
be read. Some fields repeat others, as the index key of a swap repeats its
destination, and reading does without them.

That two ways into the ledger can have the same report is no loss of this kind: a
swap by a direct call and one announced by the token are one event.

## Main definitions

* `Report`: What is published of a call.
* `Report.withAction?`, `Report.event?`: The event that a report is about.

## Theorems

* `Report.event?_attributes`: A report gives back its event.
-/

namespace BridgeCustody

/-- The word that a numeral stands for. -/
def Word.read? (text : String) : Option UInt64 :=
  (Decimal.readCanonical? text.toList).bind fun n => Wire.ofJson? (.number n)

theorem Word.read?_text (n : UInt64) : Word.read? (Decimal.text n.toNat) = some n := by
  rw [Word.read?, Decimal.text, String.toList_ofList, Decimal.readCanonical?_write,
    Option.bind_some]
  exact Wire.Lawful.ofJson?_toJson n

namespace Ledger

/-- What is published of a call: named texts in a fixed order. -/
abbrev Report := List (String × String)

namespace Report

/-- The address under a name. -/
def address? (r : Report) (name : String) : Option Address :=
  (r.lookup name).map Address.mk

/-- The amount under a name. -/
def amount? (r : Report) (name : String) : Option Amount :=
  (r.lookup name).bind Amount.read?

/-- The word under a name. -/
def word? (r : Report) (name : String) : Option UInt64 :=
  (r.lookup name).bind Word.read?

/-- The role under a name. -/
def role? (r : Report) (name : String) : Option Role :=
  (r.lookup name).bind fun text => Wire.ofJson? (.string text)

/-- The event that a report with a given action is about. -/
def withAction? (r : Report) : String → Option Event
  | "instantiate" =>
    return .deployed (← r.address? "admin") (← r.address? "token")
      (← r.word? "paused_since_block_public_api") (← r.word? "paused_since_block_relayer_api")
      (← r.word? "earliest_delete")
  | "migrate" => some .migrated
  | "swap" =>
    return .swapped (← r.word? "swap_id") (← r.address? "from") (← r.lookup "to")
      (← r.amount? "amount")
  | "swap_refund" =>
    return .refunded (← r.word? "swap_id") (← r.address? "to") (← r.amount? "refunded_amount")
      (← r.amount? "fee")
  | "reverse_swap" =>
    return .reverseSwapped (← r.word? "rid") (← r.address? "to") (← r.lookup "from")
      (← r.lookup "origin_tx_hash") (← r.amount? "effective_amount") (← r.amount? "fee")
  | "new_relay_eon" => return .eonRotated (← r.word? "eon")
  | "pause_public_api" => return .pauseMoved .publicApi (← r.word? "since_block")
  | "pause_relayer_api" => return .pauseMoved .relayerApi (← r.word? "since_block")
  | "deposit" => return .deposited (← r.address? "from") (← r.amount? "amount")
  | "withdraw" => return .withdrawn (← r.address? "target") (← r.amount? "amount")
  | "mint" => return .minted (← r.amount? "amount")
  | "burn" => return .burned (← r.amount? "amount")
  | "fees_withdrawal" => return .feesWithdrawn (← r.address? "target") (← r.amount? "amount")
  | "excess_funds_withdrawal" =>
    return .excessWithdrawn (← r.address? "target") (← r.amount? "amount")
  | "delete_contract" => return .closed (← r.address? "target") (← r.amount? "amount")
  | "cap_update" => return .capSet (← r.amount? "cap")
  | "swap_limits_update" => return .swapLimitsSet ⟨← r.amount? "min", ← r.amount? "max"⟩
  | "reverse_swap_limits_update" =>
    return .reverseLimitsSet ⟨← r.amount? "min", ← r.amount? "max", ← r.amount? "fee"⟩
  | "reverse_aggregated_allowance_update" => return .allowanceSet (← r.amount? "amount")
  | "reverse_aggregated_allowance_approver_cap_update" =>
    return .approverCapSet (← r.amount? "amount")
  | "grant_role" => return .roleGranted (← r.role? "role") (← r.address? "address")
  | "revoke_role" => return .roleRevoked (← r.role? "role") (← r.address? "address")
  | "renounce_role" => return .roleRenounced (← r.role? "role") (← r.address? "address")
  | _ => none

/-- The event that a report is about. -/
def event? (r : Report) : Option Event :=
  (r.lookup "action").bind r.withAction?

theorem role?_name (role : Role) : Wire.ofJson? (.string role.name) = some role :=
  Wire.Lawful.ofJson?_toJson role

theorem event?_eq {r : Report} {action : String} (h : r.lookup "action" = some action) :
    r.event? = r.withAction? action := by
  rw [event?, h, Option.bind_some]

/-- A report gives back its event. -/
theorem event?_attributes (e : Event) : event? e.attributes = some e := by
  cases e with
  | migrated => rfl
  -- The action of a pause depends on the surface, so that has to be known first.
  | pauseMoved surface since =>
      cases surface with
      | publicApi | relayerApi =>
          refine Eq.trans (event?_eq rfl) ?_
          rw [Surface.action, withAction?]
          simp [Event.attributes, List.lookup_cons, word?, Word.read?_text]
  | _ =>
      -- Once the action is known, the other names are looked up one by one.
      refine Eq.trans (event?_eq rfl) ?_
      rw [withAction?]
      simp [Event.attributes, List.lookup_cons, word?, address?, amount?, role?,
        Word.read?_text, Amount.read?_text, role?_name]

end Report

end Ledger

end BridgeCustody
