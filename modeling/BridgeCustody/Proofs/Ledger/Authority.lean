import BridgeCustody.Proofs.Ledger.History

/-!
# Who May Write What

The ledger has some twenty operations and some twenty things to write: the
fields of its value, the holders of roles, the record of refunds. This is the
table of which operation may write what, and on whose authority.

The table is written by the thing and not by the operation. A reader who asks
who can lower the supply finds one relation, `LowersSupply`, with a rule for each
way, and the theorem is that the supply is not lower after a call unless one of
the rules applies. That is stronger than a list of what each operation does,
because a further operation that writes the field would not be on the list but
would break the theorem. It also says that a setter leaves the other settings
alone: they would have to be written by their own.

Authority is judged by the roles as they stand before the call. An administrator
who revokes its own role was an administrator when it did so.

## Main definitions

* `RaisesSupply`, `LowersSupply`, `RaisesFees`, `LowersFees`, `IssuesSwap`,
  `Relays`: What a message must be, and who must have sent it.
* `MovesRole`, `RecordsRefund`: The same for the entries of the tables.
* `Warranted`, `TablesWarranted`: Every difference has a warrant.

## Theorems

* `Performs.warranted`: The value, operation by operation.
* `Performs.tablesWarranted`: The tables.
* `authority_of_execute`: A call that goes through, on any store.
-/

namespace BridgeCustody

namespace Ledger

/-- What raises the supply. -/
inductive RaisesSupply (g : Registry) (sender : Address) (l : Ledger) : Message → Prop
  | swap {amount destination} : RaisesSupply g sender l (.swap amount destination)
  | receive {owner amount payload} (htoken : sender = l.token) :
      RaisesSupply g sender l (.receive owner amount payload)
  | deposit {amount} (hadmin : g.holds .admin sender = true) :
      RaisesSupply g sender l (.deposit amount)
  | mint {amount} (hadmin : g.holds .admin sender = true) :
      RaisesSupply g sender l (.mint amount)

/-- What is relayed: a message that a relayer sends on behalf of the other
    chain. -/
inductive Relays (g : Registry) (sender : Address) : Message → Prop
  | refund {id recipient amount eon} (hrelayer : g.holds .relayer sender = true) :
      Relays g sender (.refund id recipient amount eon)
  | refundInFull {id recipient amount eon} (hrelayer : g.holds .relayer sender = true) :
      Relays g sender (.refundInFull id recipient amount eon)
  | reverseSwap {rid recipient originFrom originTx amount eon}
      (hrelayer : g.holds .relayer sender = true) :
      Relays g sender (.reverseSwap rid recipient originFrom originTx amount eon)

/-- What lowers the supply. -/
inductive LowersSupply (g : Registry) (sender : Address) : Message → Prop
  | withdraw {target amount} (hadmin : g.holds .admin sender = true) :
      LowersSupply g sender (.withdraw target amount)
  | burn {amount} (hadmin : g.holds .admin sender = true) : LowersSupply g sender (.burn amount)
  | delete {target} (hadmin : g.holds .admin sender = true) :
      LowersSupply g sender (.delete target)
  | relayed {message} (h : Relays g sender message) : LowersSupply g sender message

/-- What raises the fees. -/
inductive RaisesFees (g : Registry) (sender : Address) : Message → Prop
  | refund {id recipient amount eon} (hrelayer : g.holds .relayer sender = true) :
      RaisesFees g sender (.refund id recipient amount eon)
  | reverseSwap {rid recipient originFrom originTx amount eon}
      (hrelayer : g.holds .relayer sender = true) :
      RaisesFees g sender (.reverseSwap rid recipient originFrom originTx amount eon)

/-- What lowers the fees. -/
inductive LowersFees (g : Registry) (sender : Address) : Message → Prop
  | withdrawFees {target} (hadmin : g.holds .admin sender = true) :
      LowersFees g sender (.withdrawFees target)
  | delete {target} (hadmin : g.holds .admin sender = true) :
      LowersFees g sender (.delete target)

/-- What issues a swap id: a swap, direct or hooked. -/
inductive IssuesSwap (sender : Address) (l : Ledger) : Message → Prop
  | swap {amount destination} : IssuesSwap sender l (.swap amount destination)
  | receive {owner amount payload destination} (htoken : sender = l.token)
      (hpayload : Hook.ofPayload payload = .ok (.swap destination)) :
      IssuesSwap sender l (.receive owner amount payload)

/-- What moves the pause of a surface from one block to another, given the
    message for that surface. -/
def MovesPause (g : Registry) (sender : Address) (message : Message)
    (request : UInt64 → Message) (current since : UInt64) : Prop :=
  ∃ requested, message = request requested ∧
    (g.holds .admin sender = true ∨ (g.holds .monitor sender = true ∧ since ≤ current))

/-- What changes the allowance from one amount to another, under an approver
    cap. -/
inductive MovesAllowance (g : Registry) (sender : Address) (approverCap current : Amount) :
    Message → Amount → Prop
  | relayed {message left} (h : Relays g sender message) (hless : left < current) :
      MovesAllowance g sender approverCap current message left
  | admin {amount} (hadmin : g.holds .admin sender = true) :
      MovesAllowance g sender approverCap current (.setAllowance amount) amount
  | approver {amount} (happrover : g.holds .approver sender = true) (hcap : amount ≤ approverCap) :
      MovesAllowance g sender approverCap current (.setAllowance amount) amount

/-- Whatever differs between two values has a warrant in the message and its
    sender. -/
structure Warranted (g : Registry) (sender : Address) (message : Message) (l l' : Ledger) :
    Prop where
  supply_raised : l.supply < l'.supply → RaisesSupply g sender l message
  supply_lowered : l'.supply < l.supply → LowersSupply g sender message
  fees_raised : l.fees < l'.fees → RaisesFees g sender message
  fees_lowered : l'.fees < l.fees → LowersFees g sender message
  nextSwapId : l'.nextSwapId ≠ l.nextSwapId → IssuesSwap sender l message
  relayEon : l'.relayEon ≠ l.relayEon →
    message = .newRelayEon ∧ g.holds .relayer sender = true
  cap : l'.cap ≠ l.cap → message = .setCap l'.cap ∧ g.holds .admin sender = true
  swapLimits : l'.swapLimits ≠ l.swapLimits →
    message = .setSwapLimits l'.swapLimits ∧ g.holds .admin sender = true
  reverseLimits : l'.reverseLimits ≠ l.reverseLimits →
    message = .setReverseLimits l'.reverseLimits ∧ g.holds .admin sender = true
  approverCap : l'.approverCap ≠ l.approverCap →
    message = .setApproverCap l'.approverCap ∧ g.holds .admin sender = true
  allowance : l'.allowance ≠ l.allowance →
    MovesAllowance g sender l.approverCap l.allowance message l'.allowance
  publicPause : l'.publicPause ≠ l.publicPause →
    MovesPause g sender message .pausePublicApi l.publicPause l'.publicPause
  relayerPause : l'.relayerPause ≠ l.relayerPause →
    MovesPause g sender message .pauseRelayerApi l.relayerPause l'.relayerPause
  deleted : l'.deleted ≠ l.deleted →
    l'.deleted = true ∧ ∃ target, message = .delete target ∧ g.holds .admin sender = true
  token : l'.token = l.token
  deployedAt : l'.deployedAt = l.deployedAt
  protectionPeriod : l'.protectionPeriod = l.protectionPeriod
  earliestDelete : l'.earliestDelete = l.earliestDelete

/-- What changes the entry for a role and a holder, from one text to another. -/
inductive MovesRole (g : Registry) (sender : Address) :
    Message → Role → Address → Option String → Option String → Prop
  | grant {role text} (hadmin : g.holds .admin sender = true) :
      MovesRole g sender (.grantRole role text) role ⟨text⟩ none (some Mark.text)
  | revoke {role text entry} (hadmin : g.holds .admin sender = true) :
      MovesRole g sender (.revokeRole role text) role ⟨text⟩ (some entry) none
  | renounce {role entry} : MovesRole g sender (.renounceRole role) role sender (some entry) none

/-- What changes the entry for a refund. There is none before and one after. -/
inductive RecordsRefund (g : Registry) (sender : Address) :
    Message → UInt64 → Option String → Option String → Prop
  | refund {id recipient amount eon} (hrelayer : g.holds .relayer sender = true) :
      RecordsRefund g sender (.refund id recipient amount eon) id none
        (some (Wire.encode amount))
  | refundInFull {id recipient amount eon} (hrelayer : g.holds .relayer sender = true) :
      RecordsRefund g sender (.refundInFull id recipient amount eon) id none
        (some (Wire.encode amount))

/-- Whatever differs between two stores beside the value has a warrant in the
    message and its sender, and is an entry of one of the two tables. -/
structure TablesWarranted (sender : Address) (message : Message) (s s' : Store) : Prop where
  role : ∀ role a, s'.get? (roleCell role a).key ≠ s.get? (roleCell role a).key →
    MovesRole (.ofStore s) sender message role a (s.get? (roleCell role a).key)
      (s'.get? (roleCell role a).key)
  refund : ∀ id, s'.get? (refundCell id).key ≠ s.get? (refundCell id).key →
    RecordsRefund (.ofStore s) sender message id (s.get? (refundCell id).key)
      (s'.get? (refundCell id).key)
  other : ∀ key, key ≠ item.key → (∀ role a, key ≠ (roleCell role a).key) →
    (∀ id, key ≠ (refundCell id).key) → s'.get? key = s.get? key

/-- Who may move a pause, in terms of roles. -/
theorem holds_of_pauseSetters {g : Registry} {sender : Address} {since current : UInt64}
    (h : ∃ role ∈ pauseSetters since current, g.holds role sender = true) :
    g.holds .admin sender = true ∨ (g.holds .monitor sender = true ∧ since ≤ current) := by
  rcases h with ⟨role, hrole, hholds⟩
  -- A monitor is among them only if the pause does not move to a later block.
  unfold pauseSetters at hrole
  split at hrole
  · next hle =>
    simp only [List.mem_cons, List.not_mem_nil, or_false] at hrole
    rcases hrole with rfl | rfl
    · exact .inl hholds
    · exact .inr ⟨hholds, hle⟩
  · rw [List.mem_singleton] at hrole
    rw [hrole] at hholds
    exact .inl hholds

namespace Performs

variable [AddressRule]
variable {g : Registry} {chain : Chain} {sender : Address} {l : Ledger} {message : Message}
  {out : Outcome}

theorem raisesSupply (h : Performs g chain sender l message out)
    (hless : l.supply < out.ledger.supply) : RaisesSupply g sender l message := by
  rw [Amount.lt_iff_toNat_lt] at hless
  cases h with
  | swap => exact .swap
  | receiveSwap htoken | receiveDeposit htoken => exact .receive htoken
  | deposit h => exact .deposit h.admin
  | mint hadmin => exact .mint hadmin
  -- Whatever lowers the supply is no way to raise it.
  | refund _ _ _ _ h | refundInFull _ _ _ _ h | reverseSwap _ _ h =>
      have hsupply := h.supply_eq
      simp only [] at hless
      omega
  | withdraw _ _ _ hsupply | burn _ _ hsupply =>
      simp only [] at hless
      omega
  | delete => exact absurd hless (Nat.not_lt_zero _)
  | _ => exact absurd hless (Nat.lt_irrefl _)

theorem lowersSupply (h : Performs g chain sender l message out)
    (hless : out.ledger.supply < l.supply) : LowersSupply g sender message := by
  rw [Amount.lt_iff_toNat_lt] at hless
  cases h with
  | withdraw hadmin => exact .withdraw hadmin
  | burn hadmin => exact .burn hadmin
  | delete hadmin => exact .delete hadmin
  | refund hrelay => exact .relayed (.refund hrelay.relayer)
  | refundInFull hrelay => exact .relayed (.refundInFull hrelay.relayer)
  | reverseSwap hrelay => exact .relayed (.reverseSwap hrelay.relayer)
  -- And the other way round.
  | swap h | receiveSwap _ _ _ h | receiveDeposit _ _ _ h | deposit h =>
      have hsupply := h.supply_eq
      simp only [] at hless
      omega
  | mint _ _ hsupply _ =>
      simp only [] at hless
      omega
  | _ => exact absurd hless (Nat.lt_irrefl _)

theorem raisesFees (h : Performs g chain sender l message out)
    (hless : l.fees < out.ledger.fees) : RaisesFees g sender message := by
  rw [Amount.lt_iff_toNat_lt] at hless
  cases h with
  | refund hrelay => exact .refund hrelay.relayer
  | reverseSwap hrelay => exact .reverseSwap hrelay.relayer
  | refundInFull _ _ _ _ h =>
      -- The fee is waived, so the fees stay what they were.
      have hfees := h.fees_eq
      simp only [Amount.toNat_zero] at hfees hless
      omega
  | withdrawFees | delete => exact absurd hless (Nat.not_lt_zero _)
  | _ => exact absurd hless (Nat.lt_irrefl _)

theorem lowersFees (h : Performs g chain sender l message out)
    (hless : out.ledger.fees < l.fees) : LowersFees g sender message := by
  rw [Amount.lt_iff_toNat_lt] at hless
  cases h with
  | withdrawFees hadmin => exact .withdrawFees hadmin
  | delete hadmin => exact .delete hadmin
  | refund _ _ _ _ h | refundInFull _ _ _ _ h | reverseSwap _ _ h =>
      have hfees := h.fees_eq
      simp only [] at hless
      omega
  | _ => exact absurd hless (Nat.lt_irrefl _)

theorem issuesSwap (h : Performs g chain sender l message out)
    (hne : out.ledger.nextSwapId ≠ l.nextSwapId) : IssuesSwap sender l message := by
  cases h with
  | swap => exact .swap
  | receiveSwap htoken _ hpayload => exact .receive htoken hpayload
  | _ => exact absurd rfl hne

theorem movesAllowance (h : Performs g chain sender l message out)
    (hne : out.ledger.allowance ≠ l.allowance) :
    MovesAllowance g sender l.approverCap l.allowance message out.ledger.allowance := by
  -- A relayed amount is not zero, so what is left is less.
  have hrelayed : ∀ {amount fee supply allowance fees paid : Amount},
      Settleable l amount fee supply allowance fees paid → allowance < l.allowance := by
    intro amount fee supply allowance fees paid hsettle
    have hallowance := hsettle.allowance_eq
    have hpositive : amount.toNat ≠ 0 := fun hzero => hsettle.positive (Amount.ext hzero)
    rw [Amount.lt_iff_toNat_lt]
    omega
  cases h with
  | refund hrelay _ _ _ h => exact .relayed (.refund hrelay.relayer) (hrelayed h)
  | refundInFull hrelay _ _ _ h => exact .relayed (.refundInFull hrelay.relayer) (hrelayed h)
  | reverseSwap hrelay _ h => exact .relayed (.reverseSwap hrelay.relayer) (hrelayed h)
  | setAllowance h =>
      -- The approver is among those who may only up to the cap.
      rcases h with ⟨role, hrole, hholds⟩
      unfold allowanceSetters at hrole
      split at hrole
      · next hcap =>
        simp only [List.mem_cons, List.not_mem_nil, or_false] at hrole
        rcases hrole with rfl | rfl
        · exact .admin hholds
        · exact .approver hholds hcap
      · rw [List.mem_singleton] at hrole
        rw [hrole] at hholds
        exact .admin hholds
  | _ => exact absurd rfl hne

/-- Whatever differs in the value after a call has a warrant. -/
theorem warranted (h : Performs g chain sender l message out) :
    Warranted g sender message l out.ledger where
  supply_raised := h.raisesSupply
  supply_lowered := h.lowersSupply
  fees_raised := h.raisesFees
  fees_lowered := h.lowersFees
  nextSwapId := h.issuesSwap
  allowance := h.movesAllowance
  relayEon hne := by
    cases h with
    | newRelayEon _ hrelayer => exact ⟨rfl, hrelayer⟩
    | _ => exact absurd rfl hne
  cap hne := by
    cases h with
    | setCap hadmin => exact ⟨rfl, hadmin⟩
    | _ => exact absurd rfl hne
  swapLimits hne := by
    cases h with
    | setSwapLimits hadmin => exact ⟨rfl, hadmin⟩
    | _ => exact absurd rfl hne
  reverseLimits hne := by
    cases h with
    | setReverseLimits hadmin => exact ⟨rfl, hadmin⟩
    | _ => exact absurd rfl hne
  approverCap hne := by
    cases h with
    | setApproverCap hadmin => exact ⟨rfl, hadmin⟩
    | _ => exact absurd rfl hne
  publicPause hne := by
    cases h with
    | pausePublicApi h => exact ⟨_, rfl, holds_of_pauseSetters h⟩
    | _ => exact absurd rfl hne
  relayerPause hne := by
    cases h with
    | pauseRelayerApi h => exact ⟨_, rfl, holds_of_pauseSetters h⟩
    | _ => exact absurd rfl hne
  deleted hne := by
    cases h with
    | delete hadmin => exact ⟨rfl, _, rfl, hadmin⟩
    | _ => exact absurd rfl hne
  token := h.token_eq
  deployedAt := by cases h <;> rfl
  protectionPeriod := by cases h <;> rfl
  earliestDelete := by cases h <;> rfl

end Performs

/-- What a change that is seen in the entry for a role must have been. -/
theorem Change.of_role_ne {change : Change} {s : Store} {role : Role} {a : Address}
    (hne : (change.apply s).get? (roleCell role a).key ≠ s.get? (roleCell role a).key) :
    (change = .grant role a ∧
      (change.apply s).get? (roleCell role a).key = some Mark.text) ∨
    (change = .revoke role a ∧ (change.apply s).get? (roleCell role a).key = none) := by
  cases change with
  | nothing => exact absurd rfl hne
  | grant role' holder =>
      rw [Change.apply, Cell.get?_occupy] at hne ⊢
      by_cases hkey : (roleCell role' holder).key = (roleCell role a).key
      · -- Under the same key there is the same role and the same holder.
        rcases roleCell_key_inj hkey with ⟨rfl, rfl⟩
        exact .inl ⟨rfl, if_pos hkey⟩
      · rw [if_neg hkey] at hne
        exact absurd rfl hne
  | revoke role' holder =>
      rw [Change.apply, Cell.get?_clear] at hne ⊢
      by_cases hkey : (roleCell role' holder).key = (roleCell role a).key
      · rcases roleCell_key_inj hkey with ⟨rfl, rfl⟩
        exact .inr ⟨rfl, if_pos hkey⟩
      · rw [if_neg hkey] at hne
        exact absurd rfl hne
  | refund id amount =>
      rw [Change.apply, Cell.get?_write, if_neg (roleCell_key_ne_refundCell role a id).symm] at hne
      exact absurd rfl hne

/-- What a change that is seen in the entry for a refund must have been. -/
theorem Change.of_refund_ne {change : Change} {s : Store} {id : UInt64}
    (hne : (change.apply s).get? (refundCell id).key ≠ s.get? (refundCell id).key) :
    ∃ amount, change = .refund id amount ∧
      (change.apply s).get? (refundCell id).key = some (Wire.encode amount) := by
  cases change with
  | nothing => exact absurd rfl hne
  | grant role holder =>
      rw [Change.apply, Cell.get?_occupy, if_neg (roleCell_key_ne_refundCell role holder id)] at hne
      exact absurd rfl hne
  | revoke role holder =>
      rw [Change.apply, Cell.get?_clear, if_neg (roleCell_key_ne_refundCell role holder id)] at hne
      exact absurd rfl hne
  | refund id' amount =>
      rw [Change.apply, Cell.get?_write] at hne ⊢
      by_cases hkey : (refundCell id').key = (refundCell id).key
      · rcases refundCell_key_inj hkey with rfl
        exact ⟨amount, rfl, if_pos hkey⟩
      · rw [if_neg hkey] at hne
        exact absurd rfl hne

namespace Performs

variable [AddressRule]
variable {chain : Chain} {sender : Address} {l : Ledger} {message : Message} {out : Outcome}
  {s : Store}

theorem movesRole_grant {role : Role} {a : Address}
    (h : Performs (.ofStore s) chain sender l message out) (hchange : out.change = .grant role a) :
    MovesRole (.ofStore s) sender message role a (s.get? (roleCell role a).key)
      (some Mark.text) := by
  cases h with
  | grantRole hadmin _ hnew =>
      cases hchange
      -- What can be granted was not held, so there is no entry yet.
      rw [Cell.get?_eq_none _ hnew]
      exact .grant hadmin
  | _ => cases hchange

theorem movesRole_revoke {role : Role} {a : Address}
    (h : Performs (.ofStore s) chain sender l message out)
    (hchange : out.change = .revoke role a) :
    MovesRole (.ofStore s) sender message role a (s.get? (roleCell role a).key) none := by
  cases h with
  | revokeRole hadmin _ hheld =>
      cases hchange
      -- What can be revoked was held, so there is an entry to remove.
      rcases Option.isSome_iff_exists.mp hheld with ⟨entry, hentry⟩
      rw [hentry]
      exact .revoke hadmin
  | renounceRole hheld =>
      cases hchange
      rcases Option.isSome_iff_exists.mp hheld with ⟨entry, hentry⟩
      rw [hentry]
      exact .renounce
  | _ => cases hchange

theorem recordsRefund {id : UInt64} {amount : Amount}
    (h : Performs (.ofStore s) chain sender l message out)
    (hchange : out.change = .refund id amount) :
    RecordsRefund (.ofStore s) sender message id (s.get? (refundCell id).key)
      (some (Wire.encode amount)) := by
  cases h with
  | refund hrelay _ hnew =>
      cases hchange
      rw [Cell.get?_eq_none _ hnew]
      exact .refund hrelay.relayer
  | refundInFull hrelay _ hnew =>
      cases hchange
      rw [Cell.get?_eq_none _ hnew]
      exact .refundInFull hrelay.relayer
  | _ => cases hchange

/-- Whatever differs beside the value after a call has a warrant. -/
theorem tablesWarranted (h : Performs (.ofStore s) chain sender l message out) :
    TablesWarranted sender message s (out.commit s) where
  role role a hne := by
    -- Writing the value is not seen in the tables, only the change is.
    rw [out.get?_roleCell] at hne ⊢
    rcases Change.of_role_ne hne with ⟨hchange, hafter⟩ | ⟨hchange, hafter⟩
    · rw [hafter]
      exact h.movesRole_grant hchange
    · rw [hafter]
      exact h.movesRole_revoke hchange
  refund id hne := by
    rw [out.get?_refundCell] at hne ⊢
    rcases Change.of_refund_ne hne with ⟨amount, hchange, hafter⟩
    rw [hafter]
    exact h.recordsRefund hchange
  other key hitem hrole hrefund := by
    rw [out.get?_commit_of_ne s (Ne.symm hitem)]
    exact out.change.get?_apply_of_ne s key (fun role a => (hrole role a).symm)
      fun id => (hrefund id).symm

end Performs

/-- A call that goes through leaves nothing different, in the value or beside it,
    without a warrant in its message and in the roles that its sender held. -/
theorem authority_of_execute [AddressRule] {chain : Chain} {sender : Address} {message : Message}
    {s s' : Store} {receipt : Receipt}
    (h : execute chain sender message s = .ok (s', receipt)) :
    ∃ l l', item.load s = .ok l ∧ item.load s' = .ok l' ∧
      Warranted (.ofStore s) sender message l l' ∧ TablesWarranted sender message s s' := by
  rcases execute_eq_ok_iff.mp h with ⟨l, out, hload, -, hperf, rfl, -⟩
  exact ⟨l, out.ledger, hload, out.load_commit s, hperf.warranted, hperf.tablesWarranted⟩

/-- A deployer who mints five raises the supply and holds the warrant for it. -/
theorem authority_of_mint :
    ∃ s s' receipt l l', execute stillChain ⟨"deployer"⟩ (.mint ⟨5, by decide⟩) s =
        .ok (s', receipt) ∧ item.load s = .ok l ∧ item.load s' = .ok l' ∧
      Warranted (.ofStore s) ⟨"deployer"⟩ (.mint ⟨5, by decide⟩) l l' ∧
      TablesWarranted ⟨"deployer"⟩ (.mint ⟨5, by decide⟩) s s' := by
  rcases mint_smallTerms with ⟨start, -, minted, -, hcall, -⟩
  rcases authority_of_execute hcall with ⟨l, l', hwarranted⟩
  exact ⟨start, minted, _, l, l', hcall, hwarranted⟩

end Ledger

end BridgeCustody
