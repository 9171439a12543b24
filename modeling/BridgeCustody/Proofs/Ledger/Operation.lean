import BridgeCustody.Ledger.Execute

/-!
# What Each Operation Comes To

One rule for each thing the ledger can do: under which conditions a message goes
through, and what comes of it. Every invariant of the ledger is a case analysis
over these rules, so none of them has to look into an operation again.

`Performs` is a relation and says nothing about order. An operation checks its
conditions one after the other and reports the first that fails; a rule only
lists them. That the two agree on success is `operate_eq_ok_iff`, and it is an
equivalence because both directions are needed. From left to right a successful
call is known to be one of finitely many things. From right to left a call whose
conditions hold is known to succeed, which no invariant could show.

The amounts after a call appear in the rules as amounts with an equation between
numbers. That an amount with this number exists is part of the condition, so
overflow and underflow need no rule of their own.

Swaps and deposits come in two ways and refunds with and without a fee. What the
ways share is a structure here as it is a function there.

## Main definitions

* `Swappable`, `Depositable`: When value is taken in, by whichever way.
* `Relayable`, `Settleable`: When a relayed amount is paid out.
* `Performs`: The rules.

## Theorems

* `bookSwap_eq_ok_iff`, `bookDeposit_eq_ok_iff`, `settle_eq_ok_iff`: The shared
  bookkeeping.
* `operate_eq_ok_iff`: Operations succeed as the rules say.
-/

namespace BridgeCustody

namespace Ledger

theorem ofHost_eq_ok_iff {α : Type} {result : Except Fault α} {a : α} :
    ofHost result = .ok a ↔ result = .ok a :=
  mapError_eq_ok_iff

theorem checkAddress_eq_ok_iff [AddressRule] {text : String} {a : Address} :
    checkAddress text = .ok a ↔ Address.Valid text ∧ a = ⟨text⟩ := by
  rw [checkAddress, ofHost_eq_ok_iff, mapError_eq_ok_iff, Address.check_eq_ok_iff]
  -- An address that was checked is the text that was checked.
  refine and_congr_right fun _ => ?_
  cases a
  rw [Address.mk.injEq]

theorem checkOpen_eq_ok_iff {l : Ledger} {surface : Surface} {height : UInt64} {u : Unit} :
    l.checkOpen surface height = .ok u ↔ isPaused (l.pausedSince surface) height = false :=
  ensure_eq_ok_iff

theorem consume_eq_ok_iff {allowance amount left : Amount} :
    consume allowance amount = .ok left ↔ allowance.toNat = left.toNat + amount.toNat := by
  rw [← Amount.sub?_eq_some_iff]
  unfold consume
  cases allowance.sub? amount with
  | none => exact ⟨nofun, nofun⟩
  | some a => rw [Except.ok.injEq, Option.some.injEq]

theorem difference_eq_ok_iff {a b c : Amount} :
    difference a b = .ok c ↔ a.toNat = c.toNat + b.toNat := by
  rw [← Amount.sub?_eq_some_iff]
  unfold difference
  cases a.sub? b with
  | none => exact ⟨nofun, nofun⟩
  | some a => rw [Except.ok.injEq, Option.some.injEq]

theorem Registry.require_one_eq_ok_iff {g : Registry} {role : Role} {a : Address} {u : Unit} :
    g.require [role] a = .ok u ↔ g.holds role a = true := by
  rw [Registry.require_eq_ok_iff]
  simp only [List.mem_singleton, exists_eq_left]

/-- An amount can be swapped to a destination, and these are the supply and the
    next id afterwards. -/
structure Swappable (l : Ledger) (chain : Chain) (amount : Amount) (destination : String)
    (supply : Amount) (next : UInt64) : Prop where
  notPaused : isPaused l.publicPause chain.height = false
  positive : amount ≠ .zero
  notBlank : Text.isBlank destination = false
  min_le : l.swapLimits.min ≤ amount
  le_max : amount ≤ l.swapLimits.max
  supply_eq : supply.toNat = l.supply.toNat + amount.toNat
  supply_le : supply ≤ l.cap
  next_eq : next.toNat = l.nextSwapId.toNat + 1

/-- An amount can be deposited, and this is the supply afterwards. -/
structure Depositable (l : Ledger) (g : Registry) (chain : Chain) (sender : Address)
    (amount supply : Amount) : Prop where
  notPaused : isPaused l.publicPause chain.height = false
  admin : g.holds .admin sender = true
  positive : amount ≠ .zero
  supply_eq : supply.toNat = l.supply.toNat + amount.toNat
  supply_le : supply ≤ l.cap

/-- A relayed call that names this eon is acceptable. -/
structure Relayable (l : Ledger) (g : Registry) (chain : Chain) (sender : Address)
    (eon : UInt64) : Prop where
  notPaused : isPaused l.relayerPause chain.height = false
  relayer : g.holds .relayer sender = true
  eon_eq : l.relayEon = eon

/-- A relayed amount can be settled under this fee, and these are the supply, the
    allowance and the fees afterwards and what is left to pay. -/
structure Settleable (l : Ledger) (amount fee supply allowance fees paid : Amount) : Prop where
  positive : amount ≠ .zero
  le_max : amount ≤ l.reverseLimits.max
  allowance_eq : l.allowance.toNat = allowance.toNat + amount.toNat
  supply_eq : l.supply.toNat = supply.toNat + amount.toNat
  fees_eq : fees.toNat = l.fees.toNat + fee.toNat
  paid_eq : amount.toNat = paid.toNat + fee.toNat

theorem bookSwap_eq_ok_iff {chain : Chain} {sender : Address} {amount : Amount}
    {destination : String} {l : Ledger} {out : Outcome} :
    l.bookSwap chain sender amount destination = .ok out ↔
      ∃ supply next, Swappable l chain amount destination supply next ∧
        out = {
          ledger := { l with supply := supply, nextSwapId := next }
          event := .swapped l.nextSwapId sender destination amount } := by
  simp only [bookSwap, bind_eq_ok_iff, checkOpen_eq_ok_iff, ensure_eq_ok_iff, SwapLimits.check,
    raiseSupply_eq_ok_iff, exists_and_left, exists_const]
  constructor
  · intro h
    rcases h with ⟨hopen, hpos, hblank, ⟨hmin, hmax⟩, _, ⟨supply, hs, hc, rfl⟩, hnext⟩
    -- The id is advanced last, so a swap with the last id fails only here.
    cases hn : Word.next? l.nextSwapId with
    | none =>
        rw [hn] at hnext
        cases hnext
    | some next =>
        rw [hn] at hnext
        cases hnext
        exact ⟨supply, next, ⟨hopen, hpos, hblank, hmin, hmax, hs, hc,
          Word.next?_eq_some_iff.mp hn⟩, rfl⟩
  · intro h
    rcases h with ⟨supply, next, h, rfl⟩
    -- The other way round the conditions are handed to the checks in their order.
    refine ⟨h.notPaused, h.positive, h.notBlank, ⟨h.min_le, h.le_max⟩, _,
      ⟨supply, h.supply_eq, h.supply_le, rfl⟩, ?_⟩
    rw [Word.next?_eq_some_iff.mpr h.next_eq]
    rfl

theorem bookDeposit_eq_ok_iff {g : Registry} {chain : Chain} {sender : Address}
    {amount : Amount} {l : Ledger} {out : Outcome} :
    l.bookDeposit g chain sender amount = .ok out ↔
      ∃ supply, Depositable l g chain sender amount supply ∧
        out = { ledger := { l with supply := supply }, event := .deposited sender amount } := by
  simp only [bookDeposit, bind_eq_ok_iff, checkOpen_eq_ok_iff, Registry.require_one_eq_ok_iff,
    checkPositive, ensure_eq_ok_iff, raiseSupply_eq_ok_iff, pure_eq_ok, Except.ok.injEq,
    exists_and_left, exists_const]
  constructor
  · intro h
    rcases h with ⟨hopen, hadmin, hpos, _, ⟨supply, hs, hc, rfl⟩, rfl⟩
    exact ⟨supply, ⟨hopen, hadmin, hpos, hs, hc⟩, rfl⟩
  · intro h
    rcases h with ⟨supply, h, rfl⟩
    exact ⟨h.notPaused, h.admin, h.positive, _, ⟨supply, h.supply_eq, h.supply_le, rfl⟩, rfl⟩

theorem checkRelayed_eq_ok_iff {g : Registry} {chain : Chain} {sender : Address} {eon : UInt64}
    {l : Ledger} {u : Unit} :
    l.checkRelayed g chain sender eon = .ok u ↔ Relayable l g chain sender eon := by
  simp only [checkRelayed, bind_eq_ok_iff, checkOpen_eq_ok_iff, Registry.require_one_eq_ok_iff,
    checkEon, ensure_eq_ok_iff, exists_and_left, exists_const]
  constructor
  · intro h
    rcases h with ⟨hopen, hrelayer, heon⟩
    exact ⟨hopen, hrelayer, heon⟩
  · intro h
    rcases h with ⟨hopen, hrelayer, heon⟩
    exact ⟨hopen, hrelayer, heon⟩

theorem settle_eq_ok_iff {amount fee : Amount} {l : Ledger} {result : Ledger × Amount} :
    l.settle amount fee = .ok result ↔
      ∃ supply allowance fees paid, Settleable l amount fee supply allowance fees paid ∧
        result = ({ l with supply := supply, allowance := allowance, fees := fees }, paid) := by
  -- Each step of the bookkeeping turns into the equation it solves.
  simp only [settle, bind_eq_ok_iff, checkPositive, ensure_eq_ok_iff, ReverseLimits.check,
    consume_eq_ok_iff, lowerSupply_eq_ok_iff, sum_eq_ok_iff, difference_eq_ok_iff, pure_eq_ok,
    Except.ok.injEq, exists_and_left, exists_const]
  constructor
  · intro h
    rcases h with ⟨hpos, hmax, allowance, ha, _, ⟨supply, hs, rfl⟩, fees, hf, paid, hp, rfl⟩
    exact ⟨supply, allowance, fees, paid, ⟨hpos, hmax, ha, hs, hf, hp⟩, rfl⟩
  · intro h
    rcases h with ⟨supply, allowance, fees, paid, h, rfl⟩
    exact ⟨h.positive, h.le_max, allowance, h.allowance_eq, _, ⟨supply, h.supply_eq, rfl⟩, fees,
      h.fees_eq, paid, h.paid_eq, rfl⟩

theorem movePause_eq_ok_iff {g : Registry} {chain : Chain} {sender : Address}
    {surface : Surface} {requested : UInt64} {l : Ledger} {out : Outcome} :
    l.movePause g chain sender surface requested = .ok out ↔
      (∃ role ∈ pauseSetters (effectivePause requested chain.height) (l.pausedSince surface),
        g.holds role sender = true) ∧
      out = {
        ledger := l.setPausedSince surface (effectivePause requested chain.height)
        event := .pauseMoved surface (effectivePause requested chain.height) } := by
  simp only [movePause, bind_eq_ok_iff, Registry.require_eq_ok_iff, pure_eq_ok,
    Except.ok.injEq, exists_and_left, exists_const]
  -- Which surface it is does not matter to who may move its pause.
  exact and_congr_right fun _ => eq_comm

/-- The messages that go through on a ledger, and what each comes to. -/
inductive Performs [AddressRule] (g : Registry) (chain : Chain) (sender : Address) (l : Ledger) :
    Message → Outcome → Prop
  | swap {amount destination supply next}
      (h : Swappable l chain amount destination supply next) :
      Performs g chain sender l (.swap amount destination) {
        ledger := { l with supply := supply, nextSwapId := next }
        call := some (l.pull chain sender amount)
        event := .swapped l.nextSwapId sender destination amount }
  | receiveSwap {owner amount payload destination supply next} (htoken : sender = l.token)
      (howner : Address.Valid owner) (hpayload : Hook.ofPayload payload = .ok (.swap destination))
      (h : Swappable l chain amount destination supply next) :
      Performs g chain sender l (.receive owner amount payload) {
        ledger := { l with supply := supply, nextSwapId := next }
        event := .swapped l.nextSwapId ⟨owner⟩ destination amount }
  | receiveDeposit {owner amount payload supply} (htoken : sender = l.token)
      (howner : Address.Valid owner) (hpayload : Hook.ofPayload payload = .ok .deposit)
      (h : Depositable l g chain ⟨owner⟩ amount supply) :
      Performs g chain sender l (.receive owner amount payload) {
        ledger := { l with supply := supply }
        event := .deposited ⟨owner⟩ amount }
  | refund {id recipient amount eon supply allowance fees paid}
      (hrelay : Relayable l g chain sender eon) (hid : id < l.nextSwapId)
      (hnew : g.refunded id = false) (hrecipient : Address.Valid recipient)
      (h : Settleable l amount (l.reverseLimits.feeFor amount) supply allowance fees paid) :
      Performs g chain sender l (.refund id recipient amount eon) {
        ledger := { l with supply := supply, allowance := allowance, fees := fees }
        change := .refund id amount
        call := l.payIfAny ⟨recipient⟩ paid
        event := .refunded id ⟨recipient⟩ paid (l.reverseLimits.feeFor amount) }
  | refundInFull {id recipient amount eon supply allowance fees paid}
      (hrelay : Relayable l g chain sender eon) (hid : id < l.nextSwapId)
      (hnew : g.refunded id = false) (hrecipient : Address.Valid recipient)
      (h : Settleable l amount .zero supply allowance fees paid) :
      Performs g chain sender l (.refundInFull id recipient amount eon) {
        ledger := { l with supply := supply, allowance := allowance, fees := fees }
        change := .refund id amount
        call := l.payIfAny ⟨recipient⟩ paid
        event := .refunded id ⟨recipient⟩ paid .zero }
  | reverseSwap {rid recipient originFrom originTx amount eon supply allowance fees paid}
      (hrelay : Relayable l g chain sender eon) (hrecipient : Address.Valid recipient)
      (h : Settleable l amount (l.reverseLimits.feeFor amount) supply allowance fees paid) :
      Performs g chain sender l (.reverseSwap rid recipient originFrom originTx amount eon) {
        ledger := { l with supply := supply, allowance := allowance, fees := fees }
        call := l.payIfAny ⟨recipient⟩ paid
        event := .reverseSwapped rid ⟨recipient⟩ originFrom originTx paid
          (l.reverseLimits.feeFor amount) }
  | newRelayEon (hopen : isPaused l.relayerPause chain.height = false)
      (hrelayer : g.holds .relayer sender = true) :
      Performs g chain sender l .newRelayEon {
        ledger := { l with relayEon := nextEon l.relayEon }
        event := .eonRotated (nextEon l.relayEon) }
  | pausePublicApi {since}
      (h : ∃ role ∈ pauseSetters (effectivePause since chain.height) l.publicPause,
        g.holds role sender = true) :
      Performs g chain sender l (.pausePublicApi since) {
        ledger := { l with publicPause := effectivePause since chain.height }
        event := .pauseMoved .publicApi (effectivePause since chain.height) }
  | pauseRelayerApi {since}
      (h : ∃ role ∈ pauseSetters (effectivePause since chain.height) l.relayerPause,
        g.holds role sender = true) :
      Performs g chain sender l (.pauseRelayerApi since) {
        ledger := { l with relayerPause := effectivePause since chain.height }
        event := .pauseMoved .relayerApi (effectivePause since chain.height) }
  | deposit {amount supply} (h : Depositable l g chain sender amount supply) :
      Performs g chain sender l (.deposit amount) {
        ledger := { l with supply := supply }
        call := some (l.pull chain sender amount)
        event := .deposited sender amount }
  | withdraw {target amount supply} (hadmin : g.holds .admin sender = true)
      (hpositive : amount ≠ .zero) (htarget : Address.Valid target)
      (hsupply : l.supply.toNat = supply.toNat + amount.toNat) :
      Performs g chain sender l (.withdraw target amount) {
        ledger := { l with supply := supply }
        call := some (l.pay ⟨target⟩ amount)
        event := .withdrawn ⟨target⟩ amount }
  | mint {amount supply} (hadmin : g.holds .admin sender = true) (hpositive : amount ≠ .zero)
      (hsupply : supply.toNat = l.supply.toNat + amount.toNat) (hcap : supply ≤ l.cap) :
      Performs g chain sender l (.mint amount) {
        ledger := { l with supply := supply }
        call := some (.plain l.token (.mint chain.self amount))
        event := .minted amount }
  | burn {amount supply} (hadmin : g.holds .admin sender = true) (hpositive : amount ≠ .zero)
      (hsupply : l.supply.toNat = supply.toNat + amount.toNat) :
      Performs g chain sender l (.burn amount) {
        ledger := { l with supply := supply }
        call := some (.plain l.token (.burn amount))
        event := .burned amount }
  | withdrawFees {target} (hadmin : g.holds .admin sender = true)
      (htarget : Address.Valid target) (hfees : l.fees ≠ .zero) :
      Performs g chain sender l (.withdrawFees target) {
        ledger := { l with fees := .zero }
        call := some (l.pay ⟨target⟩ l.fees)
        event := .feesWithdrawn ⟨target⟩ l.fees }
  | withdrawExcess {target balance owed} (hadmin : g.holds .admin sender = true)
      (htarget : Address.Valid target) (hbalance : chain.balance l.token = .ok balance)
      (howed : owed.toNat = l.supply.toNat + l.fees.toNat)
      (hexcess : balance.monus owed ≠ .zero) :
      Performs g chain sender l (.withdrawExcess target) {
        ledger := l
        call := some (l.pay ⟨target⟩ (balance.monus owed))
        event := .excessWithdrawn ⟨target⟩ (balance.monus owed) }
  | delete {target balance} (hadmin : g.holds .admin sender = true)
      (hheight : l.earliestDelete ≤ chain.height) (htarget : Address.Valid target)
      (hbalance : chain.balance l.token = .ok balance) :
      Performs g chain sender l (.delete target) {
        ledger := { l with supply := .zero, fees := .zero, deleted := true }
        call := l.payIfAny ⟨target⟩ balance
        event := .closed ⟨target⟩ balance }
  | setCap {cap} (hadmin : g.holds .admin sender = true) :
      Performs g chain sender l (.setCap cap) {
        ledger := { l with cap := cap }
        event := .capSet cap }
  | setSwapLimits {limits} (hadmin : g.holds .admin sender = true) (hordered : limits.Ordered) :
      Performs g chain sender l (.setSwapLimits limits) {
        ledger := { l with swapLimits := limits }
        event := .swapLimitsSet limits }
  | setReverseLimits {limits} (hadmin : g.holds .admin sender = true)
      (hordered : limits.Ordered) :
      Performs g chain sender l (.setReverseLimits limits) {
        ledger := { l with reverseLimits := limits }
        event := .reverseLimitsSet limits }
  | setAllowance {amount}
      (h : ∃ role ∈ allowanceSetters amount l.approverCap, g.holds role sender = true) :
      Performs g chain sender l (.setAllowance amount) {
        ledger := { l with allowance := amount }
        event := .allowanceSet amount }
  | setApproverCap {amount} (hadmin : g.holds .admin sender = true) :
      Performs g chain sender l (.setApproverCap amount) {
        ledger := { l with approverCap := amount }
        event := .approverCapSet amount }
  | grantRole {role address} (hadmin : g.holds .admin sender = true)
      (haddress : Address.Valid address) (hnew : g.holds role ⟨address⟩ = false) :
      Performs g chain sender l (.grantRole role address) {
        ledger := l
        change := .grant role ⟨address⟩
        event := .roleGranted role ⟨address⟩ }
  | revokeRole {role address} (hadmin : g.holds .admin sender = true)
      (haddress : Address.Valid address) (hheld : g.holds role ⟨address⟩ = true) :
      Performs g chain sender l (.revokeRole role address) {
        ledger := l
        change := .revoke role ⟨address⟩
        event := .roleRevoked role ⟨address⟩ }
  | renounceRole {role} (hheld : g.holds role sender = true) :
      Performs g chain sender l (.renounceRole role) {
        ledger := l
        change := .revoke role sender
        event := .roleRenounced role sender }

section Operate

variable [AddressRule]
variable {g : Registry} {chain : Chain} {sender : Address} {l : Ledger} {out : Outcome}

theorem swap_eq_ok_iff {amount : Amount} {destination : String} :
    l.swap chain sender amount destination = .ok out ↔
      Performs g chain sender l (.swap amount destination) out := by
  simp only [swap, bind_eq_ok_iff, bookSwap_eq_ok_iff, pure_eq_ok, Except.ok.injEq]
  constructor
  · intro h
    rcases h with ⟨_, ⟨supply, next, h, rfl⟩, rfl⟩
    exact .swap h
  · intro h
    cases h with
    | swap h => exact ⟨_, ⟨_, _, h, rfl⟩, rfl⟩

theorem deposit_eq_ok_iff {amount : Amount} :
    l.deposit g chain sender amount = .ok out ↔
      Performs g chain sender l (.deposit amount) out := by
  simp only [deposit, bind_eq_ok_iff, bookDeposit_eq_ok_iff, pure_eq_ok, Except.ok.injEq]
  constructor
  · intro h
    rcases h with ⟨_, ⟨supply, h, rfl⟩, rfl⟩
    exact .deposit h
  · intro h
    cases h with
    | deposit h => exact ⟨_, ⟨_, h, rfl⟩, rfl⟩

theorem receive_eq_ok_iff {owner : String} {amount : Amount} {payload : Payload} :
    l.receive g chain sender owner amount payload = .ok out ↔
      Performs g chain sender l (.receive owner amount payload) out := by
  simp only [receive, bind_eq_ok_iff, ensure_eq_ok_iff, checkAddress_eq_ok_iff,
    ofHost_eq_ok_iff, exists_and_left, exists_const]
  constructor
  · intro h
    rcases h with ⟨htoken, _, ⟨howner, rfl⟩, hook, hpayload, hbook⟩
    -- The payload decides which bookkeeping is done, for the owner and not the sender.
    cases hook with
    | swap destination =>
        rcases bookSwap_eq_ok_iff.mp hbook with ⟨supply, next, h, rfl⟩
        exact .receiveSwap htoken howner hpayload h
    | deposit =>
        rcases bookDeposit_eq_ok_iff.mp hbook with ⟨supply, h, rfl⟩
        exact .receiveDeposit htoken howner hpayload h
  · intro h
    cases h with
    | receiveSwap htoken howner hpayload h =>
        exact ⟨htoken, _, ⟨howner, rfl⟩, _, hpayload, bookSwap_eq_ok_iff.mpr ⟨_, _, h, rfl⟩⟩
    | receiveDeposit htoken howner hpayload h =>
        exact ⟨htoken, _, ⟨howner, rfl⟩, _, hpayload, bookDeposit_eq_ok_iff.mpr ⟨_, h, rfl⟩⟩

/-- A refund in either mode. The two messages are the two values of `mode`. -/
theorem refund_eq_ok_iff {mode : RefundFee} {id eon : UInt64} {recipient : String}
    {amount : Amount} :
    l.refund g chain sender mode id recipient amount eon = .ok out ↔
      Relayable l g chain sender eon ∧ id < l.nextSwapId ∧ g.refunded id = false ∧
        Address.Valid recipient ∧ ∃ supply allowance fees paid,
          Settleable l amount (l.refundFee mode amount) supply allowance fees paid ∧
            out = {
              ledger := { l with supply := supply, allowance := allowance, fees := fees }
              change := .refund id amount
              call := l.payIfAny ⟨recipient⟩ paid
              event := .refunded id ⟨recipient⟩ paid (l.refundFee mode amount) } := by
  -- The mode matters only for the fee, so the checks are gone through once.
  simp only [refund, bind_eq_ok_iff, checkRelayed_eq_ok_iff, ensure_eq_ok_iff,
    checkAddress_eq_ok_iff, settle_eq_ok_iff, pure_eq_ok, Except.ok.injEq, exists_and_left,
    exists_const]
  constructor
  · intro h
    rcases h with
      ⟨hrelay, hid, hnew, _, ⟨hrecipient, rfl⟩, _, ⟨supply, allowance, fees, paid, h, rfl⟩, rfl⟩
    exact ⟨hrelay, hid, hnew, hrecipient, supply, allowance, fees, paid, h, rfl⟩
  · intro h
    rcases h with ⟨hrelay, hid, hnew, hrecipient, supply, allowance, fees, paid, h, rfl⟩
    exact ⟨hrelay, hid, hnew, _, ⟨hrecipient, rfl⟩, _, ⟨supply, allowance, fees, paid, h, rfl⟩,
      rfl⟩

theorem refund_charged_eq_ok_iff {id eon : UInt64} {recipient : String} {amount : Amount} :
    l.refund g chain sender .charged id recipient amount eon = .ok out ↔
      Performs g chain sender l (.refund id recipient amount eon) out := by
  rw [refund_eq_ok_iff]
  constructor
  · intro h
    rcases h with ⟨hrelay, hid, hnew, hrecipient, supply, allowance, fees, paid, h, rfl⟩
    exact .refund hrelay hid hnew hrecipient h
  · intro h
    cases h with
    | refund hrelay hid hnew hrecipient h =>
        exact ⟨hrelay, hid, hnew, hrecipient, _, _, _, _, h, rfl⟩

theorem refund_waived_eq_ok_iff {id eon : UInt64} {recipient : String} {amount : Amount} :
    l.refund g chain sender .waived id recipient amount eon = .ok out ↔
      Performs g chain sender l (.refundInFull id recipient amount eon) out := by
  rw [refund_eq_ok_iff]
  constructor
  · intro h
    rcases h with ⟨hrelay, hid, hnew, hrecipient, supply, allowance, fees, paid, h, rfl⟩
    exact .refundInFull hrelay hid hnew hrecipient h
  · intro h
    cases h with
    | refundInFull hrelay hid hnew hrecipient h =>
        exact ⟨hrelay, hid, hnew, hrecipient, _, _, _, _, h, rfl⟩

theorem reverseSwap_eq_ok_iff {rid eon : UInt64} {recipient originFrom originTx : String}
    {amount : Amount} :
    l.reverseSwap g chain sender rid recipient originFrom originTx amount eon = .ok out ↔
      Performs g chain sender l (.reverseSwap rid recipient originFrom originTx amount eon)
        out := by
  simp only [reverseSwap, bind_eq_ok_iff, checkRelayed_eq_ok_iff, checkAddress_eq_ok_iff,
    settle_eq_ok_iff, pure_eq_ok, Except.ok.injEq, exists_and_left, exists_const]
  constructor
  · intro h
    rcases h with ⟨hrelay, _, ⟨hrecipient, rfl⟩, _, ⟨supply, allowance, fees, paid, h, rfl⟩, rfl⟩
    exact .reverseSwap hrelay hrecipient h
  · intro h
    cases h with
    | reverseSwap hrelay hrecipient h =>
        exact ⟨hrelay, _, ⟨hrecipient, rfl⟩, _, ⟨_, _, _, _, h, rfl⟩, rfl⟩

theorem rotateEon_eq_ok_iff :
    l.rotateEon g chain sender = .ok out ↔ Performs g chain sender l .newRelayEon out := by
  simp only [rotateEon, bind_eq_ok_iff, checkOpen_eq_ok_iff, Registry.require_one_eq_ok_iff,
    pure_eq_ok, Except.ok.injEq, exists_and_left, exists_const]
  constructor
  · intro h
    rcases h with ⟨hopen, hrelayer, rfl⟩
    exact .newRelayEon hopen hrelayer
  · intro h
    cases h with
    | newRelayEon hopen hrelayer => exact ⟨hopen, hrelayer, rfl⟩

theorem withdraw_eq_ok_iff {target : String} {amount : Amount} :
    l.withdraw g sender target amount = .ok out ↔
      Performs g chain sender l (.withdraw target amount) out := by
  simp only [withdraw, bind_eq_ok_iff, Registry.require_one_eq_ok_iff, checkPositive,
    ensure_eq_ok_iff, checkAddress_eq_ok_iff, lowerSupply_eq_ok_iff, pure_eq_ok,
    Except.ok.injEq, exists_and_left, exists_const]
  constructor
  · intro h
    rcases h with ⟨hadmin, hpositive, _, ⟨htarget, rfl⟩, _, ⟨supply, hsupply, rfl⟩, rfl⟩
    exact .withdraw hadmin hpositive htarget hsupply
  · intro h
    cases h with
    | withdraw hadmin hpositive htarget hsupply =>
        exact ⟨hadmin, hpositive, _, ⟨htarget, rfl⟩, _, ⟨_, hsupply, rfl⟩, rfl⟩

theorem mint_eq_ok_iff {amount : Amount} :
    l.mint g chain sender amount = .ok out ↔ Performs g chain sender l (.mint amount) out := by
  simp only [mint, bind_eq_ok_iff, Registry.require_one_eq_ok_iff, checkPositive,
    ensure_eq_ok_iff, raiseSupply_eq_ok_iff, pure_eq_ok, Except.ok.injEq, exists_and_left,
    exists_const]
  constructor
  · intro h
    rcases h with ⟨hadmin, hpositive, _, ⟨supply, hsupply, hcap, rfl⟩, rfl⟩
    exact .mint hadmin hpositive hsupply hcap
  · intro h
    cases h with
    | mint hadmin hpositive hsupply hcap =>
        exact ⟨hadmin, hpositive, _, ⟨_, hsupply, hcap, rfl⟩, rfl⟩

theorem burn_eq_ok_iff {amount : Amount} :
    l.burn g sender amount = .ok out ↔ Performs g chain sender l (.burn amount) out := by
  simp only [burn, bind_eq_ok_iff, Registry.require_one_eq_ok_iff, checkPositive,
    ensure_eq_ok_iff, lowerSupply_eq_ok_iff, pure_eq_ok, Except.ok.injEq, exists_and_left,
    exists_const]
  constructor
  · intro h
    rcases h with ⟨hadmin, hpositive, _, ⟨supply, hsupply, rfl⟩, rfl⟩
    exact .burn hadmin hpositive hsupply
  · intro h
    cases h with
    | burn hadmin hpositive hsupply => exact ⟨hadmin, hpositive, _, ⟨_, hsupply, rfl⟩, rfl⟩

theorem withdrawFees_eq_ok_iff {target : String} :
    l.withdrawFees g sender target = .ok out ↔
      Performs g chain sender l (.withdrawFees target) out := by
  simp only [withdrawFees, bind_eq_ok_iff, Registry.require_one_eq_ok_iff,
    checkAddress_eq_ok_iff, ensure_eq_ok_iff, pure_eq_ok, Except.ok.injEq, exists_and_left,
    exists_const]
  constructor
  · intro h
    rcases h with ⟨hadmin, _, ⟨htarget, rfl⟩, hfees, rfl⟩
    exact .withdrawFees hadmin htarget hfees
  · intro h
    cases h with
    | withdrawFees hadmin htarget hfees => exact ⟨hadmin, _, ⟨htarget, rfl⟩, hfees, rfl⟩

theorem withdrawExcess_eq_ok_iff {target : String} :
    l.withdrawExcess g chain sender target = .ok out ↔
      Performs g chain sender l (.withdrawExcess target) out := by
  simp only [withdrawExcess, bind_eq_ok_iff, Registry.require_one_eq_ok_iff,
    checkAddress_eq_ok_iff, ofHost_eq_ok_iff, owed, sum_eq_ok_iff, ensure_eq_ok_iff, pure_eq_ok,
    Except.ok.injEq, exists_and_left, exists_const]
  constructor
  · intro h
    rcases h with ⟨hadmin, _, ⟨htarget, rfl⟩, balance, hbalance, owed, howed, hexcess, rfl⟩
    exact .withdrawExcess hadmin htarget hbalance howed hexcess
  · intro h
    cases h with
    | withdrawExcess hadmin htarget hbalance howed hexcess =>
        exact ⟨hadmin, _, ⟨htarget, rfl⟩, _, hbalance, _, howed, hexcess, rfl⟩

theorem close_eq_ok_iff {target : String} :
    l.close g chain sender target = .ok out ↔ Performs g chain sender l (.delete target) out := by
  simp only [close, bind_eq_ok_iff, Registry.require_one_eq_ok_iff, ensure_eq_ok_iff,
    checkAddress_eq_ok_iff, ofHost_eq_ok_iff, pure_eq_ok, Except.ok.injEq, exists_and_left,
    exists_const]
  constructor
  · intro h
    rcases h with ⟨hadmin, hheight, _, ⟨htarget, rfl⟩, balance, hbalance, rfl⟩
    exact .delete hadmin hheight htarget hbalance
  · intro h
    cases h with
    | delete hadmin hheight htarget hbalance =>
        exact ⟨hadmin, hheight, _, ⟨htarget, rfl⟩, _, hbalance, rfl⟩

theorem setCap_eq_ok_iff {cap : Amount} :
    l.setCap g sender cap = .ok out ↔ Performs g chain sender l (.setCap cap) out := by
  simp only [setCap, bind_eq_ok_iff, Registry.require_one_eq_ok_iff, pure_eq_ok,
    Except.ok.injEq, exists_and_left, exists_const]
  constructor
  · intro h
    rcases h with ⟨hadmin, rfl⟩
    exact .setCap hadmin
  · intro h
    cases h with
    | setCap hadmin => exact ⟨hadmin, rfl⟩

theorem setSwapLimits_eq_ok_iff {limits : SwapLimits} :
    l.setSwapLimits g sender limits = .ok out ↔
      Performs g chain sender l (.setSwapLimits limits) out := by
  simp only [setSwapLimits, bind_eq_ok_iff, Registry.require_one_eq_ok_iff, pure_eq_ok,
    Except.ok.injEq, exists_and_left, exists_const]
  constructor
  · intro h
    rcases h with ⟨hadmin, ⟨⟩, hvalid, rfl⟩
    -- The check of the limits answers with nothing, so its answer is dropped.
    exact .setSwapLimits hadmin (SwapLimits.validate_eq_ok_iff.mp hvalid)
  · intro h
    cases h with
    | setSwapLimits hadmin hordered =>
        exact ⟨hadmin, (), SwapLimits.validate_eq_ok_iff.mpr hordered, rfl⟩

theorem setReverseLimits_eq_ok_iff {limits : ReverseLimits} :
    l.setReverseLimits g sender limits = .ok out ↔
      Performs g chain sender l (.setReverseLimits limits) out := by
  simp only [setReverseLimits, bind_eq_ok_iff, Registry.require_one_eq_ok_iff, pure_eq_ok,
    Except.ok.injEq, exists_and_left, exists_const]
  constructor
  · intro h
    rcases h with ⟨hadmin, ⟨⟩, hvalid, rfl⟩
    exact .setReverseLimits hadmin (ReverseLimits.validate_eq_ok_iff.mp hvalid)
  · intro h
    cases h with
    | setReverseLimits hadmin hordered =>
        exact ⟨hadmin, (), ReverseLimits.validate_eq_ok_iff.mpr hordered, rfl⟩

theorem setAllowance_eq_ok_iff {amount : Amount} :
    l.setAllowance g sender amount = .ok out ↔
      Performs g chain sender l (.setAllowance amount) out := by
  simp only [setAllowance, bind_eq_ok_iff, Registry.require_eq_ok_iff, pure_eq_ok,
    Except.ok.injEq, exists_and_left, exists_const]
  constructor
  · intro h
    rcases h with ⟨h, rfl⟩
    exact .setAllowance h
  · intro h
    cases h with
    | setAllowance h => exact ⟨h, rfl⟩

theorem setApproverCap_eq_ok_iff {amount : Amount} :
    l.setApproverCap g sender amount = .ok out ↔
      Performs g chain sender l (.setApproverCap amount) out := by
  simp only [setApproverCap, bind_eq_ok_iff, Registry.require_one_eq_ok_iff, pure_eq_ok,
    Except.ok.injEq, exists_and_left, exists_const]
  constructor
  · intro h
    rcases h with ⟨hadmin, rfl⟩
    exact .setApproverCap hadmin
  · intro h
    cases h with
    | setApproverCap hadmin => exact ⟨hadmin, rfl⟩

theorem grantRole_eq_ok_iff {role : Role} {address : String} :
    l.grantRole g sender role address = .ok out ↔
      Performs g chain sender l (.grantRole role address) out := by
  simp only [grantRole, Registry.granting, bind_eq_ok_iff, Registry.require_one_eq_ok_iff,
    checkAddress_eq_ok_iff, ensure_eq_ok_iff, pure_eq_ok, Except.ok.injEq, exists_and_left,
    exists_const]
  constructor
  · intro h
    rcases h with ⟨hadmin, _, ⟨haddress, rfl⟩, _, ⟨hnew, rfl⟩, rfl⟩
    exact .grantRole hadmin haddress hnew
  · intro h
    cases h with
    | grantRole hadmin haddress hnew =>
        exact ⟨hadmin, _, ⟨haddress, rfl⟩, _, ⟨hnew, rfl⟩, rfl⟩

theorem revokeRole_eq_ok_iff {role : Role} {address : String} :
    l.revokeRole g sender role address = .ok out ↔
      Performs g chain sender l (.revokeRole role address) out := by
  simp only [revokeRole, Registry.revoking, bind_eq_ok_iff, Registry.require_one_eq_ok_iff,
    checkAddress_eq_ok_iff, ensure_eq_ok_iff, pure_eq_ok, Except.ok.injEq, exists_and_left,
    exists_const]
  constructor
  · intro h
    rcases h with ⟨hadmin, _, ⟨haddress, rfl⟩, _, ⟨hheld, rfl⟩, rfl⟩
    exact .revokeRole hadmin haddress hheld
  · intro h
    cases h with
    | revokeRole hadmin haddress hheld =>
        exact ⟨hadmin, _, ⟨haddress, rfl⟩, _, ⟨hheld, rfl⟩, rfl⟩

theorem renounceRole_eq_ok_iff {role : Role} :
    l.renounceRole g sender role = .ok out ↔
      Performs g chain sender l (.renounceRole role) out := by
  simp only [renounceRole, Registry.revoking, bind_eq_ok_iff, ensure_eq_ok_iff, pure_eq_ok,
    Except.ok.injEq, exists_and_left, exists_const]
  constructor
  · intro h
    rcases h with ⟨_, ⟨hheld, rfl⟩, rfl⟩
    exact .renounceRole hheld
  · intro h
    cases h with
    | renounceRole hheld => exact ⟨_, ⟨hheld, rfl⟩, rfl⟩

/-- Operations succeed as the rules say. -/
theorem operate_eq_ok_iff {message : Message} :
    l.operate g chain sender message = .ok out ↔ Performs g chain sender l message out := by
  cases message with
  | swap amount destination => exact swap_eq_ok_iff
  | receive owner amount payload => exact receive_eq_ok_iff
  | refund id recipient amount eon => exact refund_charged_eq_ok_iff
  | refundInFull id recipient amount eon => exact refund_waived_eq_ok_iff
  | reverseSwap rid recipient originFrom originTx amount eon => exact reverseSwap_eq_ok_iff
  | newRelayEon => exact rotateEon_eq_ok_iff
  | pausePublicApi since =>
      -- The surface is fixed by the message, and the rule names its field.
      refine movePause_eq_ok_iff.trans ⟨?_, ?_⟩
      · intro h
        rcases h with ⟨h, rfl⟩
        exact .pausePublicApi h
      · intro h
        cases h with
        | pausePublicApi h => exact ⟨h, rfl⟩
  | pauseRelayerApi since =>
      refine movePause_eq_ok_iff.trans ⟨?_, ?_⟩
      · intro h
        rcases h with ⟨h, rfl⟩
        exact .pauseRelayerApi h
      · intro h
        cases h with
        | pauseRelayerApi h => exact ⟨h, rfl⟩
  | deposit amount => exact deposit_eq_ok_iff
  | withdraw target amount => exact withdraw_eq_ok_iff
  | mint amount => exact mint_eq_ok_iff
  | burn amount => exact burn_eq_ok_iff
  | withdrawFees target => exact withdrawFees_eq_ok_iff
  | withdrawExcess target => exact withdrawExcess_eq_ok_iff
  | delete target => exact close_eq_ok_iff
  | setCap cap => exact setCap_eq_ok_iff
  | setSwapLimits limits => exact setSwapLimits_eq_ok_iff
  | setReverseLimits limits => exact setReverseLimits_eq_ok_iff
  | setAllowance amount => exact setAllowance_eq_ok_iff
  | setApproverCap amount => exact setApproverCap_eq_ok_iff
  | grantRole role address => exact grantRole_eq_ok_iff
  | revokeRole role address => exact revokeRole_eq_ok_iff
  | renounceRole role => exact renounceRole_eq_ok_iff

/-- No operation changes which token is in custody. -/
theorem Performs.token_eq {message : Message} (h : Performs g chain sender l message out) :
    out.ledger.token = l.token := by
  cases h <;> rfl

end Operate

end Ledger

end BridgeCustody
