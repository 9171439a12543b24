import BridgeCustody.Ledger.Query
import BridgeCustody.Proofs.Ledger.Apart
import BridgeCustody.Proofs.Ledger.History
import BridgeCustody.Proofs.Ledger.Refusal

/-!
# What a Pause Blocks

In an emergency a surface is paused, and then it should be certain what that has
stopped and what it has not. Stopped is every operation of the surface, for every
caller and before anything else about the call is looked at, so that a paused
ledger gives nothing away in its refusals. Not stopped is all the rest, and not
only in the sense that it may still succeed. What the other operations do, and
with what they are refused, must not depend on the pause at all.

The first is about the order of checks. An operation of a surface starts with the
check that the surface is open, and no check of any operation is refused in the
same way. So the refusal tells the pause, and `operate_eq_paused_iff` is an
equivalence. A credit that a token announces is the one exception to the order.
It is looked at who announced it, for whom, and what for, before it is known
which operation is asked for, and only a credit that passes has arrived at the
surface.

The second is about two runs, and is an equation for each operation that the
pause does not concern: to move the pause before the operation comes to the same
as to move it afterwards.

## Main definitions

* `Message.surface?`: The surface that a message is an operation of.
* `Message.pauseOf?`: The surface whose pause a message moves.
* `Message.Arrives`: What is looked at before the surface.

## Theorems

* `operate_eq_paused_iff`: An operation is refused for a pause exactly if its
  surface is paused.
* `blind_setPausedSince`: Operations of other kinds do not see the pause.
* `pause_blocks_its_surface`: Both, for calls on any store.
-/

namespace BridgeCustody

namespace Ledger

/-- The surface that a message is an operation of. -/
def Message.surface? : Message → Option Surface
  | swap _ _ | receive _ _ _ | deposit _ => some .publicApi
  | refund _ _ _ _ | refundInFull _ _ _ _ | reverseSwap _ _ _ _ _ _ | newRelayEon =>
    some .relayerApi
  | _ => none

/-- The surface whose pause a message moves. -/
def Message.pauseOf? : Message → Option Surface
  | pausePublicApi _ => some .publicApi
  | pauseRelayerApi _ => some .relayerApi
  | _ => none

/-- What is looked at before it is asked whether the surface is open: of an
    announced credit, that the token announces it, for an account, and with a
    payload that can be read. -/
def Message.Arrives [AddressRule] (l : Ledger) (sender : Address) : Message → Prop
  | receive owner _ payload =>
    sender = l.token ∧ Address.Valid owner ∧ ∃ hook, Hook.ofPayload payload = .ok hook
  | _ => True

section Refusals

variable {g : Registry} {chain : Chain} {sender : Address} {l : Ledger} {surface : Surface}

/-- A chain that starts with the surface and is not refused for a pause behind it
    is refused for a pause exactly if the surface is paused. -/
theorem checkOpen_bind_eq_paused_iff {α : Type} {height : UInt64} {f : Unit → Except Error α}
    (hf : f () ≠ .error .paused) :
    (l.checkOpen surface height >>= f) = .error .paused ↔
      isPaused (l.pausedSince surface) height = true := by
  rw [bind_eq_error_iff, checkOpen_eq_error_iff]
  constructor
  · rintro (⟨hpaused, -⟩ | ⟨⟨⟩, -, hrest⟩)
    · exact hpaused
    · exact absurd hrest hf
  · exact fun hpaused => .inl ⟨hpaused, rfl⟩

theorem settle_ne_paused (amount fee : Amount) : l.settle amount fee ≠ .error .paused := by
  simp only [settle, checkPositive, ReverseLimits.check, bind_eq_error_iff, ensure_eq_error_iff,
    consume_eq_error_iff, lowerSupply_eq_error_iff, sum_eq_error_iff, difference_eq_error_iff,
    pure_eq_ok, ne_eq, reduceCtorEq, and_false, or_false, exists_false, not_false_eq_true]

theorem bookSwap_eq_paused_iff {amount : Amount} {destination : String} :
    l.bookSwap chain sender amount destination = .error .paused ↔
      isPaused l.publicPause chain.height = true := by
  refine checkOpen_bind_eq_paused_iff ?_
  simp only [SwapLimits.check, bind_eq_error_iff, ensure_eq_error_iff, raiseSupply_eq_error_iff,
    ne_eq, reduceCtorEq, and_false, or_false, false_or, exists_false, not_exists, not_and]
  -- The last step is no check, but it may run out of ids.
  rintro ⟨⟩ - ⟨⟩ - ⟨⟩ - raised - hnext
  split at hnext <;> cases hnext

theorem bookDeposit_eq_paused_iff {amount : Amount} :
    l.bookDeposit g chain sender amount = .error .paused ↔
      isPaused l.publicPause chain.height = true := by
  refine checkOpen_bind_eq_paused_iff ?_
  simp only [checkPositive, bind_eq_error_iff, ensure_eq_error_iff, raiseSupply_eq_error_iff,
    Registry.require_eq_error_iff, pure_eq_ok, ne_eq, reduceCtorEq, and_false, or_false,
    exists_false, not_false_eq_true]

theorem swap_eq_paused_iff {amount : Amount} {destination : String} :
    l.swap chain sender amount destination = .error .paused ↔
      isPaused l.publicPause chain.height = true := by
  simp only [swap, bind_eq_error_iff, bookSwap_eq_paused_iff, pure_eq_ok, reduceCtorEq, and_false,
    exists_false, or_false]

theorem deposit_eq_paused_iff {amount : Amount} :
    l.deposit g chain sender amount = .error .paused ↔
      isPaused l.publicPause chain.height = true := by
  simp only [deposit, bind_eq_error_iff, bookDeposit_eq_paused_iff, pure_eq_ok, reduceCtorEq,
    and_false, exists_false, or_false]

theorem receive_eq_paused_iff [AddressRule] {owner : String} {amount : Amount} {payload : Payload} :
    l.receive g chain sender owner amount payload = .error .paused ↔
      (Message.receive owner amount payload).Arrives l sender ∧
        isPaused l.publicPause chain.height = true := by
  simp only [receive, bind_eq_error_iff, ensure_eq_error_iff, ensure_eq_ok_iff,
    checkAddress_eq_error_iff, checkAddress_eq_ok_iff, ofHost_eq_error_iff, ofHost_eq_ok_iff,
    reduceCtorEq, and_false, exists_false, false_or, exists_const, Message.Arrives]
  constructor
  · rintro ⟨htoken, _, ⟨howner, rfl⟩, hook, hpayload, hbook⟩
    refine ⟨⟨htoken, howner, hook, hpayload⟩, ?_⟩
    -- Either way the bookkeeping starts with the surface.
    cases hook with
    | swap destination => exact bookSwap_eq_paused_iff.mp hbook
    | deposit => exact bookDeposit_eq_paused_iff.mp hbook
  · rintro ⟨⟨htoken, howner, hook, hpayload⟩, hpaused⟩
    refine ⟨htoken, _, ⟨howner, rfl⟩, hook, hpayload, ?_⟩
    cases hook with
    | swap destination => exact bookSwap_eq_paused_iff.mpr hpaused
    | deposit => exact bookDeposit_eq_paused_iff.mpr hpaused

theorem checkRelayed_eq_paused_iff {eon : UInt64} :
    l.checkRelayed g chain sender eon = .error .paused ↔
      isPaused l.relayerPause chain.height = true := by
  refine checkOpen_bind_eq_paused_iff ?_
  simp only [checkEon, bind_eq_error_iff, Registry.require_eq_error_iff, ensure_eq_error_iff,
    ne_eq, reduceCtorEq, and_false, or_false, exists_false, not_false_eq_true]

theorem refund_eq_paused_iff [AddressRule] {mode : RefundFee} {id eon : UInt64} {recipient : String}
    {amount : Amount} :
    l.refund g chain sender mode id recipient amount eon = .error .paused ↔
      isPaused l.relayerPause chain.height = true := by
  simp only [refund, bind_eq_error_iff, checkRelayed_eq_paused_iff, ensure_eq_error_iff,
    checkAddress_eq_error_iff, settle_ne_paused, pure_eq_ok, reduceCtorEq, and_false, or_false,
    exists_false]

theorem reverseSwap_eq_paused_iff [AddressRule] {rid eon : UInt64}
    {recipient originFrom originTx : String} {amount : Amount} :
    l.reverseSwap g chain sender rid recipient originFrom originTx amount eon = .error .paused ↔
      isPaused l.relayerPause chain.height = true := by
  simp only [reverseSwap, bind_eq_error_iff, checkRelayed_eq_paused_iff,
    checkAddress_eq_error_iff, settle_ne_paused, pure_eq_ok, reduceCtorEq, and_false, or_false,
    exists_false]

theorem rotateEon_eq_paused_iff :
    l.rotateEon g chain sender = .error .paused ↔
      isPaused l.relayerPause chain.height = true := by
  refine checkOpen_bind_eq_paused_iff ?_
  simp only [bind_eq_error_iff, Registry.require_eq_error_iff, pure_eq_ok, ne_eq, reduceCtorEq,
    and_false, or_false, exists_false, not_false_eq_true]

/-- An operation of no surface is never refused for a pause. -/
theorem operate_ne_paused [AddressRule] {message : Message} (h : message.surface? = none) :
    l.operate g chain sender message ≠ .error .paused := by
  cases message with
  | swap | receive | deposit | refund | refundInFull | reverseSwap | newRelayEon => cases h
  | pausePublicApi | pauseRelayerApi | setAllowance =>
      simp only [operate, movePause, setAllowance, bind_eq_error_iff,
        Registry.require_eq_error_iff, pure_eq_ok, ne_eq, reduceCtorEq, and_false, or_false,
        exists_false, not_false_eq_true]
  | withdraw | mint | burn =>
      simp only [operate, withdraw, mint, burn, checkPositive, bind_eq_error_iff,
        Registry.require_eq_error_iff, ensure_eq_error_iff, checkAddress_eq_error_iff,
        lowerSupply_eq_error_iff, raiseSupply_eq_error_iff, pure_eq_ok, ne_eq, reduceCtorEq,
        and_false, or_false, exists_false, not_false_eq_true]
  | withdrawFees | withdrawExcess | delete =>
      simp only [operate, withdrawFees, withdrawExcess, close, owed, bind_eq_error_iff,
        Registry.require_eq_error_iff, ensure_eq_error_iff, checkAddress_eq_error_iff,
        ofHost_eq_error_iff, sum_eq_error_iff, pure_eq_ok, ne_eq, reduceCtorEq, and_false,
        or_false, exists_false, not_false_eq_true]
  | setCap | setSwapLimits | setReverseLimits | setApproverCap =>
      simp only [operate, setCap, setSwapLimits, setReverseLimits, setApproverCap,
        SwapLimits.validate, ReverseLimits.validate, bind_eq_error_iff,
        Registry.require_eq_error_iff, ensure_eq_error_iff, pure_eq_ok, ne_eq, reduceCtorEq,
        and_false, or_false, exists_false, not_false_eq_true]
  | grantRole | revokeRole | renounceRole =>
      simp only [operate, grantRole, revokeRole, renounceRole, Registry.granting,
        Registry.revoking, bind_eq_error_iff, Registry.require_eq_error_iff,
        ensure_eq_error_iff, checkAddress_eq_error_iff, pure_eq_ok, ne_eq, reduceCtorEq,
        and_false, or_false, exists_false, not_false_eq_true]

/-- An operation is refused for a pause exactly if it is one of a paused surface
    and has arrived there. -/
theorem operate_eq_paused_iff [AddressRule] {message : Message} :
    l.operate g chain sender message = .error .paused ↔
      message.Arrives l sender ∧ ∃ surface, message.surface? = some surface ∧
        isPaused (l.pausedSince surface) chain.height = true := by
  cases hsurface : message.surface? with
  | none =>
      refine iff_of_false (operate_ne_paused hsurface) ?_
      rintro ⟨-, surface, ⟨⟩, -⟩
  | some surface =>
      simp only [Option.some.injEq, exists_eq_left']
      cases message with
      | receive => cases hsurface; exact receive_eq_paused_iff
      -- All others arrive as they are.
      | swap => cases hsurface; exact swap_eq_paused_iff.trans (and_iff_right trivial).symm
      | deposit => cases hsurface; exact deposit_eq_paused_iff.trans (and_iff_right trivial).symm
      | refund | refundInFull =>
          cases hsurface; exact refund_eq_paused_iff.trans (and_iff_right trivial).symm
      | reverseSwap =>
          cases hsurface; exact reverseSwap_eq_paused_iff.trans (and_iff_right trivial).symm
      | newRelayEon =>
          cases hsurface; exact rotateEon_eq_paused_iff.trans (and_iff_right trivial).symm
      | _ => cases hsurface

end Refusals

section Blindness

variable {g : Registry} {chain : Chain} {sender : Address} (l : Ledger) (since : UInt64)

/-- The pauses are no part of the books. -/
theorem besideBooks_setPausedSince (surface : Surface) :
    BesideBooks (·.setPausedSince surface since) := by
  cases surface <;>
    exact ⟨fun _ => rfl, fun _ => rfl, fun _ => rfl, fun _ => rfl, fun _ _ => rfl,
      fun _ _ _ => rfl⟩

theorem raiseSupply_setPausedSince (surface : Surface) (amount : Amount) :
    (l.setPausedSince surface since).raiseSupply amount =
      (·.setPausedSince surface since) <$> l.raiseSupply amount := by
  simp only [raiseSupply, map_bind, map_pure]
  cases surface <;> rfl

theorem bookSwap_setPausedSince (amount : Amount) (destination : String) :
    (l.setPausedSince .relayerApi since).bookSwap chain sender amount destination =
      Outcome.update (·.setPausedSince .relayerApi since) <$>
        l.bookSwap chain sender amount destination := by
  have hnext : (l.setPausedSince .relayerApi since).nextSwapId = l.nextSwapId := rfl
  simp only [bookSwap, raiseSupply_setPausedSince, map_bind, bind_map_left, hnext]
  -- Whether there is a next id is asked last, and not of the pause.
  cases Word.next? l.nextSwapId <;> rfl

theorem bookDeposit_setPausedSince (amount : Amount) :
    (l.setPausedSince .relayerApi since).bookDeposit g chain sender amount =
      Outcome.update (·.setPausedSince .relayerApi since) <$>
        l.bookDeposit g chain sender amount := by
  simp only [bookDeposit, raiseSupply_setPausedSince, map_bind, bind_map_left, map_pure]
  rfl

theorem receive_setPausedSince [AddressRule] (owner : String) (amount : Amount)
    (payload : Payload) :
    (l.setPausedSince .relayerApi since).receive g chain sender owner amount payload =
      Outcome.update (·.setPausedSince .relayerApi since) <$>
        l.receive g chain sender owner amount payload := by
  simp only [receive, map_bind]
  -- The credit is looked at in the same way, and then it is one of the two.
  refine bind_congr fun _ => bind_congr fun owner => bind_congr fun hook => ?_
  cases hook with
  | swap destination => exact bookSwap_setPausedSince l since amount destination
  | deposit => exact bookDeposit_setPausedSince l since amount

theorem refund_setPausedSince [AddressRule] (mode : RefundFee) (id eon : UInt64)
    (recipient : String) (amount : Amount) :
    (l.setPausedSince .publicApi since).refund g chain sender mode id recipient amount eon =
      Outcome.update (·.setPausedSince .publicApi since) <$>
        l.refund g chain sender mode id recipient amount eon := by
  simp only [refund, (besideBooks_setPausedSince since .publicApi).settle, map_bind,
    bind_map_left, map_pure]
  cases mode <;> rfl

/-- Operations that are none of the surface, and do not move its pause, do not
    see it. -/
theorem blind_setPausedSince [AddressRule] {message : Message} {surface : Surface}
    (hsurface : message.surface? ≠ some surface) (hpause : message.pauseOf? ≠ some surface) :
    message.Blind (·.setPausedSince surface since) := by
  intro g chain sender l
  cases message with
  | swap =>
      cases surface with
      | publicApi => exact absurd rfl hsurface
      | relayerApi =>
          simp only [operate, swap, bookSwap_setPausedSince, map_bind, bind_map_left, map_pure]
          rfl
  | deposit =>
      cases surface with
      | publicApi => exact absurd rfl hsurface
      | relayerApi =>
          simp only [operate, deposit, bookDeposit_setPausedSince, map_bind, bind_map_left,
            map_pure]
          rfl
  | receive =>
      cases surface with
      | publicApi => exact absurd rfl hsurface
      | relayerApi => exact receive_setPausedSince l since _ _ _
  | refund | refundInFull =>
      cases surface with
      | publicApi => exact refund_setPausedSince l since _ _ _ _ _
      | relayerApi => exact absurd rfl hsurface
  | reverseSwap =>
      cases surface with
      | publicApi =>
          simp only [operate, reverseSwap, (besideBooks_setPausedSince since .publicApi).settle,
            map_bind, bind_map_left, map_pure]
          rfl
      | relayerApi => exact absurd rfl hsurface
  | newRelayEon =>
      cases surface with
      | publicApi =>
          simp only [operate, rotateEon, map_bind, map_pure]
          rfl
      | relayerApi => exact absurd rfl hsurface
  -- The pause of the other surface is moved as before.
  | pausePublicApi =>
      cases surface with
      | publicApi => exact absurd rfl hpause
      | relayerApi =>
          simp only [operate, movePause, map_bind, map_pure]
          rfl
  | pauseRelayerApi =>
      cases surface with
      | publicApi =>
          simp only [operate, movePause, map_bind, map_pure]
          rfl
      | relayerApi => exact absurd rfl hpause
  | withdraw | burn =>
      simp only [operate, withdraw, burn, (besideBooks_setPausedSince since surface).lowerSupply,
        map_bind, bind_map_left, map_pure]
      cases surface <;> rfl
  | mint =>
      simp only [operate, mint, raiseSupply_setPausedSince, map_bind, bind_map_left, map_pure]
      cases surface <;> rfl
  -- The rest only reads fields that a pause is none of.
  | _ =>
      simp only [operate, withdrawFees, withdrawExcess, close, setCap, setSwapLimits,
        setReverseLimits, setAllowance, setApproverCap, grantRole, revokeRole, renounceRole,
        map_bind, map_pure]
      cases surface <;> rfl

end Blindness

section Calls

variable {s : Store} {l : Ledger} {chain : Chain} {sender : Address} {message : Message}

theorem query_pauses [AddressRule] (hload : item.load s = .ok l) (chain : Chain) :
    query chain s .pauses = .ok (.pauses l.publicPause l.relayerPause
      (isPaused l.publicPause chain.height) (isPaused l.relayerPause chain.height)) := by
  rw [query, hload]
  rfl

/-- An operation of a paused surface does not go through, whoever asks for it. -/
theorem Performs.not_paused [AddressRule] {g : Registry} {out : Outcome} {surface : Surface}
    (h : Performs g chain sender l message out) (hsurface : message.surface? = some surface) :
    isPaused (l.pausedSince surface) chain.height = false := by
  cases h with
  | swap h | receiveSwap _ _ _ h | deposit h | receiveDeposit _ _ _ h =>
      cases hsurface
      exact h.notPaused
  | refund hrelay | refundInFull hrelay | reverseSwap hrelay =>
      cases hsurface
      exact hrelay.notPaused
  | newRelayEon hopen =>
      cases hsurface
      exact hopen
  | _ => cases hsurface

/-- So no call for it goes through. -/
theorem execute_ne_ok_of_paused [AddressRule] {surface : Surface} (hload : item.load s = .ok l)
    (hsurface : message.surface? = some surface)
    (hpaused : isPaused (l.pausedSince surface) chain.height = true) (s' : Store)
    (receipt : Receipt) : execute chain sender message s ≠ .ok (s', receipt) := by
  intro hcall
  rcases execute_eq_ok_iff.mp hcall with ⟨l', out, hload', -, hperf, -⟩
  cases hload.symm.trans hload'
  -- What goes through has found the surface open.
  rw [hperf.not_paused hsurface] at hpaused
  cases hpaused

/-- A call is refused for a pause exactly if it is for a paused surface and has
    arrived there. -/
theorem execute_eq_paused_iff [AddressRule] (hload : item.load s = .ok l)
    (hopen : l.deleted = false) :
    execute chain sender message s = .error .paused ↔
      message.Arrives l sender ∧ ∃ surface, message.surface? = some surface ∧
        isPaused (l.pausedSince surface) chain.height = true := by
  rw [execute_eq_error_iff hload hopen, operate_eq_paused_iff]

theorem setPausedSince_pausedSince (l : Ledger) (surface : Surface) :
    l.setPausedSince surface (l.pausedSince surface) = l := by
  cases surface <;> rfl

/-- For every store that holds a ledger there are stores that differ from it in the
    pause of a surface only. -/
theorem apart_setPausedSince (hload : item.load s = .ok l) (surface : Surface)
    (since : UInt64) :
    Apart (·.setPausedSince surface (l.pausedSince surface)) (·.setPausedSince surface since) s
      (item.write (l.setPausedSince surface since) s) :=
  .of_write hload (setPausedSince_pausedSince l surface) _

/-- On a ledger that is not deleted, let a surface be paused at a height. None of its
    operations goes through there, and each that arrives is refused for the pause,
    whoever sends it. The answer to the question about pauses says of both surfaces
    whether calls are refused for their pauses, and no other call is. And on two
    stores that differ in the pause of a surface only, all calls but the operations
    of this surface and the one that moves its pause go alike, and leave stores that
    differ as before. -/
theorem pause_blocks_its_surface [AddressRule] (hload : item.load s = .ok l)
    (hopen : l.deleted = false) (chain : Chain) :
    (∀ surface sender message, isPaused (l.pausedSince surface) chain.height = true →
      message.surface? = some surface →
      (∀ s' receipt, execute chain sender message s ≠ .ok (s', receipt)) ∧
      (message.Arrives l sender → execute chain sender message s = .error .paused)) ∧
    (∃ publicPaused relayerPaused,
      query chain s .pauses =
        .ok (.pauses l.publicPause l.relayerPause publicPaused relayerPaused) ∧
      ∀ sender message, execute chain sender message s = .error .paused ↔
        message.Arrives l sender ∧
          ((message.surface? = some .publicApi ∧ publicPaused = true) ∨
            (message.surface? = some .relayerApi ∧ relayerPaused = true))) ∧
    ∀ surface since since' t,
      Apart (·.setPausedSince surface since) (·.setPausedSince surface since') s t →
      ∀ sender message, message.surface? ≠ some surface → message.pauseOf? ≠ some surface →
        Alike (Apart (·.setPausedSince surface since) (·.setPausedSince surface since'))
          (execute chain sender message s) (execute chain sender message t) := by
  refine ⟨?_, ⟨_, _, query_pauses hload chain, ?_⟩, ?_⟩
  · intro surface sender message hpaused hsurface
    refine ⟨execute_ne_ok_of_paused hload hsurface hpaused, ?_⟩
    intro harrives
    exact (execute_eq_paused_iff hload hopen).mpr ⟨harrives, surface, hsurface, hpaused⟩
  · intro sender message
    rw [execute_eq_paused_iff hload hopen]
    refine and_congr_right fun _ => ?_
    constructor
    · rintro ⟨surface, hsurface, hpaused⟩
      cases surface with
      | publicApi => exact .inl ⟨hsurface, hpaused⟩
      | relayerApi => exact .inr ⟨hsurface, hpaused⟩
    · rintro (⟨hsurface, hpaused⟩ | ⟨hsurface, hpaused⟩)
      · exact ⟨.publicApi, hsurface, hpaused⟩
      · exact ⟨.relayerApi, hsurface, hpaused⟩
  · intro surface since since' t hapart sender message hsurface hpause
    refine hapart.execute ?_ (blind_setPausedSince since hsurface hpause)
      (blind_setPausedSince since' hsurface hpause) chain sender
    intro l
    cases surface <;> rfl

end Calls

/-- A ledger whose swaps are paused from block ten on. Anybody's swap is refused, the
    answer about pauses is yes for swaps and no for relayed calls, and the cap is set
    as on a ledger that was never paused. -/
theorem pause_blocks_its_surface_at_ten :
    ∃ s t l, item.load s = .ok l ∧ l.deleted = false ∧
      isPaused l.publicPause stillChain.height = true ∧
      execute stillChain ⟨"anybody"⟩ (.swap ⟨5, by decide⟩ "remote") s = .error .paused ∧
      query stillChain s .pauses = .ok (.pauses 10 Word.never true false) ∧
      Apart (·.setPausedSince .publicApi 10) (·.setPausedSince .publicApi Word.never) s t ∧
      Alike (Apart (·.setPausedSince .publicApi 10) (·.setPausedSince .publicApi Word.never))
        (execute stillChain ⟨"deployer"⟩ (.setCap ⟨7, by decide⟩) s)
        (execute stillChain ⟨"deployer"⟩ (.setCap ⟨7, by decide⟩) t) := by
  rcases deploy_smallTerms with ⟨start, -, -, hkept⟩
  have hpauses : Performs (smallBooks .zero).registry stillChain ⟨"deployer"⟩
      (smallBooks .zero).ledger (.pausePublicApi 3) _ :=
    .pausePublicApi ⟨.admin, by decide, rfl⟩
  rcases hkept.proceeds rfl hpauses with ⟨s, -, hkept'⟩
  have hload := hkept'.ledger
  have hapart := apart_setPausedSince hload .publicApi Word.never
  rcases pause_blocks_its_surface hload rfl stillChain with ⟨hblocked, -, hfree⟩
  have hswap := hblocked .publicApi ⟨"anybody"⟩ (.swap ⟨5, by decide⟩ "remote") rfl rfl
  exact ⟨s, _, _, hload, rfl, rfl, hswap.2 trivial, query_pauses hload stillChain, hapart,
    hfree .publicApi _ _ _ hapart ⟨"deployer"⟩ (.setCap ⟨7, by decide⟩) nofun nofun⟩

end Ledger

end BridgeCustody
