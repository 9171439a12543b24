import BridgeCustody.Proofs.Ledger.Payout
import BridgeCustody.Proofs.Ledger.Refunds
import BridgeCustody.Proofs.Ledger.Value

/-!
# What Can Be Taken Back

Things go wrong, and then what was done is undone by another call: a swap that the
other side does not carry out by a refund in full, a deposit by a withdrawal, a mint
by a burn. For the books to stay honest the second call has to be possible whenever
the first one was, and to leave no trace that somebody might trip over later.

Deposits and mints are undone without a trace. The store afterwards is the store from
before, and not only the value: it holds the same texts under the same keys. That is
true only where the value is written in its own words, as it is from a deployment on.
A text that says the same in other words is read and replaced.

A swap is not undone without a trace, and must not be. Its id stays issued, the record
says that it was refunded, and the allowance has shrunk, since to the ledger the
refund is a payout like any other. `GivenBack` lists these three and says that there is
nothing else.

The refund is possible at all because no earlier refund can be on record under an id
that was not issued yet. This is a fact about runs and not about stores. In any other
store somebody may have put a record there, and then the swap could not be given back.

## Main definitions

* `Message.brings?`: What a message takes in on behalf of an owner.
* `Raises`: A call has raised the supply and done nothing else.
* `GivenBack`: What a swap and its refund leave behind.

## Theorems

* `commit_back`: Two calls that restore the value restore the store.
* `Swappable.refundInFull`, `givenBack_commit`: A refund behind a swap goes through,
  and what it leaves.
* `execute_refundInFull_of_swap`: A swap is given back.
* `execute_of_raises`: A deposit or a mint is undone.
* `taken_back`: Both along the runs from a deployment.
-/

namespace BridgeCustody

namespace Ledger

/-- What a message takes in on behalf of an owner, and what for. Tokens that are
    minted belong to nobody. -/
def Message.brings? : Message → Option (Amount × Hook)
  | .swap amount destination => some (amount, .swap destination)
  | .deposit amount => some (amount, .deposit)
  | .receive _ amount payload =>
    match Hook.ofPayload payload with
    | .ok hook => some (amount, hook)
    | .error _ => none
  | _ => none

theorem Message.brings?_receive {owner : String} {amount : Amount} {payload : Payload} {hook : Hook}
    (h : Hook.ofPayload payload = .ok hook) :
    (receive owner amount payload).brings? = some (amount, hook) := by
  rw [brings?, h]

/-- A call has raised the supply by an amount and has changed nothing else. -/
structure Raises (l : Ledger) (amount : Amount) (out : Outcome) : Prop where
  positive : amount ≠ .zero
  supply_eq : out.ledger.supply.toNat = l.supply.toNat + amount.toNat
  ledger_eq : out.ledger = { l with supply := out.ledger.supply }
  change_eq : out.change = .nothing

/-- A swap that found the value `l` in the store `s` was given back in full, and this
    is left behind: one id more, so much less allowance, and the record of the refund. -/
structure GivenBack (s s' : Store) (l l' : Ledger) (id : UInt64) (amount : Amount) : Prop where
  loaded : item.load s' = .ok l'
  allowance_eq : l.allowance.toNat = l'.allowance.toNat + amount.toNat
  next_eq : l'.nextSwapId.toNat = l.nextSwapId.toNat + 1
  rest_eq : l' = { l with allowance := l'.allowance, nextSwapId := l'.nextSwapId }
  unrecorded : (refundCell id).read? s = .ok none
  recorded : (refundCell id).read? s' = .ok (some amount)
  get?_eq : ∀ key, key ≠ item.key → key ≠ (refundCell id).key → s'.get? key = s.get? key

section Rules

variable [AddressRule]
variable {g : Registry} {chain : Chain} {sender : Address} {l : Ledger} {message : Message}
  {out : Outcome} {amount : Amount}

/-- A swap is one, whichever way it comes in. -/
theorem Performs.brings_swap (h : Performs g chain sender l message out) {destination : String}
    (hbrings : message.brings? = some (amount, .swap destination)) :
    ∃ owner supply next, Swappable l chain amount destination supply next ∧
      out.ledger = { l with supply := supply, nextSwapId := next } ∧ out.change = .nothing ∧
      out.event = .swapped l.nextSwapId owner destination amount := by
  cases h with
  | swap h =>
      cases hbrings
      exact ⟨_, _, _, h, rfl, rfl, rfl⟩
  | receiveSwap _ _ hpayload h =>
      rw [Message.brings?_receive hpayload] at hbrings
      cases hbrings
      exact ⟨_, _, _, h, rfl, rfl, rfl⟩
  | receiveDeposit _ _ hpayload =>
      rw [Message.brings?_receive hpayload] at hbrings
      cases hbrings
  | _ => cases hbrings

/-- On what a swap leaves, its amount can be refunded in full, and that restores the
    supply and the fees. -/
theorem Swappable.refundInFull {destination recipient : String} {supply : Amount} {next : UInt64}
    {relayer : Address} {chain' : Chain} (h : Swappable l chain amount destination supply next)
    (hnew : g.refunded l.nextSwapId = false) (hrelayer : g.holds .relayer relayer = true)
    (hrecipient : Address.Valid recipient) (hopen : isPaused l.relayerPause chain'.height = false)
    (hmax : amount ≤ l.reverseLimits.max) (hallowance : amount ≤ l.allowance) :
    Performs g chain' relayer { l with supply := supply, nextSwapId := next }
      (.refundInFull l.nextSwapId recipient amount l.relayEon) {
        ledger := { l with allowance := l.allowance.monus amount, nextSwapId := next }
        change := .refund l.nextSwapId amount
        call := some (l.pay ⟨recipient⟩ amount)
        event := .refunded l.nextSwapId ⟨recipient⟩ amount .zero } := by
  have hissued : l.nextSwapId < next := by
    rw [UInt64.lt_iff_toNat_lt, h.next_eq]
    exact Nat.lt_succ_self _
  have hleft : l.allowance.toNat = (l.allowance.monus amount).toNat + amount.toNat := by
    have hle := Amount.le_iff_toNat_le.mp hallowance
    rw [Amount.toNat_monus]
    omega
  have hsettle : Settleable { l with supply := supply, nextSwapId := next } amount .zero l.supply
      (l.allowance.monus amount) l.fees amount :=
    ⟨h.positive, hmax, hleft, h.supply_eq, rfl, rfl⟩
  -- The amount is not zero, so there is a payment.
  have hpays : some (l.pay ⟨recipient⟩ amount) =
      ({ l with supply := supply, nextSwapId := next } : Ledger).payIfAny ⟨recipient⟩ amount := by
    rw [payIfAny, if_neg h.positive]
    rfl
  rw [hpays]
  exact .refundInFull ⟨hopen, hrelayer, rfl⟩ hissued hnew hrecipient hsettle

/-- A deposit raises the supply, whichever way it comes in, and so does a mint. -/
theorem Performs.raises (h : Performs g chain sender l message out)
    (hraising : message.brings? = some (amount, .deposit) ∨ message = .mint amount) :
    Raises l amount out := by
  rcases hraising with hbrings | rfl
  · cases h with
    | deposit h =>
        cases hbrings
        exact ⟨h.positive, h.supply_eq, rfl, rfl⟩
    | receiveDeposit _ _ hpayload h =>
        rw [Message.brings?_receive hpayload] at hbrings
        cases hbrings
        exact ⟨h.positive, h.supply_eq, rfl, rfl⟩
    | receiveSwap _ _ hpayload =>
        rw [Message.brings?_receive hpayload] at hbrings
        cases hbrings
    | _ => cases hbrings
  · cases h with
    | mint _ hpositive hsupply _ => exact ⟨hpositive, hsupply, rfl, rfl⟩

end Rules

section Outcomes

variable {s : Store} {l : Ledger} {out out' : Outcome}

/-- A call that changes no entry leaves the tables as they were. -/
theorem Registry.ofStore_commit (hchange : out.change = .nothing) :
    Registry.ofStore (out.commit s) = Registry.ofStore s := by
  refine Registry.ofStore_congr (fun role a => ?_) fun id => ?_
  · rw [out.get?_roleCell, hchange]
    rfl
  · rw [out.get?_refundCell, hchange]
    rfl

/-- Two calls that change no entry, and of which the second restores the value, leave
    the store in which they started. -/
theorem commit_back (hwords : s.get? item.key = some (Wire.encode l))
    (hchange : out.change = .nothing) (hchange' : out'.change = .nothing)
    (hledger : out'.ledger = l) : out'.commit (out.commit s) = s := by
  refine Store.ext fun key => ?_
  by_cases hkey : item.key = key
  · rw [← hkey, out'.get?_item, hledger, hwords]
  · rw [out'.get?_commit_of_ne _ hkey, hchange', Change.apply, out.get?_commit_of_ne _ hkey,
      hchange, Change.apply]

/-- What the rules let through on the value that a call has left goes through there, if
    that call changed no entry. -/
theorem execute_commit [AddressRule] (hchange : out.change = .nothing)
    (hopen : out.ledger.deleted = false) (chain : Chain) {sender : Address} {message : Message}
    (hperf : Performs (.ofStore s) chain sender out.ledger message out') :
    execute chain sender message (out.commit s) =
      .ok (out'.commit (out.commit s), ⟨out'.call, out'.event⟩) := by
  refine execute_eq_ok_iff.mpr ⟨out.ledger, out', out.load_commit s, hopen, ?_, rfl, rfl⟩
  rw [Registry.ofStore_commit hchange]
  exact hperf

/-- A refund behind a call that changes no entry leaves its record, and of the value
    what it is stored with. -/
theorem givenBack_commit {id next : UInt64} {amount : Amount} (hchange : out.change = .nothing)
    (hchange' : out'.change = .refund id amount)
    (hledger : out'.ledger =
      { l with allowance := l.allowance.monus amount, nextSwapId := next })
    (hallowance : amount ≤ l.allowance) (hnext : next.toNat = l.nextSwapId.toNat + 1)
    (hnew : (refundCell id).read? s = .ok none) :
    GivenBack s (out'.commit (out.commit s)) l out'.ledger id amount where
  loaded := out'.load_commit _
  allowance_eq := by
    have hle := Amount.le_iff_toNat_le.mp hallowance
    simp only [hledger, Amount.toNat_monus]
    omega
  next_eq := by
    rw [hledger]
    exact hnext
  rest_eq := by rw [hledger]
  unrecorded := hnew
  recorded := out'.read?_refund _ hchange'
  get?_eq := by
    intro key hitem hrecord
    rw [out'.get?_commit_of_ne _ hitem.symm, hchange']
    refine (Cell.get?_write_of_ne _ _ _ hrecord.symm).trans ?_
    rw [out.get?_commit_of_ne _ hitem.symm, hchange, Change.apply]

end Outcomes

section Calls

variable [AddressRule] {s s₁ : Store} {l : Ledger} {chain chain' : Chain} {sender : Address}
  {message : Message} {receipt : Receipt} {amount : Amount}

/-- A swap is given back by a refund in full, if nothing stands in the way of paying
    the amount out and there is no refund on record under the next id. -/
theorem execute_refundInFull_of_swap (hload : item.load s = .ok l)
    (hnew : (refundCell l.nextSwapId).read? s = .ok none) {destination : String}
    (hbrings : message.brings? = some (amount, .swap destination))
    (hcall : execute chain sender message s = .ok (s₁, receipt)) :
    ∃ owner, receipt.event = .swapped l.nextSwapId owner destination amount ∧
      ∀ (chain' : Chain) relayer recipient,
        (Registry.ofStore s₁).holds .relayer relayer = true → Address.Valid recipient →
        isPaused l.relayerPause chain'.height = false → amount ≤ l.reverseLimits.max →
        amount ≤ l.allowance →
        ∃ s₂ l₂, execute chain' relayer
            (.refundInFull l.nextSwapId recipient amount l.relayEon) s₁ =
              .ok (s₂, ⟨some (l.pay ⟨recipient⟩ amount),
                .refunded l.nextSwapId ⟨recipient⟩ amount .zero⟩) ∧
          GivenBack s s₂ l l₂ l.nextSwapId amount := by
  rcases execute_eq_ok_iff.mp hcall with ⟨l₀, out, hload₀, hopen, hperf, rfl, rfl⟩
  cases hload.symm.trans hload₀
  rcases hperf.brings_swap hbrings with ⟨owner, supply, next, hswap, hledger, hchange, hevent⟩
  refine ⟨owner, hevent, ?_⟩
  intro chain' relayer recipient hrelayer hrecipient hnotPaused hmax hallowance
  rw [Registry.ofStore_commit hchange] at hrelayer
  have hrefunds := hswap.refundInFull (Cell.occupied_of_read? _ hnew) hrelayer hrecipient
    hnotPaused hmax hallowance
  rw [← hledger] at hrefunds
  have hopen' : out.ledger.deleted = false := by
    rw [hledger]
    exact hopen
  exact ⟨_, _, execute_commit hchange hopen' chain' hrefunds,
    givenBack_commit hchange rfl rfl hallowance hswap.next_eq hnew⟩

/-- What the rules let through on the value that a call has left goes through there and
    leads back, if that call only raised the supply and this restores the value. -/
theorem Raises.execute_back {out out' : Outcome} (h : Raises l amount out)
    (hwords : s.get? item.key = some (Wire.encode l)) (hopen : l.deleted = false)
    (hperf : Performs (.ofStore s) chain sender out.ledger message out')
    (hledger : out'.ledger = { out.ledger with supply := l.supply })
    (hchange : out'.change = .nothing) :
    execute chain sender message (out.commit s) = .ok (s, ⟨out'.call, out'.event⟩) := by
  rw [execute_commit h.change_eq (by rw [h.ledger_eq]; exact hopen) chain hperf]
  -- With the supply from before, the value is the one from before.
  rw [h.ledger_eq] at hledger
  rw [commit_back hwords h.change_eq hchange hledger]

/-- What a deposit or a mint has taken in can be withdrawn or burned again, and that is
    as if nothing had happened. -/
theorem execute_of_raises (hwords : s.get? item.key = some (Wire.encode l))
    (hraising : message.brings? = some (amount, .deposit) ∨ message = .mint amount)
    (hcall : execute chain sender message s = .ok (s₁, receipt)) (chain' : Chain)
    {admin : Address} (hadmin : (Registry.ofStore s₁).holds .admin admin = true) :
    (∀ target, Address.Valid target → execute chain' admin (.withdraw target amount) s₁ =
      .ok (s, ⟨some (l.pay ⟨target⟩ amount), .withdrawn ⟨target⟩ amount⟩)) ∧
    execute chain' admin (.burn amount) s₁ =
      .ok (s, ⟨some (.plain l.token (.burn amount)), .burned amount⟩) := by
  rcases execute_eq_ok_iff.mp hcall with ⟨l₀, out, hload₀, hopen, hperf, rfl, rfl⟩
  cases (item.load_of_get? hwords).symm.trans hload₀
  have hraises := hperf.raises hraising
  have htoken : out.ledger.token = l.token := hperf.token_eq
  rw [Registry.ofStore_commit hraises.change_eq] at hadmin
  refine ⟨?_, ?_⟩
  · intro target htarget
    rw [pay, ← htoken]
    exact hraises.execute_back hwords hopen
      (.withdraw hadmin hraises.positive htarget hraises.supply_eq) rfl rfl
  · rw [← htoken]
    exact hraises.execute_back hwords hopen
      (.burn hadmin hraises.positive hraises.supply_eq) rfl rfl

end Calls

/-- In a run from a deployment a swap can be given back, and a deposit or a mint can be
    undone, whenever it has just gone through.

    A relayer can refund the swap in full, to any valid recipient, if the surface is
    open and the amount is within the reverse limit and the allowance. All of it is
    paid, there is no fee, and nothing is left behind but what `GivenBack` says. What
    was deposited or minted can be withdrawn to any valid target or burned by an
    administrator, and this leaves the store from before. -/
theorem taken_back [AddressRule] {chain : Chain} {deployer : Address} {d : Deployment}
    {start s : Store} {receipt : Receipt} {log : List (Entry Call Receipt)}
    (hdeploy : deploy chain deployer d .empty = .ok (start, receipt))
    (hrun : Run Call.perform start s log) :
    ∃ l, item.load s = .ok l ∧
      (∀ chain sender message amount destination s₁ receipt,
        message.brings? = some (amount, .swap destination) →
        execute chain sender message s = .ok (s₁, receipt) →
        ∃ owner, receipt.event = .swapped l.nextSwapId owner destination amount ∧
          ∀ (chain' : Chain) relayer recipient,
            (Registry.ofStore s₁).holds .relayer relayer = true → Address.Valid recipient →
            isPaused l.relayerPause chain'.height = false → amount ≤ l.reverseLimits.max →
            amount ≤ l.allowance →
            ∃ s₂ l₂, execute chain' relayer
                (.refundInFull l.nextSwapId recipient amount l.relayEon) s₁ =
                  .ok (s₂, ⟨some (l.pay ⟨recipient⟩ amount),
                    .refunded l.nextSwapId ⟨recipient⟩ amount .zero⟩) ∧
              GivenBack s s₂ l l₂ l.nextSwapId amount) ∧
      ∀ chain sender message amount s₁ receipt,
        (message.brings? = some (amount, .deposit) ∨ message = .mint amount) →
        execute chain sender message s = .ok (s₁, receipt) →
        ∀ (chain' : Chain) admin, (Registry.ofStore s₁).holds .admin admin = true →
          (∀ target, Address.Valid target → execute chain' admin (.withdraw target amount) s₁ =
            .ok (s, ⟨some (l.pay ⟨target⟩ amount), .withdrawn ⟨target⟩ amount⟩)) ∧
          execute chain' admin (.burn amount) s₁ =
            .ok (s, ⟨some (.plain l.token (.burn amount)), .burned amount⟩) := by
  rcases deploy_empty hdeploy with ⟨b₀, hkept₀, -, hnone, -⟩
  rcases run_books hrun hkept₀ (RefundsLogged.nil hnone)
    (fun b b' e log hlogged _ _ hmoves => hlogged.step hmoves) with ⟨b, hkept, hlogged⟩
  have hwords := run_get?_item hdeploy hrun hkept.ledger
  -- A record would be of a swap that was issued, and the next one was not.
  have hunrecorded : b.refunds b.ledger.nextSwapId = none := by
    cases hrecord : b.refunds b.ledger.nextSwapId with
    | none => rfl
    | some amount => exact absurd (hlogged.issued _ _ hrecord) (UInt64.lt_irrefl _)
  have hnew : (refundCell b.ledger.nextSwapId).read? s = .ok none :=
    hunrecorded ▸ hkept.refunds _
  refine ⟨b.ledger, hkept.ledger, ?_, ?_⟩
  · intro chain sender message amount destination s₁ receipt hbrings hcall
    exact execute_refundInFull_of_swap hkept.ledger hnew hbrings hcall
  · intro chain sender message amount s₁ receipt hraising hcall chain' admin hadmin
    exact execute_of_raises hwords hraising hcall chain' hadmin

/-- Five are in custody when a customer swaps three, which a relayer then refunds in
    full. The same three can be minted and burned, and deposited and withdrawn. -/
theorem taken_back_of_three :
    ∃ start receipt s log s₁ s₂ l l₂ swapped minted s₃ deposited s₄,
      deploy stillChain ⟨"deployer"⟩ smallTerms .empty = .ok (start, receipt) ∧
      Run Call.perform start s log ∧
      execute stillChain ⟨"customer"⟩ (.swap ⟨3, by decide⟩ "remote") s = .ok (s₁, swapped) ∧
      execute stillChain ⟨"relayer"⟩ (.refundInFull 1 "customer" ⟨3, by decide⟩ Word.never) s₁ =
        .ok (s₂, ⟨some (.plain ⟨"token"⟩ (.transfer ⟨"customer"⟩ ⟨3, by decide⟩)),
          .refunded 1 ⟨"customer"⟩ ⟨3, by decide⟩ .zero⟩) ∧
      GivenBack s s₂ l l₂ 1 ⟨3, by decide⟩ ∧
      execute stillChain ⟨"deployer"⟩ (.mint ⟨3, by decide⟩) s = .ok (s₃, minted) ∧
      (execute stillChain ⟨"deployer"⟩ (.burn ⟨3, by decide⟩) s₃).map (·.1) = .ok s ∧
      execute stillChain ⟨"deployer"⟩ (.deposit ⟨3, by decide⟩) s = .ok (s₄, deposited) ∧
      (execute stillChain ⟨"deployer"⟩ (.withdraw "customer" ⟨3, by decide⟩) s₄).map (·.1) =
        .ok s := by
  rcases relay_smallTerms with ⟨start, receipt, s, log, hdeploy, hrun, hkept⟩
  have hswappable : Swappable relayingBooks.ledger stillChain ⟨3, by decide⟩ "remote"
      ⟨8, by decide⟩ 2 :=
    ⟨rfl, by decide, by decide, by decide, by decide, rfl, by decide, rfl⟩
  rcases hkept.proceeds rfl (.swap hswappable : Performs _ _ ⟨"customer"⟩ _ _ _) with
    ⟨s₁, hswap, hkept₁⟩
  have hmints : Performs relayingBooks.registry stillChain ⟨"deployer"⟩ relayingBooks.ledger
      (.mint ⟨3, by decide⟩) _ :=
    .mint rfl (by decide) (show (⟨8, by decide⟩ : Amount).toNat = _ from rfl) (by decide)
  rcases hkept.proceeds rfl hmints with ⟨s₃, hmint, hkept₃⟩
  have hdepositable : Depositable relayingBooks.ledger relayingBooks.registry stillChain
      ⟨"deployer"⟩ ⟨3, by decide⟩ ⟨8, by decide⟩ :=
    ⟨rfl, rfl, by decide, rfl, by decide⟩
  rcases hkept.proceeds rfl (.deposit hdepositable) with ⟨s₄, hdeposit, hkept₄⟩
  rcases taken_back hdeploy hrun with ⟨l, hl, hgive, hundo⟩
  cases hl.symm.trans hkept.ledger
  rcases hgive _ _ _ _ _ _ _ rfl hswap with ⟨-, -, hrefund⟩
  rcases hrefund stillChain ⟨"relayer"⟩ "customer" (by rw [hkept₁.registry_eq]; rfl) (by decide)
    rfl (by decide) (by decide) with ⟨s₂, l₂, hrefunded, hback⟩
  rcases hundo _ _ _ _ _ _ (.inr rfl) hmint stillChain ⟨"deployer"⟩
    (by rw [hkept₃.registry_eq]; rfl) with ⟨-, hburn⟩
  rcases hundo _ _ _ _ _ _ (.inl rfl) hdeposit stillChain ⟨"deployer"⟩
    (by rw [hkept₄.registry_eq]; rfl) with ⟨hwithdraw, -⟩
  refine ⟨start, receipt, s, log, s₁, s₂, _, l₂, _, _, s₃, _, s₄, hdeploy, hrun, hswap, hrefunded,
    hback, hmint, ?_, hdeposit, ?_⟩
  · rw [hburn]
    rfl
  · rw [hwithdraw "customer" (by decide)]
    rfl

end Ledger

end BridgeCustody
