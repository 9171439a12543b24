import BridgeCustody.Ledger.Deploy
import BridgeCustody.Proofs.Ledger.Books
import BridgeCustody.Proofs.Run

/-!
# The Ledger From Its Deployment On

A ledger starts with a deployment on an empty store, and from then on it lives
through calls and migrations. Both are calls of one kind here, so that `Run`
speaks of the ledger.

On the books such a call is a move. `Moves` has two rules, one for an operation
that goes through and one for a migration, and `run_books` turns what holds of
every move into what holds of every run. A claim about all runs of the ledger
is then two things to show: that it holds of fresh books, and that a move keeps
it. Neither mentions a store.

A deployment writes the value and then grants roles one by one. Which roles are
held afterwards depends on the whole list, and `deploy_empty` says so, because
the grants are the only source of authority that a run can start from.

## Main definitions

* `Call`, `Call.perform`: What a ledger lives through.
* `Moves`: What a call does to the books.

## Theorems

* `KeptIn.moves`, `KeptIn.proceeds`: A call that goes through is a move, and a
  call that the rules let through goes through.
* `run_books`: What every move preserves ties the books to the log.
* `deploy_eq_ok_iff`: What a deployment comes to.
* `deploy_empty`: The books after a deployment on an empty store.
-/

namespace BridgeCustody

/-- A chain at a height on which every token states one balance. -/
def Chain.stating (self : Address) (height : UInt64) (balance : Amount) : Chain :=
  ⟨self, height, fun _ _ => .stated balance.text⟩

theorem Chain.balance_stating (self : Address) (height : UInt64) (balance : Amount)
    (token : Address) : (Chain.stating self height balance).balance token = .ok balance := by
  simp only [Chain.balance, Chain.stating, TokenReply.balance, Amount.read?_text]

namespace Ledger

/-- What a ledger lives through once it is deployed. -/
inductive Call
  | execute (chain : Chain) (sender : Address) (message : Message)
  | migrate

/-- A call on a store. A migration always goes through. -/
def Call.perform [AddressRule] : Call → Store → Except Error (Store × Receipt)
  | execute chain sender message, s => Ledger.execute chain sender message s
  | migrate, s => .ok (Ledger.migrate s)

/-- What a call that goes through does to the books, and what it reports. -/
inductive Moves [AddressRule] (b : Books) : Call → Receipt → Books → Prop
  | execute {chain sender message out} (hopen : b.ledger.deleted = false)
      (hperf : Performs b.registry chain sender b.ledger message out) :
      Moves b (.execute chain sender message) ⟨out.call, out.event⟩ (out.post b)
  | migrate : Moves b .migrate ⟨none, .migrated⟩ b

namespace Books.KeptIn

variable [AddressRule] {b : Books} {s s' : Store} {receipt : Receipt}

/-- A call that goes through is a move. -/
theorem moves (h : b.KeptIn s) {call : Call} (hcall : call.perform s = .ok (s', receipt)) :
    ∃ b', b'.KeptIn s' ∧ Moves b call receipt b' := by
  cases call with
  | execute chain sender message =>
      rcases h.execute_eq_ok_iff.mp hcall with ⟨hopen, out, hperf, rfl, rfl⟩
      exact ⟨out.post b, h.commit out, .execute hopen hperf⟩
  | migrate =>
      cases hcall
      exact ⟨b, h.migrate, .migrate⟩

/-- A call that the rules let through goes through. -/
theorem proceeds (h : b.KeptIn s) {chain : Chain} {sender : Address} {message : Message}
    {out : Outcome} (hopen : b.ledger.deleted = false)
    (hperf : Performs b.registry chain sender b.ledger message out) :
    ∃ s', execute chain sender message s = .ok (s', ⟨out.call, out.event⟩) ∧
      (out.post b).KeptIn s' :=
  ⟨_, h.execute_eq_ok_iff.mpr ⟨hopen, out, hperf, rfl, rfl⟩, h.commit out⟩

end Books.KeptIn

theorem run_execute [AddressRule] {start s s' : Store} {log : List (Entry Call Receipt)}
    {chain : Chain} {sender : Address} {message : Message} {receipt : Receipt}
    (hrun : Run Call.perform start s log)
    (hcall : execute chain sender message s = .ok (s', receipt)) :
    Run Call.perform start s' (log ++ [⟨s, .execute chain sender message, s', receipt⟩]) :=
  hrun.went hcall

/-- What ties books to the log holds at the end of a run if it holds of an empty
    log and every move extends it by its entry. -/
theorem run_books [AddressRule] {b₀ : Books} {start s : Store} {log : List (Entry Call Receipt)}
    {P : Books → List (Entry Call Receipt) → Prop} (hrun : Run Call.perform start s log)
    (hkept : b₀.KeptIn start) (h0 : P b₀ [])
    (hstep : ∀ b b' e log, P b log → b.KeptIn e.before → b'.KeptIn e.after →
      Moves b e.call e.report b' → P b' (log ++ [e])) :
    ∃ b, b.KeptIn s ∧ P b log := by
  refine hrun.logged (P := fun s log => ∃ b, b.KeptIn s ∧ P b log) ⟨b₀, hkept, h0⟩ ?_
  rintro call s s' report log ⟨b, hb, hP⟩ hcall
  rcases hb.moves hcall with ⟨b', hb', hmoves⟩
  exact ⟨b', hb', hstep b b' ⟨s, call, s', report⟩ log hP hb hb' hmoves⟩

/-! ### Deployment -/

theorem grant_eq_ok_iff {role : Role} {holder : Address} {s s' : Store} :
    grant role holder s = .ok s' ↔
      (roleCell role holder).occupied s = false ∧ s' = (roleCell role holder).occupy s := by
  simp only [grant, Registry.granting, bind_eq_ok_iff, ensure_eq_ok_iff, pure_eq_ok,
    Except.ok.injEq, exists_and_left, exists_const]
  constructor
  · intro h
    rcases h with ⟨_, ⟨hfree, rfl⟩, rfl⟩
    exact ⟨hfree, rfl⟩
  · intro h
    rcases h with ⟨hfree, rfl⟩
    exact ⟨_, ⟨hfree, rfl⟩, rfl⟩

/-- What a deployment comes to: terms in order, a fresh value, the deployer an
    administrator, and then the listed grants. -/
theorem deploy_eq_ok_iff [AddressRule] {chain : Chain} {sender : Address} {d : Deployment}
    {s s' : Store} {receipt : Receipt} :
    deploy chain sender d s = .ok (s', receipt) ↔
      Address.Valid d.token ∧ d.swapLimits.Ordered ∧ d.reverseLimits.Ordered ∧
        ∃ s₁, grant .admin sender (item.write (fresh ⟨d.token⟩ chain.height d)
            (Release.item.write .ofLedger s)) = .ok s₁ ∧
          grantEach d.grants s₁ = .ok s' ∧
          receipt = ⟨none, .deployed sender ⟨d.token⟩ (fresh ⟨d.token⟩ chain.height d).publicPause
            (fresh ⟨d.token⟩ chain.height d).relayerPause
            (fresh ⟨d.token⟩ chain.height d).earliestDelete⟩ := by
  -- The deployer is granted its role before the list, so a list that has it again fails.
  simp only [deploy, bind_eq_ok_iff, checkAddress_eq_ok_iff, pure_eq_ok, Except.ok.injEq,
    Prod.mk.injEq]
  constructor
  · intro h
    rcases h with ⟨_, ⟨htoken, rfl⟩, ⟨⟩, hswap, ⟨⟩, hreverse, s₁, hadmin, _, hgrants, rfl, rfl⟩
    exact ⟨htoken, SwapLimits.validate_eq_ok_iff.mp hswap,
      ReverseLimits.validate_eq_ok_iff.mp hreverse, s₁, hadmin, hgrants, rfl⟩
  · intro h
    rcases h with ⟨htoken, hswap, hreverse, s₁, hadmin, hgrants, rfl⟩
    exact ⟨_, ⟨htoken, rfl⟩, (), SwapLimits.validate_eq_ok_iff.mpr hswap, (),
      ReverseLimits.validate_eq_ok_iff.mpr hreverse, s₁, hadmin, s', hgrants, rfl, rfl⟩

namespace Books.KeptIn

/-- A role that was granted is the one role more. -/
theorem grant {b : Books} {s s' : Store} (h : b.KeptIn s) {role : Role} {holder : Address}
    (hg : grant role holder s = .ok s') : (b.withHolding role holder true).KeptIn s' := by
  rcases grant_eq_ok_iff.mp hg with ⟨-, rfl⟩
  exact h.apply (.grant role holder)

/-- After a list of grants the same roles are held as before and those listed. -/
theorem grantEach [AddressRule] {grants : List Grant} {b : Books} {s s' : Store} (h : b.KeptIn s)
    (hg : grantEach grants s = .ok s') :
    ∃ holds, Books.KeptIn { b with holds := holds } s' ∧ ∀ role a, holds role a = true ↔
      b.holds role a = true ∨ ∃ g ∈ grants, g.role = role ∧ a = ⟨g.address⟩ := by
  induction grants generalizing b s with
  | nil =>
      cases hg
      exact ⟨b.holds, h, fun role a => by simp⟩
  | cons g rest ih =>
      simp only [Ledger.grantEach, bind_eq_ok_iff, checkAddress_eq_ok_iff] at hg
      rcases hg with ⟨_, ⟨-, rfl⟩, s₁, hone, hrest⟩
      -- The rest of the list is granted on books that have the first grant already.
      rcases ih (h.grant hone) hrest with ⟨holds, hkept, hiff⟩
      refine ⟨holds, hkept, ?_⟩
      intro role a
      rw [hiff role a, withHolding_holds]
      -- Either the first grant is the one asked for, or it does not matter.
      by_cases hsame : role = g.role ∧ a = ⟨g.address⟩
      · rw [if_pos hsame]
        simp [hsame.1, hsame.2]
      · rw [if_neg hsame]
        have hfirst : ¬(g.role = role ∧ a = ⟨g.address⟩) := fun h => hsame ⟨h.1.symm, h.2⟩
        simp only [List.mem_cons, exists_eq_or_imp, hfirst, false_or]

end Books.KeptIn

/-- The books that a deployment writes, before any role is granted. -/
def freshBooks (chain : Chain) (d : Deployment) : Books where
  ledger := fresh ⟨d.token⟩ chain.height d
  holds _ _ := false
  refunds _ := none

theorem freshBooks_keptIn (chain : Chain) (d : Deployment) :
    (freshBooks chain d).KeptIn (item.write (fresh ⟨d.token⟩ chain.height d)
      (Release.item.write .ofLedger .empty)) where
  ledger := Item.load_write _ _ _
  holds role a := by
    rw [Cell.occupied_eq, Cell.get?_write, if_neg (item_key_ne_roleCell role a), Cell.get?_write,
      if_neg (release_key_ne_roleCell role a), Store.get?_empty]
    rfl
  refunds id := by
    refine Cell.read?_eq_none _ ?_
    rw [Cell.get?_write, if_neg (item_key_ne_refundCell id), Cell.get?_write,
      if_neg (release_key_ne_refundCell id), Store.get?_empty]

/-- After a deployment on an empty store the value is fresh, nothing was refunded,
    and the roles held are the deployer's and those listed. -/
theorem deploy_empty [AddressRule] {chain : Chain} {sender : Address} {d : Deployment} {s : Store}
    {receipt : Receipt} (h : deploy chain sender d .empty = .ok (s, receipt)) :
    ∃ b : Books, b.KeptIn s ∧ b.ledger = fresh ⟨d.token⟩ chain.height d ∧
      (∀ id, b.refunds id = none) ∧
      ∀ role a, b.holds role a = true ↔
        (role = .admin ∧ a = sender) ∨ ∃ g ∈ d.grants, g.role = role ∧ a = ⟨g.address⟩ := by
  rcases deploy_eq_ok_iff.mp h with ⟨-, -, -, s₁, hadmin, hgrants, -⟩
  have hfresh := freshBooks_keptIn chain d
  -- First the deployer, then the list.
  rcases (hfresh.grant hadmin).grantEach hgrants with ⟨holds, hkept, hiff⟩
  refine ⟨_, hkept, rfl, fun _ => rfl, ?_⟩
  intro role a
  refine (hiff role a).trans (or_congr_left ?_)
  rw [Books.withHolding_holds]
  by_cases hsame : role = .admin ∧ a = sender
  · rw [if_pos hsame]
    exact iff_of_true rfl hsame
  · rw [if_neg hsame]
    exact iff_of_false (fun hf => Bool.noConfusion hf) hsame

/-- A deployment on an empty store without grants goes through if its terms are
    in order. -/
theorem deploy_empty_of_grants_nil [AddressRule] (chain : Chain) (sender : Address) (d : Deployment)
    (htoken : Address.Valid d.token) (hswap : d.swapLimits.Ordered)
    (hreverse : d.reverseLimits.Ordered) (hgrants : d.grants = []) :
    ∃ s receipt, deploy chain sender d .empty = .ok (s, receipt) ∧
      ((freshBooks chain d).withHolding .admin sender true).KeptIn s := by
  have hfresh := freshBooks_keptIn chain d
  -- Nobody holds anything yet, so the deployer's own grant is new.
  have hadmin := grant_eq_ok_iff.mpr ⟨hfresh.holds .admin sender, rfl⟩
  refine ⟨_, _, deploy_eq_ok_iff.mpr ⟨htoken, hswap, hreverse, _, hadmin, ?_, rfl⟩,
    hfresh.grant hadmin⟩
  rw [hgrants]
  rfl

/-! ### A small ledger

Statements about runs are tried out on one ledger, deployed under small terms on
a chain that stands still. -/

/-- Small terms without grants. -/
def smallTerms : Deployment where
  token := "token"
  cap := ⟨1000, by decide⟩
  swapLimits := ⟨⟨1, by decide⟩, ⟨100, by decide⟩⟩
  reverseLimits := ⟨⟨2, by decide⟩, ⟨100, by decide⟩, ⟨1, by decide⟩⟩
  allowance := ⟨500, by decide⟩
  approverCap := ⟨500, by decide⟩
  publicPause := none
  relayerPause := none
  protectionPeriod := 10
  nextSwapId := some 1
  grants := []

/-- A chain at block ten on which every token states that there is nothing. -/
def stillChain : Chain :=
  .stating ⟨"ledger"⟩ 10 .zero

/-- The books under small terms with a given supply. -/
def smallBooks (supply : Amount) : Books where
  ledger := { fresh ⟨"token"⟩ 10 smallTerms with supply := supply }
  holds role a := if role = .admin ∧ a = ⟨"deployer"⟩ then true else false
  refunds _ := none

theorem deploy_smallTerms :
    ∃ s receipt, deploy stillChain ⟨"deployer"⟩ smallTerms .empty = .ok (s, receipt) ∧
      (smallBooks .zero).KeptIn s :=
  deploy_empty_of_grants_nil stillChain ⟨"deployer"⟩ smallTerms (by decide)
    (Nat.le_of_ble_eq_true rfl) ⟨Nat.le_of_ble_eq_true rfl, Nat.le_of_ble_eq_true rfl⟩ rfl

/-- The deployer can mint five. -/
theorem mint_smallTerms :
    ∃ start receipt s,
      deploy stillChain ⟨"deployer"⟩ smallTerms .empty = .ok (start, receipt) ∧
      execute stillChain ⟨"deployer"⟩ (.mint ⟨5, by decide⟩) start =
        .ok (s, ⟨some (.plain ⟨"token"⟩ (.mint ⟨"ledger"⟩ ⟨5, by decide⟩)),
          .minted ⟨5, by decide⟩⟩) ∧
      (smallBooks ⟨5, by decide⟩).KeptIn s := by
  rcases deploy_smallTerms with ⟨start, receipt, hdeploy, hkept⟩
  have hmints : Performs (smallBooks .zero).registry stillChain ⟨"deployer"⟩
      (smallBooks .zero).ledger (.mint ⟨5, by decide⟩) _ :=
    .mint rfl (by decide) (Nat.zero_add _).symm (by decide)
  rcases hkept.proceeds rfl hmints with ⟨s, hmint, hkept'⟩
  exact ⟨start, receipt, s, hdeploy, hmint, hkept'⟩

/-- The deployer can give a role to somebody who does not hold it. -/
theorem grant_smallTerms {s : Store} {supply : Amount} (hkept : (smallBooks supply).KeptIn s)
    (role : Role) (address : String) (haddress : Address.Valid address)
    (hnew : (smallBooks supply).holds role ⟨address⟩ = false) :
    ∃ s', execute stillChain ⟨"deployer"⟩ (.grantRole role address) s =
        .ok (s', ⟨none, .roleGranted role ⟨address⟩⟩) ∧
      ((smallBooks supply).withHolding role ⟨address⟩ true).KeptIn s' :=
  hkept.proceeds rfl (.grantRole rfl haddress hnew)

end Ledger

end BridgeCustody
