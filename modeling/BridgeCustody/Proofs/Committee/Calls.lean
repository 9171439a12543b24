import BridgeCustody.Proofs.Committee.Conditions
import BridgeCustody.Proofs.Committee.Roster
import BridgeCustody.Proofs.Committee.Windows

/-!
# The Two Calls, Specified

A member who wants to propose or to sign has to know beforehand whether it can, since
nobody collects signatures for an action that cannot be proposed. What it needs is the
list of the conditions. And when the call was refused it has to know what to do about
it: wait for the round to expire, learn the nonce, or do nothing because the signature
is there already. That it can tell from the refusal, provided that it knows which of
several reasons it is told, and this is the order of the list.

There is little in the lists that depends on others. A round that is open can be signed
by every member who has not signed it, whatever the threshold, and once it has expired
every member who does not name a nonce of the future can open the next one, as long as
there are nonces. So no member can keep another from acting, except by opening a round
first.

A store that a run has led to has minutes, and the numbers in them are those of the
members that were founded. Beyond that nothing is needed of the run.

## Main definitions

* `Opened`, `Countersigned`: What the two calls leave.
* `Specified`: When a call goes through, how it is refused, and what it does.

## Theorems

* `Founded.numbersMembers`: Along a run, having a number is being a member.
* `KeptIn.opened_of_propose`, `KeptIn.countersigned_of_sign`: What the calls do.
* `KeptIn.propose_specified`, `KeptIn.sign_specified`: The calls on minutes.
* `calls_specified`: The calls along the runs from a founding.
-/

namespace BridgeCustody

namespace Committee

/-- A proposal at a height has opened the round `r` on a store with these minutes: under
    the next nonce, for the action, until it closes, and with one entry. -/
structure Opened (m : Minutes) (s s' : Store) (height : UInt64) (sender : Address)
    (action actionData signature : String) (r : Round) : Prop where
  round : roundCell.read? s' = .ok (some r)
  nonce : nonceItem.load s' = .ok r.nonce
  nonce_eq : r.nonce.toNat = m.nonce.toNat + 1
  action_eq : r.action = action
  actionData_eq : r.actionData = actionData
  expiry_eq : r.expiry.toNat = closing height m.setup.timeout
  signees_eq : r.signees = [sender]
  signatures_eq : r.signatures = [signature]
  get?_eq : ∀ key, key ≠ nonceItem.key → key ≠ roundCell.key → s'.get? key = s.get? key

/-- A signature has added one entry to the round `r` and has left everything else. -/
structure Countersigned (s s' : Store) (sender : Address) (signature : String) (r : Round) :
    Prop where
  round : roundCell.read? s' = .ok (some { r with
    signees := r.signees ++ [sender], signatures := r.signatures ++ [signature] })
  get?_eq : ∀ key, key ≠ roundCell.key → s'.get? key = s.get? key

/-- A call goes through if all conditions hold and only then, it is refused with the first
    that does not, and when it goes through it does what `Does` says. -/
structure Specified (call : Except Error (Store × Event)) (conditions : List (Condition Error))
    (Does : Store → Event → Prop) : Prop where
  proceeds_iff : (∃ s' event, call = .ok (s', event)) ↔ ∀ c ∈ conditions, c.Holds
  refused_iff : ∀ e, call = .error e ↔ FirstFails conditions e
  does : ∀ s' event, call = .ok (s', event) → Does s' event

theorem Specified.of_checks {call : Except Error (Store × Event)}
    {conditions : List (Condition Error)} {Does : Store → Event → Prop}
    (hchecks : Checks call conditions)
    (hdoes : ∀ s' event, call = .ok (s', event) → Does s' event) :
    Specified call conditions Does where
  proceeds_iff := hchecks.exists_pair_iff
  refused_iff := hchecks
  does := hdoes

/-- Along a run from a founding, having a number is being a member. -/
theorem Founded.numbersMembers {f : Founding} {m : Minutes} (h : Founded f m) :
    m.NumbersMembers := by
  intro a
  rw [h.numbers, h.setup]
  exact isSome_numbering _ 1 a

section Calls

variable {m : Minutes} {s s' : Store} {event : Event}

namespace Minutes.KeptIn

/-- A proposal that goes through opens a round and touches nothing else. -/
theorem opened_of_propose (h : m.KeptIn s) {chain : Chain} {sender : Address} {expected : UInt64}
    {action actionData signature : String}
    (hcall : propose chain sender expected action actionData signature s = .ok (s', event)) :
    ∃ r, Opened m s s' chain.height sender action actionData signature r ∧
      event = .proposed r.nonce sender action r.expiry := by
  rcases h.propose_eq_ok_iff.mp hcall with ⟨nonce, hp, rfl, rfl⟩
  have hkept := (h.writeRound (m.opening chain sender nonce action actionData signature)).writeNonce
    nonce
  refine ⟨m.opening chain sender nonce action actionData signature, ?_, rfl⟩
  exact {
    round := hkept.round
    nonce := hkept.nonce
    nonce_eq := hp.nonce_eq
    action_eq := rfl
    actionData_eq := rfl
    expiry_eq := toNat_expiryFor chain.height m.setup.timeout
    signees_eq := rfl
    signatures_eq := rfl
    get?_eq := fun key hnonce hround =>
      (nonceItem.get?_write_of_ne _ _ hnonce.symm).trans
        (roundCell.get?_write_of_ne _ _ hround.symm) }

/-- A signature that goes through adds one entry and touches nothing else. -/
theorem countersigned_of_sign (h : m.KeptIn s) {chain : Chain} {sender : Address} {nonce : UInt64}
    {signature : String} (hcall : sign chain sender nonce signature s = .ok (s', event)) :
    ∃ r, m.round = some r ∧ Countersigned s s' sender signature r := by
  rcases h.sign_eq_ok_iff.mp hcall with ⟨r, hs, rfl, -⟩
  exact ⟨r, hs.round_eq, roundCell.read?_write (r.signedBy sender signature) s,
    fun key hkey => roundCell.get?_write_of_ne _ _ hkey.symm⟩

theorem propose_specified (h : m.KeptIn s) (hnumbers : m.NumbersMembers) (chain : Chain)
    (sender : Address) (expected : UInt64) (action actionData signature : String) :
    Specified (Committee.execute chain sender (.propose expected action actionData signature) s)
      (proposeConditions m chain.height sender expected action)
      (fun s' event => ∃ r, Opened m s s' chain.height sender action actionData signature r ∧
        event = .proposed r.nonce sender action r.expiry) :=
  .of_checks (h.checks_propose hnumbers) fun _ _ hcall => h.opened_of_propose hcall

theorem sign_specified (h : m.KeptIn s) (hnumbers : m.NumbersMembers) (chain : Chain)
    (sender : Address) (nonce : UInt64) (signature : String) :
    Specified (Committee.execute chain sender (.sign nonce signature) s)
      (signConditions m chain.height sender nonce)
      (fun s' _ => ∃ r, m.round = some r ∧ Countersigned s s' sender signature r) :=
  .of_checks (h.checks_sign hnumbers) fun _ _ hcall => h.countersigned_of_sign hcall

end Minutes.KeptIn

end Calls

/-- At any point of a run from a founding on an empty store, on whatever chain and by
    whomever, a proposal and a signature go through if all conditions hold and only then,
    and otherwise they are refused with the first that does not. A proposal that goes
    through opens a round under the next nonce, with its sender alone and until it
    closes. A signature that goes through adds one entry to the round. Neither touches
    anything else. -/
theorem calls_specified [AddressRule] {f : Founding} {start s : Store} {event : Event}
    {log : List (Entry Call Event)} (hdeploy : deploy f .empty = .ok (start, event))
    (hrun : Run Call.perform start s log) :
    ∃ m : Minutes, m.KeptIn s ∧
      m.setup = ⟨f.members.map Address.mk, f.threshold, f.timeout⟩ ∧
      (∀ chain sender expected action actionData signature,
        Specified (execute chain sender (.propose expected action actionData signature) s)
          (proposeConditions m chain.height sender expected action)
          (fun s' event => ∃ r, Opened m s s' chain.height sender action actionData signature r ∧
            event = .proposed r.nonce sender action r.expiry)) ∧
      ∀ chain sender nonce signature,
        Specified (execute chain sender (.sign nonce signature) s)
          (signConditions m chain.height sender nonce)
          (fun s' _ => ∃ r, m.round = some r ∧ Countersigned s s' sender signature r) := by
  rcases run_founded hdeploy hrun with ⟨m, hkept, hfounded⟩
  exact ⟨m, hkept, hfounded.setup, hkept.propose_specified hfounded.numbersMembers,
    hkept.sign_specified hfounded.numbersMembers⟩

/-- Alice has proposed at block ten and bob has signed. At block fifteen a proposal is
    refused because the round is open, although it also names a nonce of the future, and
    bob cannot sign again. At block sixteen alice opens the next round, although she
    knows nothing of the first. -/
theorem calls_specified_of_two :
    ∃ start event s log, deploy smallTerms .empty = .ok (start, event) ∧
      Run Call.perform start s log ∧
      execute { stillChain with height := 15 } ⟨"alice"⟩ (.propose 7 "pay" "twenty" "third") s =
        .error (.notYetExpired 16) ∧
      execute { stillChain with height := 15 } ⟨"bob"⟩ (.sign 1 "third") s =
        .error (.alreadySigned 1) ∧
      ∃ s' event r, execute { stillChain with height := 16 } ⟨"alice"⟩
          (.propose 0 "pay" "twenty" "third") s = .ok (s', event) ∧
        roundCell.read? s' = .ok (some r) ∧ r.nonce.toNat = 2 ∧ r.signees = [⟨"alice"⟩] := by
  rcases run_smallTerms with
    ⟨start, event, opened, s, proposed, signature, hdeploy, hrun, -, hsigned⟩
  rcases calls_specified hdeploy hrun with ⟨m, hkept, -, hpropose, hsign⟩
  cases hkept.unique hsigned
  refine ⟨start, event, s, _, hdeploy, hrun, ?_, ?_, ?_⟩
  · refine ((hpropose _ _ _ _ _ _).refused_iff _).mpr ?_
    simp only [proposeConditions, firstFails_of_cons_iff]
    exact .inr ⟨by decide, .inr ⟨by decide, .here (by decide : ¬(16 : UInt64) ≤ 15)⟩⟩
  · refine ((hsign _ _ _ _).refused_iff _).mpr ?_
    simp only [signConditions, firstFails_of_cons_iff]
    exact .inr ⟨by decide, .inr ⟨rfl, .behind rfl (.behind (by decide : (15 : UInt64) < 16)
      (.here (fun hnew : (⟨"bob"⟩ : Address) ∉ _ => hnew (by decide))))⟩⟩
  · have hcalls := hpropose { stillChain with height := 16 } ⟨"alice"⟩ 0 "pay" "twenty" "third"
    have hholds : ∀ c ∈ proposeConditions signedMinutes 16 ⟨"alice"⟩ 0 "pay", c.Holds := by
      simp only [proposeConditions, List.forall_mem_append, List.forall_mem_cons,
        Condition.holds_of]
      exact ⟨by decide, by decide, List.forall_mem_singleton.mpr (by decide : (16 : UInt64) ≤ 16),
        by decide, by decide, List.forall_mem_nil _⟩
    rcases hcalls.proceeds_iff.mpr hholds with ⟨s', event', hcall⟩
    rcases hcalls.does s' event' hcall with ⟨r, hopened, -⟩
    exact ⟨s', event', r, hcall, hopened.round, hopened.nonce_eq, hopened.signees_eq⟩

end Committee

end BridgeCustody
