import BridgeCustody.Proofs.Ledger.Budget

/-!
# Roles Are Given by Administrators

Every limit on what the ledger can be made to do is a limit on what some role
may do. All of it would be worth nothing if a coalition of others could talk the
ledger into one role more. They may be many, they may be monitors, approvers and
relayers, the token may be among them, and they have all the time they want.

They cannot, because the one way to a role leads through an administrator, and
the way out is everybody's own. So without an administrator the set of
memberships can only shrink, and each that goes was given up by its holder. It
follows that an administration that has ended does not come back, and what only
administrators may set is then set for good.

A membership is an entry of the store, and the claim is about entries: of the
three messages about roles each touches its one entry. They write the value too,
but it is the value that was there, in the words in which it was there.

## Main definitions

* `Message.membership?`: The membership that a message is about.
* `Call.Renounces`: A call gives up a role of its sender.
* `SameTerms`: What only administrators may set is the same.

## Theorems

* `Call.renounces`: Without an administrator memberships are only given up.
* `run_holds`: The same along a run.
* `run_no_admin`: An administration that has ended does not come back.
* `membership_of_execute`: A message about a role touches one entry.
* `no_role_without_admin`: All of it, for all runs from a deployment.
-/

namespace BridgeCustody

namespace Ledger

/-- The membership that a message is about, and whether it is to be held. -/
def Message.membership? (sender : Address) : Message → Option (Role × Address × Bool)
  | grantRole role text => some (role, ⟨text⟩, true)
  | revokeRole role text => some (role, ⟨text⟩, false)
  | renounceRole role => some (role, sender, false)
  | _ => none

/-- A call gives up a role that its sender holds. -/
def Call.Renounces (role : Role) (a : Address) (call : Call) : Prop :=
  ∃ chain, call = .execute chain a (.renounceRole role)

/-- What only administrators may set is the same in two values. -/
structure SameTerms (m l : Ledger) : Prop where
  cap : l.cap = m.cap
  swapLimits : l.swapLimits = m.swapLimits
  reverseLimits : l.reverseLimits = m.reverseLimits
  approverCap : l.approverCap = m.approverCap

theorem Call.not_sentBy_admin {s : Store}
    (hnobody : ∀ a, (Registry.ofStore s).holds .admin a = false) (call : Call) :
    call.sentBy .admin s = false := by
  cases call with
  | execute chain sender message => exact hnobody sender
  | migrate => rfl

section Steps

variable {g : Registry} {chain : Chain} {sender : Address} {l m : Ledger} {message : Message}
  {out : Outcome} {s s' : Store} {receipt : Receipt} {call : Call} {role : Role} {a : Address}

/-- Who is no administrator can only give up its own roles. -/
theorem MovesRole.renounced {before after : Option String}
    (h : MovesRole g sender message role a before after) (hadmin : g.holds .admin sender = false) :
    message = .renounceRole role ∧ a = sender ∧ before.isSome = true ∧ after = none := by
  have hrefuse : g.holds .admin sender ≠ true := Bool.eq_false_iff.mp hadmin
  cases h with
  | grant hholds => exact absurd hholds hrefuse
  | revoke hholds => exact absurd hholds hrefuse
  | renounce => exact ⟨rfl, rfl, rfl, rfl⟩

/-- A membership that is not the same after a call by somebody who is no
    administrator was given up by its holder. -/
theorem Call.renounces [AddressRule] (hcall : call.perform s = .ok (s', receipt))
    (hsender : call.sentBy .admin s = false)
    (hne : (Registry.ofStore s').holds role a ≠ (Registry.ofStore s).holds role a) :
    (Registry.ofStore s).holds role a = true ∧ (Registry.ofStore s').holds role a = false ∧
      call.Renounces role a := by
  cases call with
  | execute chain sender message =>
      rcases execute_eq_ok_iff.mp hcall with ⟨l, out, -, -, hperf, rfl, -⟩
      have hentry : (out.commit s).get? (roleCell role a).key ≠ s.get? (roleCell role a).key :=
        fun hsame => hne (Cell.occupied_congr _ hsame)
      rcases (hperf.tablesWarranted.role role a hentry).renounced hsender with
        ⟨rfl, rfl, hbefore, hafter⟩
      refine ⟨hbefore, ?_, chain, rfl⟩
      rw [Registry.holds_ofStore, hafter]
      rfl
  | migrate =>
      cases hcall
      exact absurd (congrArg (Registry.holds · role a) (Registry.ofStore_migrate s)) hne

theorem Performs.sameTerms [AddressRule] (h : Performs g chain sender l message out)
    (hadmin : g.holds .admin sender = false) : SameTerms l out.ledger := by
  have hwarranted := h.warranted
  -- Each of the terms is set by administrators only.
  have hstays : ∀ {p : Prop}, (¬p → g.holds .admin sender = true) → p :=
    fun hset => Classical.byContradiction fun hne => Bool.eq_false_iff.mp hadmin (hset hne)
  constructor
  · exact hstays fun hne => (hwarranted.cap hne).2
  · exact hstays fun hne => (hwarranted.swapLimits hne).2
  · exact hstays fun hne => (hwarranted.reverseLimits hne).2
  · exact hstays fun hne => (hwarranted.approverCap hne).2

theorem SameTerms.trans {l' : Ledger} (h : SameTerms m l) (h' : SameTerms l l') :
    SameTerms m l' where
  cap := h'.cap.trans h.cap
  swapLimits := h'.swapLimits.trans h.swapLimits
  reverseLimits := h'.reverseLimits.trans h.reverseLimits
  approverCap := h'.approverCap.trans h.approverCap

/-- A message about a role leaves the value as it is and changes the membership
    that it is about. -/
theorem Performs.membership [AddressRule] (h : Performs g chain sender l message out) {held : Bool}
    (hmember : message.membership? sender = some (role, a, held)) :
    g.holds role a = !held ∧ out.ledger = l ∧
      ∀ s key, (out.change.apply s).get? key =
        if (roleCell role a).key = key then (if held then some Mark.text else none)
        else s.get? key := by
  cases h with
  | grantRole _ _ hnew =>
      cases hmember
      exact ⟨hnew, rfl, Cell.get?_occupy _⟩
  | revokeRole _ _ hheld =>
      cases hmember
      exact ⟨hheld, rfl, Cell.get?_clear _⟩
  | renounceRole hheld =>
      cases hmember
      exact ⟨hheld, rfl, Cell.get?_clear _⟩
  | _ => cases hmember

/-- On a store whose value is in its own words, a message about a role touches one
    entry. -/
theorem membership_of_execute [AddressRule]
    (hwords : ∀ l, item.load s = .ok l → s.get? item.key = some (Wire.encode l))
    (hcall : execute chain sender message s = .ok (s', receipt)) {held : Bool}
    (hmember : message.membership? sender = some (role, a, held)) :
    (Registry.ofStore s).holds role a = !held ∧ (Registry.ofStore s').holds role a = held ∧
      ∀ key, key ≠ (roleCell role a).key → s'.get? key = s.get? key := by
  rcases execute_eq_ok_iff.mp hcall with ⟨l, out, hload, -, hperf, rfl, -⟩
  rcases hperf.membership hmember with ⟨hbefore, hsame, hchange⟩
  refine ⟨hbefore, ?_, ?_⟩
  · rw [Registry.holds_ofStore, out.get?_roleCell, hchange, if_pos rfl]
    cases held <;> rfl
  · intro key hkey
    by_cases hitem : item.key = key
    · -- The value is written, but as it was.
      rw [← hitem, out.get?_item, hsame, hwords l hload]
    · rw [out.get?_commit_of_ne s hitem, hchange, if_neg hkey.symm]

end Steps

section Runs

variable [AddressRule] {mid s : Store} {stretch : List (Entry Call Receipt)}

/-- Along a run without an administrator no membership is added, and each that
    disappears was given up by its holder. -/
theorem run_holds (hrun : Run Call.perform mid s stretch)
    (hnone : ∀ e ∈ stretch, e.call.sentBy .admin e.before = false) (role : Role) (a : Address) :
    (Registry.ofStore s).holds role a = (Registry.ofStore mid).holds role a ∨
      ((Registry.ofStore mid).holds role a = true ∧ (Registry.ofStore s).holds role a = false ∧
        ∃ e ∈ stretch, e.call.Renounces role a) := by
  -- The condition is on the whole log, so it is carried along as a premise.
  refine hrun.logged (P := fun s log => (∀ e ∈ log, e.call.sentBy .admin e.before = false) →
    (Registry.ofStore s).holds role a = (Registry.ofStore mid).holds role a ∨
      ((Registry.ofStore mid).holds role a = true ∧ (Registry.ofStore s).holds role a = false ∧
        ∃ e ∈ log, e.call.Renounces role a)) (fun _ => .inl rfl) ?_ hnone
  intro call s s' report log ih hcall hall
  rcases forall_mem_snoc.mp hall with ⟨hbefore, hsender⟩
  by_cases hsame : (Registry.ofStore s').holds role a = (Registry.ofStore s).holds role a
  · rw [hsame]
    rcases ih hbefore with hkept | ⟨hheld, hgone, e, he, hrenounces⟩
    · exact .inl hkept
    · exact .inr ⟨hheld, hgone, e, List.mem_append_left _ he, hrenounces⟩
  · rcases Call.renounces hcall hsender hsame with ⟨hheld, hgone, hrenounces⟩
    -- What is given up now was held until now, and so it was from the start.
    rcases ih hbefore with hkept | ⟨-, hgone', -⟩
    · rw [hkept] at hheld
      exact .inr ⟨hheld, hgone, exists_mem_snoc.mpr (.inr hrenounces)⟩
    · rw [hheld] at hgone'
      cases hgone'

/-- From a store in which nobody is an administrator nobody ever is again. -/
theorem run_no_admin (hrun : Run Call.perform mid s stretch)
    (hnobody : ∀ a, (Registry.ofStore mid).holds .admin a = false) :
    ∀ a, (Registry.ofStore s).holds .admin a = false := by
  refine hrun.invariant (P := fun s => ∀ a, (Registry.ofStore s).holds .admin a = false)
    hnobody ?_
  intro call s s' report ih hcall a
  by_cases hsame : (Registry.ofStore s').holds .admin a = (Registry.ofStore s).holds .admin a
  · rw [hsame]
    exact ih a
  · exact (Call.renounces hcall (call.not_sentBy_admin ih) hsame).2.1

/-- So no call of such a run is sent by one. -/
theorem run_not_sentBy_admin (hrun : Run Call.perform mid s stretch)
    (hnobody : ∀ a, (Registry.ofStore mid).holds .admin a = false) :
    ∀ e ∈ stretch, e.call.sentBy .admin e.before = false := by
  intro e he
  rcases hrun.of_mem he with ⟨pre, post, -, hbefore, -, -⟩
  exact e.call.not_sentBy_admin (run_no_admin hbefore hnobody)

/-- Along a run without an administrator the terms stay as they are. -/
theorem run_sameTerms (hrun : Run Call.perform mid s stretch) {m : Ledger}
    (hload : item.load mid = .ok m)
    (hnone : ∀ e ∈ stretch, e.call.sentBy .admin e.before = false) :
    ∃ l, item.load s = .ok l ∧ SameTerms m l := by
  refine run_value_of_forall (P := SameTerms m) hrun hload ⟨rfl, rfl, rfl, rfl⟩ hnone ?_
  rintro l l' ⟨before, call, after, report⟩ hsame hturns hsender
  cases hturns with
  | execute _ hperf => exact hsame.trans (hperf.sameTerms hsender)
  | migrate => exact hsame

/-- From any store that a deployment leads to, as long as no administrator calls, no
    membership is added and each that disappears is given up by its holder. From
    one in which nobody is an administrator, nobody is one ever again, and the cap,
    the limits and the approver cap stay as they are. And a message about a role
    that goes through changes the membership that it is about and nothing else in
    the store. -/
theorem no_role_without_admin {chain : Chain} {deployer : Address} {d : Deployment}
    {found start mid : Store} {receipt : Receipt} {past : List (Entry Call Receipt)}
    (hdeploy : deploy chain deployer d found = .ok (start, receipt))
    (hpast : Run Call.perform start mid past) :
    (∀ (s : Store) (stretch : List (Entry Call Receipt)), Run Call.perform mid s stretch →
      (∀ e ∈ stretch, e.call.sentBy .admin e.before = false) → ∀ role a,
      ((Registry.ofStore s).holds role a = true → (Registry.ofStore mid).holds role a = true) ∧
      ((Registry.ofStore mid).holds role a = true → (Registry.ofStore s).holds role a = false →
        ∃ e ∈ stretch, e.call.Renounces role a) ∧
      ∀ e ∈ stretch,
        (Registry.ofStore e.after).holds role a ≠ (Registry.ofStore e.before).holds role a →
        (Registry.ofStore e.before).holds role a = true ∧
          (Registry.ofStore e.after).holds role a = false ∧ e.call.Renounces role a) ∧
    ((∀ a, (Registry.ofStore mid).holds .admin a = false) →
      ∀ (s : Store) (stretch : List (Entry Call Receipt)), Run Call.perform mid s stretch →
        (∀ a, (Registry.ofStore s).holds .admin a = false) ∧
        ∃ m l, item.load mid = .ok m ∧ item.load s = .ok l ∧ SameTerms m l) ∧
    ∀ chain sender message s' receipt role a held,
      execute chain sender message mid = .ok (s', receipt) →
      message.membership? sender = some (role, a, held) →
      (Registry.ofStore mid).holds role a = !held ∧ (Registry.ofStore s').holds role a = held ∧
        ∀ key, key ≠ (roleCell role a).key → s'.get? key = mid.get? key := by
  refine ⟨?_, ?_, ?_⟩
  · intro s stretch hrun hnone role a
    refine ⟨?_, ?_, ?_⟩
    · intro hheld
      rcases run_holds hrun hnone role a with hsame | ⟨hmid, -⟩
      · rw [← hsame, hheld]
      · exact hmid
    · intro hheld hgone
      rcases run_holds hrun hnone role a with hsame | ⟨-, -, hrenounced⟩
      · rw [hsame, hheld] at hgone
        cases hgone
      · exact hrenounced
    · intro e he hne
      rcases hrun.of_mem he with ⟨pre, post, -, -, hcall, -⟩
      exact Call.renounces hcall (hnone e he) hne
  · intro hnobody s stretch hrun
    rcases run_load hpast (deploy_load hdeploy) with ⟨m, hm⟩
    rcases run_sameTerms hrun hm (run_not_sentBy_admin hrun hnobody) with ⟨l, hl, hsame⟩
    exact ⟨run_no_admin hrun hnobody, m, l, hm, hl, hsame⟩
  · intro chain sender message s' receipt role a held hcall hmember
    exact membership_of_execute (fun _ => run_get?_item hdeploy hpast) hcall hmember

end Runs

/-- The books under small terms once there is a monitor and the administrator has
    gone. -/
def leftBooks : Books :=
  ((smallBooks .zero).withHolding .monitor ⟨"monitor"⟩ true).withHolding .admin ⟨"deployer"⟩ false

theorem leftBooks_no_admin (a : Address) : leftBooks.holds .admin a = false := by
  rw [leftBooks, Books.withHolding_holds]
  by_cases hdeployer : Role.admin = .admin ∧ a = ⟨"deployer"⟩
  · rw [if_pos hdeployer]
  · rw [if_neg hdeployer, Books.withHolding_holds, if_neg (by simp)]
    exact if_neg hdeployer

/-- A deployer makes somebody a monitor and gives up its own role. Nobody is an
    administrator any more, and the monitor can still leave. -/
theorem no_role_without_admin_after_renounce :
    ∃ start receipt mid s past e,
      deploy stillChain ⟨"deployer"⟩ smallTerms .empty = .ok (start, receipt) ∧
      Run Call.perform start mid past ∧ Run Call.perform mid s [e] ∧
      e.call.sentBy .admin e.before = false ∧ e.call.Renounces .monitor ⟨"monitor"⟩ ∧
      (Registry.ofStore mid).holds .monitor ⟨"monitor"⟩ = true ∧
      (Registry.ofStore s).holds .monitor ⟨"monitor"⟩ = false ∧
      (∀ a, (Registry.ofStore mid).holds .admin a = false) ∧
      (∀ a, (Registry.ofStore s).holds .admin a = false) ∧
      ∃ m l, item.load mid = .ok m ∧ item.load s = .ok l ∧ SameTerms m l := by
  rcases deploy_smallTerms with ⟨start, receipt, hdeploy, hkept⟩
  rcases grant_smallTerms hkept .monitor "monitor" (by decide) rfl with
    ⟨granted, hgrant, hkept₁⟩
  have hleaves : Performs ((smallBooks .zero).withHolding .monitor ⟨"monitor"⟩ true).registry
      stillChain ⟨"deployer"⟩ (smallBooks .zero).ledger (.renounceRole .admin) _ :=
    .renounceRole rfl
  rcases hkept₁.proceeds rfl hleaves with ⟨mid, hleave, hkept₂⟩
  have hkept₂ : leftBooks.KeptIn mid := hkept₂
  have hleaves' : Performs leftBooks.registry stillChain ⟨"monitor"⟩ leftBooks.ledger
      (.renounceRole .monitor) _ :=
    .renounceRole rfl
  rcases hkept₂.proceeds rfl hleaves' with ⟨s, hleave', -⟩
  have hpast := run_execute (run_execute .here hgrant) hleave
  have hstretch := run_execute .here hleave'
  have hnobody : ∀ a, (Registry.ofStore mid).holds .admin a = false := by
    intro a
    rw [hkept₂.registry_eq]
    exact leftBooks_no_admin a
  rcases no_role_without_admin hdeploy hpast with ⟨-, hnobody', hone⟩
  rcases hone _ _ _ s _ .monitor ⟨"monitor"⟩ false hleave' rfl with ⟨hbefore, hafter, -⟩
  rcases hnobody' hnobody s _ hstretch with ⟨hnobody'', m, l, hm, hl, hsame⟩
  exact ⟨start, receipt, mid, s, _, _, hdeploy, hpast, hstretch, hnobody _, ⟨_, rfl⟩, hbefore,
    hafter, hnobody, hnobody'', m, l, hm, hl, hsame⟩

end Ledger

end BridgeCustody
