import BridgeCustody.Ledger.Query
import BridgeCustody.Proofs.Ledger.Apart
import BridgeCustody.Proofs.Ledger.History

/-!
# Roles Act Through Their Holders

Every call has a principal, in whose name it is made. That is its sender, except
where the token announces a credit: then it is the owner of what was credited,
because the token calls on behalf of others all the time. What the roles let a
call do, they let its principal do. Roles that others hold make no difference,
however many they are, and the role of a delegate makes none whoever holds it.

To say so takes two stores that differ in roles that should not matter. A call
must go alike on both: be refused with the same error, or go through with the
same receipt. The error counts, since a refusal that depends on a stranger's role
gives that role away. A rule about successes could not see it.

`Message.Watches` lists the memberships that a call may look at. For most calls
these are all roles of the principal but the delegate's. A grant or a revocation
looks at one more, which it is about and which may be anybody's. Giving up a role
asks for nothing else than that role. Two stores agree as far as some memberships
are watched if those stand in both alike, and everything that is no membership
does too. A call that watches no more than that leaves stores that agree again,
and so does any run of such calls.

## Main definitions

* `Message.principal`: In whose name a call is made.
* `Message.Watches`: The memberships that a call may look at.
* `AgreeOn`: Two stores agree as far as memberships are watched.
* `Query.isAboutRoles`: The two questions about memberships.

## Theorems

* `operate_congr`: An operation depends on the watched memberships.
* `AgreeOn.execute`: A call goes alike on stores that agree.
* `AgreeOn.run`: So does a run.
* `AgreeOn.query`: All other questions have the same answers.
* `roles_act_through_holders`: What calls and questions depend on.
-/

namespace BridgeCustody

namespace Ledger

/-- In whose name a call is made. -/
def Message.principal (sender : Address) : Message → Address
  | .receive owner _ _ => ⟨owner⟩
  | _ => sender

/-- The memberships that a call may look at. -/
def Message.Watches (sender : Address) (message : Message) (role : Role) (a : Address) : Prop :=
  match message with
  | .grantRole named holder => (role ≠ .delegate ∧ a = sender) ∨ (role = named ∧ a = ⟨holder⟩)
  | .revokeRole named holder => (role ≠ .delegate ∧ a = sender) ∨ (role = named ∧ a = ⟨holder⟩)
  | .renounceRole named => role = named ∧ a = sender
  | message => role ≠ .delegate ∧ a = message.principal sender

/-- A migration looks at none. -/
def Call.Watches : Call → Role → Address → Prop
  | .execute _ sender message, role, a => message.Watches sender role a
  | .migrate, _, _ => False

/-- The two questions about memberships. -/
def Query.isAboutRoles : Query → Bool
  | .hasRole _ _ => true
  | .members _ _ _ => true
  | _ => false

/-- Two stores agree on everything that is no membership, and on the memberships
    that are watched. -/
structure AgreeOn (watched : Role → Address → Prop) (s t : Store) : Prop where
  beside : ∀ key, (∀ role a, (roleCell role a).key ≠ key) → s.get? key = t.get? key
  watched : ∀ role a, watched role a →
    s.get? (roleCell role a).key = t.get? (roleCell role a).key

/-- Two registries answer alike, as far as memberships are watched. -/
structure Registry.AgreeOn (watched : Role → Address → Prop) (g g' : Registry) : Prop where
  holds : ∀ role a, watched role a → g.holds role a = g'.holds role a
  refunded : ∀ id, g.refunded id = g'.refunded id

section Operations

variable {g g' : Registry} {watched : Role → Address → Prop} {chain : Chain} {sender a : Address}
  {message : Message}

theorem Registry.AgreeOn.require (h : Registry.AgreeOn watched g g') {roles : List Role}
    (hroles : ∀ role ∈ roles, watched role a) : g.require roles a = g'.require roles a := by
  have hany : roles.any (g.holds · a) = roles.any (g'.holds · a) := by
    rw [Bool.eq_iff_iff, List.any_eq_true, List.any_eq_true]
    refine exists_congr fun role => and_congr_right fun hrole => ?_
    rw [h.holds role a (hroles role hrole)]
  unfold Registry.require
  rw [hany]

theorem Registry.AgreeOn.require_one (h : Registry.AgreeOn watched g g') {role : Role}
    (hrole : watched role a) : g.require [role] a = g'.require [role] a :=
  h.require (List.forall_mem_singleton.mpr hrole)

/-! Where a check accepts one of several roles, the delegate's is none of them. -/

theorem ne_delegate_of_mem_pauseSetters {since current : UInt64} {role : Role}
    (h : role ∈ pauseSetters since current) : role ≠ .delegate := by
  rintro rfl
  unfold pauseSetters at h
  split at h
  · simp at h
  · simp at h

theorem ne_delegate_of_mem_allowanceSetters {amount approverCap : Amount} {role : Role}
    (h : role ∈ allowanceSetters amount approverCap) : role ≠ .delegate := by
  rintro rfl
  unfold allowanceSetters at h
  split at h
  · simp at h
  · simp at h

/-- What an operation comes to depends on the memberships that its message watches,
    and so does the error it is refused with. -/
theorem operate_congr [AddressRule] (h : Registry.AgreeOn (message.Watches sender) g g')
    (chain : Chain) (l : Ledger) :
    l.operate g chain sender message = l.operate g' chain sender message := by
  cases message with
  | swap amount destination => rfl
  | receive owner amount payload =>
      have hadmin : g.require [.admin] ⟨owner⟩ = g'.require [.admin] ⟨owner⟩ :=
        h.require_one ⟨by decide, rfl⟩
      simp only [operate, receive]
      -- The owner is asked for once its text is known to be an address.
      refine bind_congr_of_ok fun _ _ => bind_congr_of_ok fun a ha => bind_congr_of_ok
        fun hook _ => ?_
      rw [(checkAddress_eq_ok_iff.mp ha).2]
      cases hook with
      | swap destination => rfl
      | deposit => simp only [bookDeposit, hadmin]
  | refund id recipient amount eon | refundInFull id recipient amount eon =>
      have hrelayer : g.require [.relayer] sender = g'.require [.relayer] sender :=
        h.require_one ⟨by decide, rfl⟩
      simp only [operate, refund, checkRelayed, hrelayer, h.refunded]
  | reverseSwap rid recipient originFrom originTx amount eon =>
      have hrelayer : g.require [.relayer] sender = g'.require [.relayer] sender :=
        h.require_one ⟨by decide, rfl⟩
      simp only [operate, reverseSwap, checkRelayed, hrelayer]
  | newRelayEon =>
      have hrelayer : g.require [.relayer] sender = g'.require [.relayer] sender :=
        h.require_one ⟨by decide, rfl⟩
      simp only [operate, rotateEon, hrelayer]
  | pausePublicApi since | pauseRelayerApi since =>
      have hsetters : ∀ since current, g.require (pauseSetters since current) sender =
          g'.require (pauseSetters since current) sender :=
        fun _ _ => h.require fun role hrole => ⟨ne_delegate_of_mem_pauseSetters hrole, rfl⟩
      simp only [operate, movePause, hsetters]
  | setAllowance amount =>
      have hsetters : g.require (allowanceSetters amount l.approverCap) sender =
          g'.require (allowanceSetters amount l.approverCap) sender :=
        h.require fun role hrole => ⟨ne_delegate_of_mem_allowanceSetters hrole, rfl⟩
      simp only [operate, setAllowance, hsetters]
  | grantRole role address =>
      have hadmin : g.require [.admin] sender = g'.require [.admin] sender :=
        h.require_one (.inl ⟨by decide, rfl⟩)
      simp only [operate, grantRole, hadmin]
      refine bind_congr_of_ok fun _ _ => bind_congr_of_ok fun a ha => ?_
      rw [(checkAddress_eq_ok_iff.mp ha).2, Registry.granting, Registry.granting,
        h.holds role ⟨address⟩ (.inr ⟨rfl, rfl⟩)]
  | revokeRole role address =>
      have hadmin : g.require [.admin] sender = g'.require [.admin] sender :=
        h.require_one (.inl ⟨by decide, rfl⟩)
      simp only [operate, revokeRole, hadmin]
      refine bind_congr_of_ok fun _ _ => bind_congr_of_ok fun a ha => ?_
      rw [(checkAddress_eq_ok_iff.mp ha).2, Registry.revoking, Registry.revoking,
        h.holds role ⟨address⟩ (.inr ⟨rfl, rfl⟩)]
  | renounceRole role =>
      simp only [operate, renounceRole, Registry.revoking, h.holds role sender ⟨rfl, rfl⟩]
  | _ =>
      -- The rest is for administrators and looks at nothing else.
      have hadmin : g.require [.admin] sender = g'.require [.admin] sender :=
        h.require_one ⟨by decide, rfl⟩
      simp only [operate, deposit, bookDeposit, withdraw, mint, burn, withdrawFees,
        withdrawExcess, close, setCap, setSwapLimits, setReverseLimits, setApproverCap, hadmin]

end Operations

/-- A store after an outcome has under a key what it had there before, or what the
    outcome puts there. -/
theorem Outcome.get?_commit_congr (out : Outcome) {s t : Store} {key : Bytes}
    (h : s.get? key = t.get? key) : (out.commit s).get? key = (out.commit t).get? key := by
  by_cases hitem : item.key = key
  · rw [← hitem, out.get?_item, out.get?_item]
  · rw [out.get?_commit_of_ne s hitem, out.get?_commit_of_ne t hitem]
    exact out.change.get?_apply_congr h

theorem Alike.of_ok {R : Store → Store → Prop} {s' : Store} {receipt : Receipt}
    {r : Except Error (Store × Receipt)} (h : Alike R (.ok (s', receipt)) r) :
    ∃ t', r = .ok (t', receipt) ∧ R s' t' := by
  cases h with
  | went hR => exact ⟨_, rfl, hR⟩

namespace AgreeOn

variable {watched watched' : Role → Address → Prop} {s t s' : Store} {chain : Chain}
  {sender : Address} {message : Message}

theorem mono (h : AgreeOn watched' s t) (hsub : ∀ role a, watched role a → watched' role a) :
    AgreeOn watched s t :=
  ⟨h.beside, fun role a ha => h.watched role a (hsub role a ha)⟩

theorem trans {u : Store} (h : AgreeOn watched s t) (h' : AgreeOn watched t u) :
    AgreeOn watched s u :=
  ⟨fun key hkey => (h.beside key hkey).trans (h'.beside key hkey),
    fun role a ha => (h.watched role a ha).trans (h'.watched role a ha)⟩

/-- A membership that is not watched may be added. -/
theorem occupy (role : Role) (holder : Address) (hrole : ¬watched role holder) (s : Store) :
    AgreeOn watched s ((roleCell role holder).occupy s) where
  beside key hkey := by rw [Cell.get?_occupy, if_neg (hkey role holder)]
  watched role' a ha := by
    rw [Cell.get?_occupy, if_neg]
    intro hkey
    rcases roleCell_key_inj hkey with ⟨rfl, rfl⟩
    exact hrole ha

theorem load_eq (h : AgreeOn watched s t) : item.load s = item.load t :=
  item.load_congr (h.beside _ fun role a => (item_key_ne_roleCell role a).symm)

theorem get?_refundCell (h : AgreeOn watched s t) (id : UInt64) :
    s.get? (refundCell id).key = t.get? (refundCell id).key :=
  h.beside _ fun role a => roleCell_key_ne_refundCell role a id

theorem ofStore (h : AgreeOn watched s t) :
    Registry.AgreeOn watched (.ofStore s) (.ofStore t) where
  holds role a ha := Cell.occupied_congr _ (h.watched role a ha)
  refunded id := Cell.occupied_congr _ (h.get?_refundCell id)

/-- The same outcome leaves stores that agree again. -/
theorem commit (h : AgreeOn watched s t) (out : Outcome) :
    AgreeOn watched (out.commit s) (out.commit t) :=
  ⟨fun key hkey => out.get?_commit_congr (h.beside key hkey),
    fun role a ha => out.get?_commit_congr (h.watched role a ha)⟩

theorem migrate (h : AgreeOn watched s t) :
    AgreeOn watched (Ledger.migrate s).1 (Ledger.migrate t).1 where
  beside key hkey := by
    rw [Ledger.migrate, Ledger.migrate, Cell.get?_write, Cell.get?_write, h.beside key hkey]
  watched role a ha := by
    rw [get?_migrate s (release_key_ne_roleCell role a),
      get?_migrate t (release_key_ne_roleCell role a), h.watched role a ha]

/-- A call that watches no more than the two stores agree on goes alike on both. -/
theorem execute [AddressRule] (h : AgreeOn watched s t)
    (hwatches : ∀ role a, message.Watches sender role a → watched role a) (chain : Chain) :
    Alike (AgreeOn watched) (execute chain sender message s) (execute chain sender message t) := by
  have hoperate := fun l => operate_congr (h.mono hwatches).ofStore chain l
  simp only [Ledger.execute, h.load_eq, hoperate]
  cases hload : ofHost (item.load t) with
  | error e => exact .refused
  | ok l =>
      simp only [ok_bind, ensure_bind]
      split
      · -- What is left is one operation, with one outcome for both stores.
        cases l.operate (.ofStore t) chain sender message with
        | error e => exact .refused
        | ok out => exact .went (h.commit out)
      · exact .refused

theorem perform [AddressRule] (h : AgreeOn watched s t) {call : Call}
    (hwatches : ∀ role a, call.Watches role a → watched role a) :
    Alike (AgreeOn watched) (call.perform s) (call.perform t) := by
  cases call with
  | execute chain sender message => exact h.execute hwatches chain
  | migrate => exact .went h.migrate

/-- A run of calls that watch no more than the two stores agree on can be made on
    either, with the same calls and the same reports. -/
theorem run [AddressRule] {log : List (Entry Call Receipt)} (h : AgreeOn watched s t)
    (hrun : Run Call.perform s s' log)
    (hwatches : ∀ e ∈ log, ∀ role a, e.call.Watches role a → watched role a) :
    ∃ t' log', Run Call.perform t t' log' ∧ AgreeOn watched s' t' ∧
      log'.map (fun e => (e.call, e.report)) = log.map fun e => (e.call, e.report) := by
  induction hrun with
  | here => exact ⟨t, [], .here, h, rfl⟩
  | went _ hcall ih =>
      rcases forall_mem_snoc.mp hwatches with ⟨hbefore, hlast⟩
      rcases ih hbefore with ⟨t₁, log₁, hrun₁, h₁, hsame⟩
      -- The last call goes alike on the two stores that were reached before it.
      have halike := h₁.perform hlast
      rw [hcall] at halike
      rcases halike.of_ok with ⟨t', hcall', h'⟩
      refine ⟨t', _, hrun₁.went hcall', h', ?_⟩
      rw [List.map_append, List.map_append, hsame]
      rfl
  -- A refused call leaves no trace, so there is nothing to make on the other store.
  | refused _ _ ih => exact ih hwatches

/-- Questions that are not about memberships have the same answers. -/
theorem query [AddressRule] (h : AgreeOn watched s t) {q : Query} (hq : q.isAboutRoles = false)
    (chain : Chain) : query chain s q = query chain t q := by
  cases q with
  | hasRole | members => cases hq
  | refunded id => rw [Ledger.query, Ledger.query, Cell.read?_congr _ (h.get?_refundCell id)]
  | _ => simp only [Ledger.query, h.load_eq]

end AgreeOn

/-- On two stores that agree as far as a call watches memberships, the call is
    refused with the same error or goes through with the same receipt, and then it
    leaves stores that agree as far. A call watches the roles of its principal, the
    delegate's apart; a grant or a revocation that of its sender and the membership
    that it names; giving up a role that membership alone. And questions that are
    not about memberships have the same answers on stores that agree at all. -/
theorem roles_act_through_holders [AddressRule] {s t : Store} :
    (∀ chain sender message, AgreeOn (message.Watches sender) s t →
      Alike (AgreeOn (message.Watches sender)) (execute chain sender message s)
        (execute chain sender message t)) ∧
    ∀ watched chain q, AgreeOn watched s t → q.isAboutRoles = false →
      query chain s q = query chain t q := by
  refine ⟨?_, ?_⟩
  · intro chain sender message h
    exact h.execute (fun _ _ hwatches => hwatches) chain
  · intro watched chain q h hq
    exact h.query hq chain

/-- The deployer sets the cap, and in the other store it does so as a delegate and
    with a monitor around. Nobody can tell the difference. -/
theorem roles_act_through_holders_setCap :
    ∃ s t s' t' receipt,
      (Registry.ofStore s).holds .delegate ⟨"deployer"⟩ = false ∧
      (Registry.ofStore t).holds .delegate ⟨"deployer"⟩ = true ∧
      AgreeOn (Message.Watches ⟨"deployer"⟩ (.setCap ⟨7, by decide⟩)) s t ∧
      execute stillChain ⟨"deployer"⟩ (.setCap ⟨7, by decide⟩) s = .ok (s', receipt) ∧
      execute stillChain ⟨"deployer"⟩ (.setCap ⟨7, by decide⟩) t = .ok (t', receipt) ∧
      AgreeOn (Message.Watches ⟨"deployer"⟩ (.setCap ⟨7, by decide⟩)) s' t' ∧
      query stillChain s .cap = query stillChain t .cap := by
  rcases deploy_smallTerms with ⟨s, -, -, hkept⟩
  have hsets : Performs (smallBooks .zero).registry stillChain ⟨"deployer"⟩
      (smallBooks .zero).ledger (.setCap ⟨7, by decide⟩) _ :=
    .setCap rfl
  rcases hkept.proceeds rfl hsets with ⟨s', hset, -⟩
  -- Neither role is watched: one is somebody else's, the other a delegate's.
  have hmonitor : AgreeOn (Message.Watches ⟨"deployer"⟩ (.setCap ⟨7, by decide⟩)) s _ :=
    .occupy .monitor ⟨"monitor"⟩ (fun h => absurd h.2 (by decide)) s
  have hdelegate : AgreeOn (Message.Watches ⟨"deployer"⟩ (.setCap ⟨7, by decide⟩)) _ _ :=
    .occupy .delegate ⟨"deployer"⟩ (fun h => h.1 rfl) ((roleCell .monitor ⟨"monitor"⟩).occupy s)
  have hagree := hmonitor.trans hdelegate
  have halike := roles_act_through_holders.1 stillChain _ _ hagree
  rw [hset] at halike
  rcases halike.of_ok with ⟨t', hset', hagree'⟩
  refine ⟨s, _, s', t', _, hkept.holds .delegate ⟨"deployer"⟩, ?_, hagree, hset, hset', hagree',
    roles_act_through_holders.2 _ stillChain .cap hagree rfl⟩
  rw [Registry.holds_ofStore, Cell.get?_occupy, if_pos rfl, Option.isSome_some]

end Ledger

end BridgeCustody
