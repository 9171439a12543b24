import BridgeCustody.Committee.Query
import BridgeCustody.Proofs.Committee.History

/-!
# A Round Is the Log of Its History

A round is rewritten with every signature and replaced with every proposal. What
a reader of the round wants to know is what happened: who stood behind which
action. That is only as good as the claim that the stored round says no more and
no less than the log does since the latest proposal.

`RoundOf` states this for one round. It cuts the log at the latest proposal and
reads the round off the two parts, action and expiry from the proposal and the
names from everything behind it. The cut exists because every proposal opens a
round of its own, under a nonce that counts the proposals, and for the same
reason a signature cannot land on a newer action than it was meant for: it names
the nonce, and between a proposal and the next the nonce stands still.

The threshold counts signatures in a list. For this to count members, the names
in the list have to be different, which every signature is checked for, and the
list has to be short enough for the count not to wrap, which follows from there
being no more names than members. `Backs` says what it is to stand behind an
action, in terms of the log alone, and `reaches_iff` puts the two together.

## Main definitions

* `Call.opens`, `Call.signing?`, `Call.signedNonce?`: What the log says of a call.
* `RoundOf`: A round as read off a log.
* `Backs`, `BackedBy`: A call by which its sender stands behind an action, and
  how many members do.
* `Logged`: The minutes are what the log says.

## Theorems

* `Logged.step`: A move keeps the minutes what the log says.
* `RoundLogged.reaches_iff`: The threshold is reached by as many members.
* `run_extends`: Within a round, lists only grow at their end.
* `round_is_log`: The whole story, from the founding on.
-/

namespace BridgeCustody

namespace Committee

/-- Whether a call opens a round. -/
def Call.opens : Call → Bool
  | .execute _ _ (.propose _ _ _ _) => true
  | _ => false

/-- The name and the signature that a call adds to an open round. -/
def Call.signing? : Call → Option (Address × String)
  | .execute _ sender (.sign _ signature) => some (sender, signature)
  | _ => none

/-- The nonce that a signature names. -/
def Call.signedNonce? : Call → Option UInt64
  | .execute _ _ (.sign nonce _) => some nonce
  | _ => none

/-- A round as read off a log, cut at the latest proposal. -/
inductive RoundOf (timeout : UInt64) : List (Entry Call Event) → Round → Prop
  | cut {pre post : List (Entry Call Event)} {e : Entry Call Event} {chain sender expected action
      actionData signature r}
      (hcall : e.call = .execute chain sender (.propose expected action actionData signature))
      (hlast : ∀ e' ∈ post, e'.call.opens = false)
      (haction : r.action = action) (hdata : r.actionData = actionData)
      (hexpiry : r.expiry = expiryFor chain.height timeout)
      (hsignees : r.signees = sender :: (post.filterMap (·.call.signing?)).map Prod.fst)
      (hsignatures : r.signatures = signature :: (post.filterMap (·.call.signing?)).map Prod.snd)
      (hnonce : ∀ e' ∈ post, ∀ n, e'.call.signedNonce? = some n → n = r.nonce) :
      RoundOf timeout (pre ++ e :: post) r

/-- A call by which an address stands behind an action under a nonce: it proposed
    it, or it signed the round that had it. -/
inductive Backs (nonce : UInt64) (action actionData : String) (a : Address) :
    Entry Call Event → Prop
  | proposed {before after chain expected signature expiry} :
      Backs nonce action actionData a ⟨before,
        .execute chain a (.propose expected action actionData signature), after,
        .proposed nonce a action expiry⟩
  | signed {before after chain signature report r}
      (hround : roundCell.read? before = .ok (some r)) (hnonce : r.nonce = nonce)
      (haction : r.action = action) (hdata : r.actionData = actionData) :
      Backs nonce action actionData a ⟨before, .execute chain a (.sign nonce signature), after,
        report⟩

/-- At least `k` different members stand behind an action under a nonce. -/
def BackedBy (f : Founding) (log : List (Entry Call Event)) (nonce : UInt64)
    (action actionData : String) (k : Nat) : Prop :=
  ∃ backers : List Address, backers.Nodup ∧ k ≤ backers.length ∧
    ∀ a ∈ backers, a ∈ f.members.map Address.mk ∧
      ∃ e ∈ log, Backs nonce action actionData a e

/-- What is known of the round of the moment. -/
structure RoundLogged (f : Founding) (nonce : UInt64) (log : List (Entry Call Event))
    (r : Round) : Prop where
  nonce_eq : r.nonce = nonce
  positive : 0 < nonce.toNat
  roundOf : RoundOf f.timeout log r
  nodup : r.signees.Nodup
  member : ∀ a ∈ r.signees, a ∈ f.members.map Address.mk
  backed : ∀ a, a ∈ r.signees ↔ ∃ e ∈ log, Backs nonce r.action r.actionData a e

/-- The minutes are what the log says. -/
structure Logged (f : Founding) (m : Minutes) (log : List (Entry Call Event)) : Prop where
  setup : m.setup = ⟨f.members.map Address.mk, f.threshold, f.timeout⟩
  member : ∀ a, (m.numbers a).isSome = true ↔ a ∈ f.members.map Address.mk
  counted : m.nonce.toNat = log.countP (·.call.opens)
  recent : ∀ e ∈ log, ∀ n action actionData a, Backs n action actionData a e →
    0 < n.toNat ∧ n.toNat ≤ m.nonce.toNat
  none_iff : m.round = none → m.nonce.toNat = 0
  round : ∀ r, m.round = some r → RoundLogged f m.nonce log r

/-- A call that opens no round and signs at most the round of the moment carries
    the round on. -/
theorem RoundOf.snoc {timeout : UInt64} {log : List (Entry Call Event)} {r r' : Round}
    (h : RoundOf timeout log r) (e : Entry Call Event) (hopens : e.call.opens = false)
    (hsigned : ∀ n, e.call.signedNonce? = some n → n = r.nonce) (hnonce : r'.nonce = r.nonce)
    (haction : r'.action = r.action) (hdata : r'.actionData = r.actionData)
    (hexpiry : r'.expiry = r.expiry)
    (hsignees : r'.signees = r.signees ++ e.call.signing?.toList.map Prod.fst)
    (hsignatures : r'.signatures = r.signatures ++ e.call.signing?.toList.map Prod.snd) :
    RoundOf timeout (log ++ [e]) r' := by
  cases h with
  | @cut pre post e₀ chain sender expected action actionData signature _ hcall hlast ha hd he hs
      hg hn =>
      rw [List.append_assoc, List.cons_append]
      -- The cut stays where it is: the call goes behind the latest proposal.
      have hmore : (post ++ [e]).filterMap (·.call.signing?) =
          post.filterMap (·.call.signing?) ++ e.call.signing?.toList := by
        rw [List.filterMap_append]
        rfl
      refine .cut hcall ?_ (haction.trans ha) (hdata.trans hd) (hexpiry.trans he) ?_ ?_ ?_
      · exact forall_mem_snoc.mpr ⟨hlast, hopens⟩
      · rw [hsignees, hs, hmore, List.map_append, List.cons_append]
      · rw [hsignatures, hg, hmore, List.map_append, List.cons_append]
      · rw [hnonce]
        exact forall_mem_snoc.mpr ⟨hn, hsigned⟩

/-- A proposal alone is the round that it opens. -/
theorem RoundOf.opened {timeout nonce : UInt64} {log : List (Entry Call Event)}
    {e : Entry Call Event} {chain : Chain} {sender : Address} {expected : UInt64}
    {action actionData signature : String}
    (hcall : e.call = .execute chain sender (.propose expected action actionData signature)) :
    RoundOf timeout (log ++ [e]) ⟨nonce, action, actionData, expiryFor chain.height timeout,
      [sender], [signature]⟩ :=
  .cut hcall nofun rfl rfl rfl rfl rfl nofun

/-- A migration stands behind nothing. -/
theorem not_backs_migrate {before after : Store} {report : Event} {n : UInt64}
    {action actionData : String} {a : Address} :
    ¬Backs n action actionData a ⟨before, .migrate, after, report⟩ :=
  nofun

namespace Logged

variable {f : Founding} {m m' : Minutes} {log : List (Entry Call Event)} {s : Store}

theorem founded (f : Founding) : Logged f (foundingMinutes f) [] where
  setup := rfl
  member a := isSome_numbering _ _ a
  counted := rfl
  recent _ hmem := absurd hmem List.not_mem_nil
  none_iff _ := rfl
  round _ h := by cases h

/-- A proposal starts a round that the log has one entry of. -/
theorem step_propose (h : Logged f m log) {chain : Chain} {sender : Address}
    {expected nonce : UInt64} {action actionData signature : String} {before after : Store}
    (hp : Proposable m chain sender expected action nonce) :
    Logged f { m with
        nonce := nonce
        round := some (m.opening chain sender nonce action actionData signature) }
      (log ++ [⟨before, .execute chain sender (.propose expected action actionData signature),
        after, .proposed nonce sender action (expiryFor chain.height m.setup.timeout)⟩]) := by
  have hnext := hp.nonce_eq
  refine ⟨h.setup, h.member, ?_, ?_, nofun, ?_⟩
  · rw [countP_snoc]
    simp only [hnext, h.counted]
    rfl
  · simp only [hnext]
    refine forall_mem_snoc.mpr ⟨?_, ?_⟩
    · intro e hmem n act data a hbacks
      have hold := h.recent e hmem n act data a hbacks
      omega
    · intro n act data a hbacks
      cases hbacks
      omega
  · rintro r ⟨⟩
    refine ⟨rfl, by simp only [hnext]; omega, ?_, List.pairwise_singleton _ _, ?_, ?_⟩
    · have htimeout : m.setup.timeout = f.timeout := by rw [h.setup]
      rw [Minutes.opening, htimeout]
      exact .opened rfl
    · intro a hmem
      rw [List.mem_singleton.mp hmem]
      exact (h.member sender).mp hp.member
    · intro a
      rw [exists_mem_snoc]
      constructor
      · intro hmem
        rw [List.mem_singleton.mp hmem]
        -- The proposer stands behind its proposal, by this very call.
        exact .inr .proposed
      · rintro (⟨e, hmem, hbacks⟩ | hbacks)
        · -- Nothing before this proposal carries its nonce.
          have hold := h.recent e hmem _ _ _ _ hbacks
          simp only [] at hold
          omega
        · cases hbacks
          exact List.mem_singleton_self _

/-- A signature is carried into the round, and the log has one entry for it. -/
theorem step_sign (h : Logged f m log) {chain : Chain} {sender : Address} {nonce : UInt64}
    {signature : String} {before after : Store} {report : Event} {r : Round}
    (hkept : m.KeptIn before) (hs : Signable m chain sender nonce r) :
    Logged f { m with round := some (r.signedBy sender signature) }
      (log ++ [⟨before, .execute chain sender (.sign nonce signature), after, report⟩]) := by
  have hr := h.round r hs.round_eq
  -- The signature names the round's nonce, which is the latest.
  have hnonce : nonce = m.nonce := hs.nonce_eq.trans hr.nonce_eq
  have hread : roundCell.read? before = .ok (some r) := hs.round_eq ▸ hkept.round
  refine ⟨h.setup, h.member, ?_, ?_, nofun, ?_⟩
  · rw [countP_snoc, ← h.counted]
    rfl
  · refine forall_mem_snoc.mpr ⟨h.recent, ?_⟩
    intro n act data a hbacks
    cases hbacks
    rw [hnonce]
    exact ⟨hr.positive, Nat.le_refl _⟩
  · rintro _ ⟨⟩
    refine ⟨hr.nonce_eq, hr.positive, ?_, ?_, ?_, ?_⟩
    · refine hr.roundOf.snoc _ rfl ?_ rfl rfl rfl rfl rfl rfl
      rintro _ ⟨⟩
      exact hs.nonce_eq
    · -- Nobody signs twice, and nobody signs who is no member.
      exact nodup_snoc hr.nodup hs.notSigned
    · exact forall_mem_snoc.mpr ⟨hr.member, (h.member sender).mp hs.member⟩
    · intro a
      rw [exists_mem_snoc]
      constructor
      · intro hmem
        rcases List.mem_append.mp hmem with hmem | hmem
        · exact .inl ((hr.backed a).mp hmem)
        · rw [List.mem_singleton.mp hmem, ← hnonce]
          exact .inr (.signed hread hs.nonce_eq.symm rfl rfl)
      · rintro (hbefore | hbacks)
        · exact List.mem_append_left _ ((hr.backed a).mpr hbefore)
        · cases hbacks
          exact List.mem_append_right _ (List.mem_singleton_self _)

theorem step_migrate (h : Logged f m log) {before after : Store} {report : Event} :
    Logged f m (log ++ [⟨before, .migrate, after, report⟩]) := by
  refine ⟨h.setup, h.member, ?_, ?_, h.none_iff, ?_⟩
  · rw [countP_snoc, ← h.counted]
    rfl
  · refine forall_mem_snoc.mpr ⟨h.recent, ?_⟩
    intro n act data a hbacks
    exact absurd hbacks not_backs_migrate
  · intro r hround
    have hr := h.round r hround
    refine ⟨hr.nonce_eq, hr.positive, ?_, hr.nodup, hr.member, ?_⟩
    · refine hr.roundOf.snoc _ rfl nofun rfl rfl rfl rfl ?_ ?_
      · exact (List.append_nil _).symm
      · exact (List.append_nil _).symm
    · intro a
      rw [exists_mem_snoc, hr.backed a]
      exact ⟨.inl, fun hor => hor.elim id fun hbacks => absurd hbacks not_backs_migrate⟩

/-- A move keeps the minutes what the log says. -/
theorem step (h : Logged f m log) {e : Entry Call Event} (hkept : m.KeptIn e.before)
    (hmoves : Moves m e.call e.report m') : Logged f m' (log ++ [e]) := by
  rcases e with ⟨before, call, after, report⟩
  cases hmoves with
  | execute hperf =>
      cases hperf with
      | propose hp => exact h.step_propose hp
      | sign hs => exact h.step_sign hkept hs
  | migrate => exact h.step_migrate

end Logged

/-- Both lists of a round read off a log have one entry for each who signed. -/
theorem RoundOf.length_signatures {timeout : UInt64} {log : List (Entry Call Event)} {r : Round}
    (h : RoundOf timeout log r) : r.signatures.length = r.signees.length := by
  cases h with
  | cut _ _ _ _ _ hsignees hsignatures _ =>
      rw [hsignees, hsignatures, List.length_cons, List.length_cons, List.length_map,
        List.length_map]

namespace RoundLogged

variable {f : Founding} {nonce : UInt64} {log : List (Entry Call Event)} {r : Round}

/-- The names are different and all of them members, so there are no more names
    than members. -/
theorem length_signees_le (h : RoundLogged f nonce log r) :
    r.signees.length ≤ f.members.length := by
  rw [← List.length_map Address.mk]
  exact h.nodup.length_le_of_subset h.member

/-- In a committee that can be counted, the 32-bit count is the length. -/
theorem toNat_count (h : RoundLogged f nonce log r) (hsize : f.members.length < UInt32.size) :
    r.count.toNat = r.signees.length := by
  rw [Round.count, h.roundOf.length_signatures]
  exact UInt32.toNat_ofNat_of_lt' (Nat.lt_of_le_of_lt h.length_signees_le hsize)

/-- The threshold is reached when as many different members stand behind the
    action. -/
theorem reaches_iff (h : RoundLogged f nonce log r) (hsize : f.members.length < UInt32.size) :
    r.reaches f.threshold = true ↔
      BackedBy f log nonce r.action r.actionData f.threshold.toNat := by
  rw [Round.reaches, decide_eq_true_eq, UInt32.le_iff_toNat_le, h.toNat_count hsize]
  constructor
  · intro hreached
    -- The names themselves are the members wanted.
    exact ⟨r.signees, h.nodup, hreached, fun a ha => ⟨h.member a ha, (h.backed a).mp ha⟩⟩
  · intro hbacked
    rcases hbacked with ⟨backers, hnodup, hlength, hbackers⟩
    -- Whoever stands behind the action has a name in the list.
    refine Nat.le_trans hlength (hnodup.length_le_of_subset fun a ha => ?_)
    exact (h.backed a).mpr (hbackers a ha).2

end RoundLogged

/-- One round is an earlier state of another: the same action under the same
    nonce, and lists that the other continues. -/
structure Round.EarlierThan (r r' : Round) : Prop where
  nonce : r'.nonce = r.nonce
  action : r'.action = r.action
  actionData : r'.actionData = r.actionData
  expiry : r'.expiry = r.expiry
  signees : r.signees <+: r'.signees
  signatures : r.signatures <+: r'.signatures

theorem Round.EarlierThan.refl (r : Round) : r.EarlierThan r :=
  ⟨rfl, rfl, rfl, rfl, List.prefix_refl _, List.prefix_refl _⟩

theorem Round.EarlierThan.signedBy {r r' : Round} (h : r.EarlierThan r') (a : Address)
    (signature : String) : r.EarlierThan (r'.signedBy a signature) :=
  ⟨h.nonce, h.action, h.actionData, h.expiry, h.signees.trans (List.prefix_append _ _),
    h.signatures.trans (List.prefix_append _ _)⟩

/-- Within a round, lists only grow at their end. -/
theorem run_extends {m₀ : Minutes} {start s : Store} {log : List (Entry Call Event)} {r₀ : Round}
    (hkept : m₀.KeptIn start) (hround : m₀.round = some r₀)
    (hrun : Run Call.perform start s log) :
    ∃ m : Minutes, m.KeptIn s ∧ m₀.nonce.toNat ≤ m.nonce.toNat ∧
      (m.nonce = m₀.nonce → ∃ r, m.round = some r ∧ r₀.EarlierThan r) := by
  refine run_minutes (P := fun m _ => m₀.nonce.toNat ≤ m.nonce.toNat ∧
      (m.nonce = m₀.nonce → ∃ r, m.round = some r ∧ r₀.EarlierThan r)) hrun hkept
    ⟨Nat.le_refl _, fun _ => ⟨r₀, hround, .refl r₀⟩⟩ ?_
  rintro m m' ⟨before, call, after, report⟩ log ⟨hle, hext⟩ - - hmoves
  cases hmoves with
  | migrate => exact ⟨hle, hext⟩
  | execute hperf =>
      cases hperf with
      | propose hp =>
          -- A further proposal has a nonce that was not there before.
          have hnext := hp.nonce_eq
          refine ⟨by simp only [hnext]; omega, fun heq => ?_⟩
          have hsame := congrArg UInt64.toNat heq
          simp only [hnext] at hsame
          omega
      | sign hs =>
          refine ⟨hle, fun heq => ?_⟩
          rcases hext heq with ⟨r, hr, hearlier⟩
          -- The round that is signed is the one that continued the first.
          rw [hs.round_eq] at hr
          cases hr
          exact ⟨_, rfl, hearlier.signedBy _ _⟩

/-- From the founding on, what the log says holds. -/
theorem run_logged [AddressRule] {f : Founding} {start s : Store} {event : Event}
    {log : List (Entry Call Event)} (hdeploy : deploy f .empty = .ok (start, event))
    (hrun : Run Call.perform start s log) : ∃ m, m.KeptIn s ∧ Logged f m log :=
  run_minutes hrun (deploy_empty hdeploy).1 (Logged.founded f)
    fun _ _ _ _ hlogged hkept _ hmoves => hlogged.step hkept hmoves

theorem Logged.round_of_positive {f : Founding} {m : Minutes} {log : List (Entry Call Event)}
    (h : Logged f m log) (hpositive : 0 < m.nonce.toNat) : ∃ r, m.round = some r := by
  cases hround : m.round with
  | none =>
      have hzero := h.none_iff hround
      omega
  | some r => exact ⟨r, rfl⟩

/-- Before there is a round, nobody stands behind anything. -/
theorem Logged.not_backedBy {f : Founding} {m : Minutes} {log : List (Entry Call Event)}
    (h : Logged f m log) (hround : m.round = none) (action actionData : String) {k : Nat}
    (hk : 0 < k) : ¬BackedBy f log m.nonce action actionData k := by
  intro hbacked
  rcases hbacked with ⟨backers, -, hlength, hbackers⟩
  have hzero := h.none_iff hround
  cases backers with
  | nil => exact absurd hlength (Nat.not_le_of_lt hk)
  | cons a rest =>
      -- Any backer at all would have left a nonce above zero.
      rcases (hbackers a List.mem_cons_self).2 with ⟨e, hmem, hbacks⟩
      have hpositive := (h.recent e hmem _ _ _ _ hbacks).1
      omega

/-- What is answered about the signing, from the minutes. -/
theorem Minutes.KeptIn.query_signing [AddressRule] {m : Minutes} {s : Store} (h : m.KeptIn s)
    (chain : Chain) :
    query chain s .signing = .ok (match m.round with
      | some r => .signing r (r.reaches m.setup.threshold) (r.isExpired chain.height)
      | none => .signing (noRound m.nonce) false true) := by
  simp only [query, h.setup, h.nonce, h.round, ok_bind]
  cases m.round <;> rfl

/-- At any point of a run from a founding on an empty store, the nonce counts the
    proposals, the round is the log since the latest of them, the threshold is
    reported as reached exactly if that many different members stand behind the
    action, and whatever the round was before it continues. -/
theorem round_is_log [AddressRule] {f : Founding} {start s : Store} {event : Event}
    {log : List (Entry Call Event)} (hdeploy : deploy f .empty = .ok (start, event))
    (hsize : f.members.length < UInt32.size) (hrun : Run Call.perform start s log) :
    ∃ nonce round, nonceItem.load s = .ok nonce ∧ roundCell.read? s = .ok round ∧
      nonce.toNat = log.countP (·.call.opens) ∧
      (0 < nonce.toNat → ∃ r, round = some r ∧ r.nonce = nonce ∧ RoundOf f.timeout log r) ∧
      (∀ chain, ∃ r reached expired, query chain s .signing = .ok (.signing r reached expired) ∧
        r = round.getD (noRound nonce) ∧
        (reached = true ↔ BackedBy f log nonce r.action r.actionData f.threshold.toNat)) ∧
      (∀ t pre post r₀, Run Call.perform start t pre → Run Call.perform t s post →
        roundCell.read? t = .ok (some r₀) → r₀.nonce = nonce →
        ∃ r, round = some r ∧ r₀.EarlierThan r) := by
  rcases run_logged hdeploy hrun with ⟨m, hkept, hlogged⟩
  rcases deploy_empty hdeploy with ⟨-, -, -, hthreshold, -⟩
  refine ⟨m.nonce, m.round, hkept.nonce, hkept.round, hlogged.counted, ?_, ?_, ?_⟩
  · intro hpositive
    rcases hlogged.round_of_positive hpositive with ⟨r, hround⟩
    have hr := hlogged.round r hround
    exact ⟨r, hround, hr.nonce_eq, hr.roundOf⟩
  · intro chain
    rw [hkept.query_signing chain]
    cases hround : m.round with
    | none =>
        -- Without a round nothing is reached, and no member can be found.
        have hpositive : 0 < f.threshold.toNat :=
          Nat.pos_of_ne_zero fun hzero => hthreshold (UInt32.toNat_inj.mp hzero)
        refine ⟨_, _, _, rfl, rfl, iff_of_false Bool.noConfusion ?_⟩
        exact hlogged.not_backedBy hround _ _ hpositive
    | some r =>
        have hreaches := (hlogged.round r hround).reaches_iff hsize
        refine ⟨_, _, _, rfl, rfl, ?_⟩
        rw [hlogged.setup]
        exact hreaches
  · intro t pre post r₀ hbefore hafter hread hnonce
    rcases run_logged hdeploy hbefore with ⟨m₀, hkept₀, hlogged₀⟩
    -- The earlier state was reached by a run too, so it has minutes of its own.
    have hround₀ : m₀.round = some r₀ := by
      rw [hkept₀.round] at hread
      exact Except.ok.inj hread
    rcases run_extends hkept₀ hround₀ hafter with ⟨m', hkept', -, hextends⟩
    -- Both descriptions of the end of the run are read from the same store.
    have hm' : m'.nonce = m.nonce :=
      Except.ok.inj (hkept'.nonce.symm.trans hkept.nonce)
    have hr' : m'.round = m.round := Except.ok.inj (hkept'.round.symm.trans hkept.round)
    rw [hr'] at hextends
    refine hextends ?_
    rw [hm', ← hnonce, (hlogged₀.round r₀ hround₀).nonce_eq]

/-- In a committee of two, a proposal and the signature of the other member reach
    the threshold of two. -/
theorem round_is_log_of_two :
    ∃ start event s log nonce r expired, deploy smallTerms .empty = .ok (start, event) ∧
      Run Call.perform start s log ∧ nonceItem.load s = .ok nonce ∧
      query stillChain s .signing = .ok (.signing r true expired) ∧
      BackedBy smallTerms log nonce r.action r.actionData 2 := by
  rcases run_smallTerms with
    ⟨start, event, opened, signed, proposed, signature, hdeploy, hrun, -, hkept⟩
  rcases round_is_log hdeploy (by decide) hrun with ⟨nonce, round, hnonce, -, -, -, hsigning, -⟩
  rcases hsigning stillChain with ⟨r, reached, expired, hquery, -, hreached⟩
  have hanswer := (hkept.query_signing stillChain).symm.trans hquery
  cases hanswer
  exact ⟨start, event, signed, _, nonce, _, _, hdeploy, hrun, hnonce, hquery, hreached.mp rfl⟩

end Committee

end BridgeCustody
