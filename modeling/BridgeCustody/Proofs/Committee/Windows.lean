import BridgeCustody.Proofs.Committee.Rounds

/-!
# Signing Windows

A round takes signatures for a while, and during that while no other round can
be opened. Members rely on both. Whoever is asked to sign by a certain block has
until that block, whatever the other members do, and whoever sees the block pass
knows that the signatures under that nonce are all there will ever be.

The window of a round begins with its proposal and ends at a height that is two
saturating additions away from it. Both calls compare their height with the end
that is stored in the round, one for being past it and one for not being past it.
A store that holds the round of the moment knows nothing of the windows before,
so the claim is one about pairs of entries of the log. `Orderly` says what holds
of an entry and a later one, and a log is orderly if all its pairs are.

To add an entry at the end of the log, it is compared with all earlier ones at
once. What makes this possible is that the minutes remember enough of each of
them, and `Remembers` says what: an earlier round is not ahead of the nonce, its
window has ended when the round of the moment ends, and ends with it if it is
that round. Heights need not even be in order for this. The order is needed only
for the lower bound, that nobody signs a round before it was opened.

## Main definitions

* `closing`: The end of the window that a proposal opens.
* `Opening`, `Signing`: What an entry of the log says about a window.
* `Orderly`: An entry and a later one keep to the windows.
* `Remembers`, `Windowed`: What the minutes know of the windows in the log.

## Theorems

* `toNat_expiryFor`: The end of the window is the one that is stored.
* `Windowed.step`: A move keeps the log orderly.
* `KeptIn.propose_ne_notYetExpired_iff`, `KeptIn.sign_ne_roundExpired_iff`: The
  two guards are complements.
* `signing_windows`: Windows do not overlap and are not cut short.
-/

namespace BridgeCustody

namespace Committee

/-- The height of the block that a call is in. -/
def Call.height? : Call → Option UInt64
  | execute chain _ _ => some chain.height
  | migrate => none

/-- The first height at which a round takes no signatures, given the height at
    which it was opened: one block after the timeout, or the largest height. -/
def closing (height timeout : UInt64) : Nat :=
  min (height.toNat + timeout.toNat + 1) (UInt64.size - 1)

/-- An entry opens the round with this nonce at this height. -/
structure Opening (nonce height : UInt64) (e : Entry Call Event) : Prop where
  opens : e.call.opens = true
  height_eq : e.call.height? = some height
  round : ∃ r, roundCell.read? e.after = .ok (some r) ∧ r.nonce = nonce

/-- An entry signs under this nonce at this height. -/
structure Signing (nonce height : UInt64) (e : Entry Call Event) : Prop where
  nonce_eq : e.call.signedNonce? = some nonce
  height_eq : e.call.height? = some height

/-- An entry and a later one keep to the windows. -/
structure Orderly (timeout : UInt64) (e e' : Entry Call Event) : Prop where
  opened_opens : ∀ {n h h'}, Opening n h e → e'.call.opens = true → e'.call.height? = some h' →
    closing h timeout ≤ h'.toNat
  opened_signs : ∀ {n h n' h'}, Opening n h e → Signing n' h' e' →
    n.toNat ≤ n'.toNat ∧ (n' = n → h'.toNat < closing h timeout)
  signed_opens : ∀ {n h n' h'}, Signing n h e → Opening n' h' e' → n.toNat < n'.toNat

/-- What the minutes know of an entry of the log. -/
structure Remembers (timeout : UInt64) (m : Minutes) (e : Entry Call Event) : Prop where
  opened : ∀ {n h}, Opening n h e → n.toNat ≤ m.nonce.toNat ∧ ∃ r, m.round = some r ∧
    closing h timeout ≤ r.expiry.toNat ∧ (n = m.nonce → r.expiry.toNat = closing h timeout)
  signed : ∀ {n h}, Signing n h e → n.toNat ≤ m.nonce.toNat

/-- The log keeps to the windows, and the minutes know enough to go on so. -/
structure Windowed (f : Founding) (m : Minutes) (log : List (Entry Call Event)) : Prop where
  logged : Logged f m log
  remembers : ∀ e ∈ log, Remembers f.timeout m e
  orderly : log.Pairwise (Orderly f.timeout)
  opened : ∀ r, m.round = some r →
    ∃ e ∈ log, ∃ h, Opening r.nonce h e ∧ r.expiry.toNat = closing h f.timeout

/-- The end of the window is the one that is stored with the round. -/
theorem toNat_expiryFor (height timeout : UInt64) :
    (expiryFor height timeout).toNat = closing height timeout := by
  simp only [expiryFor, closing, Word.toNat_saturatingAdd, UInt64.toNat_one]
  omega

theorem le_closing (height timeout : UInt64) : height.toNat ≤ closing height timeout := by
  have hlt := height.toNat_lt_size
  simp only [closing]
  omega

theorem Round.isExpired_eq_true_iff {r : Round} {height : UInt64} :
    r.isExpired height = true ↔ r.expiry.toNat ≤ height.toNat := by
  simp only [isExpired, decide_eq_true_eq, UInt64.le_iff_toNat_le]

theorem Round.isExpired_eq_false_iff {r : Round} {height : UInt64} :
    r.isExpired height = false ↔ height.toNat < r.expiry.toNat := by
  simp only [isExpired, decide_eq_false_iff_not, UInt64.le_iff_toNat_le, Nat.not_le]

section Entries

variable {timeout : UInt64} {m m' : Minutes} {e e' : Entry Call Event} {chain : Chain}
  {sender : Address} {n h : UInt64} {r r' : Round}

theorem not_opening (hopens : e.call.opens = false) : ¬Opening n h e := by
  intro hopening
  rw [hopening.opens] at hopens
  cases hopens

theorem not_signing (hsigned : e.call.signedNonce? = none) : ¬Signing n h e := by
  intro hsigning
  rw [hsigning.nonce_eq] at hsigned
  cases hsigned

/-- No call does both. -/
theorem Opening.not_signing {n' h' : UInt64} (hopening : Opening n h e) : ¬Signing n' h' e := by
  rcases e with ⟨before, call, after, report⟩
  intro hsigning
  have hopens := hopening.opens
  have hsigned := hsigning.nonce_eq
  cases call with
  | migrate => cases hsigned
  | execute chain sender message =>
      cases message with
      | propose => cases hsigned
      | sign => cases hopens

/-- A proposal opens the round that it leaves, in the block that it is in. -/
theorem opening_iff {expected : UInt64} {action actionData signature : String}
    (hcall : e.call = .execute chain sender (.propose expected action actionData signature))
    (hkept : m.KeptIn e.after) (hround : m.round = some r) :
    Opening n h e ↔ n = r.nonce ∧ h = chain.height := by
  have hread : roundCell.read? e.after = .ok (some r) := hround ▸ hkept.round
  have hopens : e.call.opens = true := by rw [hcall]; rfl
  have hheight : e.call.height? = some chain.height := by rw [hcall]; rfl
  constructor
  · intro hopening
    rcases hopening with ⟨-, hheight', r', hread', rfl⟩
    cases hread.symm.trans hread'
    cases hheight.symm.trans hheight'
    exact ⟨rfl, rfl⟩
  · intro heq
    rcases heq with ⟨rfl, rfl⟩
    exact ⟨hopens, hheight, r, hread, rfl⟩

/-- A call that neither proposes nor signs has no part in the windows. -/
theorem orderly_of_none (hopens : e'.call.opens = false) (hsigned : e'.call.signedNonce? = none) :
    Orderly timeout e e' where
  opened_opens _ hopens' _ := by
    rw [hopens] at hopens'
    cases hopens'
  opened_signs _ hsigning := absurd hsigning (not_signing hsigned)
  signed_opens _ hopening := absurd hopening (not_opening hopens)

namespace Remembers

/-- A proposal that goes through keeps to the windows of the log. -/
theorem orderly_propose (hrem : Remembers timeout m e) {expected nonce : UInt64}
    {action actionData signature : String} (hp : Proposable m chain sender expected action nonce)
    (hcall : e'.call = .execute chain sender (.propose expected action actionData signature))
    (hopened : ∀ n h, Opening n h e' → n = nonce) : Orderly timeout e e' := by
  refine ⟨?_, ?_, ?_⟩
  · intro n h h' hopening _ hheight
    -- The round of the moment is over, and the window was over with it or before.
    rcases hrem.opened hopening with ⟨-, r, hround, hend, -⟩
    have hexpired := Round.isExpired_eq_true_iff.mp (hp.expired r hround)
    rw [hcall] at hheight
    cases hheight
    omega
  · intro n h n' h' _ hsigning
    exact absurd hsigning (not_signing (by rw [hcall]; rfl))
  · intro n h n' h' hsigning hopening
    have hle := hrem.signed hsigning
    have hnext := hp.nonce_eq
    rw [hopened n' h' hopening]
    omega

/-- What is remembered of earlier entries after a proposal. -/
theorem propose (hrem : Remembers timeout m e) {expected : UInt64} {action : String}
    (hp : Proposable m chain sender expected action m'.nonce) (hround' : m'.round = some r')
    (hend' : r'.expiry.toNat = closing chain.height timeout) : Remembers timeout m' e := by
  have hnext := hp.nonce_eq
  refine ⟨?_, ?_⟩
  · intro n h hopening
    rcases hrem.opened hopening with ⟨hle, r, hround, hend, -⟩
    have hexpired := Round.isExpired_eq_true_iff.mp (hp.expired r hround)
    -- The new window ends no earlier than it begins, where all others are over.
    have hlater := le_closing chain.height timeout
    refine ⟨by omega, r', hround', by omega, ?_⟩
    intro heq
    rw [heq] at hle
    omega
  · intro n h hsigning
    have hle := hrem.signed hsigning
    omega

/-- A signature that goes through keeps to the windows of the log. -/
theorem orderly_sign (hrem : Remembers timeout m e) {signature : String}
    (hs : Signable m chain sender m.nonce r)
    (hcall : e'.call = .execute chain sender (.sign m.nonce signature)) :
    Orderly timeout e e' := by
  refine ⟨?_, ?_, ?_⟩
  · intro n h h' _ hopens
    rw [hcall] at hopens
    cases hopens
  · intro n h n' h' hopening hsigning
    rcases hrem.opened hopening with ⟨hle, r', hround, -, hsame⟩
    rcases hsigning with ⟨hnonce, hheight⟩
    rw [hcall] at hnonce hheight
    cases hnonce
    cases hheight
    cases hs.round_eq.symm.trans hround
    -- The end that the signature was checked against is the end of this window.
    have hbefore := Round.isExpired_eq_false_iff.mp hs.notExpired
    refine ⟨hle, ?_⟩
    intro heq
    rw [← hsame heq.symm]
    exact hbefore
  · intro n h n' h' _ hopening
    exact absurd hopening (not_opening (by rw [hcall]; rfl))

/-- Signatures leave the nonce and the end of the window alone. -/
theorem sign (hrem : Remembers timeout m e) (hnonce : m'.nonce = m.nonce)
    (hround : m.round = some r) (hround' : m'.round = some r') (hend : r'.expiry = r.expiry) :
    Remembers timeout m' e := by
  refine ⟨?_, ?_⟩
  · intro n h hopening
    rcases hrem.opened hopening with ⟨hle, r₁, hround₁, hend₁, hsame⟩
    cases hround.symm.trans hround₁
    rw [hnonce]
    rw [← hend] at hend₁ hsame
    exact ⟨hle, r', hround', hend₁, hsame⟩
  · rw [hnonce]
    exact hrem.signed

end Remembers

end Entries

namespace Windowed

variable {f : Founding} {m m' : Minutes} {log : List (Entry Call Event)} {e : Entry Call Event}
  {chain : Chain} {sender : Address} {r r' : Round}

theorem founded (f : Founding) : Windowed f (foundingMinutes f) [] where
  logged := .founded f
  remembers _ hmem := absurd hmem List.not_mem_nil
  orderly := .nil
  opened _ h := by cases h

theorem step_propose (h : Windowed f m log) (hlogged : Logged f m' (log ++ [e]))
    (hkept : m'.KeptIn e.after) {expected : UInt64} {action actionData signature : String}
    (hcall : e.call = .execute chain sender (.propose expected action actionData signature))
    (hp : Proposable m chain sender expected action m'.nonce) (hround : m'.round = some r)
    (hexpiry : r.expiry = expiryFor chain.height m.setup.timeout) :
    Windowed f m' (log ++ [e]) := by
  have hend : r.expiry.toNat = closing chain.height f.timeout := by
    rw [hexpiry, toNat_expiryFor, h.logged.setup]
  have hnonce : r.nonce = m'.nonce := (hlogged.round r hround).nonce_eq
  refine ⟨hlogged, ?_, ?_, ?_⟩
  · refine forall_mem_snoc.mpr ⟨?_, ?_, ?_⟩
    · intro e₀ hmem
      exact (h.remembers e₀ hmem).propose hp hround hend
    · intro n height hopening
      rcases (opening_iff hcall hkept hround).mp hopening with ⟨rfl, rfl⟩
      rw [hnonce]
      exact ⟨Nat.le_refl _, r, hround, Nat.le_of_eq hend.symm, fun _ => hend⟩
    · intro n height hsigning
      exact absurd hsigning (not_signing (by rw [hcall]; rfl))
  · refine pairwise_snoc h.orderly ?_
    intro e₀ hmem
    refine (h.remembers e₀ hmem).orderly_propose hp hcall ?_
    intro n height hopening
    exact ((opening_iff hcall hkept hround).mp hopening).1.trans hnonce
  · intro r' hround'
    cases hround.symm.trans hround'
    exact ⟨e, List.mem_append_right _ (List.mem_singleton_self e), chain.height,
      (opening_iff hcall hkept hround).mpr ⟨rfl, rfl⟩, hend⟩

/-- The round of the moment was opened in the log, and still is after one more
    entry. -/
theorem opened_snoc (h : Windowed f m log) (hround : m.round = some r)
    (hnonce : r'.nonce = r.nonce) (hexpiry : r'.expiry = r.expiry) :
    ∃ e₀ ∈ log ++ [e], ∃ height, Opening r'.nonce height e₀ ∧
      r'.expiry.toNat = closing height f.timeout := by
  rcases h.opened r hround with ⟨e₀, hmem, height, hopening, hend⟩
  rw [hnonce, hexpiry]
  exact ⟨e₀, List.mem_append_left _ hmem, height, hopening, hend⟩

theorem step_sign (h : Windowed f m log) (hlogged : Logged f m' (log ++ [e]))
    {nonce : UInt64} {signature : String}
    (hcall : e.call = .execute chain sender (.sign nonce signature))
    (hs : Signable m chain sender nonce r) (hnonce : m'.nonce = m.nonce)
    (hround : m'.round = some (r.signedBy sender signature)) : Windowed f m' (log ++ [e]) := by
  -- A signature names the round's nonce, which is the latest.
  have hlatest : nonce = m.nonce := hs.nonce_eq.trans (h.logged.round r hs.round_eq).nonce_eq
  subst hlatest
  refine ⟨hlogged, ?_, ?_, ?_⟩
  · refine forall_mem_snoc.mpr ⟨?_, ?_, ?_⟩
    · intro e₀ hmem
      exact (h.remembers e₀ hmem).sign hnonce hs.round_eq hround rfl
    · intro n height hopening
      exact absurd hopening (not_opening (by rw [hcall]; rfl))
    · intro n height hsigning
      have hsigned := hsigning.nonce_eq
      rw [hcall] at hsigned
      cases hsigned
      exact Nat.le_of_eq (congrArg UInt64.toNat hnonce.symm)
  · exact pairwise_snoc h.orderly fun e₀ hmem => (h.remembers e₀ hmem).orderly_sign hs hcall
  · intro r' hround'
    cases hround.symm.trans hround'
    exact h.opened_snoc hs.round_eq rfl rfl

theorem step_migrate (h : Windowed f m log) (hlogged : Logged f m (log ++ [e]))
    (hcall : e.call = .migrate) : Windowed f m (log ++ [e]) := by
  have hopens : e.call.opens = false := by rw [hcall]; rfl
  have hsigned : e.call.signedNonce? = none := by rw [hcall]; rfl
  refine ⟨hlogged, ?_, ?_, ?_⟩
  · exact forall_mem_snoc.mpr ⟨h.remembers, fun hopening => absurd hopening (not_opening hopens),
      fun hsigning => absurd hsigning (not_signing hsigned)⟩
  · exact pairwise_snoc h.orderly fun _ _ => orderly_of_none hopens hsigned
  · intro r hround
    exact h.opened_snoc hround rfl rfl

/-- A move keeps the log orderly. -/
theorem step (h : Windowed f m log) (hkept : m.KeptIn e.before) (hkept' : m'.KeptIn e.after)
    (hmoves : Moves m e.call e.report m') : Windowed f m' (log ++ [e]) := by
  have hlogged := h.logged.step hkept hmoves
  rcases e with ⟨before, call, after, report⟩
  cases hmoves with
  | execute hperf =>
      cases hperf with
      | propose hp => exact h.step_propose hlogged hkept' rfl hp rfl rfl
      | sign hs => exact h.step_sign hlogged rfl hs rfl rfl
  | migrate => exact h.step_migrate hlogged rfl

end Windowed

/-! ### The two guards -/

namespace Minutes.KeptIn

variable {m : Minutes} {s : Store} {r : Round} {chain : Chain} {sender : Address}

/-- A proposal by a member gets past the guard against open rounds once the round
    of the moment has expired. -/
theorem propose_ne_notYetExpired_iff (h : m.KeptIn s) (hround : m.round = some r)
    (hmember : (m.numbers sender).isSome = true) {expected : UInt64}
    {action actionData signature : String} (haction : action ≠ "") :
    propose chain sender expected action actionData signature s ≠ .error (.notYetExpired r.expiry) ↔
      r.isExpired chain.height = true := by
  have hisMember : isMember s sender = true := (h.isMember_eq sender).trans hmember
  have hread : ofHost (roundCell.read? s) = .ok (some r) :=
    ofHost_eq_ok_iff.mpr (hround ▸ h.round)
  have hnonce : ofHost (nonceItem.load s) = .ok m.nonce := ofHost_eq_ok_iff.mpr h.nonce
  have hsetup : ofHost (setupItem.load s) = .ok m.setup := ofHost_eq_ok_iff.mpr h.setup
  simp only [propose, checkNoOpenRound, ensure_bind, if_pos hisMember, if_pos haction, hread,
    hnonce, hsetup, ok_bind]
  by_cases hexpired : r.isExpired chain.height = true
  · refine iff_of_true ?_ hexpired
    -- Behind the guard there are other ways to fail, and none is this one.
    rw [if_pos hexpired]
    intro hfails
    split at hfails
    · split at hfails <;> cases hfails
    · cases hfails
  · rw [if_neg hexpired]
    exact iff_of_false (fun hne => hne rfl) hexpired

/-- A signature by a member under the nonce of the round gets past the guard
    against expired rounds as long as the round has not expired. -/
theorem sign_ne_roundExpired_iff (h : m.KeptIn s) (hround : m.round = some r)
    (hmember : (m.numbers sender).isSome = true) {signature : String} :
    sign chain sender r.nonce signature s ≠ .error (.roundExpired r.expiry) ↔
      r.isExpired chain.height = false := by
  have hisMember : isMember s sender = true := (h.isMember_eq sender).trans hmember
  have hread : ofHost (roundCell.read? s) = .ok (some r) :=
    ofHost_eq_ok_iff.mpr (hround ▸ h.round)
  -- The setup is read after the round was written, and is still the same.
  have hsetup : ∀ r', ofHost (setupItem.load (roundCell.write r' s)) = .ok m.setup := fun r' =>
    ofHost_eq_ok_iff.mpr (h.writeRound r').setup
  simp only [sign, checkSignable, ensure_bind, if_pos hisMember, hread, hsetup, ok_bind, if_true]
  by_cases hopen : r.isExpired chain.height = false
  · refine iff_of_true ?_ hopen
    rw [if_pos hopen]
    intro hfails
    split at hfails <;> cases hfails
  · rw [if_neg hopen]
    exact iff_of_false (fun hne => hne rfl) hopen

end Minutes.KeptIn

section Runs

variable [AddressRule]
variable {f : Founding} {start s : Store} {event : Event} {log : List (Entry Call Event)}

/-- From the founding on, the log keeps to the windows. -/
theorem run_windowed (hdeploy : deploy f .empty = .ok (start, event))
    (hrun : Run Call.perform start s log) : ∃ m, m.KeptIn s ∧ Windowed f m log :=
  run_minutes hrun (deploy_empty hdeploy).1 (.founded f)
    fun _ _ _ _ hwindowed hkept hkept' hmoves => hwindowed.step hkept hkept' hmoves

/-- In a run from a founding on an empty store, at heights that never decrease, let
    a round be opened at a height. Every signature under its nonce is made from
    that height on and before the round closes, every later proposal is made when
    it has closed, and no later signature is under an earlier nonce. And of the
    guards of the two calls against the round of the moment, the one lets members
    through when the round has closed and the other until then. -/
theorem signing_windows (hdeploy : deploy f .empty = .ok (start, event))
    (hrun : Run Call.perform start s log)
    (hheights : (log.filterMap (·.call.height?)).Pairwise (· ≤ ·)) :
    (∀ pre e post n h, log = pre ++ e :: post → Opening n h e →
      (∀ e' ∈ log, ∀ h', Signing n h' e' → h ≤ h' ∧ h'.toNat < closing h f.timeout) ∧
      (∀ e' ∈ post, ∀ h', e'.call.opens = true → e'.call.height? = some h' →
        closing h f.timeout ≤ h'.toNat) ∧
      ∀ e' ∈ post, ∀ n' h', n'.toNat < n.toNat → ¬Signing n' h' e') ∧
    ∀ r, roundCell.read? s = .ok (some r) → ∃ e ∈ log, ∃ h, Opening r.nonce h e ∧
      ∀ chain a a' expected action actionData signature signature',
        a ∈ f.members.map Address.mk → a' ∈ f.members.map Address.mk → action ≠ "" →
        (propose chain a expected action actionData signature s ≠
            .error (.notYetExpired r.expiry) ↔ closing h f.timeout ≤ chain.height.toNat) ∧
        (sign chain a' r.nonce signature' s ≠
            .error (.roundExpired r.expiry) ↔ chain.height.toNat < closing h f.timeout) := by
  rcases run_windowed hdeploy hrun with ⟨m, hkept, hwindowed⟩
  refine ⟨?_, ?_⟩
  · rintro pre e post n h rfl hopening
    rcases pairwise_cut hwindowed.orderly with ⟨hearlier, hlater⟩
    have hsorted := (pairwise_cut (List.pairwise_filterMap.mp hheights)).2
    refine ⟨?_, ?_, ?_⟩
    · intro e' hmem h' hsigning
      rcases List.mem_append.mp hmem with hpre | hbehind
      · -- Before a round is opened nobody has its nonce.
        have hless := (hearlier e' hpre).signed_opens hsigning hopening
        omega
      rcases List.mem_cons.mp hbehind with rfl | hpost
      · exact absurd hsigning hopening.not_signing
      · have hbefore := ((hlater e' hpost).opened_signs hopening hsigning).2 rfl
        exact ⟨hsorted e' hpost h hopening.height_eq h' hsigning.height_eq, hbefore⟩
    · intro e' hpost h' hopens hheight
      exact (hlater e' hpost).opened_opens hopening hopens hheight
    · intro e' hpost n' h' hless hsigning
      have hle := ((hlater e' hpost).opened_signs hopening hsigning).1
      omega
  · intro r hread
    have hround : m.round = some r := Except.ok.inj (hkept.round.symm.trans hread)
    rcases hwindowed.opened r hround with ⟨e, hmem, h, hopening, hend⟩
    refine ⟨e, hmem, h, hopening, ?_⟩
    intro chain a a' expected action actionData signature signature' ha ha' haction
    have hmember := hwindowed.logged.member
    rw [hkept.propose_ne_notYetExpired_iff hround ((hmember a).mpr ha) haction,
      hkept.sign_ne_roundExpired_iff hround ((hmember a').mpr ha'), Round.isExpired_eq_true_iff,
      Round.isExpired_eq_false_iff, hend]
    exact ⟨Iff.rfl, Iff.rfl⟩

end Runs

/-- A round of five blocks is opened at block ten, signed at block fifteen, the last
    of its window, and followed by another at block sixteen. -/
theorem signing_windows_of_two_rounds :
    ∃ start event s e₁ e₂ e₃, deploy smallTerms .empty = .ok (start, event) ∧
      Run Call.perform start s [e₁, e₂, e₃] ∧ Opening 1 10 e₁ ∧ Signing 1 15 e₂ ∧
      Opening 2 16 e₃ ∧ UInt64.toNat 15 < closing 10 smallTerms.timeout ∧
      closing 10 smallTerms.timeout ≤ UInt64.toNat 16 := by
  rcases run_smallTerms with
    ⟨start, event, opened, signed, proposed, signature, hdeploy, hrun, hopened, hsigned⟩
  have hproposes : Performs signedMinutes { stillChain with height := 16 } ⟨"alice"⟩
      (.propose 1 "pay" "twenty" "third") _ _ :=
    .propose ⟨by decide, by decide, by rintro r ⟨⟩; decide, by decide,
      show UInt64.toNat 2 = UInt64.toNat 1 + 1 from rfl⟩
  rcases hsigned.proceeds hproposes with ⟨s, hpropose, hkept⟩
  have hlog := run_execute hrun hpropose
  have hfirst : Opening 1 10 ⟨start, .execute stillChain ⟨"alice"⟩ (.propose 0 "pay" "ten" "first"),
      opened, proposed⟩ := (opening_iff rfl hopened rfl).mpr ⟨rfl, rfl⟩
  have hsigning : Signing 1 15 ⟨opened, .execute { stillChain with height := 15 } ⟨"bob"⟩
      (.sign 1 "second"), signed, signature⟩ := ⟨rfl, rfl⟩
  have hheights : ([10, 15, 16] : List UInt64).Pairwise (· ≤ ·) := by decide
  have hwindows := (signing_windows hdeploy hlog hheights).1 [] _ _ 1 10 rfl hfirst
  exact ⟨start, event, s, _, _, _, hdeploy, hlog, hfirst, hsigning,
    (opening_iff rfl hkept rfl).mpr ⟨rfl, rfl⟩,
    (hwindows.1 _ (List.mem_cons_of_mem _ List.mem_cons_self) 15 hsigning).2,
    hwindows.2.1 _ (List.mem_cons_of_mem _ List.mem_cons_self) 16 rfl rfl⟩

end Committee

end BridgeCustody
