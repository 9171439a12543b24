import BridgeCustody.Proofs.Committee.Conditions
import BridgeCustody.Proofs.Committee.Rounds

/-!
# What the Answers Foretell

Members do not read the store. They ask, and from the answers they decide whether to
propose, whether to sign, and when an action has been agreed on. For this the answers
have to mean what the calls do, and the two are computed apart from each other: the
calls read the nonce, the answer about the signing shows that of the round, and where
there is no round the answer makes one up, with a nonce that the calls would never
compare to anything.

What makes the answers right is that the round of the moment is under the nonce of the
moment, which is an invariant of the runs and not of the stores. With it the one flag of
the answer decides about both calls. The round that is made up counts as expired, as it
has to be, since without a round a proposal is possible and a signature is not.

The answers hold for the height at which they were given. At any later one the flag may
be set that was not set before, but the numbers stay right for as long as nobody calls.

## Main definitions

* `Minutes.shown`, `Minutes.reachedNow`, `Minutes.expiredAt`: What is answered about the
  signing.
* `Told`: What can be learnt from a store at a height.
* `Foretells`: What was learnt is what comes of the calls.

## Theorems

* `Told.unique`: The answers are determined by the store and the height.
* `Logged.shown_nonce`: The nonce that is shown with the round is the nonce.
* `Logged.propose_iff_expired`, `Logged.sign_iff_open`: One flag decides about both.
* `KeptIn.attributes_of_sign`: What a signature reports is answered afterwards.
* `answers_foretell_calls`: The answers along the runs from a founding.
-/

namespace BridgeCustody

namespace Committee

/-- The round that is shown, which is made up where there is none. -/
def Minutes.shown (m : Minutes) : Round :=
  m.round.getD (noRound m.nonce)

/-- Whether there is a round that has reached the threshold. -/
def Minutes.reachedNow (m : Minutes) : Bool :=
  m.round.any (·.reaches m.setup.threshold)

/-- Whether a round, if there is one, has expired at a height. -/
def Minutes.expiredAt (m : Minutes) (height : UInt64) : Bool :=
  m.round.all (·.isExpired height)

/-- What can be learnt from a store at a height: the nonce that comes next, the setup,
    the nonce of the moment, and the round with its two flags. -/
structure Told [AddressRule] (chain : Chain) (s : Store) (next : UInt64) (setup : Setup)
    (nonce : UInt64) (round : Round) (reached expired : Bool) : Prop where
  setup : query chain s .setup = .ok (.setup next setup)
  nonce : query chain s .nonce = .ok (.nonce nonce)
  signing : query chain s .signing = .ok (.signing round reached expired)

/-- What was learnt from a store at a height is what comes of the calls there. -/
structure Foretells [AddressRule] (chain : Chain) (s : Store) (next : UInt64) (setup : Setup)
    (nonce : UInt64) (round : Round) (expired : Bool) : Prop where
  /-- Both answers that show a nonce show the same. -/
  nonce_eq : round.nonce = nonce
  /-- A proposal opens a round under the nonce that comes next. -/
  next_eq : ∀ sender expected action actionData signature s' event,
    execute chain sender (.propose expected action actionData signature) s = .ok (s', event) →
    ∃ r, roundCell.read? s' = .ok (some r) ∧ r.nonce = next
  /-- A member that knows the nonce can propose once the round is shown as expired. -/
  propose_iff : ∀ sender ∈ setup.members, ∀ action actionData signature, action ≠ "" →
    nonce.toNat < UInt64.size - 1 →
    ((∃ s' event, execute chain sender (.propose nonce action actionData signature) s =
        .ok (s', event)) ↔ expired = true)
  /-- A member that is not shown among those who signed can sign until then. -/
  sign_iff : ∀ sender ∈ setup.members, sender ∉ round.signees → ∀ signature,
    ((∃ s' event, execute chain sender (.sign nonce signature) s = .ok (s', event)) ↔
      expired = false)
  /-- What a signature reports is what is answered directly afterwards. -/
  reported : ∀ sender n signature s' event,
    execute chain sender (.sign n signature) s = .ok (s', event) →
    ∃ r reached expired, query chain s' .signing = .ok (.signing r reached expired) ∧
      event.attributes.lookup "signatures" = some (Decimal.text r.signatures.length) ∧
      event.attributes.lookup "threshold_reached" = some (if reached then "true" else "false")

/-- There is one thing to be learnt from a store at a height. -/
theorem Told.unique [AddressRule] {chain : Chain} {s : Store} {next next' nonce nonce' : UInt64}
    {setup setup' : Setup} {round round' : Round} {reached reached' expired expired' : Bool}
    (h : Told chain s next setup nonce round reached expired)
    (h' : Told chain s next' setup' nonce' round' reached' expired') :
    next = next' ∧ setup = setup' ∧ nonce = nonce' ∧ round = round' ∧ reached = reached' ∧
      expired = expired' := by
  cases h.setup.symm.trans h'.setup
  cases h.nonce.symm.trans h'.nonce
  cases h.signing.symm.trans h'.signing
  exact ⟨rfl, rfl, rfl, rfl, rfl, rfl⟩

section Conditions

variable {round : Option Round} {height nonce : UInt64} {sender : Address}

/-- The round of the moment is no obstacle to a proposal once it has expired. -/
theorem forall_closedRound_iff :
    (∀ c ∈ closedRound height round, c.Holds) ↔ round.all (·.isExpired height) = true := by
  cases round with
  | none => exact iff_of_true (List.forall_mem_nil _) rfl
  | some r =>
      rw [closedRound, List.forall_mem_singleton, Condition.holds_of, Option.all_some,
        Round.isExpired, decide_eq_true_iff]

/-- Under its own nonce, a round can be signed by somebody new until it has expired, and
    no round cannot be signed at all. -/
theorem forall_openRound_iff (hnonce : ∀ r, round = some r → r.nonce = nonce)
    (hnew : ∀ r, round = some r → sender ∉ r.signees) :
    (round.isSome = true ∧ ∀ c ∈ openRound sender nonce height round, c.Holds) ↔
      round.all (·.isExpired height) = false := by
  cases round with
  | none => exact iff_of_false (fun h => Bool.noConfusion h.1) Bool.noConfusion
  | some r =>
      have hsame : nonce = r.nonce := (hnonce r rfl).symm
      simp only [openRound, List.forall_mem_cons, Condition.holds_of, List.not_mem_nil,
        false_imp_iff, implies_true, and_true, Option.isSome_some, true_and, hsame, hnew r rfl,
        not_false_eq_true, Option.all_some, Round.isExpired, decide_eq_false_iff_not,
        UInt64.not_le]

end Conditions

section Answers

variable {f : Founding} {m : Minutes} {s s' : Store} {log : List (Entry Call Event)}
  {chain : Chain} {sender : Address} {event : Event}

/-- What is answered, from the minutes. -/
theorem Minutes.KeptIn.told [AddressRule] (h : m.KeptIn s) (chain : Chain) :
    Told chain s (Word.saturatingAdd m.nonce 1) m.setup m.nonce m.shown m.reachedNow
      (m.expiredAt chain.height) where
  setup := by
    simp only [query, h.setup, h.nonce, ok_bind]
    rfl
  nonce := by
    simp only [query, h.nonce, ok_bind]
    rfl
  signing := by
    rw [h.query_signing, Minutes.shown, Minutes.reachedNow, Minutes.expiredAt]
    cases m.round <;> rfl

/-- What a signature reports is what is answered directly afterwards. -/
theorem Minutes.KeptIn.attributes_of_sign [AddressRule] (h : m.KeptIn s) {n : UInt64}
    {signature : String} (hcall : sign chain sender n signature s = .ok (s', event)) :
    ∃ r reached expired, query chain s' .signing = .ok (.signing r reached expired) ∧
      event.attributes.lookup "signatures" = some (Decimal.text r.signatures.length) ∧
      event.attributes.lookup "threshold_reached" =
        some (if reached then "true" else "false") := by
  rcases h.sign_eq_ok_iff.mp hcall with ⟨r, -, rfl, rfl⟩
  exact ⟨_, _, _, (h.writeRound (r.signedBy sender signature)).query_signing chain, rfl, rfl⟩

namespace Logged

theorem numbersMembers (h : Logged f m log) : m.NumbersMembers := by
  intro a
  rw [h.member, h.setup]

/-- The nonce that is shown with the round is the nonce of the moment. -/
theorem shown_nonce (h : Logged f m log) : m.shown.nonce = m.nonce := by
  rw [Minutes.shown]
  cases hround : m.round with
  | none => rfl
  | some r => exact (h.round r hround).nonce_eq

/-- For a member that knows the nonce, the flag decides about a proposal. -/
theorem propose_iff_expired (h : Logged f m log) (hkept : m.KeptIn s)
    (hmember : sender ∈ m.setup.members) {action actionData signature : String}
    (haction : action ≠ "") (hmore : m.nonce.toNat < UInt64.size - 1) :
    (∃ s' event, execute chain sender (.propose m.nonce action actionData signature) s =
      .ok (s', event)) ↔ m.expiredAt chain.height = true := by
  have hchecks : Checks (execute chain sender (.propose m.nonce action actionData signature) s) _ :=
    hkept.checks_propose h.numbersMembers
  rw [hchecks.exists_pair_iff, Minutes.expiredAt, ← forall_closedRound_iff]
  simp only [proposeConditions, List.forall_mem_cons, List.forall_mem_append, Condition.holds_of,
    List.not_mem_nil, false_imp_iff, implies_true, and_true, hmember, haction, hmore, true_and,
    ne_eq, not_false_eq_true, UInt64.le_refl]

/-- For a member that has not signed, it decides about a signature the other way. -/
theorem sign_iff_open (h : Logged f m log) (hkept : m.KeptIn s)
    (hmember : sender ∈ m.setup.members) (hnew : sender ∉ m.shown.signees) {signature : String} :
    (∃ s' event, execute chain sender (.sign m.nonce signature) s = .ok (s', event)) ↔
      m.expiredAt chain.height = false := by
  have hchecks : Checks (execute chain sender (.sign m.nonce signature) s) _ :=
    hkept.checks_sign h.numbersMembers
  have hshown : ∀ r, m.round = some r → sender ∉ r.signees := by
    intro r hround
    rwa [Minutes.shown, hround] at hnew
  rw [hchecks.exists_pair_iff, Minutes.expiredAt,
    ← forall_openRound_iff (fun r hround => (h.round r hround).nonce_eq) hshown]
  simp only [signConditions, List.forall_mem_cons, Condition.holds_of, hmember, true_and]

end Logged

end Answers

/-- At any point of a run from a founding on an empty store, and on whatever chain, the
    questions are answered, and what is learnt from the answers is what comes of the
    calls. -/
theorem answers_foretell_calls [AddressRule] {f : Founding} {start s : Store} {event : Event}
    {log : List (Entry Call Event)} (hdeploy : deploy f .empty = .ok (start, event))
    (hrun : Run Call.perform start s log) (chain : Chain) :
    ∃ next setup nonce round reached expired,
      Told chain s next setup nonce round reached expired ∧
      setup.members = f.members.map Address.mk ∧
      Foretells chain s next setup nonce round expired := by
  rcases run_logged hdeploy hrun with ⟨m, hkept, hlogged⟩
  refine ⟨_, _, _, _, _, _, hkept.told chain, by rw [hlogged.setup], ?_⟩
  exact {
    nonce_eq := hlogged.shown_nonce
    next_eq := fun sender expected action actionData signature s' event hcall => by
      rcases hkept.propose_eq_ok_iff.mp hcall with ⟨nonce, hp, rfl, -⟩
      refine ⟨_, ((hkept.writeRound _).writeNonce nonce).round, ?_⟩
      -- A proposal that goes through has counted without running out.
      have hnext := hp.nonce_eq
      have hlt := nonce.toNat_lt_size
      rw [← UInt64.toNat_inj, Word.toNat_saturatingAdd, UInt64.toNat_one]
      simp only [Minutes.opening]
      omega
    propose_iff := fun sender hmember action actionData signature haction hmore =>
      hlogged.propose_iff_expired hkept hmember haction hmore
    sign_iff := fun sender hmember hnew signature => hlogged.sign_iff_open hkept hmember hnew
    reported := fun sender n signature s' event hcall => hkept.attributes_of_sign hcall }

/-- After alice's proposal at block ten, asking at block fifteen shows a round that is
    open and that bob has not signed, so he can sign it. Asking at block sixteen shows
    that it has expired, so he can propose. -/
theorem answers_foretell_calls_of_two :
    ∃ start event s log, deploy smallTerms .empty = .ok (start, event) ∧
      Run Call.perform start s log ∧
      (∃ s' event, execute { stillChain with height := 15 } ⟨"bob"⟩ (.sign 1 "second") s =
        .ok (s', event)) ∧
      (∃ s' event, execute { stillChain with height := 16 } ⟨"bob"⟩
        (.propose 1 "pay" "twenty" "third") s = .ok (s', event)) := by
  rcases run_smallTerms with
    ⟨start, event, opened, s, proposed, signature, hdeploy, hrun, hopened, -⟩
  have hbefore : Run Call.perform start opened [_] :=
    (show Run Call.perform start s ([_] ++ _ :: []) from hrun).entry.1
  have hbob : (⟨"bob"⟩ : Address) ∈ openedMinutes.setup.members := by decide
  refine ⟨start, event, opened, _, hdeploy, hbefore, ?_, ?_⟩
  · rcases answers_foretell_calls hdeploy hbefore { stillChain with height := 15 } with
      ⟨next, setup, nonce, round, reached, expired, htold, -, hforetells⟩
    rcases htold.unique (hopened.told _) with ⟨rfl, rfl, rfl, rfl, rfl, rfl⟩
    exact (hforetells.sign_iff _ hbob (by decide) "second").mpr (by decide)
  · rcases answers_foretell_calls hdeploy hbefore { stillChain with height := 16 } with
      ⟨next, setup, nonce, round, reached, expired, htold, -, hforetells⟩
    rcases htold.unique (hopened.told _) with ⟨rfl, rfl, rfl, rfl, rfl, rfl⟩
    exact (hforetells.propose_iff _ hbob "pay" "twenty" "third" (by decide) (by decide)).mpr
      (by decide)

end Committee

end BridgeCustody
