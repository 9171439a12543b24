import BridgeCustody.Committee.Execute
import BridgeCustody.Proofs.Cell
import BridgeCustody.Proofs.Key

/-!
# The Committee's Minutes

What a committee remembers is its setup, the number of each member, the nonce of
the latest round and the round itself. These are its minutes. A store keeps
certain minutes if each of the four is read from it, and on the minutes the two
calls are two rules.

As for the ledger, the rules list conditions and leave their order aside, and
they hold exactly when the call goes through. Signing writes the round before it
reads the setup again, which is the one place where a write meets a read within
a call. That the two have different keys is used there.

## Main definitions

* `Minutes`: What a store says, in terms of the committee.
* `Minutes.KeptIn`: A store says that.
* `Proposable`, `Signable`: When the two calls go through.
* `Performs`: The rules.

## Theorems

* `KeptIn.unique`: A store has one set of minutes.
* `KeptIn.execute`: A call that goes through follows a rule.
* `KeptIn.proceeds`: A call that follows a rule goes through.
* `KeptIn.migrate`: A migration changes nothing in the minutes.
-/

namespace BridgeCustody

namespace Committee

/-- What a store says, in terms of the committee. -/
structure Minutes where
  setup : Setup
  numbers : Address → Option UInt32
  nonce : UInt64
  round : Option Round

/-- A store says what the minutes say. -/
structure Minutes.KeptIn (m : Minutes) (s : Store) : Prop where
  setup : setupItem.load s = .ok m.setup
  numbers : ∀ a, (numberCell a).read? s = .ok (m.numbers a)
  nonce : nonceItem.load s = .ok m.nonce
  round : roundCell.read? s = .ok m.round

/-- The round that a proposal opens. -/
def Minutes.opening (m : Minutes) (chain : Chain) (sender : Address) (nonce : UInt64)
    (action actionData signature : String) : Round where
  nonce := nonce
  action := action
  actionData := actionData
  expiry := expiryFor chain.height m.setup.timeout
  signees := [sender]
  signatures := [signature]

/-- A proposal goes through and opens a round with this nonce. -/
structure Proposable (m : Minutes) (chain : Chain) (sender : Address) (expected : UInt64)
    (action : String) (nonce : UInt64) : Prop where
  member : (m.numbers sender).isSome = true
  action_ne : action ≠ ""
  expired : ∀ r, m.round = some r → r.isExpired chain.height = true
  expected_le : expected ≤ m.nonce
  nonce_eq : nonce.toNat = m.nonce.toNat + 1

/-- A signature under a nonce goes through, and this is the round that it is
    for. -/
structure Signable (m : Minutes) (chain : Chain) (sender : Address) (nonce : UInt64)
    (r : Round) : Prop where
  member : (m.numbers sender).isSome = true
  round_eq : m.round = some r
  nonce_eq : nonce = r.nonce
  notExpired : r.isExpired chain.height = false
  notSigned : sender ∉ r.signees

/-- The messages that go through, with the minutes afterwards and the report. -/
inductive Performs (m : Minutes) (chain : Chain) (sender : Address) :
    Message → Minutes → Event → Prop
  | propose {expected action actionData signature nonce}
      (h : Proposable m chain sender expected action nonce) :
      Performs m chain sender (.propose expected action actionData signature)
        { m with
          nonce := nonce
          round := some (m.opening chain sender nonce action actionData signature) }
        (.proposed nonce sender action (expiryFor chain.height m.setup.timeout))
  | sign {nonce signature r} (h : Signable m chain sender nonce r) :
      Performs m chain sender (.sign nonce signature)
        { m with round := some (r.signedBy sender signature) }
        (.signed nonce sender (r.signedBy sender signature).signatures.length
          ((r.signedBy sender signature).reaches m.setup.threshold))

theorem ofHost_eq_ok_iff {α : Type} {result : Except Fault α} {a : α} :
    ofHost result = .ok a ↔ result = .ok a :=
  mapError_eq_ok_iff

theorem checkNoOpenRound_eq_ok_iff {round : Option Round} {height : UInt64} {u : Unit} :
    checkNoOpenRound round height = .ok u ↔ ∀ r, round = some r → r.isExpired height = true := by
  cases round with
  | none => exact iff_of_true rfl nofun
  | some r =>
      refine ensure_eq_ok_iff.trans ⟨?_, fun h => h r rfl⟩
      rintro h _ ⟨⟩
      exact h

theorem checkSignable_eq_ok_iff {round : Option Round} {sender : Address} {nonce height : UInt64}
    {r : Round} :
    checkSignable round sender nonce height = .ok r ↔
      round = some r ∧ nonce = r.nonce ∧ r.isExpired height = false ∧ sender ∉ r.signees := by
  cases round with
  | none => exact ⟨nofun, fun h => by cases h.1⟩
  | some r₀ =>
      -- Having signed is a test on the list of names.
      have hsigned : r₀.hasSigned sender = false ↔ sender ∉ r₀.signees := by
        rw [Round.hasSigned, ← Bool.not_eq_true, List.contains_iff_mem]
      simp only [checkSignable, bind_eq_ok_iff, ensure_eq_ok_iff, pure_eq_ok, Except.ok.injEq,
        exists_and_left, exists_const, hsigned, Option.some.injEq]
      constructor
      · intro hcall
        rcases hcall with ⟨hnonce, hopen, hnew, rfl⟩
        exact ⟨rfl, hnonce, hopen, hnew⟩
      · intro hcall
        rcases hcall with ⟨rfl, hnonce, hopen, hnew⟩
        exact ⟨hnonce, hopen, hnew, rfl⟩

/-! ### Keys -/

theorem setup_key_ne_number (a : Address) : setupItem.key ≠ (numberCell a).key :=
  single_ne_numberCell _ a (by decide)

theorem nonce_key_ne_number (a : Address) : nonceItem.key ≠ (numberCell a).key :=
  single_ne_numberCell _ a (by decide)

theorem round_key_ne_number (a : Address) : roundCell.key ≠ (numberCell a).key :=
  single_ne_numberCell _ a (by decide)

theorem release_key_ne_number (a : Address) : Release.item.key ≠ (numberCell a).key :=
  single_ne_numberCell _ a (by decide)

namespace Minutes.KeptIn

variable {m : Minutes} {s : Store}

/-- Membership is having a number. -/
theorem isMember_eq (h : m.KeptIn s) (a : Address) : isMember s a = (m.numbers a).isSome :=
  Cell.occupied_of_read? _ (h.numbers a)

/-- A store has one set of minutes. -/
theorem unique {m' : Minutes} (h : m.KeptIn s) (h' : m'.KeptIn s) : m = m' := by
  rcases m with ⟨setup, numbers, nonce, round⟩
  rcases m' with ⟨setup', numbers', nonce', round'⟩
  cases h.setup.symm.trans h'.setup
  cases h.nonce.symm.trans h'.nonce
  cases h.round.symm.trans h'.round
  have hnumbers : numbers = numbers' := funext fun a =>
    Except.ok.inj ((h.numbers a).symm.trans (h'.numbers a))
  rw [hnumbers]

/-- Another round replaces the round and leaves the rest. -/
theorem writeRound (h : m.KeptIn s) (r : Round) :
    Minutes.KeptIn { m with round := some r } (roundCell.write r s) where
  setup := (setupItem.load_write_of_ne roundCell r s (by decide)).trans h.setup
  numbers a :=
    (Cell.read?_write_of_ne roundCell _ r s (round_key_ne_number a)).trans (h.numbers a)
  nonce := (nonceItem.load_write_of_ne roundCell r s (by decide)).trans h.nonce
  round := Cell.read?_write roundCell r s

/-- Another nonce replaces the nonce and leaves the rest. -/
theorem writeNonce (h : m.KeptIn s) (n : UInt64) :
    Minutes.KeptIn { m with nonce := n } (nonceItem.write n s) where
  setup := (setupItem.load_write_of_ne nonceItem.toCell n s (by decide)).trans h.setup
  numbers a :=
    (Cell.read?_write_of_ne nonceItem.toCell _ n s (nonce_key_ne_number a)).trans (h.numbers a)
  nonce := Item.load_write nonceItem n s
  round := (Cell.read?_write_of_ne nonceItem.toCell _ n s (by decide)).trans h.round

/-- A migration changes nothing in the minutes. -/
theorem migrate (h : m.KeptIn s) : m.KeptIn (Committee.migrate s).1 where
  setup := (setupItem.load_write_of_ne Release.item.toCell _ s (by decide)).trans h.setup
  numbers a :=
    (Cell.read?_write_of_ne Release.item.toCell _ _ s (release_key_ne_number a)).trans (h.numbers a)
  nonce := (nonceItem.load_write_of_ne Release.item.toCell _ s (by decide)).trans h.nonce
  round := (Cell.read?_write_of_ne Release.item.toCell _ _ s (by decide)).trans h.round

theorem propose_eq_ok_iff (h : m.KeptIn s) {chain : Chain} {sender : Address} {expected : UInt64}
    {action actionData signature : String} {s' : Store} {event : Event} :
    propose chain sender expected action actionData signature s = .ok (s', event) ↔
      ∃ nonce, Proposable m chain sender expected action nonce ∧
        s' = nonceItem.write nonce
          (roundCell.write (m.opening chain sender nonce action actionData signature) s) ∧
        event = .proposed nonce sender action (expiryFor chain.height m.setup.timeout) := by
  simp only [propose, bind_eq_ok_iff, ensure_eq_ok_iff, h.isMember_eq, h.round, h.nonce, h.setup,
    ofHost_eq_ok_iff, Except.ok.injEq, checkNoOpenRound_eq_ok_iff, exists_and_left, exists_const,
    exists_eq_left']
  constructor
  · intro hcall
    rcases hcall with ⟨hmember, haction, hexpired, hexpected, hnext⟩
    -- There is no nonce behind the last one, and a proposal fails there.
    cases hn : Word.next? m.nonce with
    | none =>
        rw [hn] at hnext
        cases hnext
    | some nonce =>
        rw [hn] at hnext
        cases hnext
        exact ⟨nonce, ⟨hmember, haction, hexpired, hexpected, Word.next?_eq_some_iff.mp hn⟩, rfl,
          rfl⟩
  · intro hcall
    rcases hcall with ⟨nonce, hp, rfl, rfl⟩
    refine ⟨hp.member, hp.action_ne, hp.expired, hp.expected_le, ?_⟩
    rw [Word.next?_eq_some_iff.mpr hp.nonce_eq]
    rfl

theorem sign_eq_ok_iff (h : m.KeptIn s) {chain : Chain} {sender : Address} {nonce : UInt64}
    {signature : String} {s' : Store} {event : Event} :
    sign chain sender nonce signature s = .ok (s', event) ↔
      ∃ r, Signable m chain sender nonce r ∧ s' = roundCell.write (r.signedBy sender signature) s ∧
        event = .signed nonce sender (r.signedBy sender signature).signatures.length
          ((r.signedBy sender signature).reaches m.setup.threshold) := by
  -- The setup is read after the round was written, and is still the same.
  have hsetup : ∀ r, setupItem.load (roundCell.write r s) = .ok m.setup := fun r =>
    (setupItem.load_write_of_ne roundCell r s (by decide)).trans h.setup
  simp only [sign, bind_eq_ok_iff, ensure_eq_ok_iff, h.isMember_eq, h.round, hsetup,
    ofHost_eq_ok_iff, Except.ok.injEq, checkSignable_eq_ok_iff, pure_eq_ok, Prod.mk.injEq,
    exists_and_left, exists_const, exists_eq_left']
  constructor
  · intro hcall
    rcases hcall with ⟨hmember, r, ⟨hround, hnonce, hopen, hnew⟩, rfl, rfl⟩
    exact ⟨r, ⟨hmember, hround, hnonce, hopen, hnew⟩, rfl, rfl⟩
  · intro hcall
    rcases hcall with ⟨r, hs, rfl, rfl⟩
    exact ⟨hs.member, r, ⟨hs.round_eq, hs.nonce_eq, hs.notExpired, hs.notSigned⟩, rfl, rfl⟩

/-- A call that goes through follows a rule. -/
theorem execute (h : m.KeptIn s) {chain : Chain} {sender : Address} {message : Message}
    {s' : Store} {event : Event}
    (hcall : Committee.execute chain sender message s = .ok (s', event)) :
    ∃ m', m'.KeptIn s' ∧ Performs m chain sender message m' event := by
  cases message with
  | propose expected action actionData signature =>
      rcases h.propose_eq_ok_iff.mp hcall with ⟨nonce, hp, rfl, rfl⟩
      exact ⟨_, (h.writeRound _).writeNonce nonce, .propose hp⟩
  | sign nonce signature =>
      rcases h.sign_eq_ok_iff.mp hcall with ⟨r, hs, rfl, rfl⟩
      exact ⟨_, h.writeRound _, .sign hs⟩

/-- A call that follows a rule goes through. -/
theorem proceeds (h : m.KeptIn s) {chain : Chain} {sender : Address} {message : Message}
    {m' : Minutes} {event : Event} (hperf : Performs m chain sender message m' event) :
    ∃ s', Committee.execute chain sender message s = .ok (s', event) ∧ m'.KeptIn s' := by
  cases hperf with
  | propose hp =>
      exact ⟨_, h.propose_eq_ok_iff.mpr ⟨_, hp, rfl, rfl⟩, (h.writeRound _).writeNonce _⟩
  | sign hs => exact ⟨_, h.sign_eq_ok_iff.mpr ⟨_, hs, rfl, rfl⟩, h.writeRound _⟩

end Minutes.KeptIn

end Committee

end BridgeCustody
