import BridgeCustody.Committee.Query
import BridgeCustody.Ledger.Query
import BridgeCustody.Proofs.Committee.Minutes
import BridgeCustody.Proofs.Ledger.History

/-!
# Messages Survive Their JSON Form

What is stored is read again by the contract that wrote it. A message is read by
somebody else, and there is no second attempt: if the text of a message could be
taken for another message, the wrong thing would be done, and by somebody with
every right to do it. So the law of the stored types is wanted for all that is
exchanged as well.

Most of it is the same. What is new are alternatives and fields that may hold
nothing. An alternative is found by its name, and names of alternatives differ. A
field that holds nothing is written as null, and for this to be told from a field
that holds something, nothing that it can hold may be written as null.

The payload of a credit is a message inside a message, and it goes through base64
on its way. It is only read once the credit has been found to be acceptable.

A token reads what the ledger sends to it by rules of its own. What matters on this
side is that the text says everything: what is asked for, of whom, and how much.

## Main definitions

* `Wire.Faithful`: Every value of a type has its own text and is read from it.

## Theorems

* `Json.bind_optional?`: A field that may hold nothing is read back.
* `Json.bind_alternative?`: An alternative is found by its name.
* `Hook.ofPayload_encode`: A payload asks for the hook that was written into it.
* `Ledger.execute_saves`, `Committee.execute_saves`: What a call saves is loaded
  again.
* `texts_are_faithful`: The law for everything that is stored or exchanged.
-/

namespace BridgeCustody

namespace Wire

/-- Every value of a type has a text of its own, is read from that text, and is
    what a cell holds once it was written there. -/
structure Faithful (α : Type) [Wire α] : Prop where
  decode?_encode : ∀ a : α, decode? (encode a) = some a
  encode_inj : ∀ a b : α, encode a = encode b ↔ a = b
  read?_write : ∀ (c : Cell α) (a : α) (s : Store), c.read? (c.write a s) = .ok (some a)

theorem faithful (α : Type) [Wire α] [Lawful α] : Faithful α where
  decode?_encode := Wire.decode?_encode
  encode_inj _ _ := ⟨Wire.encode_inj, congrArg encode⟩
  read?_write := Cell.read?_write

/-- A value that is a message by itself is read back, whatever is made of it. -/
theorem bind_ofJson? {α β : Type} [Wire α] [Lawful α] (a : α) (k : α → Option β) :
    (ofJson? (toJson a) >>= k) = k a := by
  rw [Lawful.ofJson?_toJson]
  rfl

end Wire

namespace Json

/-- A field that may hold nothing is read back, if nothing that it can hold is
    written as null. -/
theorem bind_optional? {α β : Type} [Wire α] [Wire.Lawful α] {fields : List (String × Json)}
    {name : String} {o : Option α} (hnull : ∀ a : α, Wire.toJson a ≠ null)
    (h : fields.lookup name = some (ofOption o)) (k : Option α → Option β) :
    (optional? fields name >>= k) = k o := by
  have hr : optional? fields name = some o := by
    rw [optional?, h]
    cases o with
    | none => rfl
    | some a =>
        rw [ofOption]
        split
        · next heq => cases heq
        · next heq => exact absurd (Option.some.inj heq) (hnull a)
        · next heq =>
            cases heq
            rw [Wire.Lawful.ofJson?_toJson, Option.map_some]
  rw [hr]
  rfl

/-- An alternative is found by its name, with what stands behind it. -/
theorem bind_alternative? {β : Type} (name : String) (body : Json)
    (k : String × Json → Option β) :
    ((object [(name, body)]).alternative? >>= k) = k (name, body) :=
  rfl

end Json

open Wire

/-! ### Records -/

instance : Lawful Payload where
  ofJson?_toJson p := by
    simp only [Wire.toJson, Wire.ofJson?, String.toList_ofList, Base64.decode?_encode,
      Option.map_some]

instance : Lawful Ledger.Surface where
  ofJson?_toJson surface := by cases surface <;> rfl

instance : Lawful Release where
  ofJson?_toJson r := by
    refine (Json.bind_record? _ _ (by rfl) (by decide) _).trans ?_
    iterate 2 refine (Json.bind_required? (by rfl) _).trans ?_
    rfl

instance : Lawful Migration where
  ofJson?_toJson _ := Json.bind_record? [] [] rfl List.nodup_nil _

instance : Lawful Ledger.Grant where
  ofJson?_toJson g := by
    refine (Json.bind_record? _ _ (by rfl) (by decide) _).trans ?_
    iterate 2 refine (Json.bind_required? (by rfl) _).trans ?_
    rfl

instance : Lawful Ledger.Deployment where
  ofJson?_toJson d := by
    -- The terms that may be left out stand among those that may not.
    refine (Json.bind_record? _ _ (by rfl) (by decide) _).trans ?_
    iterate 6 refine (Json.bind_required? (by rfl) _).trans ?_
    iterate 2 refine (Json.bind_optional? nofun (by rfl) _).trans ?_
    refine (Json.bind_required? (by rfl) _).trans ?_
    refine (Json.bind_optional? nofun (by rfl) _).trans ?_
    refine (Json.bind_required? (by rfl) _).trans ?_
    rfl

instance : Lawful Committee.Founding where
  ofJson?_toJson f := by
    refine (Json.bind_record? _ _ (by rfl) (by decide) _).trans ?_
    iterate 3 refine (Json.bind_required? (by rfl) _).trans ?_
    rfl

/-! ### Alternatives

They are taken together by the number of their fields. -/

instance : Lawful Ledger.Message where
  ofJson?_toJson message := by
    cases message with
    | newRelayEon =>
        refine (Json.bind_alternative? _ _ _).trans ?_
        exact Json.bind_record? [] [] rfl List.nodup_nil _
    | pausePublicApi | pauseRelayerApi | deposit | mint | burn | withdrawFees | withdrawExcess
    | delete | setCap | setAllowance | setApproverCap | renounceRole =>
        refine (Json.bind_alternative? _ _ _).trans ?_
        refine (Json.bind_record? _ _ (by rfl) (by decide) _).trans ?_
        exact Json.bind_required? (by rfl) _
    | swap | withdraw | grantRole | revokeRole =>
        refine (Json.bind_alternative? _ _ _).trans ?_
        refine (Json.bind_record? _ _ (by rfl) (by decide) _).trans ?_
        iterate 2 refine (Json.bind_required? (by rfl) _).trans ?_
        rfl
    | receive =>
        refine (Json.bind_alternative? _ _ _).trans ?_
        refine (Json.bind_record? _ _ (by rfl) (by decide) _).trans ?_
        iterate 3 refine (Json.bind_required? (by rfl) _).trans ?_
        rfl
    | refund | refundInFull =>
        refine (Json.bind_alternative? _ _ _).trans ?_
        refine (Json.bind_record? _ _ (by rfl) (by decide) _).trans ?_
        iterate 4 refine (Json.bind_required? (by rfl) _).trans ?_
        rfl
    | reverseSwap =>
        refine (Json.bind_alternative? _ _ _).trans ?_
        refine (Json.bind_record? _ _ (by rfl) (by decide) _).trans ?_
        iterate 6 refine (Json.bind_required? (by rfl) _).trans ?_
        rfl
    -- Limits are set by a message that has the fields of the limits themselves.
    | setSwapLimits | setReverseLimits =>
        refine (Json.bind_alternative? _ _ _).trans ?_
        exact bind_ofJson? _ _

instance : Lawful Ledger.Query where
  ofJson?_toJson query := by
    cases query with
    | refunded =>
        refine (Json.bind_alternative? _ _ _).trans ?_
        refine (Json.bind_record? _ _ (by rfl) (by decide) _).trans ?_
        exact Json.bind_required? (by rfl) _
    | hasRole =>
        refine (Json.bind_alternative? _ _ _).trans ?_
        refine (Json.bind_record? _ _ (by rfl) (by decide) _).trans ?_
        iterate 2 refine (Json.bind_required? (by rfl) _).trans ?_
        rfl
    | members =>
        refine (Json.bind_alternative? _ _ _).trans ?_
        refine (Json.bind_record? _ _ (by rfl) (by decide) _).trans ?_
        refine (Json.bind_required? (by rfl) _).trans ?_
        iterate 2 refine (Json.bind_optional? nofun (by rfl) _).trans ?_
        rfl
    | _ =>
        refine (Json.bind_alternative? _ _ _).trans ?_
        exact Json.bind_record? [] [] rfl List.nodup_nil _

instance : Lawful Committee.Message where
  ofJson?_toJson message := by
    cases message with
    | propose =>
        refine (Json.bind_alternative? _ _ _).trans ?_
        refine (Json.bind_record? _ _ (by rfl) (by decide) _).trans ?_
        iterate 4 refine (Json.bind_required? (by rfl) _).trans ?_
        rfl
    | sign =>
        refine (Json.bind_alternative? _ _ _).trans ?_
        refine (Json.bind_record? _ _ (by rfl) (by decide) _).trans ?_
        iterate 2 refine (Json.bind_required? (by rfl) _).trans ?_
        rfl

instance : Lawful Committee.Query where
  ofJson?_toJson query := by
    cases query with
    | member | number =>
        refine (Json.bind_alternative? _ _ _).trans ?_
        refine (Json.bind_record? _ _ (by rfl) (by decide) _).trans ?_
        exact Json.bind_required? (by rfl) _
    | _ =>
        refine (Json.bind_alternative? _ _ _).trans ?_
        exact Json.bind_record? [] [] rfl List.nodup_nil _

instance : Lawful TokenMessage where
  ofJson?_toJson message := by
    cases message with
    | burn =>
        refine (Json.bind_alternative? _ _ _).trans ?_
        refine (Json.bind_record? _ _ (by rfl) (by decide) _).trans ?_
        exact Json.bind_required? (by rfl) _
    | transfer | mint =>
        refine (Json.bind_alternative? _ _ _).trans ?_
        refine (Json.bind_record? _ _ (by rfl) (by decide) _).trans ?_
        iterate 2 refine (Json.bind_required? (by rfl) _).trans ?_
        rfl
    | transferFrom =>
        refine (Json.bind_alternative? _ _ _).trans ?_
        refine (Json.bind_record? _ _ (by rfl) (by decide) _).trans ?_
        iterate 3 refine (Json.bind_required? (by rfl) _).trans ?_
        rfl

/-- A payload that a hook was written into asks for that hook. -/
theorem Ledger.Hook.ofPayload_encode (hook : Hook) :
    ofPayload ⟨Bytes.ofText (Wire.encode hook)⟩ = .ok hook := by
  rw [ofPayload, Bytes.toText?_ofText, Option.bind_some, Wire.decode?_encode]

/-! ### What a call saves -/

namespace Ledger

/-- What a call of the ledger saves is what the next call loads: the value that came
    of its operation, and the refund that it recorded or the mark of the role that it
    gave. -/
theorem execute_saves [AddressRule] {chain : Chain} {sender : Address} {message : Message}
    {s s' : Store} {receipt : Receipt}
    (hcall : execute chain sender message s = .ok (s', receipt)) :
    ∃ l out, item.load s = .ok l ∧ l.operate (.ofStore s) chain sender message = .ok out ∧
      item.load s' = .ok out.ledger ∧
      (∀ id amount, out.change = .refund id amount →
        (refundCell id).read? s' = .ok (some amount)) ∧
      ∀ role a, out.change = .grant role a →
        ∃ text, s'.get? (roleCell role a).key = some text ∧ Mark.ofText text = .ok {} := by
  rcases execute_eq_ok_iff.mp hcall with ⟨l, out, hload, -, hperf, rfl, -⟩
  refine ⟨l, out, hload, operate_eq_ok_iff.mpr hperf, out.load_commit s, ?_, ?_⟩
  · intro id amount hchange
    exact out.read?_refund s hchange
  · intro role a hchange
    refine ⟨Mark.text, ?_, Mark.ofText_text⟩
    rw [out.get?_roleCell, hchange]
    exact (Cell.get?_occupy _ _ _).trans (if_pos rfl)

end Ledger

namespace Committee

/-- A proposal saves a round and then its nonce. -/
theorem propose_eq_ok {chain : Chain} {sender : Address} {expected : UInt64}
    {action actionData signature : String} {s s' : Store} {event : Event}
    (h : propose chain sender expected action actionData signature s = .ok (s', event)) :
    ∃ nonce round, s' = nonceItem.write nonce (roundCell.write round s) := by
  simp only [propose, bind_eq_ok_iff] at h
  rcases h with ⟨-, -, -, -, _, -, -, -, current, -, -, -, setup, -, hnext⟩
  cases hn : Word.next? current with
  | none =>
      rw [hn] at hnext
      cases hnext
  | some nonce =>
      rw [hn] at hnext
      cases hnext
      exact ⟨nonce, _, rfl⟩

/-- A signature saves the round that it was added to. -/
theorem sign_eq_ok {chain : Chain} {sender : Address} {nonce : UInt64} {signature : String}
    {s s' : Store} {event : Event} (h : sign chain sender nonce signature s = .ok (s', event)) :
    ∃ round, s' = roundCell.write round s := by
  simp only [sign, bind_eq_ok_iff, pure_eq_ok, Except.ok.injEq, Prod.mk.injEq] at h
  rcases h with ⟨-, -, _, -, round, -, _, -, rfl, -⟩
  exact ⟨_, rfl⟩

/-- What a call of the committee saves is what the next call loads: the round, and
    the nonce if the round is a new one. -/
theorem execute_saves {chain : Chain} {sender : Address} {message : Message} {s s' : Store}
    {event : Event} (hcall : execute chain sender message s = .ok (s', event)) :
    ∃ round, roundCell.read? s' = .ok (some round) ∧
      (s' = roundCell.write round s ∨
        ∃ nonce, s' = nonceItem.write nonce (roundCell.write round s) ∧
          nonceItem.load s' = .ok nonce) := by
  cases message with
  | propose =>
      rcases propose_eq_ok hcall with ⟨nonce, round, rfl⟩
      refine ⟨round, ?_, .inr ⟨nonce, rfl, Item.load_write nonceItem nonce _⟩⟩
      -- The nonce is written after the round, under another key.
      exact (Cell.read?_write_of_ne nonceItem.toCell _ nonce _ (by decide)).trans
        (Cell.read?_write roundCell round s)
  | sign =>
      rcases sign_eq_ok hcall with ⟨round, rfl⟩
      exact ⟨round, Cell.read?_write roundCell round s, .inl rfl⟩

end Committee

/-- Everything that the two contracts store or exchange is read from its text as what
    it was: what the ledger is told and asked, what it keeps, what the committee is
    told and asked, what it keeps, and what is said to the token. No two values of a
    type have one text. A payload is read as the hook that was written into it. And
    what a call of either contract saves is what the next call loads. -/
theorem texts_are_faithful [AddressRule] :
    (Faithful Ledger.Deployment ∧ Faithful Ledger.Message ∧ Faithful Ledger.Hook ∧
      Faithful Ledger.Query ∧ Faithful Migration) ∧
    (Faithful Ledger ∧ Faithful Ledger.Role ∧ Faithful Ledger.Surface ∧ Faithful Amount ∧
      Faithful Release) ∧
    (Faithful Committee.Founding ∧ Faithful Committee.Message ∧ Faithful Committee.Query) ∧
    (Faithful Committee.Round ∧ Faithful Committee.Setup ∧ Faithful UInt64 ∧ Faithful UInt32) ∧
    Faithful TokenMessage ∧
    (∀ hook, Ledger.Hook.ofPayload ⟨Bytes.ofText (encode hook)⟩ = .ok hook) ∧
    (∀ chain sender message s s' receipt,
      Ledger.execute chain sender message s = .ok (s', receipt) →
      ∃ l out, Ledger.item.load s = .ok l ∧
        l.operate (.ofStore s) chain sender message = .ok out ∧
        Ledger.item.load s' = .ok out.ledger ∧
        (∀ id amount, out.change = .refund id amount →
          (Ledger.refundCell id).read? s' = .ok (some amount)) ∧
        ∀ role a, out.change = .grant role a →
          ∃ text, s'.get? (Ledger.roleCell role a).key = some text ∧
            Mark.ofText text = .ok {}) ∧
    ∀ chain sender message s s' event,
      Committee.execute chain sender message s = .ok (s', event) →
      ∃ round, Committee.roundCell.read? s' = .ok (some round) ∧
        (s' = Committee.roundCell.write round s ∨
          ∃ nonce, s' = Committee.nonceItem.write nonce (Committee.roundCell.write round s) ∧
            Committee.nonceItem.load s' = .ok nonce) := by
  refine ⟨⟨faithful _, faithful _, faithful _, faithful _, faithful _⟩,
    ⟨faithful _, faithful _, faithful _, faithful _, faithful _⟩,
    ⟨faithful _, faithful _, faithful _⟩, ⟨faithful _, faithful _, faithful _, faithful _⟩,
    faithful _, Ledger.Hook.ofPayload_encode, ?_, ?_⟩
  · intro chain sender message s s' receipt hcall
    exact Ledger.execute_saves hcall
  · intro chain sender message s s' event hcall
    exact Committee.execute_saves hcall

open Ledger in
/-- Quotes, backslashes and line breaks get through, also inside a payload and with
    the largest amount there is, and what a first call saves is loaded. -/
theorem texts_are_faithful_of_first_mint :
    decode? (encode (Message.receive "\"owner\"" ⟨Amount.size - 1, by decide⟩
        ⟨Bytes.ofText (encode (Hook.swap "\\\n"))⟩)) =
      some (Message.receive "\"owner\"" ⟨Amount.size - 1, by decide⟩
        ⟨Bytes.ofText (encode (Hook.swap "\\\n"))⟩) ∧
    Hook.ofPayload ⟨Bytes.ofText (encode (Hook.swap "\\\n"))⟩ = .ok (.swap "\\\n") ∧
    ∃ s s' receipt l, execute stillChain ⟨"deployer"⟩ (.mint ⟨5, by decide⟩) s =
      .ok (s', receipt) ∧ item.load s' = .ok l := by
  rcases mint_smallTerms with ⟨s, -, s', -, hmint, -⟩
  rcases texts_are_faithful with ⟨⟨-, hmessage, -⟩, -, -, -, -, hhook, hsaves, -⟩
  rcases hsaves _ _ _ s s' _ hmint with ⟨-, out, -, -, hload, -⟩
  exact ⟨hmessage.decode?_encode _, hhook _, s, s', _, out.ledger, hmint, hload⟩

end BridgeCustody
