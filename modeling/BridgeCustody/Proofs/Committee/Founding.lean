import BridgeCustody.Proofs.Admission
import BridgeCustody.Proofs.Committee.Roster
import BridgeCustody.Proofs.Messages
import BridgeCustody.Proofs.Places

/-!
# The Founding, Specified

A committee is set up once, and nothing of its setup is ever written again. If a list of
members were accepted that should not have been, or if it came out as other numbers than
the list says, there would be no call to mend it. So the founding is the one step that
has to be known completely: for every list whether it goes through, how it is refused,
and what every byte of the store is afterwards.

The refusal is about the first thing that is wrong. For a list this is an entry, and the
entries behind it have not been looked at, nor has the threshold. Whoever mends the entry
has to be prepared for the next refusal.

What the store holds is said for its places, because a place is what the calls can ask
for. That nothing stands elsewhere is said as well. It follows that the founding leaves
no round, and no number for anybody who is not listed, whatever bytes their address has.

The size of the list is compared with the threshold as a word. With as many members as
there are words, or more, this would be another size.

## Main definitions

* `enrolling`: How the members of a list are checked.
* `thresholdCondition`, `foundingConditions`: What decides about a founding.
* `Stands`: What stands at the places of a committee that was just founded.
* `JustFounded`: The store of such a committee.

## Theorems

* `checks_enrol`, `checks_deploy`: What a founding checks.
* `forall_foundingConditions_iff`: All conditions hold if the terms are in order.
* `numbering_eq_some_iff`: The number of a member is its place counted from one.
* `mem_entries_founded_iff`: The store holds what stands at its places.
* `founding_specified`: When a founding goes through, what refuses it, and what it leaves.
-/

namespace BridgeCustody

namespace Committee

/-- A text is an address, or is refused with its first fault. -/
def validMember [AddressRule] (text : String) : Condition Error :=
  ((Address.validity text).map Fault.address).map Error.host

/-- How the members of a list are checked: the address, and then whether it is new. -/
def enrolling [AddressRule] : Admission String Address Error where
  inOrder := validMember
  brings := Address.mk
  repeated text := .duplicateMember ⟨text⟩

/-- The threshold is a number of members. -/
def thresholdCondition (f : Founding) : Condition Error :=
  .of (0 < f.threshold.toNat ∧ f.threshold.toNat ≤ f.members.length)
    (.invalidThreshold f.threshold (UInt32.ofNat f.members.length))

/-- What decides about a founding, in the order in which it is looked at. -/
def foundingConditions [AddressRule] (f : Founding) : List (Condition Error) :=
  .of (f.members ≠ []) .emptyCommittee ::
    (enrolling.conditions [] f.members ++ [thresholdCondition f])

/-- What stands at the places of a committee that was just founded. -/
inductive Stands (f : Founding) : Place → String → Prop
  | release : Stands f .release (Wire.encode Release.ofCommittee)
  | setup : Stands f .setup
      (Wire.encode (⟨f.members.map Address.mk, f.threshold, f.timeout⟩ : Setup))
  | nonce : Stands f .nonce (Wire.encode (0 : UInt64))
  | number {i : Nat} {a : Address} {n : UInt32} (hplace : (f.members.map Address.mk)[i]? = some a)
      (hnumber : n.toNat = i + 1) : Stands f (.number a) (Wire.encode n)

/-- The store of a committee that was just founded: its entries, and what is read. -/
structure JustFounded (f : Founding) (s : Store) : Prop where
  entries : ∀ key text, (key, text) ∈ s.entries ↔ ∃ p : Place, p.key = key ∧ Stands f p text
  release : Release.item.load s = .ok .ofCommittee
  setup : setupItem.load s = .ok ⟨f.members.map Address.mk, f.threshold, f.timeout⟩
  number : ∀ i a, (f.members.map Address.mk)[i]? = some a →
    ∃ n, (numberCell a).read? s = .ok (some n) ∧ n.toNat = i + 1
  no_number : ∀ a, a ∉ f.members.map Address.mk → (numberCell a).read? s = .ok none
  nonce : nonceItem.load s = .ok 0
  round : roundCell.read? s = .ok none

/-! ### What is checked -/

section Checks

variable {f : Founding}

/-- Members are checked entry by entry. -/
theorem checks_enrol [AddressRule] {enrolled : List Address} {texts : List String} :
    Checks (enrol enrolled texts) (enrolling.conditions enrolled texts) := by
  induction texts generalizing enrolled with
  | nil => exact checks_ok enrolled
  | cons text rest ih =>
      have haddress : Checks (ofHost ((Address.check text).mapError .address))
          [validMember text] :=
        ((Address.checks_check text).mapError Fault.address).mapError Error.host
      refine haddress.cons fun member hmember => ?_
      rcases Address.check_eq_ok_iff.mp (mapError_eq_ok_iff.mp (ofHost_eq_ok_iff.mp hmember)) with
        ⟨-, rfl⟩
      exact Checks.cons checks_ensure fun _ _ => ih

/-- A founding checks that there are members, then the members, then the threshold. -/
theorem checks_deploy [AddressRule] (hsmall : f.members.length < UInt32.size) (s : Store) :
    Checks (deploy f s) (foundingConditions f) := by
  refine Checks.cons checks_ensure fun _ _ => checks_enrol.bind fun members henrol => ?_
  rcases enrol_eq_ok henrol List.nodup_nil with ⟨rfl, -, -⟩
  refine Checks.bind_ok ?_ _
  refine checks_of_iff fun e => ?_
  -- A short list has its own length as a word.
  rw [List.nil_append, List.length_map, ensure_eq_error_iff, UInt32.le_iff_toNat_le,
    UInt32.toNat_ofNat_of_lt' hsmall, Nat.pos_iff_ne_zero, ne_eq, ne_eq, ← UInt32.toNat_inj]
  rfl

/-- All conditions hold if the terms are in order, and then only. -/
theorem forall_foundingConditions_iff [AddressRule] :
    (∀ c ∈ foundingConditions f, c.Holds) ↔ f.WellFormed := by
  rw [foundingConditions, List.forall_mem_cons, List.forall_mem_append, List.forall_mem_singleton,
    Admission.forall_holds_iff List.nodup_nil, List.nil_append]
  constructor
  · intro h
    rcases h with ⟨hsome, ⟨hvalid, hnodup⟩, hpositive, hsize⟩
    exact ⟨hsome, hvalid, hnodup, hpositive, hsize⟩
  · intro h
    exact ⟨h.members_ne, ⟨h.valid, h.nodup⟩, h.threshold_pos, h.threshold_le⟩

theorem firstFails_thresholdCondition_iff {e : Error} :
    FirstFails [thresholdCondition f] e ↔
      ¬(0 < f.threshold.toNat ∧ f.threshold.toNat ≤ f.members.length) ∧
        .invalidThreshold f.threshold (UInt32.ofNat f.members.length) = e :=
  firstFails_of_cons_iff.trans (or_iff_left fun hrest => firstFails_nil hrest.2)

end Checks

/-! ### What is stored -/

/-- The places of a short list are counted by words. -/
theorem toNat_place {members : List Address} (hsmall : members.length < UInt32.size) {i : Nat}
    {a : Address} (hi : members[i]? = some a) : (UInt32.ofNat (1 + i)).toNat = i + 1 := by
  rcases List.getElem?_eq_some_iff.mp hi with ⟨hlt, -⟩
  rw [UInt32.toNat_ofNat_of_lt' (by omega), Nat.add_comm]

/-- In a short list without repetitions, the number of a member is its place counted from
    one. -/
theorem numbering_eq_some_iff {members : List Address} (hnodup : members.Nodup)
    (hsmall : members.length < UInt32.size) {a : Address} {n : UInt32} :
    numbering 1 members a = some n ↔ ∃ i, members[i]? = some a ∧ n.toNat = i + 1 := by
  constructor
  · intro h
    have hmem : a ∈ members := (isSome_numbering members 1 a).mp (by rw [h]; rfl)
    rcases List.getElem?_of_mem hmem with ⟨i, hi⟩
    rw [numbering_of_getElem? hnodup hi] at h
    cases h
    exact ⟨i, hi, toNat_place hsmall hi⟩
  · intro h
    rcases h with ⟨i, hi, hn⟩
    rw [numbering_of_getElem? hnodup hi, Option.some.injEq, ← UInt32.toNat_inj, hn,
      toNat_place hsmall hi]

section Stores

variable {f : Founding} {s : Store} {event : Event}

/-- The store that a founding on an empty store leaves. -/
def founded (f : Founding) : Store :=
  nonceItem.write 0 (setupItem.write ⟨f.members.map Address.mk, f.threshold, f.timeout⟩
    (number 1 (f.members.map Address.mk) (Release.item.write .ofCommittee .empty)))

/-- Behind the nonce and the setup there are the numbers and the release. -/
theorem get?_founded (f : Founding) (key : Bytes) :
    (founded f).get? key =
      if nonceItem.key = key then some (Wire.encode (0 : UInt64))
      else if setupItem.key = key then
        some (Wire.encode (⟨f.members.map Address.mk, f.threshold, f.timeout⟩ : Setup))
      else (number 1 (f.members.map Address.mk)
        (Release.item.write .ofCommittee .empty)).get? key := by
  rw [founded, Cell.get?_write, Cell.get?_write]

theorem get?_founded_number (f : Founding) (a : Address) :
    (founded f).get? (numberCell a).key =
      (numbering 1 (f.members.map Address.mk) a).map Wire.encode := by
  rw [get?_founded, if_neg (nonce_key_ne_number a), if_neg (setup_key_ne_number a), get?_number,
    Cell.get?_write, if_neg (release_key_ne_number a), Store.get?_empty, Option.or_none]

theorem get?_founded_of_ne {key : Bytes} (hnonce : nonceItem.key ≠ key)
    (hsetup : setupItem.key ≠ key) (hnumber : ∀ a, (numberCell a).key ≠ key) :
    (founded f).get? key =
      if Release.item.key = key then some (Wire.encode Release.ofCommittee) else none := by
  rw [get?_founded, if_neg hnonce, if_neg hsetup, get?_number_of_ne _ _ _ _ hnumber,
    Cell.get?_write, Store.get?_empty]

/-- The store holds what stands at its places, and nothing else. -/
theorem mem_entries_founded_iff (hnodup : (f.members.map Address.mk).Nodup)
    (hsmall : f.members.length < UInt32.size) {key : Bytes} {text : String} :
    (key, text) ∈ (founded f).entries ↔ ∃ p : Place, p.key = key ∧ Stands f p text := by
  have hnumber : ∀ {a n}, numbering 1 (f.members.map Address.mk) a = some n ↔
      ∃ i, (f.members.map Address.mk)[i]? = some a ∧ n.toNat = i + 1 :=
    numbering_eq_some_iff hnodup (by rwa [List.length_map])
  rw [Store.mem_entries_iff]
  constructor
  · intro h
    by_cases hnumbered : ∃ a, (numberCell a).key = key
    · rcases hnumbered with ⟨a, rfl⟩
      rw [get?_founded_number] at h
      rcases Option.map_eq_some_iff.mp h with ⟨n, hn, rfl⟩
      rcases hnumber.mp hn with ⟨i, hi, hplace⟩
      exact ⟨.number a, rfl, .number hi hplace⟩
    · -- What is no number was written under one of three names.
      rw [not_exists] at hnumbered
      by_cases hnonce : nonceItem.key = key
      · rw [get?_founded, if_pos hnonce] at h
        cases h
        exact ⟨.nonce, hnonce, .nonce⟩
      by_cases hsetup : setupItem.key = key
      · rw [get?_founded, if_neg hnonce, if_pos hsetup] at h
        cases h
        exact ⟨.setup, hsetup, .setup⟩
      by_cases hrelease : Release.item.key = key
      · rw [get?_founded_of_ne hnonce hsetup hnumbered, if_pos hrelease] at h
        cases h
        exact ⟨.release, hrelease, .release⟩
      · rw [get?_founded_of_ne hnonce hsetup hnumbered, if_neg hrelease] at h
        cases h
  · intro h
    rcases h with ⟨p, rfl, hstands⟩
    cases hstands with
    | release =>
        exact (get?_founded_of_ne (by decide) (by decide)
          fun a => (release_key_ne_number a).symm).trans (if_pos rfl)
    | setup => exact (get?_founded f _).trans ((if_neg (by decide)).trans (if_pos rfl))
    | nonce => exact (get?_founded f _).trans (if_pos rfl)
    | number hplace hn =>
        have hstored := hnumber.mpr ⟨_, hplace, hn⟩
        exact (get?_founded_number f _).trans (by rw [hstored]; rfl)

/-- A founding that goes through leaves what it should. -/
theorem justFounded_of_deploy [AddressRule] (hsmall : f.members.length < UInt32.size)
    (hdeploy : deploy f .empty = .ok (s, event)) : JustFounded f s := by
  have hs : s = founded f := by
    rcases deploy_eq_ok_iff.mp hdeploy with ⟨members, -, henrol, -, -, rfl, -⟩
    rcases enrol_eq_ok henrol List.nodup_nil with ⟨rfl, -, -⟩
    rfl
  -- What the calls read is known already; the entries say that there is nothing more.
  rcases deploy_empty hdeploy with ⟨hkept, hnodup, -⟩
  have hentries : ∀ key text, (key, text) ∈ s.entries ↔
      ∃ p : Place, p.key = key ∧ Stands f p text := fun key text =>
    hs ▸ mem_entries_founded_iff hnodup hsmall
  have hrelease := Store.mem_entries_iff.mp
    ((hentries Release.item.key _).mpr ⟨.release, rfl, .release⟩)
  refine ⟨hentries, Release.item.load_of_get? hrelease, hkept.setup, ?_, ?_, hkept.nonce,
    hkept.round⟩
  · intro i a hi
    refine ⟨UInt32.ofNat (1 + i), ?_, toNat_place (by rwa [List.length_map]) hi⟩
    rw [hkept.numbers a]
    exact congrArg Except.ok (numbering_of_getElem? hnodup hi)
  · intro a hnot
    rw [hkept.numbers a]
    exact congrArg Except.ok (numbering_eq_none_iff.mpr hnot)

end Stores

/-- On an empty store and with fewer members than there are words, a founding goes through
    if there are members, all of them valid addresses and no two the same, and the
    threshold is a number of members, and then only. Otherwise it is refused for having no
    members, or for the first entry of the list that is no address or was there before, or
    if there is none for the threshold. If it goes through, the store holds the release,
    the setup, the number of each member, which is its place counted from one, and the
    nonce zero, and nothing else. -/
theorem founding_specified [AddressRule] (f : Founding) (hsmall : f.members.length < UInt32.size) :
    ((∃ s event, deploy f .empty = .ok (s, event)) ↔ f.WellFormed) ∧
    (∀ e, deploy f .empty = .error e ↔
      (f.members = [] ∧ .emptyCommittee = e) ∨
      (∃ before text after, f.members = before ++ text :: after ∧
        (∀ earlier ∈ before, Address.Valid earlier) ∧ (before.map Address.mk).Nodup ∧
        FirstFails [validMember text,
          .of (⟨text⟩ ∉ before.map Address.mk) (.duplicateMember ⟨text⟩)] e) ∨
      (f.members ≠ [] ∧ (∀ text ∈ f.members, Address.Valid text) ∧
        (f.members.map Address.mk).Nodup ∧
        ¬(0 < f.threshold.toNat ∧ f.threshold.toNat ≤ f.members.length) ∧
        .invalidThreshold f.threshold (UInt32.ofNat f.members.length) = e)) ∧
    ∀ s event, deploy f .empty = .ok (s, event) → JustFounded f s := by
  have hchecks := checks_deploy hsmall .empty
  refine ⟨?_, ?_, fun s event => justFounded_of_deploy hsmall⟩
  · rw [hchecks.exists_pair_iff, forall_foundingConditions_iff]
  · intro e
    rw [hchecks e, foundingConditions, firstFails_of_cons_iff, firstFails_append_iff,
      Admission.firstFails_iff List.nodup_nil, Admission.forall_holds_iff List.nodup_nil,
      and_or_left, and_assoc, firstFails_thresholdCondition_iff, not_not]
    -- A list that has an entry is not empty.
    refine or_congr_right (or_congr_left (and_iff_right_of_imp fun h => ?_))
    rcases h with ⟨before, text, after, hsplit, -⟩
    rw [hsplit]
    exact List.append_ne_nil_of_right_ne_nil before (List.cons_ne_nil text after)

/-- In a committee of alice and bob, bob has the number two and carol has none. If alice is
    listed again behind bob it is refused for her, although the threshold is none, and with
    the two of them only it is refused for a threshold of three. -/
theorem founding_specified_of_two :
    (∃ s event, deploy smallTerms .empty = .ok (s, event) ∧
      (∃ n, (numberCell ⟨"bob"⟩).read? s = .ok (some n) ∧ n.toNat = 2) ∧
      (numberCell ⟨"carol"⟩).read? s = .ok none) ∧
    deploy ⟨["alice", "bob", "alice"], 0, 5⟩ .empty = .error (.duplicateMember ⟨"alice"⟩) ∧
    deploy ⟨["alice", "bob"], 3, 5⟩ .empty = .error (.invalidThreshold 3 2) := by
  refine ⟨?_, ?_, ?_⟩
  · rcases founding_specified smallTerms (by decide) with ⟨hwent, -, hleaves⟩
    have hwell : smallTerms.WellFormed :=
      ⟨by decide, by decide, by decide, by decide, by decide⟩
    rcases hwent.mpr hwell with ⟨s, event, hdeploy⟩
    have hjust := hleaves s event hdeploy
    exact ⟨s, event, hdeploy, hjust.number 1 ⟨"bob"⟩ rfl, hjust.no_number ⟨"carol"⟩ (by decide)⟩
  · rcases founding_specified ⟨["alice", "bob", "alice"], 0, 5⟩ (by decide) with
      ⟨-, hrefused, -⟩
    -- The first two entries are in order, and the third repeats the first.
    refine (hrefused _).mpr (.inr (.inl ⟨["alice", "bob"], "alice", [], rfl, by decide,
      by decide, ?_⟩))
    exact .behind (by decide : Address.Valid "alice")
      (firstFails_of_cons_iff.mpr (.inl ⟨by decide, rfl⟩))
  · rcases founding_specified ⟨["alice", "bob"], 3, 5⟩ (by decide) with ⟨-, hrefused, -⟩
    exact (hrefused _).mpr (.inr (.inr ⟨by decide, by decide, by decide, by decide, rfl⟩))

end Committee

end BridgeCustody
