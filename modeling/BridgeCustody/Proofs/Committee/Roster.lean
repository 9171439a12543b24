import BridgeCustody.Committee.Query
import BridgeCustody.Proofs.Committee.History

/-!
# The Roster Is Fixed

A committee keeps its members twice. The setup has them as a list, in which a member
is found by its place, and a table has the number of each, so that membership is one
look-up. Whoever asks for the member with some number and then for the number of
that member expects to come back to where they started. Whether they do is not a
matter of any one call. The list and the table are filled at the founding, by two
loops that count differently, and the calls trust the table alone.

The table is right because members are different: the numbers are given one after
the other, and a member listed twice would end up with the later one. A number is a
32-bit word while the list may be of any length, so that the places of the list have
to be fewer than the words. Then the number of a member is its place counted from
one, and everybody else has none, which is told as zero.

Nothing of this is ever written again. What refuses those who are not members is
therefore the list, although no call looks into it.

## Main definitions

* `Founded`: The setup and the numbers are those of the founding.
* `Founding.WellFormed`: What a founding was checked for.

## Theorems

* `numbering_eq_none_iff`, `numbering_of_getElem?`: The number of a member is its
  place.
* `deploy_wellFormed`: What is known of the terms of a committee that was founded.
* `run_founded`: The roster along a run.
* `execute_eq_unauthorized_iff`: Who is refused for not being a member.
* `roster_is_fixed_bijection`: The roster from outside.
-/

namespace BridgeCustody

namespace Committee

/-! ### Numbers and places -/

/-- Who is not in the list has no number. -/
theorem numbering_eq_none_iff {members : List Address} {first : Nat} {a : Address} :
    numbering first members a = none ↔ a ∉ members := by
  rw [← Option.not_isSome_iff_eq_none, isSome_numbering]

/-- In a list without repetitions, a member is given the number of its place. -/
theorem numbering_of_getElem? {members : List Address} (hnodup : members.Nodup) {first i : Nat}
    {a : Address} (h : members[i]? = some a) :
    numbering first members a = some (UInt32.ofNat (first + i)) := by
  induction members generalizing first i with
  | nil => cases h
  | cons member rest ih =>
      rcases List.nodup_cons.mp hnodup with ⟨hnew, hrest⟩
      rw [numbering]
      cases i with
      | zero =>
          -- The first of the list does not come again behind it.
          rw [List.getElem?_cons_zero, Option.some.injEq] at h
          rw [h] at hnew
          rw [numbering_eq_none_iff.mpr hnew, Option.none_or, if_pos h.symm]
          rfl
      | succ i =>
          rw [List.getElem?_cons_succ] at h
          rw [ih hrest h, Option.some_or, Nat.add_right_comm]
          rfl

/-! ### The founding -/

/-- What the terms of a committee are checked for: it has members, these are valid
    addresses and no two the same, and the threshold is a number of members. -/
structure Founding.WellFormed [AddressRule] (f : Founding) : Prop where
  members_ne : f.members ≠ []
  valid : ∀ text ∈ f.members, Address.Valid text
  nodup : (f.members.map Address.mk).Nodup
  threshold_pos : 0 < f.threshold.toNat
  threshold_le : f.threshold.toNat ≤ f.members.length

/-- The terms of a committee that was founded are in order. The size is compared as a
    word, which is the size itself only if that is small enough. -/
theorem deploy_wellFormed [AddressRule] {f : Founding} {s s' : Store} {event : Event}
    (h : deploy f s = .ok (s', event)) (hsmall : f.members.length < UInt32.size) :
    f.WellFormed := by
  rcases deploy_eq_ok_iff.mp h with ⟨members, hsome, henrol, hpositive, hsize, -, -⟩
  rcases enrol_eq_ok henrol List.nodup_nil with ⟨hmembers, hnodup, hvalid⟩
  rw [List.nil_append] at hmembers
  rw [hmembers] at hnodup hsize
  rw [List.length_map, UInt32.le_iff_toNat_le, UInt32.toNat_ofNat_of_lt' hsmall] at hsize
  refine ⟨hsome, hvalid, hnodup, ?_, hsize⟩
  exact Nat.pos_of_ne_zero fun hzero => hpositive (UInt32.toNat_inj.mp hzero)

/-! ### The roster along a run -/

/-- The setup and the numbers are those of the founding. -/
structure Founded (f : Founding) (m : Minutes) : Prop where
  setup : m.setup = (foundingMinutes f).setup
  numbers : m.numbers = (foundingMinutes f).numbers

/-- No move touches the setup or a number. -/
theorem Founded.step {f : Founding} {m m' : Minutes} {call : Call} {event : Event} (h : Founded f m)
    (hmoves : Moves m call event m') : Founded f m' := by
  cases hmoves with
  | migrate => exact h
  | execute hperf =>
      cases hperf with
      | propose | sign => exact ⟨h.setup, h.numbers⟩

theorem run_founded [AddressRule] {f : Founding} {start s : Store} {event : Event}
    {log : List (Entry Call Event)} (hdeploy : deploy f .empty = .ok (start, event))
    (hrun : Run Call.perform start s log) :
    ∃ m, m.KeptIn s ∧ Founded f m :=
  run_minutes (P := fun m _ => Founded f m) hrun (deploy_empty hdeploy).1 ⟨rfl, rfl⟩
    fun _ _ _ _ hfounded _ _ hmoves => hfounded.step hmoves

/-! ### Who is refused -/

section Refusals

variable {s : Store} {chain : Chain} {sender : Address} {e : Error}

theorem ofHost_eq_error_iff {α : Type} {result : Except Fault α} :
    ofHost result = .error e ↔ ∃ fault, result = .error fault ∧ .host fault = e :=
  mapError_eq_error_iff

theorem checkNoOpenRound_eq_error_iff {round : Option Round} {height : UInt64} :
    checkNoOpenRound round height = .error e ↔
      ∃ r, round = some r ∧ ¬r.isExpired height = true ∧ .notYetExpired r.expiry = e := by
  cases round with
  | none => exact ⟨nofun, nofun⟩
  | some r => simp only [checkNoOpenRound, ensure_eq_error_iff, Option.some.injEq, exists_eq_left']

theorem checkSignable_ne_unauthorized (round : Option Round) (nonce height : UInt64) :
    checkSignable round sender nonce height ≠ .error .unauthorized := by
  cases round with
  | none => nofun
  | some r =>
      simp only [checkSignable, ne_eq, bind_eq_error_iff, ensure_eq_error_iff, pure_eq_ok,
        reduceCtorEq, and_false, or_false, exists_false, not_false_eq_true]

theorem propose_eq_unauthorized_iff {expected : UInt64} {action actionData signature : String} :
    propose chain sender expected action actionData signature s = .error .unauthorized ↔
      isMember s sender = false := by
  simp only [propose, bind_eq_error_iff, ensure_eq_error_iff, ofHost_eq_error_iff,
    checkNoOpenRound_eq_error_iff, reduceCtorEq, and_false, and_true, exists_false, false_or,
    Bool.not_eq_true]
  -- Only the first check refuses with this error, and there may be no next nonce.
  refine or_iff_left ?_
  rintro ⟨-, -, -, -, _, -, -, -, current, -, -, -, _, -, h⟩
  cases hnext : Word.next? current with
  | none =>
      rw [hnext] at h
      cases h
  | some nonce =>
      rw [hnext] at h
      cases h

theorem sign_eq_unauthorized_iff {nonce : UInt64} {signature : String} :
    sign chain sender nonce signature s = .error .unauthorized ↔ isMember s sender = false := by
  simp only [sign, bind_eq_error_iff, ensure_eq_error_iff, ofHost_eq_error_iff, pure_eq_ok,
    checkSignable_ne_unauthorized, reduceCtorEq, and_false, and_true, exists_false, or_false,
    Bool.not_eq_true]

/-- A call is refused for not being a member's if the sender is not a member, and for
    no other reason. -/
theorem execute_eq_unauthorized_iff {message : Message} :
    execute chain sender message s = .error .unauthorized ↔ isMember s sender = false := by
  cases message with
  | propose => exact propose_eq_unauthorized_iff
  | sign => exact sign_eq_unauthorized_iff

end Refusals

/-! ### The roster from outside -/

section Queries

variable [AddressRule] {m : Minutes} {s : Store}

theorem query_member (h : m.KeptIn s) (chain : Chain) (position : UInt32) :
    query chain s (.member position) =
      match m.setup.members[position.toNat]? with
      | some member => .ok (.member member)
      | none => .error (.noMember position) := by
  rw [query, h.setup, ok_bind]
  rfl

theorem query_number (h : m.KeptIn s) (chain : Chain) {text : String}
    (hvalid : Address.Valid text) :
    query chain s (.number text) = .ok (.number ((m.numbers ⟨text⟩).getD 0)) := by
  have hcheck : (Address.check text).mapError Fault.address = .ok ⟨text⟩ :=
    mapError_eq_ok_iff.mpr (Address.check_eq_ok_iff.mpr ⟨hvalid, rfl⟩)
  rw [query, hcheck, ok_bind, h.numbers, ok_bind]
  rfl

end Queries

/-- In a run of a committee that was founded on an empty store, with fewer members than
    there are words, the setup is that of the founding. There are members, no two the
    same, and the threshold is a number of members. Who asks for a member by its place
    is told it, and who asks for the number of that member is told its place counted
    from one. Behind the last place there is no member, and an address that is none has
    the number zero. Calls are refused for not being a member's exactly if the sender is
    none. -/
theorem roster_is_fixed_bijection [AddressRule] {f : Founding} {start s : Store} {event : Event}
    {log : List (Entry Call Event)} (hdeploy : deploy f .empty = .ok (start, event))
    (hsmall : f.members.length < UInt32.size) (hrun : Run Call.perform start s log) :
    ∃ setup, setupItem.load s = .ok setup ∧
      setup = ⟨f.members.map Address.mk, f.threshold, f.timeout⟩ ∧
      setup.members ≠ [] ∧ setup.members.Nodup ∧ 0 < setup.threshold.toNat ∧
      setup.threshold.toNat ≤ setup.members.length ∧
      (∀ chain (i : UInt32) member, setup.members[i.toNat]? = some member →
        query chain s (.member i) = .ok (.member member) ∧
        ∃ n, query chain s (.number member.text) = .ok (.number n) ∧ n.toNat = i.toNat + 1) ∧
      (∀ chain (i : UInt32), setup.members.length ≤ i.toNat →
        query chain s (.member i) = .error (.noMember i)) ∧
      (∀ chain text, Address.Valid text → ⟨text⟩ ∉ setup.members →
        query chain s (.number text) = .ok (.number 0)) ∧
      ∀ chain sender message,
        execute chain sender message s = .error .unauthorized ↔ sender ∉ setup.members := by
  have hwell := deploy_wellFormed hdeploy hsmall
  rcases run_founded hdeploy hrun with ⟨m, hkept, hfounded⟩
  have hmembers : m.setup.members = f.members.map Address.mk := by rw [hfounded.setup]; rfl
  have hnumbers : m.numbers = numbering 1 m.setup.members := by
    rw [hfounded.numbers, hmembers]
    rfl
  have hlength : m.setup.members.length = f.members.length := by rw [hmembers, List.length_map]
  have hnodup : m.setup.members.Nodup := hmembers ▸ hwell.nodup
  refine ⟨m.setup, hkept.setup, hfounded.setup, ?_, hnodup, ?_, ?_, ?_, ?_, ?_, ?_⟩
  · rw [hmembers]
    exact fun hnil => hwell.members_ne (List.map_eq_nil_iff.mp hnil)
  · rw [hfounded.setup]
    exact hwell.threshold_pos
  · rw [hlength, hfounded.setup]
    exact hwell.threshold_le
  · intro chain i member hi
    have hmem : member ∈ f.members.map Address.mk := hmembers ▸ List.mem_of_getElem? hi
    rcases List.mem_map.mp hmem with ⟨text, htext, rfl⟩
    refine ⟨by rw [query_member hkept, hi], UInt32.ofNat (1 + i.toNat), ?_, ?_⟩
    · rw [query_number hkept chain (hwell.valid text htext), hnumbers,
        numbering_of_getElem? hnodup hi]
      rfl
    · -- The place is below the size, so the number behind it is a word.
      rcases List.getElem?_eq_some_iff.mp hi with ⟨hlt, -⟩
      rw [UInt32.toNat_ofNat_of_lt' (by omega), Nat.add_comm]
  · intro chain i hi
    rw [query_member hkept, List.getElem?_eq_none_iff.mpr hi]
  · intro chain text hvalid hmem
    rw [query_number hkept chain hvalid, hnumbers, numbering_eq_none_iff.mpr hmem]
    rfl
  · intro chain sender message
    rw [execute_eq_unauthorized_iff, hkept.isMember_eq, hnumbers, ← isSome_numbering _ 1,
      Bool.not_eq_true]

/-- After alice proposed and bob signed, bob is the second of the two members, there is
    no third, and carol has no number and is refused. -/
theorem roster_is_fixed_bijection_of_two :
    ∃ start event s log, deploy smallTerms .empty = .ok (start, event) ∧
      Run Call.perform start s log ∧
      query stillChain s (.member 1) = .ok (.member ⟨"bob"⟩) ∧
      (∃ n, query stillChain s (.number "bob") = .ok (.number n) ∧ n.toNat = 2) ∧
      query stillChain s (.member 2) = .error (.noMember 2) ∧
      query stillChain s (.number "carol") = .ok (.number 0) ∧
      execute stillChain ⟨"carol"⟩ (.sign 1 "third") s = .error .unauthorized := by
  rcases run_smallTerms with ⟨start, event, opened, s, proposed, signature, hdeploy, hrun, -⟩
  rcases roster_is_fixed_bijection hdeploy (by decide) hrun with
    ⟨setup, -, rfl, -, -, -, -, hplace, hbehind, hnone, hrefused⟩
  rcases hplace stillChain 1 ⟨"bob"⟩ rfl with ⟨hmember, hnumber⟩
  exact ⟨start, event, s, _, hdeploy, hrun, hmember, hnumber,
    hbehind stillChain 2 (Nat.le_refl 2), hnone stillChain "carol" (by decide) (by decide),
    (hrefused stillChain ⟨"carol"⟩ (.sign 1 "third")).mpr (by decide)⟩

end Committee

end BridgeCustody
