import BridgeCustody.Committee.Deploy
import BridgeCustody.Proofs.Committee.Minutes
import BridgeCustody.Proofs.Run

/-!
# The Committee From Its Founding On

A committee is founded on an empty store, and from then on it lives through calls
and migrations. `Moves` says what these do to the minutes, and `run_minutes`
turns what every move preserves into what holds of every run.

The founding stores a number for each member, one after the other. Membership is
later read off these numbers and not off the list of members, so that the two say
the same has to be shown once, and `deploy_empty` does.

## Main definitions

* `Call`, `Call.perform`: What a committee lives through.
* `Moves`: What a call does to the minutes.
* `numbering`: The numbers that a list of members is given.

## Theorems

* `KeptIn.moves`: A call that goes through is a move.
* `run_minutes`: What every move preserves ties the minutes to the log.
* `enrol_eq_ok`: Members are enrolled in order, and none twice.
* `deploy_empty`: The minutes after a founding on an empty store.
-/

namespace BridgeCustody

namespace Committee

/-- What a committee lives through once it is founded. -/
inductive Call
  | execute (chain : Chain) (sender : Address) (message : Message)
  | migrate

/-- A call on a store. A migration always goes through. -/
def Call.perform : Call → Store → Except Error (Store × Event)
  | execute chain sender message, s => Committee.execute chain sender message s
  | migrate, s => .ok (Committee.migrate s)

/-- What a call that goes through does to the minutes, and what it reports. -/
inductive Moves (m : Minutes) : Call → Event → Minutes → Prop
  | execute {chain sender message m' event}
      (hperf : Performs m chain sender message m' event) :
      Moves m (.execute chain sender message) event m'
  | migrate : Moves m .migrate .migrated m

/-- A call that goes through is a move. -/
theorem Minutes.KeptIn.moves {m : Minutes} {s s' : Store} {call : Call} {event : Event}
    (h : m.KeptIn s) (hcall : call.perform s = .ok (s', event)) :
    ∃ m', m'.KeptIn s' ∧ Moves m call event m' := by
  cases call with
  | execute chain sender message =>
      rcases h.execute hcall with ⟨m', hkept, hperf⟩
      exact ⟨m', hkept, .execute hperf⟩
  | migrate =>
      cases hcall
      exact ⟨m, h.migrate, .migrate⟩

theorem run_execute {start s s' : Store} {log : List (Entry Call Event)} {chain : Chain}
    {sender : Address} {message : Message} {event : Event}
    (hrun : Run Call.perform start s log)
    (hcall : execute chain sender message s = .ok (s', event)) :
    Run Call.perform start s' (log ++ [⟨s, .execute chain sender message, s', event⟩]) :=
  hrun.went hcall

/-- What ties minutes to the log holds at the end of a run if it holds of an
    empty log and every move extends it by its entry. -/
theorem run_minutes {m₀ : Minutes} {start s : Store} {log : List (Entry Call Event)}
    {P : Minutes → List (Entry Call Event) → Prop} (hrun : Run Call.perform start s log)
    (hkept : m₀.KeptIn start) (h0 : P m₀ [])
    (hstep : ∀ m m' e log, P m log → m.KeptIn e.before → m'.KeptIn e.after →
      Moves m e.call e.report m' → P m' (log ++ [e])) :
    ∃ m, m.KeptIn s ∧ P m log := by
  refine hrun.logged (P := fun s log => ∃ m, m.KeptIn s ∧ P m log) ⟨m₀, hkept, h0⟩ ?_
  rintro call s s' event log ⟨m, hm, hP⟩ hcall
  rcases hm.moves hcall with ⟨m', hm', hmoves⟩
  exact ⟨m', hm', hstep m m' ⟨s, call, s', event⟩ log hP hm hm' hmoves⟩

/-! ### Founding -/

/-- The numbers that a list of members is given, the first of them `first`. -/
def numbering (first : Nat) : List Address → Address → Option UInt32
  | [], _ => none
  | member :: rest, a =>
    (numbering (first + 1) rest a).or (if a = member then some (UInt32.ofNat first) else none)

theorem isSome_numbering (members : List Address) (first : Nat) (a : Address) :
    (numbering first members a).isSome = true ↔ a ∈ members := by
  induction members generalizing first with
  | nil => exact iff_of_false (fun h => Bool.noConfusion h) List.not_mem_nil
  | cons member rest ih =>
      rw [numbering, Option.isSome_or, Bool.or_eq_true, ih, List.mem_cons, or_comm]
      refine or_congr_left ?_
      by_cases hsame : a = member
      · rw [if_pos hsame]
        exact iff_of_true rfl hsame
      · rw [if_neg hsame]
        exact iff_of_false (fun h => Bool.noConfusion h) hsame

/-- After the numbers are stored, a number stands where there is one, and what was there
    before only where there is none. -/
theorem get?_number (members : List Address) (first : Nat) (s : Store) (a : Address) :
    (number first members s).get? (numberCell a).key =
      ((numbering first members a).map Wire.encode).or (s.get? (numberCell a).key) := by
  induction members generalizing first s with
  | nil => rfl
  | cons member rest ih =>
      rw [number, numbering, ih, Cell.get?_write]
      -- A later number of the same member would win, so the rest is looked at first.
      by_cases hsame : a = member
      · rw [hsame, if_pos rfl, if_pos rfl, Option.map_or, Option.or_assoc]
        rfl
      · have hother : (numberCell member).key ≠ (numberCell a).key := fun hkey =>
          hsame (numberCell_key_inj hkey).symm
        rw [if_neg hother, if_neg hsame, Option.or_none]

/-- Read as numbers, this is the same. -/
theorem read?_number (members : List Address) (first : Nat) (s : Store) (a : Address)
    (base : Option UInt32) (h : (numberCell a).read? s = .ok base) :
    (numberCell a).read? (number first members s) = .ok ((numbering first members a).or base) := by
  have hget := get?_number members first s a
  cases hnumber : numbering first members a with
  | none =>
      rw [hnumber, Option.map_none, Option.none_or] at hget
      rw [Option.none_or, (numberCell a).read?_congr hget, h]
  | some n =>
      rw [hnumber, Option.map_some, Option.some_or] at hget
      rw [Option.some_or, (numberCell a).read?_eq_some hget]

/-- Members are enrolled in the order of the list, each a valid address and none
    of them twice. -/
theorem enrol_eq_ok [AddressRule] {texts : List String} {enrolled members : List Address}
    (h : enrol enrolled texts = .ok members) (hnodup : enrolled.Nodup) :
    members = enrolled ++ texts.map Address.mk ∧ members.Nodup ∧
      ∀ text ∈ texts, Address.Valid text := by
  induction texts generalizing enrolled with
  | nil =>
      cases h
      rw [List.map_nil, List.append_nil]
      exact ⟨rfl, hnodup, fun _ hmem => absurd hmem List.not_mem_nil⟩
  | cons text rest ih =>
      simp only [enrol, bind_eq_ok_iff, ofHost_eq_ok_iff, mapError_eq_ok_iff,
        Address.check_eq_ok_iff, ensure_eq_ok_iff, exists_const] at h
      rcases h with ⟨member, ⟨hvalid, htext⟩, hnew, hrest⟩
      have hmember : member = ⟨text⟩ := by
        cases member
        cases htext
        rfl
      rw [hmember] at hnew hrest
      -- A member that is new keeps the members enrolled so far different.
      rcases ih hrest (nodup_snoc hnodup hnew) with ⟨hmembers, hmembers_nodup, hvalid_rest⟩
      refine ⟨?_, hmembers_nodup, ?_⟩
      · rw [hmembers, List.append_assoc]
        rfl
      · intro text' hmem
        rcases List.mem_cons.mp hmem with rfl | hmem
        · exact hvalid
        · exact hvalid_rest text' hmem

/-- What a founding comes to. -/
theorem deploy_eq_ok_iff [AddressRule] {f : Founding} {s s' : Store} {event : Event} :
    deploy f s = .ok (s', event) ↔
      ∃ members, f.members ≠ [] ∧ enrol [] f.members = .ok members ∧ f.threshold ≠ 0 ∧
        f.threshold ≤ UInt32.ofNat members.length ∧
        s' = nonceItem.write 0 (setupItem.write ⟨members, f.threshold, f.timeout⟩
          (number 1 members (Release.item.write .ofCommittee s))) ∧
        event = .founded (UInt32.ofNat members.length) f.threshold f.timeout := by
  simp only [deploy, bind_eq_ok_iff, ensure_eq_ok_iff, pure_eq_ok, Except.ok.injEq,
    Prod.mk.injEq, exists_const, exists_and_left]
  constructor
  · intro h
    rcases h with ⟨hsome, members, henrol, ⟨hpositive, hsize⟩, rfl, rfl⟩
    exact ⟨hsome, members, henrol, hpositive, hsize, rfl, rfl⟩
  · intro h
    rcases h with ⟨hsome, members, henrol, hpositive, hsize, rfl, rfl⟩
    exact ⟨hsome, members, henrol, ⟨hpositive, hsize⟩, rfl, rfl⟩

/-- The minutes of a committee that was just founded. -/
def foundingMinutes (f : Founding) : Minutes where
  setup := ⟨f.members.map Address.mk, f.threshold, f.timeout⟩
  numbers := numbering 1 (f.members.map Address.mk)
  nonce := 0
  round := none

theorem get?_number_of_ne (members : List Address) (first : Nat) (s : Store) (key : Bytes)
    (h : ∀ a, (numberCell a).key ≠ key) : (number first members s).get? key = s.get? key := by
  induction members generalizing first s with
  | nil => rfl
  | cons member rest ih =>
      rw [number, ih]
      exact Cell.get?_write_of_ne _ _ _ (h member)

/-- After a founding on an empty store the minutes are those of a fresh committee,
    its members are different, and its threshold is within its size. -/
theorem deploy_empty [AddressRule] {f : Founding} {s : Store} {event : Event}
    (h : deploy f .empty = .ok (s, event)) :
    (foundingMinutes f).KeptIn s ∧ (f.members.map Address.mk).Nodup ∧ f.members ≠ [] ∧
      f.threshold ≠ 0 ∧ f.threshold ≤ UInt32.ofNat f.members.length := by
  rcases deploy_eq_ok_iff.mp h with ⟨members, hsome, henrol, hpositive, hsize, rfl, -⟩
  -- The members enrolled are the list itself, or the founding would have failed.
  rcases enrol_eq_ok henrol List.nodup_nil with ⟨hmembers, hnodup, -⟩
  rw [List.nil_append] at hmembers
  rw [hmembers] at hnodup hsize ⊢
  rw [List.length_map] at hsize
  refine ⟨⟨?_, ?_, ?_, ?_⟩, hnodup, hsome, hpositive, hsize⟩
  · rw [setupItem.load_write_of_ne nonceItem.toCell _ _ (by decide)]
    exact Item.load_write _ _ _
  · intro a
    rw [Cell.read?_write_of_ne nonceItem.toCell _ _ _ (nonce_key_ne_number a),
      Cell.read?_write_of_ne setupItem.toCell _ _ _ (setup_key_ne_number a)]
    -- Before the numbers are stored nobody has one.
    have hnone : (numberCell a).read? (Release.item.write .ofCommittee .empty) = .ok none := by
      rw [Cell.read?_write_of_ne Release.item.toCell _ _ _ (release_key_ne_number a)]
      exact Cell.read?_eq_none _ (Store.get?_empty _)
    rw [read?_number _ _ _ _ _ hnone, Option.or_none]
    rfl
  · exact Item.load_write _ _ _
  · rw [Cell.read?_write_of_ne nonceItem.toCell _ _ _ (by decide),
      Cell.read?_write_of_ne setupItem.toCell _ _ _ (by decide)]
    refine Cell.read?_eq_none _ ?_
    rw [get?_number_of_ne _ _ _ _ fun a => (round_key_ne_number a).symm]
    exact (Cell.get?_write_of_ne _ _ _ (by decide)).trans (Store.get?_empty _)

/-! ### A small committee -/

/-- Terms of a committee of two, both of whom have to sign. -/
def smallTerms : Founding where
  members := ["alice", "bob"]
  threshold := 2
  timeout := 5

/-- A chain at block ten without tokens. -/
def stillChain : Chain :=
  ⟨⟨"committee"⟩, 10, fun _ _ => .missing⟩

theorem deploy_smallTerms : ∃ s event, deploy smallTerms .empty = .ok (s, event) :=
  ⟨_, _, deploy_eq_ok_iff.mpr ⟨[⟨"alice"⟩, ⟨"bob"⟩], List.cons_ne_nil _ _, rfl, by decide,
    by decide, rfl, rfl⟩⟩

/-- The minutes of that committee after alice made a proposal at block ten. -/
def openedMinutes : Minutes :=
  { foundingMinutes smallTerms with
    nonce := 1
    round := some
      ((foundingMinutes smallTerms).opening stillChain ⟨"alice"⟩ 1 "pay" "ten" "first") }

/-- Its minutes after bob has signed as well. -/
def signedMinutes : Minutes :=
  { openedMinutes with
    round := some (((foundingMinutes smallTerms).opening stillChain ⟨"alice"⟩ 1 "pay" "ten"
      "first").signedBy ⟨"bob"⟩ "second") }

/-- Bob can sign until block fifteen, five blocks after the proposal. -/
theorem run_smallTerms :
    ∃ start event opened signed proposed signature,
      deploy smallTerms .empty = .ok (start, event) ∧
      Run Call.perform start signed
        [⟨start, .execute stillChain ⟨"alice"⟩ (.propose 0 "pay" "ten" "first"), opened, proposed⟩,
          ⟨opened, .execute { stillChain with height := 15 } ⟨"bob"⟩ (.sign 1 "second"), signed,
            signature⟩] ∧
      openedMinutes.KeptIn opened ∧ signedMinutes.KeptIn signed := by
  rcases deploy_smallTerms with ⟨start, event, hdeploy⟩
  have hproposes : Performs (foundingMinutes smallTerms) stillChain ⟨"alice"⟩
      (.propose 0 "pay" "ten" "first") openedMinutes _ :=
    .propose ⟨by decide, by decide, nofun, by decide, show UInt64.toNat 1 = 0 + 1 from rfl⟩
  rcases (deploy_empty hdeploy).1.proceeds hproposes with ⟨opened, hpropose, hkept⟩
  have hsigns : Performs openedMinutes { stillChain with height := 15 } ⟨"bob"⟩
      (.sign 1 "second") signedMinutes _ :=
    .sign ⟨by decide, rfl, rfl, by decide, by decide⟩
  rcases hkept.proceeds hsigns with ⟨signed, hsign, hkept'⟩
  exact ⟨start, event, opened, signed, _, _, hdeploy,
    run_execute (run_execute .here hpropose) hsign, hkept, hkept'⟩

end Committee

end BridgeCustody
