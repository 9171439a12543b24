import BridgeCustody.Proofs.Ledger.Value
import BridgeCustody.Proofs.Messages
import Mathlib.Data.List.Nodup

/-!
# Swap Ids Are Fresh and Leave No Gap

To everybody but the ledger a swap is its id. The other side carries it out under
that id, a refund names it, and the record of refunds is kept by it. Two swaps
with one id would be one swap there, and an id that no swap was given would be
waited for in vain. So the ids have to be the numbers from some first one on, each
given once.

The value holds only the next id, and what the world knows of an id is a field of
a report. Along a run the two are tied by `Issued`: the next id is the first one
moved by the number of swaps in the log, and the ids that these reported, in their
order, are the numbers in between. It does not matter which way a swap came in. A
credit announced by the token is a swap if its payload says so, and it issues an
id like any other.

Everything else leaves the next id alone, and a refused call leaves all of the
store alone. That goes for the swap that is refused because there is no id left
for it. The supply is raised before this is noticed, but only in a value that is
never stored.

## Main definitions

* `Message.swaps`, `Call.swaps`: Whether a call is for a swap.
* `swapsIn`, `swapIdsIn`: The swaps of a log, and the ids that they reported.
* `Issued`: The next id and the reported ids are the history.

## Theorems

* `Performs.swap_or_not`: What each operation does about ids.
* `Issued.step`: A call keeps ids and history together.
* `run_issued`: So does a run, wherever it starts.
* `execute_swap_exhausted`: Without a next id there are no swaps.
* `swap_ids_are_consecutive`: All this for the runs from a deployment.
-/

namespace BridgeCustody

namespace Ledger

/-- Whether a message asks for a swap, directly or by the payload of a credit. -/
def Message.swaps : Message → Bool
  | .swap _ _ => true
  | .receive _ _ payload =>
    match Hook.ofPayload payload with
    | .ok (.swap _) => true
    | _ => false
  | _ => false

theorem Message.swaps_receive {owner destination : String} {amount : Amount} {payload : Payload}
    (h : Hook.ofPayload payload = .ok (.swap destination)) :
    (receive owner amount payload).swaps = true := by
  rw [swaps, h]

/-- Whether a call asks for a swap. -/
def Call.swaps : Call → Bool
  | execute _ _ message => message.swaps
  | migrate => false

/-- How many swaps went through in the course of a log. -/
def swapsIn (log : List (Entry Call Receipt)) : Nat :=
  log.countP (·.call.swaps)

/-- The ids that these swaps reported, in their order. -/
def swapIdsIn (log : List (Entry Call Receipt)) : List (Option String) :=
  (log.filter (·.call.swaps)).map (·.report.event.attributes.lookup "swap_id")

theorem swapsIn_snoc (log : List (Entry Call Receipt)) (e : Entry Call Receipt) :
    swapsIn (log ++ [e]) = swapsIn log + if e.call.swaps = true then 1 else 0 :=
  countP_snoc _

theorem swapIdsIn_snoc (log : List (Entry Call Receipt)) (e : Entry Call Receipt) :
    swapIdsIn (log ++ [e]) = swapIdsIn log ++
      if e.call.swaps = true then [e.report.event.attributes.lookup "swap_id"] else [] := by
  rw [swapIdsIn, List.filter_append, List.map_append, List.filter_cons, List.filter_nil]
  split <;> rfl

/-- The numerals of so many numbers from a first one on. -/
def numerals (first count : Nat) : List (Option String) :=
  (List.range' first count).map fun n => some (Decimal.text n)

theorem numerals_succ (first count : Nat) :
    numerals first (count + 1) =
      numerals first count ++ [some (Decimal.text (first + count))] := by
  rw [numerals, List.range'_1_concat, List.map_append]
  rfl

/-- No numeral among them comes twice. -/
theorem nodup_numerals (first count : Nat) : (numerals first count).Nodup := by
  refine List.Nodup.map ?_ List.nodup_range'
  intro m n h
  exact Decimal.text_inj.mp (Option.some.inj h)

/-- A report says that it is of a swap only if it is. -/
theorem Event.lookup_action_eq_swap_iff {event : Event} :
    event.attributes.lookup "action" = some "swap" ↔
      ∃ id owner destination amount, event = .swapped id owner destination amount := by
  constructor
  · intro h
    cases event with
    | swapped => exact ⟨_, _, _, _, rfl⟩
    | pauseMoved surface => cases surface <;> simp [attributes, Surface.action] at h
    | _ => simp [attributes] at h
  · rintro ⟨id, owner, destination, amount, rfl⟩
    rfl

section Rules

variable [AddressRule]
variable {g : Registry} {chain : Chain} {sender : Address} {l l' : Ledger} {message : Message}
  {out : Outcome}

/-- A swap that goes through takes the next id and reports it. Whatever else goes
    through leaves the next id as it is, and is not reported as a swap. -/
theorem Performs.swap_or_not (h : Performs g chain sender l message out) :
    (message.swaps = true ∧ out.ledger.nextSwapId.toNat = l.nextSwapId.toNat + 1 ∧
      ∃ owner destination amount, out.event = .swapped l.nextSwapId owner destination amount) ∨
    (message.swaps = false ∧ out.ledger.nextSwapId = l.nextSwapId ∧
      ∀ id owner destination amount, out.event ≠ .swapped id owner destination amount) := by
  cases h with
  | swap h => exact .inl ⟨rfl, h.next_eq, _, _, _, rfl⟩
  | receiveSwap _ _ hpayload h =>
      exact .inl ⟨Message.swaps_receive hpayload, h.next_eq, _, _, _, rfl⟩
  | receiveDeposit _ _ hpayload =>
      refine .inr ⟨?_, rfl, nofun⟩
      rw [Message.swaps, hpayload]
  | _ => exact .inr ⟨rfl, rfl, nofun⟩

/-- The same for a call that goes through. -/
theorem Turns.swap_or_not {s : Store} {call : Call} {receipt : Receipt}
    (h : Turns s l call receipt l') :
    (call.swaps = true ∧ l'.nextSwapId.toNat = l.nextSwapId.toNat + 1 ∧
      ∃ owner destination amount,
        receipt.event = .swapped l.nextSwapId owner destination amount) ∨
    (call.swaps = false ∧ l'.nextSwapId = l.nextSwapId ∧ ∀ id owner destination amount,
      receipt.event ≠ .swapped id owner destination amount) := by
  cases h with
  | execute _ hperf => exact hperf.swap_or_not
  | migrate => exact .inr ⟨rfl, rfl, nofun⟩

end Rules

/-- In a log behind a point at which `first` was the next id, the next id and the
    ids reported are what the swaps in it make of `first`, and the reports of swaps
    are those that say so. -/
structure Issued (first : Nat) (l : Ledger) (log : List (Entry Call Receipt)) : Prop where
  next_eq : l.nextSwapId.toNat = first + swapsIn log
  ids_eq : swapIdsIn log = numerals first (swapsIn log)
  told : ∀ e ∈ log,
    e.call.swaps = true ↔ e.report.event.attributes.lookup "action" = some "swap"

namespace Issued

variable {first : Nat} {l l' : Ledger} {log : List (Entry Call Receipt)}

theorem nil (l : Ledger) : Issued l.nextSwapId.toNat l [] :=
  ⟨rfl, rfl, List.forall_mem_nil _⟩

/-- A call that goes through keeps ids and history together. -/
theorem step [AddressRule] {e : Entry Call Receipt} (h : Issued first l log)
    (hturns : Turns e.before l e.call e.report l') : Issued first l' (log ++ [e]) := by
  have hcount := swapsIn_snoc log e
  rcases hturns.swap_or_not with ⟨hswaps, hnext, owner, destination, amount, hevent⟩ |
    ⟨hswaps, hnext, hevent⟩
  · -- The id is the one that was next, so it continues the numbers so far.
    rw [if_pos hswaps] at hcount
    refine ⟨?_, ?_, forall_mem_snoc.mpr ⟨h.told, ?_⟩⟩
    · rw [hnext, h.next_eq, hcount, Nat.add_assoc]
    · have hid : e.report.event.attributes.lookup "swap_id" =
          some (Decimal.text l.nextSwapId.toNat) := by
        rw [hevent]
        rfl
      rw [hcount, numerals_succ, swapIdsIn_snoc, if_pos hswaps, hid, h.ids_eq, h.next_eq]
    · exact iff_of_true hswaps (Event.lookup_action_eq_swap_iff.mpr ⟨_, _, _, _, hevent⟩)
  · have hfalse : ¬e.call.swaps = true := by rw [hswaps]; exact Bool.false_ne_true
    rw [if_neg hfalse, Nat.add_zero] at hcount
    refine ⟨?_, ?_, forall_mem_snoc.mpr ⟨h.told, iff_of_false hfalse ?_⟩⟩
    · rw [hnext, h.next_eq, hcount]
    · rw [swapIdsIn_snoc, if_neg hfalse, List.append_nil, hcount, h.ids_eq]
    · intro haction
      rcases Event.lookup_action_eq_swap_iff.mp haction with ⟨_, _, _, _, h⟩
      exact hevent _ _ _ _ h

end Issued

section Runs

variable [AddressRule] {start mid s : Store} {log : List (Entry Call Receipt)} {l : Ledger}

/-- Along a run the ids are what its swaps make of the id that was next at its
    start. -/
theorem run_issued (hrun : Run Call.perform start s log) (hload : item.load start = .ok l) :
    ∃ l', item.load s = .ok l' ∧ Issued l.nextSwapId.toNat l' log :=
  run_value hrun hload (.nil l) fun _ _ _ _ hissued hturns => hissued.step hturns

/-- Without a next id every swap is refused, whoever asks for it and how. -/
theorem execute_swap_exhausted (hload : item.load s = .ok l) (hlast : l.nextSwapId = Word.never)
    {call : Call} (hswaps : call.swaps = true) : ∃ e, call.perform s = .error e := by
  cases hcall : call.perform s with
  | error e => exact ⟨e, rfl⟩
  | ok result =>
      rcases Call.turns hload hcall with ⟨l', -, hturns⟩
      rcases hturns.swap_or_not with ⟨-, hnext, -⟩ | ⟨hfalse, -⟩
      · -- The id behind the largest word would not be a word.
        have hsize := l'.nextSwapId.toNat_lt_size
        rw [hlast, Word.toNat_never] at hnext
        omega
      · rw [hswaps] at hfalse
        cases hfalse

/-- However many swaps are tried without a next id, they leave the store as it was. -/
theorem run_swaps_exhausted (hload : item.load mid = .ok l) (hlast : l.nextSwapId = Word.never)
    (hrun : Run Call.perform mid s log) (hswaps : ∀ e ∈ log, e.call.swaps = true) : s = mid := by
  refine hrun.invariant_of_forall (P := fun s => s = mid) rfl hswaps ?_
  rintro call _ s' report rfl hcall hone
  rcases execute_swap_exhausted hload hlast hone with ⟨e, he⟩
  cases he.symm.trans hcall

/-- In a run from a deployment, the ids that the swaps reported, whichever way they
    came in, are the numbers from the first id on, in order and without a gap, and
    none comes twice. The next id is the first one moved by the number of swaps, and
    behind any point of the run it only moves on, again by the swaps that go through.
    When the next id is the largest word, every swap is refused, and however many are
    tried, the store stays the same and with it the supply. -/
theorem swap_ids_are_consecutive {chain : Chain} {deployer : Address} {d : Deployment}
    {found : Store} {receipt : Receipt}
    (hdeploy : deploy chain deployer d found = .ok (start, receipt))
    (hrun : Run Call.perform start s log) :
    (∀ e ∈ log,
      e.call.swaps = true ↔ e.report.event.attributes.lookup "action" = some "swap") ∧
    swapIdsIn log = numerals (d.nextSwapId.getD 0).toNat (swapsIn log) ∧
    (swapIdsIn log).Nodup ∧
    ∃ l, item.load s = .ok l ∧
      l.nextSwapId.toNat = (d.nextSwapId.getD 0).toNat + swapsIn log ∧
      (∀ t later, Run Call.perform s t later → ∃ l', item.load t = .ok l' ∧
        swapIdsIn later = numerals l.nextSwapId.toNat (swapsIn later) ∧
        l'.nextSwapId.toNat = l.nextSwapId.toNat + swapsIn later) ∧
      (l.nextSwapId = Word.never →
        (∀ call : Call, call.swaps = true → ∃ e, call.perform s = .error e) ∧
        ∀ t later, Run Call.perform s t later → (∀ e ∈ later, e.call.swaps = true) → t = s) := by
  rcases run_issued hrun (deploy_load hdeploy) with ⟨l, hl, hissued⟩
  refine ⟨hissued.told, hissued.ids_eq, ?_, l, hl, hissued.next_eq, ?_, ?_⟩
  · rw [hissued.ids_eq]
    exact nodup_numerals _ _
  · intro t later hlater
    rcases run_issued hlater hl with ⟨l', hl', hissued'⟩
    exact ⟨l', hl', hissued'.ids_eq, hissued'.next_eq⟩
  · intro hlast
    refine ⟨fun call hswaps => execute_swap_exhausted hl hlast hswaps, ?_⟩
    intro t later hlater hswaps
    exact run_swaps_exhausted hl hlast hlater hswaps

end Runs

/-- Small terms under which the first id is two short of the largest word. -/
def lateTerms : Deployment :=
  { smallTerms with nextSwapId := some (Word.never - 2) }

/-- On a ledger under such terms one swap comes in directly and one as a credit. They
    are given that id and the one behind it, and then there is none left for a
    third. -/
theorem swap_ids_are_consecutive_of_two :
    ∃ start receipt s log,
      deploy stillChain ⟨"deployer"⟩ lateTerms .empty = .ok (start, receipt) ∧
      Run Call.perform start s log ∧ swapsIn log = 2 ∧
      swapIdsIn log = numerals (UInt64.size - 3) 2 ∧
      ∃ e, execute stillChain ⟨"customer"⟩ (.swap ⟨5, by decide⟩ "remote") s = .error e := by
  rcases deploy_empty_of_grants_nil stillChain ⟨"deployer"⟩ lateTerms (by decide)
    (Nat.le_of_ble_eq_true rfl) ⟨Nat.le_of_ble_eq_true rfl, Nat.le_of_ble_eq_true rfl⟩ rfl with
    ⟨start, receipt, hdeploy, hkept⟩
  have hfirst : Swappable (fresh ⟨"token"⟩ 10 lateTerms) stillChain ⟨5, by decide⟩ "remote"
      ⟨5, by decide⟩ (Word.never - 1) :=
    ⟨rfl, by decide, by decide, by decide, by decide, rfl, by decide, by decide⟩
  rcases hkept.proceeds rfl (.swap hfirst : Performs _ _ ⟨"customer"⟩ _ _ _) with
    ⟨s₁, hswap, hkept₁⟩
  have hsecond : Swappable
      { fresh ⟨"token"⟩ 10 lateTerms with
        supply := ⟨5, by decide⟩, nextSwapId := Word.never - 1 }
      stillChain ⟨5, by decide⟩ "remote" ⟨10, by decide⟩ Word.never :=
    ⟨rfl, by decide, by decide, by decide, by decide, rfl, by decide, by decide⟩
  have hpayload := Hook.ofPayload_encode (.swap "remote")
  have howner : Address.Valid "customer" := by decide
  rcases hkept₁.proceeds rfl
    (.receiveSwap rfl howner hpayload hsecond : Performs _ _ ⟨"token"⟩ _ _ _) with
    ⟨s, hcredit, hkept₂⟩
  have hrun := run_execute (run_execute .here hswap) hcredit
  rcases swap_ids_are_consecutive hdeploy hrun with ⟨-, hids, -, l, hl, hnext, -, hlast⟩
  cases hl.symm.trans hkept₂.ledger
  -- The next id has come from the first to the largest word, so there were two swaps.
  have htwo : swapsIn _ = 2 := Nat.add_left_cancel (hnext.symm.trans rfl)
  rw [htwo] at hids
  exact ⟨start, receipt, s, _, hdeploy, hrun, htwo, hids,
    (hlast rfl).1 (.execute stillChain ⟨"customer"⟩ (.swap ⟨5, by decide⟩ "remote")) rfl⟩

end Ledger

end BridgeCustody
