import BridgeCustody.Proofs.Ledger.Conditions
import BridgeCustody.Proofs.Ledger.History
import Mathlib.Data.List.TakeWhile

/-!
# The Forward Swap, Specified

Everybody may swap, so everybody has to be able to find out beforehand whether a swap
will go through, and afterwards why it did not. Eight conditions decide, and this is
the list of them in the order in which they are looked at. For a wallet the order is
no detail. The refusal it gets is about the first condition that is missing, and it
must not conclude anything about those behind it.

Two places in the list are not where one would put them first. The sum of supply and
amount is looked at before the cap, because it is the sum that is compared with the
cap. A cap that no sum can exceed does not make the sum an amount. And the last swap
id is looked at behind everything, when the supply is already raised. That this is no
harm is part of the specification: a refused call has no store to leave it in.

A swap that goes through changes two numbers and nothing else, asks the token for one
transfer, and is reported under the id that was next.

## Main definitions

* `Text.trim`: A text without the white space at its ends.
* `swapConditions`: What decides about a swap.

## Theorems

* `Text.trim_eq_empty_iff`: Nothing is left of a blank text, and only of such.
* `checks_bookSwap`: The bookkeeping checks all but the deletion.
* `swap_specified`: When a swap goes through, what refuses it, and what it does.
-/

namespace BridgeCustody

namespace Text

/-- A text without the white space at its ends. -/
def trim (s : String) : String :=
  String.ofList ((s.toList.dropWhile isSpace).reverse.dropWhile isSpace).reverse

/-- Trimming leaves nothing of a blank text, and only of such. -/
theorem trim_eq_empty_iff {s : String} : trim s = "" ↔ isBlank s = true := by
  have hempty : trim s = "" ↔ ∀ c ∈ s.toList.dropWhile isSpace, isSpace c = true := by
    rw [trim, ← String.toList_inj, String.toList_ofList, String.toList_empty,
      List.reverse_eq_nil_iff, List.dropWhile_eq_nil_iff]
    simp only [List.mem_reverse]
  have hblank : isBlank s = true ↔ s.toList.dropWhile isSpace = [] := by
    rw [isBlank, List.all_eq_true, List.dropWhile_eq_nil_iff]
  rw [hempty, hblank]
  -- What is left of the front does not start with white space, if it starts at all.
  cases hrest : s.toList.dropWhile isSpace with
  | nil => exact iff_of_true nofun rfl
  | cons c cs =>
      have hfirst : isSpace c = false := by
        have hhead := List.head_dropWhile_not isSpace (l := s.toList) (by simp [hrest])
        simpa only [hrest, List.head_cons] using hhead
      refine iff_of_false (fun hall => ?_) nofun
      rw [hall c List.mem_cons_self] at hfirst
      cases hfirst

end Text

namespace Ledger

/-- What decides about a swap, in the order in which it is looked at. -/
def swapConditions (chain : Chain) (l : Ledger) (amount : Amount) (destination : String) :
    List (Condition Error) :=
  [.of (l.deleted = false) .deleted,
   .of (isPaused l.publicPause chain.height = false) .paused,
   .of (amount ≠ .zero) (.invalidAmount .zeroSwap),
   .of (Text.trim destination ≠ "") .blankDestination,
   .of (l.swapLimits.min ≤ amount ∧ amount ≤ l.swapLimits.max)
     (.invalidAmount (.outsideSwapLimits amount l.swapLimits)),
   .of (l.supply.toNat + amount.toNat < Amount.size) (.noSum l.supply amount),
   .of (l.supply.toNat + amount.toNat ≤ l.cap.toNat) (.capExceeded l.supply amount l.cap),
   .of (l.nextSwapId.toNat < UInt64.size - 1) (.host .swapIdsExhausted)]

section Swaps

variable {chain : Chain} {sender : Address} {l : Ledger} {amount : Amount} {destination : String}
  {s s' : Store} {receipt : Receipt}

theorem checks_notBlank (destination : String) :
    Checks (ensure (Text.isBlank destination = false) Error.blankDestination)
      [.of (Text.trim destination ≠ "") .blankDestination] := by
  refine checks_of_iff fun e => ?_
  rw [ensure_eq_error_iff, Bool.not_eq_false, not_not, Text.trim_eq_empty_iff]

/-- The bookkeeping of a swap checks what decides about it, but for the deletion. -/
theorem checks_bookSwap :
    Checks (l.bookSwap chain sender amount destination)
      (swapConditions chain l amount destination).tail := by
  refine (checks_checkOpen l .publicApi chain.height).cons fun _ _ => ?_
  refine Checks.cons checks_ensure fun _ _ => ?_
  refine (checks_notBlank destination).cons fun _ _ => ?_
  refine Checks.cons checks_ensure fun _ _ => ?_
  exact (checks_raiseSupply l amount).bind fun raised _ => checks_next? l.nextSwapId _ _

theorem checks_swap [AddressRule] (hload : item.load s = .ok l) :
    Checks (execute chain sender (.swap amount destination) s)
      (swapConditions chain l amount destination) :=
  checks_execute hload (Checks.bind_ok checks_bookSwap _)

/-- A swap that goes through changes two numbers, pulls its amount from the sender,
    and is reported under the id that was next. -/
theorem swap_eq_ok [AddressRule] (hload : item.load s = .ok l)
    (hcall : execute chain sender (.swap amount destination) s = .ok (s', receipt)) :
    ∃ l', item.load s' = .ok l' ∧
      l'.supply.toNat = l.supply.toNat + amount.toNat ∧
      l'.nextSwapId.toNat = l.nextSwapId.toNat + 1 ∧
      l' = { l with supply := l'.supply, nextSwapId := l'.nextSwapId } ∧
      receipt = ⟨some (.plain l.token (.transferFrom sender chain.self amount)),
        .swapped l.nextSwapId sender destination amount⟩ ∧
      ∀ key, key ≠ item.key → s'.get? key = s.get? key := by
  rcases execute_eq_ok_iff.mp hcall with ⟨l₀, out, hload₀, -, hperf, rfl, rfl⟩
  cases hload.symm.trans hload₀
  cases hperf with
  | swap h =>
      refine ⟨_, Outcome.load_commit _ s, h.supply_eq, h.next_eq, rfl, rfl, ?_⟩
      intro key hkey
      exact Outcome.get?_commit_of_ne _ s hkey.symm

/-- On every store that holds a ledger, a swap goes through if all conditions hold and
    only then, and otherwise it is refused with the first that does not. If it goes
    through, the supply has risen by the amount and the next id by one, the rest of
    the value and of the store is the same, the token is asked for one transfer from
    the sender to the ledger, and the report names the id that was next. -/
theorem swap_specified [AddressRule] (hload : item.load s = .ok l) (chain : Chain)
    (sender : Address) (amount : Amount) (destination : String) :
    ((∃ s' receipt, execute chain sender (.swap amount destination) s = .ok (s', receipt)) ↔
      ∀ c ∈ swapConditions chain l amount destination, c.Holds) ∧
    (∀ e, execute chain sender (.swap amount destination) s = .error e ↔
      FirstFails (swapConditions chain l amount destination) e) ∧
    ∀ s' receipt, execute chain sender (.swap amount destination) s = .ok (s', receipt) →
      ∃ l', item.load s' = .ok l' ∧
        l'.supply.toNat = l.supply.toNat + amount.toNat ∧
        l'.nextSwapId.toNat = l.nextSwapId.toNat + 1 ∧
        l' = { l with supply := l'.supply, nextSwapId := l'.nextSwapId } ∧
        receipt = ⟨some (.plain l.token (.transferFrom sender chain.self amount)),
          .swapped l.nextSwapId sender destination amount⟩ ∧
        ∀ key, key ≠ item.key → s'.get? key = s.get? key := by
  refine ⟨?_, checks_swap hload, fun s' receipt => swap_eq_ok hload⟩
  rw [← (checks_swap hload).exists_ok_iff, Prod.exists]

end Swaps

/-- Under small terms three can be swapped, but not to a destination of white space,
    and a swap that is both too large and without destination is refused for the
    destination. -/
theorem swap_specified_of_three :
    ∃ s l, item.load s = .ok l ∧
      (∃ s' receipt l', execute stillChain ⟨"customer"⟩ (.swap ⟨3, by decide⟩ "remote") s =
          .ok (s', receipt) ∧
        item.load s' = .ok l' ∧ l'.supply.toNat = 3 ∧ l'.nextSwapId.toNat = 2) ∧
      execute stillChain ⟨"customer"⟩ (.swap ⟨101, by decide⟩ " \t") s =
        .error .blankDestination := by
  rcases deploy_smallTerms with ⟨s, -, -, hkept⟩
  have hload := hkept.ledger
  have hholds : ∀ c ∈ swapConditions stillChain (smallBooks .zero).ledger ⟨3, by decide⟩ "remote",
      c.Holds := by
    simp only [swapConditions, List.forall_mem_cons, Condition.holds_of]
    exact ⟨rfl, rfl, by decide, by decide, by decide, by decide, by decide, by decide,
      List.forall_mem_nil _⟩
  rcases swap_specified hload stillChain ⟨"customer"⟩ ⟨3, by decide⟩ "remote" with
    ⟨hwent, -, hdoes⟩
  rcases hwent.mpr hholds with ⟨s', receipt, hcall⟩
  rcases hdoes s' receipt hcall with ⟨l', hload', hsupply, hnext, -⟩
  rcases swap_specified hload stillChain ⟨"customer"⟩ ⟨101, by decide⟩ " \t" with
    ⟨-, hrefused, -⟩
  refine ⟨s, _, hload, ⟨s', receipt, l', hcall, hload', hsupply, hnext⟩, (hrefused _).mpr ?_⟩
  -- Three conditions hold, and the fourth is about the destination.
  simp only [swapConditions, firstFails_of_cons_iff]
  exact .inr ⟨rfl, .inr ⟨rfl, .inr ⟨by decide, .inl ⟨by decide, trivial⟩⟩⟩⟩

end Ledger

end BridgeCustody
