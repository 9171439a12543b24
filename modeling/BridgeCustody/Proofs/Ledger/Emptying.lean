import BridgeCustody.Proofs.Ledger.Excess
import BridgeCustody.Proofs.Ledger.Headroom
import Mathlib.Algebra.GroupWithZero.Nat

/-!
# Nothing Is Locked

Tokens that come into the ledger are booked under the supply, under the fees, or not at
all, and each of the three has its own way out. That there are three ways does not yet
mean that everything gets out. The balance could be less than the parts, a part could be
in the way of another, or a setting could be in the way of all.

None of this is so. The parts make up the balance, because the ledger is covered, and a
payment of one part leaves the others as they were. For the excess this needs a reason,
since it is not stored. It is computed from the balance and from the other two, and a
payment of the supply lowers both by the same amount. So the parts can be paid in any
order, and the one thing to watch is that a part of nothing is refused and has to be left
out.

What the withdrawals look at besides the part is the role of the sender and whether the
target is valid. They read no height, no pause, no limit, no allowance and no eon, so in
whatever surroundings an honest token allows they go through.

The proof goes along the parts that are still to be paid. `Left` says what is known in
between, in terms of what there was at the beginning.

## Main definitions

* `Proceeds`: Calls go through one after the other, in whatever surroundings.
* `Part`: What the balance is made of.
* `Part.amount`, `Part.message`, `Part.paid`: How much it is, how it is withdrawn, and the
  value afterwards.
* `Left`: What is left while some parts are still to be paid.
* `Emptied`: What is left once everything was paid to a target.

## Theorems

* `Part.amount_paid`: A payment of one part leaves the others.
* `Part.performs`: A part that is something can be withdrawn.
* `Left.step`, `Left.done`: Paying a part leaves the other ones, and in the end nothing.
* `Left.proceeds`: All that is left can be withdrawn, in any order.
* `nothing_is_locked`: The same in every world that a deployment leads to.
-/

namespace BridgeCustody

namespace Ledger

/-- Calls by one sender go through one after the other, and at the end `Q` holds of the
    messages that were sent and of the world. Each call may be made at whatever height and
    beside whatever other tokens, as long as the token of the ledger is honest: it states
    the balance that there is, and it carries out what the call sends. -/
def Proceeds [AddressRule] (token self sender : Address) (Q : List TokenCall → World → Prop) :
    List Message → List TokenCall → World → Prop
  | [], sent, w => Q sent w
  | message :: rest, sent, w =>
    ∀ chain : Chain, chain.self = self → chain.balance token = .ok w.balance →
      ∃ s' receipt after, execute chain sender message w.store = .ok (s', receipt) ∧
        receipt.carry? token self w.balance = some after ∧
        Proceeds token self sender Q rest (sent ++ receipt.call.toList) ⟨s', after⟩

/-- The value once there is neither supply nor fees. -/
def emptied (l : Ledger) : Ledger :=
  { l with supply := .zero, fees := .zero }

theorem emptied_eq_self {l : Ledger} (hsupply : l.supply = .zero) (hfees : l.fees = .zero) :
    l.emptied = l := by
  cases l
  cases hsupply
  cases hfees
  rfl

/-- What the balance is made of. -/
inductive Part
  | supply
  | fees
  | excess
deriving DecidableEq

namespace Part

/-- How much of a balance a part is. -/
def amount (l : Ledger) (balance : Amount) : Part → Amount
  | supply => l.supply
  | fees => l.fees
  | excess => (balance.monus l.supply).monus l.fees

/-- The call by which all of a part is withdrawn. -/
def message (l : Ledger) (target : String) : Part → Message
  | supply => .withdraw target l.supply
  | fees => .withdrawFees target
  | excess => .withdrawExcess target

/-- The value once all of a part is withdrawn. -/
def paid (l : Ledger) : Part → Ledger
  | supply => { l with supply := .zero }
  | fees => { l with fees := .zero }
  | excess => l

section Amounts

variable {l : Ledger} {balance : Amount}

/-- No part is more than the balance. -/
theorem amount_le (hcover : l.dues ≤ balance.toNat) (p : Part) : p.amount l balance ≤ balance := by
  rw [Amount.le_iff_toNat_le]
  unfold dues at hcover
  cases p <;> simp only [amount, Amount.toNat_monus] <;> omega

/-- A payment of one part leaves nothing of it, and leaves the other parts. -/
theorem amount_paid (hcover : l.dues ≤ balance.toNat) (p p' : Part) :
    p'.amount (p.paid l) (balance.monus (p.amount l balance)) =
      if p' = p then .zero else p'.amount l balance := by
  unfold dues at hcover
  refine Amount.ext ?_
  -- Only the cases about the excess need the dues to be covered.
  cases p <;> cases p' <;>
    simp only [amount, paid, Amount.toNat_monus, Amount.toNat_zero, if_true, reduceCtorEq,
      if_false] <;>
    omega

/-- The rest of the balance covers the rest of the dues. -/
theorem dues_paid (hcover : l.dues ≤ balance.toNat) (p : Part) :
    (p.paid l).dues ≤ (balance.monus (p.amount l balance)).toNat := by
  unfold dues at hcover ⊢
  cases p <;> simp only [amount, paid, Amount.toNat_monus, Amount.toNat_zero] <;> omega

/-- What is owed and what is beyond make up the balance. -/
theorem balance_eq_zero (hnothing : ∀ p : Part, p.amount l balance = .zero) :
    balance = .zero ∧ l.supply = .zero ∧ l.fees = .zero := by
  have hsupply : l.supply = .zero := hnothing supply
  have hfees : l.fees = .zero := hnothing fees
  have hexcess := congrArg Amount.toNat (hnothing excess)
  simp only [amount, hsupply, hfees, Amount.toNat_monus, Amount.toNat_zero] at hexcess
  exact ⟨Amount.ext hexcess, hsupply, hfees⟩

end Amounts

/-- A part that is something can be withdrawn by an administrator to a valid target,
    and this sends one payment. -/
theorem performs [AddressRule] {g : Registry} {chain : Chain} {admin : Address} {target : String}
    {l : Ledger} {balance : Amount} {p : Part} (hadmin : g.holds .admin admin = true)
    (htarget : Address.Valid target) (hstated : chain.balance l.token = .ok balance)
    (hcover : l.dues ≤ balance.toNat) (hpositive : p.amount l balance ≠ .zero) :
    ∃ event, Performs g chain admin l (p.message l target) {
      ledger := p.paid l
      call := some (l.pay ⟨target⟩ (p.amount l balance))
      event := event } := by
  cases p with
  | supply => exact ⟨_, .withdraw hadmin hpositive htarget (Nat.zero_add _).symm⟩
  | fees => exact ⟨_, .withdrawFees hadmin htarget hpositive⟩
  | excess =>
      -- The ledger takes the sum off the balance, which exists because it is covered.
      rcases exists_owed? (Nat.lt_of_le_of_lt hcover balance.toNat_lt) with ⟨owed, -, hnat⟩
      have hsame : excess.amount l balance = balance.monus owed := by
        refine Amount.ext ?_
        simp only [amount, Amount.toNat_monus, hnat, dues]
        omega
      rw [hsame] at hpositive ⊢
      exact ⟨_, .withdrawExcess hadmin htarget hstated hnat hpositive⟩

end Part

/-- What is known while `parts` of what there was are still to be paid, and the messages
    `sent` have paid the others. -/
structure Left (l₀ : Ledger) (balance₀ : Amount) (target : Address) (parts : List Part)
    (sent : List TokenCall) (l : Ledger) (balance : Amount) : Prop where
  unpaid : ∀ p ∈ parts, p.amount l balance = p.amount l₀ balance₀
  gone : ∀ p : Part, p ∉ parts → p.amount l balance = .zero
  covered : l.dues ≤ balance.toNat
  beside_eq : l.emptied = l₀.emptied
  to_target : ∀ c ∈ sent, ∃ amount, c = l₀.pay target amount
  total : (sent.map (·.message.amount.toNat)).sum + balance.toNat = balance₀.toNat

/-- Everything there was is paid to a target, and nothing is left. -/
structure Emptied (l₀ : Ledger) (balance₀ : Amount) (target : Address) (sent : List TokenCall)
    (w : World) : Prop where
  balance_eq : w.balance = .zero
  loaded : item.load w.store = .ok l₀.emptied
  to_target : ∀ c ∈ sent, ∃ amount, c = l₀.pay target amount
  total : (sent.map (·.message.amount.toNat)).sum = balance₀.toNat

namespace Left

variable {l₀ l : Ledger} {balance₀ balance : Amount} {target : Address} {p : Part}
  {parts : List Part} {sent : List TokenCall}

theorem token_eq (h : Left l₀ balance₀ target parts sent l balance) : l.token = l₀.token := by
  have hsame := congrArg token h.beside_eq
  exact hsame

theorem deleted_eq (h : Left l₀ balance₀ target parts sent l balance) :
    l.deleted = l₀.deleted := by
  have hsame := congrArg deleted h.beside_eq
  exact hsame

/-- A part that is still to be paid is withdrawn by the call that it was from the
    beginning. -/
theorem message_eq (h : Left l₀ balance₀ target parts sent l balance) (hp : p ∈ parts)
    (recipient : String) : p.message l recipient = p.message l₀ recipient := by
  have hamount := h.unpaid p hp
  cases p with
  | supply => exact congrArg (Message.withdraw recipient) hamount
  | _ => rfl

/-- Paying a part leaves the other ones. -/
theorem step (h : Left l₀ balance₀ target (p :: parts) sent l balance) (hnew : p ∉ parts) :
    Left l₀ balance₀ target parts (sent ++ [l.pay target (p.amount l balance)]) (p.paid l)
      (balance.monus (p.amount l balance)) where
  unpaid p' hp' := by
    have hother : p' ≠ p := fun hsame => hnew (hsame ▸ hp')
    rw [Part.amount_paid h.covered, if_neg hother, h.unpaid p' (List.mem_cons_of_mem p hp')]
  gone p' hp' := by
    rw [Part.amount_paid h.covered]
    by_cases hsame : p' = p
    · rw [if_pos hsame]
    · rw [if_neg hsame, h.gone p' fun hmem => hp' (List.mem_of_ne_of_mem hsame hmem)]
  covered := Part.dues_paid h.covered p
  beside_eq := by
    refine Eq.trans ?_ h.beside_eq
    cases p <;> rfl
  to_target := by
    refine forall_mem_snoc.mpr ⟨h.to_target, p.amount l balance, ?_⟩
    rw [pay, pay, h.token_eq]
  total := by
    have htotal := h.total
    have hle := Amount.le_iff_toNat_le.mp (Part.amount_le h.covered p)
    have hone : (l.pay target (p.amount l balance)).message.amount = p.amount l balance := rfl
    rw [List.map_append, List.sum_append, List.map_singleton, List.sum_singleton, hone,
      Amount.toNat_monus]
    omega

/-- When no part is left nothing is. -/
theorem done (h : Left l₀ balance₀ target [] sent l balance) :
    balance = .zero ∧ l = l₀.emptied := by
  rcases Part.balance_eq_zero fun p => h.gone p List.not_mem_nil with ⟨hbalance, hsupply, hfees⟩
  exact ⟨hbalance, (emptied_eq_self hsupply hfees).symm.trans h.beside_eq⟩

/-- All that is left can be withdrawn to somebody else, in the order of the list, and then
    nothing is left. -/
theorem proceeds [AddressRule] {self admin : Address} {recipient : String} {b : Books} {s : Store}
    (hkept : b.KeptIn s) (h : Left l₀ balance₀ ⟨recipient⟩ parts sent b.ledger balance)
    (hopen : l₀.deleted = false) (hadmin : b.registry.holds .admin admin = true)
    (hrecipient : Address.Valid recipient) (hother : (⟨recipient⟩ : Address) ≠ self)
    (hnodup : parts.Nodup) (hpositive : ∀ p ∈ parts, p.amount l₀ balance₀ ≠ .zero) :
    Proceeds l₀.token self admin (Emptied l₀ balance₀ ⟨recipient⟩)
      (parts.map (·.message l₀ recipient)) sent ⟨s, balance⟩ := by
  induction parts generalizing b s balance sent with
  | nil =>
      rcases h.done with ⟨hbalance, hledger⟩
      have htotal := h.total
      rw [hbalance, Amount.toNat_zero] at htotal
      exact ⟨hbalance, hledger ▸ hkept.ledger, h.to_target, htotal⟩
  | cons p rest ih =>
      intro chain hself hstated
      rw [← h.token_eq] at hstated
      have hsome : p.amount b.ledger balance ≠ .zero := by
        rw [h.unpaid p List.mem_cons_self]
        exact hpositive p List.mem_cons_self
      rcases Part.performs hadmin hrecipient hstated h.covered hsome with ⟨event, hperf⟩
      rw [h.message_eq List.mem_cons_self] at hperf
      rcases hkept.proceeds (h.deleted_eq.trans hopen) hperf with ⟨s', hcall, hkept'⟩
      refine ⟨s', _, balance.monus (p.amount b.ledger balance), hcall, ?_, ?_⟩
      · rw [← h.token_eq]
        exact carry?_pay hother (Part.amount_le h.covered p)
      · -- The rest is withdrawn from what the payment has left.
        rcases List.nodup_cons.mp hnodup with ⟨hnew, hrest⟩
        exact ih hkept' (h.step hnew) hadmin hrest
          fun p' hp' => hpositive p' (List.mem_cons_of_mem p hp')

end Left

/-- In every world that a deployment on an empty store leads to under an honest token, as
    long as the ledger is not deleted, an administrator can get everything out to any valid
    target but the ledger. Of the withdrawals of the supply, of the fees and of the excess,
    taken in any order and without those of nothing, each goes through in whatever
    surroundings the token is honest. Together they pay the target the balance, and leave
    neither balance nor supply nor fees. -/
theorem nothing_is_locked [AddressRule] {chain : Chain} {deployer self : Address} {d : Deployment}
    {start : Store} {receipt : Receipt} {balance : Amount} {w : World}
    (hdeploy : deploy chain deployer d .empty = .ok (start, receipt))
    (hreached : World.Reached ⟨d.token⟩ self ⟨start, balance⟩ w) :
    ∃ l, item.load w.store = .ok l ∧ (l.deleted = false → ∀ admin target (order : List Part),
      (Registry.ofStore w.store).holds .admin admin = true → Address.Valid target →
      (⟨target⟩ : Address) ≠ self → order.Perm [Part.supply, Part.fees, Part.excess] →
      Proceeds ⟨d.token⟩ self admin (Emptied l w.balance ⟨target⟩)
        ((order.filter (fun p => p.amount l w.balance ≠ .zero)).map (·.message l target)) []
        w) := by
  rcases hreached.covered hdeploy with ⟨b, hkept, htoken, hcover⟩
  refine ⟨b.ledger, hkept.ledger, ?_⟩
  intro hopen admin target order hadmin htarget hother horder
  rw [hkept.registry_eq] at hadmin
  rw [← htoken]
  have hall : ∀ p : Part, p ∈ order := fun p => horder.mem_iff.mpr (by cases p <;> decide)
  have hnodup : order.Nodup := horder.nodup_iff.mpr (by decide)
  -- At the beginning nothing was paid, and what is left out is nothing.
  have hleft : Left b.ledger w.balance ⟨target⟩
      (order.filter (fun p => p.amount b.ledger w.balance ≠ .zero)) [] b.ledger w.balance := by
    refine ⟨fun _ _ => rfl, ?_, hcover, rfl, nofun, Nat.zero_add _⟩
    intro p hp
    rw [List.mem_filter, decide_eq_true_iff] at hp
    exact Decidable.not_not.mp fun hsome => hp ⟨hall p, hsome⟩
  refine hleft.proceeds hkept hopen hadmin htarget hother (hnodup.filter _) ?_
  intro p hp
  exact of_decide_eq_true (List.mem_filter.mp hp).2

/-- A ledger holds seven and owes five. First the excess is withdrawn, at the largest
    height, where every pause has begun, and then the supply, at height zero. There were no
    fees, and nothing is left. -/
theorem nothing_is_locked_of_seven :
    ∃ start receipt w s₁ s₂ paid₁ paid₂ left,
      deploy stillChain ⟨"deployer"⟩ smallTerms .empty = .ok (start, receipt) ∧
      World.Reached ⟨"token"⟩ ⟨"ledger"⟩ ⟨start, .zero⟩ w ∧ w.balance.toNat = 7 ∧
      execute (.stating ⟨"ledger"⟩ Word.never w.balance) ⟨"deployer"⟩ (.withdrawExcess "heir")
        w.store = .ok (s₁, paid₁) ∧
      paid₁.carry? ⟨"token"⟩ ⟨"ledger"⟩ w.balance = some left ∧
      execute (.stating ⟨"ledger"⟩ 0 left) ⟨"deployer"⟩ (.withdraw "heir" ⟨5, by decide⟩) s₁ =
        .ok (s₂, paid₂) ∧
      paid₂.carry? ⟨"token"⟩ ⟨"ledger"⟩ left = some .zero := by
  rcases reached_smallTerms with ⟨start, receipt, s, hdeploy, hreached, hkept⟩
  rcases nothing_is_locked hdeploy hreached with ⟨l, hload, hproceeds⟩
  cases hkept.ledger.symm.trans hload
  have hadmin : (Registry.ofStore s).holds .admin ⟨"deployer"⟩ = true := by
    rw [hkept.registry_eq]
    rfl
  have hboth : Proceeds ⟨"token"⟩ ⟨"ledger"⟩ ⟨"deployer"⟩
      (Emptied (smallBooks ⟨5, by decide⟩).ledger ⟨7, by decide⟩ ⟨"heir"⟩)
      [.withdrawExcess "heir", .withdraw "heir" ⟨5, by decide⟩] [] ⟨s, ⟨7, by decide⟩⟩ :=
    hproceeds rfl ⟨"deployer"⟩ "heir" [.excess, .fees, .supply] hadmin (by decide) (by decide)
      (by decide)
  rcases hboth _ rfl (Chain.balance_stating _ Word.never _ _) with
    ⟨s₁, paid₁, left, hcall₁, hcarry₁, hrest⟩
  rcases hrest _ rfl (Chain.balance_stating _ 0 _ _) with
    ⟨s₂, paid₂, after, hcall₂, hcarry₂, hemptied⟩
  cases hemptied.balance_eq
  exact ⟨start, receipt, _, s₁, s₂, paid₁, paid₂, left, hdeploy, hreached, rfl, hcall₁, hcarry₁,
    hcall₂, hcarry₂⟩

end Ledger

end BridgeCustody
