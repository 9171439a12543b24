import BridgeCustody.Proofs.Ledger.History

/-!
# The Ledger and Its Token

The ledger keeps books, the token keeps the balance, and neither sees what the
other does except through messages. Whether the books are covered is a question
about both, so here the ledger lives in a world: its store, and what the token
says it holds.

The token is honest. It carries out the message that a call sends, in the same
call, or the call is undone as a whole. It announces a credit only after making
it. It answers the ledger with the balance as it is at that moment. And it takes
nothing away by itself, though anybody may add. What an honest token does to the
balance is `TokenMessage.carry?`, which charges one account and credits another
and fails when the number leaves the range of amounts.

The ledger is not among its own callers, and no credit is announced that came
from the ledger itself. Both would be transfers from the ledger to the ledger,
booked as value that came in.

## Main definitions

* `TokenMessage.carry?`, `Receipt.carry?`: The balance once a message is carried
  out.
* `Message.announced?`: The balance when a call arrives.
* `Honest`: The surroundings of a call under an honest token.
* `World`, `World.Step`, `World.Reached`: What can happen, and where it leads.
* `TokenMessage.flow`: What a message adds to the balance.

## Theorems

* `TokenMessage.carry?_flow`: A message that is carried out adds its flow.
* `World.Reached.books`: What every step preserves holds of every world reached.
-/

namespace BridgeCustody

/-- The balance of `self` once an account is charged. -/
def charge? (self account : Address) (amount balance : Amount) : Option Amount :=
  if account = self then balance.sub? amount else some balance

/-- The balance of `self` once an account is credited. -/
def credit? (self account : Address) (amount balance : Amount) : Option Amount :=
  if account = self then balance.add? amount else some balance

namespace TokenMessage

/-- The balance of `self` once an honest token has carried out a message that
    `self` sent, if it can. -/
def carry? (self : Address) (balance : Amount) : TokenMessage → Option Amount
  | transfer recipient amount =>
    (charge? self self amount balance).bind (credit? self recipient amount)
  | transferFrom owner recipient amount =>
    (charge? self owner amount balance).bind (credit? self recipient amount)
  | mint recipient amount => credit? self recipient amount balance
  | burn amount => charge? self self amount balance

/-- How much of an amount that moves to or from an account is a matter of
    `self`. -/
def share (self account : Address) (amount : Amount) : Nat :=
  if account = self then amount.toNat else 0

/-- What a message adds to the balance of `self`, who sends it. -/
def flow (self : Address) : TokenMessage → Int
  | transfer recipient amount => share self recipient amount - amount.toNat
  | transferFrom owner recipient amount => share self recipient amount - share self owner amount
  | mint recipient amount => share self recipient amount
  | burn amount => -amount.toNat

/-- Whether a message takes from the balance of who sends it. -/
def spends : TokenMessage → Bool
  | transfer _ _ => true
  | transferFrom _ _ _ => false
  | mint _ _ => false
  | burn _ => true

theorem charge?_eq_some {self account : Address} {amount balance after : Amount}
    (h : charge? self account amount balance = some after) :
    (after.toNat : Int) = balance.toNat - share self account amount := by
  unfold charge? at h
  unfold share
  by_cases hself : account = self
  · rw [if_pos hself] at h ⊢
    -- A charge goes through only if there is enough, so nothing is cut off.
    have hsub := Amount.sub?_eq_some_iff.mp h
    omega
  · rw [if_neg hself] at h ⊢
    rw [Option.some.inj h]
    omega

theorem credit?_eq_some {self account : Address} {amount balance after : Amount}
    (h : credit? self account amount balance = some after) :
    (after.toNat : Int) = balance.toNat + share self account amount := by
  unfold credit? at h
  unfold share
  by_cases hself : account = self
  · rw [if_pos hself] at h ⊢
    -- A credit goes through only if the sum is an amount.
    have hadd := Amount.add?_eq_some_iff.mp h
    omega
  · rw [if_neg hself] at h ⊢
    rw [Option.some.inj h]
    omega

theorem move?_eq_some {self payer recipient : Address} {amount balance after : Amount}
    (h : (charge? self payer amount balance).bind (credit? self recipient amount) = some after) :
    (after.toNat : Int) =
      balance.toNat + share self recipient amount - share self payer amount := by
  -- The balance between the two is real: the payer is charged first.
  rcases Option.bind_eq_some_iff.mp h with ⟨mid, hcharge, hcredit⟩
  have h1 := charge?_eq_some hcharge
  have h2 := credit?_eq_some hcredit
  omega

theorem share_self (self : Address) (amount : Amount) : share self self amount = amount.toNat :=
  if_pos rfl

theorem share_of_ne {self account : Address} (amount : Amount) (h : account ≠ self) :
    share self account amount = 0 :=
  if_neg h

/-- A message that is carried out adds its flow. -/
theorem carry?_flow {self : Address} {balance after : Amount} {message : TokenMessage}
    (h : message.carry? self balance = some after) :
    (after.toNat : Int) = balance.toNat + message.flow self := by
  cases message with
  | transfer recipient amount =>
      have hmove := move?_eq_some h
      rw [share_self] at hmove
      rw [flow]
      omega
  | transferFrom owner recipient amount =>
      have hmove := move?_eq_some h
      rw [flow]
      omega
  -- Minting only credits and burning only charges.
  | mint recipient amount => exact credit?_eq_some h
  | burn amount =>
      have hcharge := charge?_eq_some h
      rw [share_self] at hcharge
      rw [flow]
      omega

end TokenMessage

namespace Ledger

/-- The balance once what a call sent is carried out. A message to another token
    leaves the balance alone. -/
def Receipt.carry? (token self : Address) (balance : Amount) (receipt : Receipt) :
    Option Amount :=
  match receipt.call with
  | none => some balance
  | some c => if c.token = token then c.message.carry? self balance else some balance

/-- The balance when a call arrives: a credit that the token announces was made
    before. -/
def Message.announced? (token self sender : Address) (balance : Amount) :
    Message → Option Amount
  | .receive owner amount _ =>
    if sender = token then (TokenMessage.transferFrom ⟨owner⟩ self amount).carry? self balance
    else some balance
  | _ => some balance

/-- Whose tokens a call says were credited. -/
def Message.owner? : Message → Option Address
  | .receive owner _ _ => some ⟨owner⟩
  | _ => none

/-- The surroundings of a call to the ledger at `home` under an honest token, with
    the balance before the call and the balance that the call meets. -/
structure Honest (token home : Address) (balance : Amount) (chain : Chain) (sender : Address)
    (message : Message) (met : Amount) : Prop where
  self_eq : chain.self = home
  sender_ne : sender ≠ home
  owner_ne : message.owner? ≠ some home
  announced : message.announced? token home sender balance = some met
  stated : chain.balance token = .ok met

/-- The store of the ledger and its balance. -/
structure World where
  store : Store
  balance : Amount

/-- What can happen to the ledger. -/
inductive Happening
  /-- A call goes through and its message is carried out. -/
  | called (chain : Chain) (sender : Address) (message : Message) (receipt : Receipt)
  /-- A call is refused, or undone because its message is not carried out. -/
  | undone
  | migrated
  | donated (amount : Amount)

namespace World

variable [AddressRule]

/-- One thing that happens under an honest token. -/
inductive Step (token self : Address) : World → Happening → World → Prop
  | called {s s' balance met after chain sender message receipt}
      (hhonest : Honest token self balance chain sender message met)
      (hcall : execute chain sender message s = .ok (s', receipt))
      (hcarry : receipt.carry? token self met = some after) :
      Step token self ⟨s, balance⟩ (.called chain sender message receipt) ⟨s', after⟩
  | undone {w} : Step token self w .undone w
  | migrated {s balance} : Step token self ⟨s, balance⟩ .migrated ⟨(migrate s).1, balance⟩
  | donated {s balance amount after} (h : after.toNat = balance.toNat + amount.toNat) :
      Step token self ⟨s, balance⟩ (.donated amount) ⟨s, after⟩

/-- The worlds that a world leads to. -/
inductive Reached (token self : Address) (start : World) : World → Prop
  | here : Reached token self start start
  | next {w what w'} : Reached token self start w → Step token self w what w' →
      Reached token self start w'

/-- What every step preserves of the books and the balance holds of every world
    that is reached. -/
theorem Reached.books {token self : Address} {start w : World} {b₀ : Books}
    {P : Books → Amount → Prop} (h : Reached token self start w) (hkept : b₀.KeptIn start.store)
    (h0 : P b₀ start.balance)
    (hstep : ∀ b w what w', b.KeptIn w.store → P b w.balance → Step token self w what w' →
      ∃ b', b'.KeptIn w'.store ∧ P b' w'.balance) :
    ∃ b, b.KeptIn w.store ∧ P b w.balance := by
  induction h with
  | here => exact ⟨b₀, hkept, h0⟩
  | next _ hone ih =>
      rcases ih with ⟨b, hb, hP⟩
      exact hstep b _ _ _ hb hP hone

end World

/-- What the flow of a call is, which is nothing if it sends no message. -/
def flowOf (self : Address) : Option TokenCall → Int
  | none => 0
  | some c => c.message.flow self

theorem Receipt.carry?_flow {token self : Address} {balance after : Amount} {receipt : Receipt}
    (htoken : ∀ c ∈ receipt.call, c.token = token)
    (h : receipt.carry? token self balance = some after) :
    (after.toNat : Int) = balance.toNat + flowOf self receipt.call := by
  unfold Receipt.carry? at h
  cases hc : receipt.call with
  | none =>
      rw [hc] at h
      rw [Option.some.inj h, flowOf]
      omega
  | some c =>
      rw [hc] at h
      simp only [] at h
      rw [if_pos (htoken c hc)] at h
      exact TokenMessage.carry?_flow h

end Ledger

end BridgeCustody
