import BridgeCustody.Proofs.Ledger.Authority
import BridgeCustody.Proofs.Ledger.Budget
import BridgeCustody.Proofs.Ledger.Pauses

/-!
# Pauses Along a Run

A monitor is trusted with the brake and not with its release. It may bring a
pause forward as often as it likes, and no number of its calls must ever amount
to putting a pause off, let alone to lifting one that is in force.

Two comparisons keep it from that, and neither would be enough. The block that a
pause is moved to is compared with the height, so that it is never in the past,
and it is compared with the block of the pause, so that a monitor never moves it
to a later one. For a pause in force there is nothing between the two: its block
is not above the height, so the monitor could only move it to where it is. That
is why such a pause is not just kept in force by everybody who is no
administrator, but kept as it is.

All this needs the chain to move on. At a lower height than before, a pause that
was in force is ahead again.

## Main definitions

* `Call.height?`: The height at which a call is made.
* `PauseIn`: From which block on a surface is paused, in a store.
* `StaysPaused`: A pause is in force and the same for the rest of a run.

## Theorems

* `Performs.pause_moved`, `Performs.pause_kept`: What a call does to a pause.
* `run_pausedSince_le`: Without an administrator a pause is never put off.
* `run_pausedSince_eq`: One in force stays as it is.
* `only_admin_defers_pause`: Both, for all runs from a deployment.
-/

namespace BridgeCustody

namespace Ledger

/-- The height at which a call is made. A migration does not look at it. -/
def Call.height? : Call → Option UInt64
  | execute chain _ _ => some chain.height
  | migrate => none

/-- In a store a surface is paused from a block on. -/
def PauseIn (surface : Surface) (since : UInt64) (s : Store) : Prop :=
  ∃ l, item.load s = .ok l ∧ l.pausedSince surface = since

/-- From a height on a surface is paused since a block, and remains so in the rest
    of a run, which has this log and ends in this store. -/
structure StaysPaused (surface : Surface) (since height : UInt64)
    (rest : List (Entry Call Receipt)) (s : Store) : Prop where
  onward : ∀ height', height ≤ height' → isPaused since height' = true
  each : ∀ e ∈ rest, PauseIn surface since e.before ∧ PauseIn surface since e.after ∧
    ∀ height', e.call.height? = some height' → isPaused since height' = true
  last : PauseIn surface since s

section Rules

variable [AddressRule]
variable {g : Registry} {chain : Chain} {sender : Address} {l : Ledger} {message : Message}
  {out : Outcome} {surface : Surface}

/-- A message that moves a pause moves it to a block that is not past, and is sent
    by somebody who may. -/
theorem Performs.pause_moved (h : Performs g chain sender l message out)
    (hpause : message.pauseOf? = some surface) :
    ∃ requested,
      out.ledger.pausedSince surface = effectivePause requested chain.height ∧
      ∃ role ∈ pauseSetters (effectivePause requested chain.height) (l.pausedSince surface),
        g.holds role sender = true := by
  cases h with
  | pausePublicApi hsetter | pauseRelayerApi hsetter =>
      cases hpause
      exact ⟨_, rfl, hsetter⟩
  | _ => cases hpause

/-- Any other leaves it as it is. -/
theorem Performs.pause_kept (h : Performs g chain sender l message out)
    (hpause : message.pauseOf? ≠ some surface) :
    out.ledger.pausedSince surface = l.pausedSince surface := by
  cases h with
  | pausePublicApi =>
      cases surface with
      | publicApi => exact absurd rfl hpause
      | relayerApi => rfl
  | pauseRelayerApi =>
      cases surface with
      | publicApi => rfl
      | relayerApi => exact absurd rfl hpause
  | _ => cases surface <;> rfl

theorem Performs.height_le_pausedSince (h : Performs g chain sender l message out)
    (hpause : message.pauseOf? = some surface) :
    chain.height ≤ out.ledger.pausedSince surface := by
  rcases h.pause_moved hpause with ⟨requested, hsince, -⟩
  rw [hsince]
  exact height_le_effectivePause requested chain.height

/-- Who is no administrator does not put a pause off. -/
theorem Performs.pausedSince_le (h : Performs g chain sender l message out)
    (hadmin : g.holds .admin sender = false) (surface : Surface) :
    out.ledger.pausedSince surface ≤ l.pausedSince surface := by
  by_cases hpause : message.pauseOf? = some surface
  · rcases h.pause_moved hpause with ⟨requested, hsince, hsetter⟩
    rw [hsince]
    rcases holds_of_pauseSetters hsetter with hholds | ⟨-, hle⟩
    · exact absurd hholds (Bool.eq_false_iff.mp hadmin)
    · exact hle
  · exact UInt64.le_of_eq (h.pause_kept hpause)

/-- And does not move one that is in force at all. -/
theorem Performs.pausedSince_eq (h : Performs g chain sender l message out)
    (hadmin : g.holds .admin sender = false)
    (hpaused : isPaused (l.pausedSince surface) chain.height = true) :
    out.ledger.pausedSince surface = l.pausedSince surface := by
  by_cases hpause : message.pauseOf? = some surface
  · -- The block is between the height and a block that is not above the height.
    have hpast : l.pausedSince surface ≤ chain.height := by
      rwa [isPaused, decide_eq_true_eq] at hpaused
    exact UInt64.le_antisymm (h.pausedSince_le hadmin surface)
      (UInt64.le_trans hpast (h.height_le_pausedSince hpause))
  · exact h.pause_kept hpause

end Rules

section Turns

variable [AddressRule]
variable {s : Store} {l l' : Ledger} {call : Call} {receipt : Receipt} {surface : Surface}

theorem Turns.pausedSince_le (h : Turns s l call receipt l')
    (hsender : call.sentBy .admin s = false) (surface : Surface) :
    l'.pausedSince surface ≤ l.pausedSince surface := by
  cases h with
  | execute _ hperf => exact hperf.pausedSince_le hsender surface
  | migrate => exact UInt64.le_refl _

theorem Turns.pausedSince_eq (h : Turns s l call receipt l')
    (hsender : call.sentBy .admin s = false)
    (hpaused : ∀ height, call.height? = some height →
      isPaused (l.pausedSince surface) height = true) :
    l'.pausedSince surface = l.pausedSince surface := by
  cases h with
  | execute _ hperf => exact hperf.pausedSince_eq hsender (hpaused _ rfl)
  | migrate => rfl

theorem Turns.height_le_pausedSince {chain : Chain} {sender : Address} {message : Message}
    (h : Turns s l (.execute chain sender message) receipt l')
    (hpause : message.pauseOf? = some surface) : chain.height ≤ l'.pausedSince surface := by
  cases h with
  | execute _ hperf => exact hperf.height_le_pausedSince hpause

end Turns

section Runs

variable [AddressRule]
variable {start s : Store} {log : List (Entry Call Receipt)} {m : Ledger} {surface : Surface}
  {since height : UInt64}

/-- Along a run without an administrator a pause is never put off. -/
theorem run_pausedSince_le (hrun : Run Call.perform start s log)
    (hload : item.load start = .ok m)
    (hnone : ∀ e ∈ log, e.call.sentBy .admin e.before = false) (surface : Surface) :
    ∃ l, item.load s = .ok l ∧ l.pausedSince surface ≤ m.pausedSince surface := by
  refine run_value_of_forall (P := fun l => l.pausedSince surface ≤ m.pausedSince surface) hrun
    hload (UInt64.le_refl _) hnone ?_
  intro l l' e hle hturns hsender
  exact UInt64.le_trans (hturns.pausedSince_le hsender surface) hle

/-- A pause that is in force at every call along such a run stays as it is. -/
theorem run_pausedSince_eq (hrun : Run Call.perform start s log)
    (hpause : PauseIn surface since start)
    (hnone : ∀ e ∈ log, e.call.sentBy .admin e.before = false)
    (hpaused : ∀ e ∈ log, ∀ height, e.call.height? = some height →
      isPaused since height = true) : PauseIn surface since s := by
  rcases hpause with ⟨m, hload, hm⟩
  refine run_value_of_forall (P := fun l => l.pausedSince surface = since) hrun hload hm
    (fun e he => And.intro (hnone e he) (hpaused e he)) ?_
  rintro l l' e rfl hturns ⟨hsender, hforce⟩
  exact hturns.pausedSince_eq hsender hforce

/-- A pause that is in force when a run without an administrator starts stays as it
    is and in force, if the heights of the run are not below. -/
theorem run_staysPaused (hrun : Run Call.perform start s log)
    (hpause : PauseIn surface since start)
    (hnone : ∀ e ∈ log, e.call.sentBy .admin e.before = false)
    (hpaused : isPaused since height = true)
    (hheights : ∀ e ∈ log, ∀ height', e.call.height? = some height' → height ≤ height') :
    StaysPaused surface since height log s := by
  have honward : ∀ height', height ≤ height' → isPaused since height' = true :=
    fun _ hle => isPaused_mono hle hpaused
  have hforce : ∀ e ∈ log, ∀ height', e.call.height? = some height' →
      isPaused since height' = true :=
    fun e he height' hheight => honward height' (hheights e he height' hheight)
  refine ⟨honward, ?_, run_pausedSince_eq hrun hpause hnone hforce⟩
  intro e he
  -- The run up to an entry is such a run, and so is the run up to behind it.
  rcases hrun.of_mem he with ⟨pre, post, rfl, hbefore, hcall, -⟩
  rw [List.forall_mem_append, List.forall_mem_cons] at hnone
  have hin : PauseIn surface since e.before :=
    run_pausedSince_eq hbefore hpause hnone.1
      fun e' he' => hforce e' (List.mem_append_left _ he')
  refine ⟨hin, ?_, hforce e he⟩
  exact run_pausedSince_eq (.went .here hcall) hin (List.forall_mem_singleton.mpr hnone.2.1)
    (List.forall_mem_singleton.mpr (hforce e he))

/-- From a deployment on, take a stretch of a run in which no administrator calls
    and heights never decrease. The pause of each surface is at no point of it later
    than before. If it is in force when a call meets the store, the call leaves it
    as it is, and if it is in force when the call leaves the store, it stays as it
    is and in force to the end of the stretch. And after any call that moves a
    pause, by whomever, the pause is not in the past. -/
theorem only_admin_defers_pause {chain : Chain} {deployer : Address} {d : Deployment}
    {found start : Store} {receipt : Receipt}
    (hdeploy : deploy chain deployer d found = .ok (start, receipt)) :
    (∀ (mid s : Store) (past stretch : List (Entry Call Receipt)),
      Run Call.perform start mid past → Run Call.perform mid s stretch →
      (∀ e ∈ stretch, e.call.sentBy .admin e.before = false) →
      (stretch.filterMap (·.call.height?)).Pairwise (· ≤ ·) → ∀ surface,
      (∃ since since', PauseIn surface since mid ∧ PauseIn surface since' s ∧ since' ≤ since) ∧
      ∀ early e late, stretch = early ++ e :: late →
        ∃ since since', PauseIn surface since e.before ∧ PauseIn surface since' e.after ∧
          since' ≤ since ∧ ∀ height, e.call.height? = some height →
            (isPaused since height = true → since' = since) ∧
            (isPaused since' height = true → StaysPaused surface since' height late s)) ∧
      ∀ (s : Store) (log : List (Entry Call Receipt)), Run Call.perform start s log →
        ∀ e ∈ log, ∀ chain sender message surface, e.call = .execute chain sender message →
          message.pauseOf? = some surface →
          ∃ since, PauseIn surface since e.after ∧ chain.height ≤ since := by
  have hfresh := deploy_load hdeploy
  refine ⟨?_, ?_⟩
  · intro mid s past stretch hpast hstretch hnone hheights surface
    rcases run_load hpast hfresh with ⟨m, hm⟩
    refine ⟨?_, ?_⟩
    · rcases run_pausedSince_le hstretch hm hnone surface with ⟨l, hl, hle⟩
      exact ⟨_, _, ⟨m, hm, rfl⟩, ⟨l, hl, rfl⟩, hle⟩
    · rintro early e late rfl
      have he : e ∈ early ++ e :: late := List.mem_append_right _ List.mem_cons_self
      rcases run_turns hstretch hm he with ⟨l, l', hl, hl', hturns⟩
      rcases hstretch.entry with ⟨-, -, hlate⟩
      rw [List.forall_mem_append, List.forall_mem_cons] at hnone
      rcases hnone with ⟨-, hsender, hnone⟩
      refine ⟨_, _, ⟨l, hl, rfl⟩, ⟨l', hl', rfl⟩, hturns.pausedSince_le hsender surface, ?_⟩
      intro height hheight
      refine ⟨?_, ?_⟩
      · intro hpaused
        refine hturns.pausedSince_eq hsender ?_
        intro height' hheight'
        cases hheight.symm.trans hheight'
        exact hpaused
      · intro hpaused
        have hsorted := (pairwise_cut (List.pairwise_filterMap.mp hheights)).2
        exact run_staysPaused hlate ⟨l', hl', rfl⟩ hnone hpaused
          fun e' he' height' hheight' => hsorted e' he' height hheight height' hheight'
  · intro s log hrun e he chain sender message surface hmessage hpause
    rcases run_turns hrun hfresh he with ⟨l, l', -, hl', hturns⟩
    rw [hmessage] at hturns
    exact ⟨_, ⟨l', hl', rfl⟩, hturns.height_le_pausedSince hpause⟩

end Runs

/-- The books under small terms with a monitor, and with swaps paused from a block
    on. -/
def monitoredBooks (since : UInt64) : Books :=
  { (smallBooks .zero).withHolding .monitor ⟨"monitor"⟩ true with
    ledger := { (smallBooks .zero).ledger with publicPause := since } }

/-- The monitor can bring the pause forward, and is no administrator. -/
theorem run_pause_monitoredBooks {since : UInt64} {mid s : Store}
    {log : List (Entry Call Receipt)} (hrun : Run Call.perform mid s log)
    (hkept : (monitoredBooks since).KeptIn s) (height requested : UInt64)
    (hle : effectivePause requested height ≤ since) :
    ∃ e, Run Call.perform mid e.after (log ++ [e]) ∧ e.call.sentBy .admin e.before = false ∧
      e.call = .execute { stillChain with height := height } ⟨"monitor"⟩
        (.pausePublicApi requested) ∧
      (monitoredBooks (effectivePause requested height)).KeptIn e.after := by
  have hsetter : Role.monitor ∈ pauseSetters (effectivePause requested height) since := by
    rw [pauseSetters, if_pos hle]
    exact List.mem_cons_of_mem _ List.mem_cons_self
  have hpauses : Performs (monitoredBooks since).registry { stillChain with height := height }
      ⟨"monitor"⟩ (monitoredBooks since).ledger (.pausePublicApi requested) _ :=
    .pausePublicApi ⟨.monitor, hsetter, rfl⟩
  rcases hkept.proceeds rfl hpauses with ⟨s', hcall, hkept'⟩
  have hnone : (Registry.ofStore s).holds .admin ⟨"monitor"⟩ = false := by
    rw [hkept.registry_eq]
    rfl
  exact ⟨⟨s, _, s', _⟩, run_execute hrun hcall, hnone, rfl, hkept'⟩

/-- A monitor pauses swaps from block twenty on. At block fifteen it pauses them at
    once, and asking for a block in the past it cannot move the pause any more. -/
theorem only_admin_defers_pause_at_fifteen :
    ∃ start receipt mid past e₁ e₂ e₃,
      deploy stillChain ⟨"deployer"⟩ smallTerms .empty = .ok (start, receipt) ∧
      Run Call.perform start mid past ∧ Run Call.perform mid e₃.after [e₁, e₂, e₃] ∧
      (∀ e ∈ [e₁, e₂, e₃], e.call.sentBy .admin e.before = false) ∧
      ([e₁, e₂, e₃].filterMap (·.call.height?)).Pairwise (· ≤ ·) ∧
      PauseIn .publicApi 20 e₁.after ∧ PauseIn .publicApi 15 e₂.after ∧
      StaysPaused .publicApi 15 15 [e₃] e₃.after ∧
      ∃ since, PauseIn .publicApi since e₃.after ∧ 15 ≤ since := by
  rcases deploy_smallTerms with ⟨start, receipt, hdeploy, hkept⟩
  rcases grant_smallTerms hkept .monitor "monitor" (by decide) rfl with
    ⟨mid, hgrant, hmid⟩
  have hpast := run_execute .here hgrant
  rcases run_pause_monitoredBooks .here (show (monitoredBooks Word.never).KeptIn mid from hmid)
    10 20 (by decide) with ⟨e₁, hrun₁, hnone₁, hcall₁, hkept₁⟩
  rcases run_pause_monitoredBooks hrun₁ hkept₁ 15 15 (by decide) with
    ⟨e₂, hrun₂, hnone₂, hcall₂, hkept₂⟩
  rcases run_pause_monitoredBooks hrun₂ hkept₂ 15 3 (by decide) with
    ⟨e₃, hrun₃, hnone₃, hcall₃, hkept₃⟩
  have hnone : ∀ e ∈ [e₁, e₂, e₃], e.call.sentBy .admin e.before = false :=
    List.forall_mem_cons.mpr ⟨hnone₁, List.forall_mem_cons.mpr ⟨hnone₂,
      List.forall_mem_singleton.mpr hnone₃⟩⟩
  have hheights : ([e₁, e₂, e₃].filterMap (·.call.height?)).Pairwise (· ≤ ·) := by
    simp only [List.filterMap, hcall₁, hcall₂, hcall₃, Call.height?]
    decide
  rcases only_admin_defers_pause hdeploy with ⟨hstays, hmoved⟩
  rcases (hstays mid _ _ _ hpast hrun₃ hnone hheights .publicApi).2 [e₁] e₂ [e₃] rfl with
    ⟨_, since, -, hsince, -, hforce⟩
  -- A store has one pause of swaps, so this is the one from block fifteen on.
  rcases hsince with ⟨l, hl, rfl⟩
  cases hkept₂.ledger.symm.trans hl
  have hlast := hmoved _ _ (hpast.trans hrun₃) e₃ (List.mem_append_right _ (by simp)) _ _ _
    .publicApi hcall₃ rfl
  refine ⟨start, receipt, mid, _, e₁, e₂, e₃, hdeploy, hpast, hrun₃, hnone, hheights,
    ⟨_, hkept₁.ledger, rfl⟩, ⟨_, hkept₂.ledger, rfl⟩, ?_, hlast⟩
  exact (hforce 15 (by rw [hcall₂]; rfl)).2 rfl

end Ledger

end BridgeCustody
