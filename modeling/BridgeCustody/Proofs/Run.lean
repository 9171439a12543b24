import BridgeCustody.Store.Basic

/-!
# Runs of a Contract

A contract lives through a sequence of calls, each of which either goes through
and replaces the store, or is refused and leaves the store alone. Most of what
one wants to know about a contract is about all such sequences: what never
happens, what happens at most once, what the store says about the past.

A run is described by where it starts, where it has come to, and its log, the
calls that went through in the order in which they did. Refused calls are part
of the run but leave no trace in the log, just as they leave none in the store.
Each entry of the log keeps the store before and after its call, so the log also
knows every store that the run has passed through.

Nothing here knows what a contract does. `perform` is any function from a call
and a store to a refusal or a new store with a report, so both contracts use the
same inductions. `Run.invariant` is for what holds of a store by itself,
`Run.logged` for what ties a store to the log, and `Run.split` cuts a run at an
entry, which turns a claim about everything after a call into a claim about a
run that starts behind that call.

## Main definitions

* `Entry`: A call that went through.
* `Run`: A run, with the store reached and the log.

## Theorems

* `Run.trans`: Runs are put end to end.
* `Run.split`: A run is cut where its log is cut.
* `Run.entry`, `Run.of_mem`: An entry of the log is a call that went through,
  between two runs.
* `Run.logged`: What every call extends by its entry holds of the whole log.
* `Run.invariant`: What every call preserves holds at the end of a run.
* `Run.invariant_of_forall`: The same for runs of calls of one kind.
* `forall_mem_snoc`, `exists_mem_snoc`, `countP_snoc`, `nodup_snoc`,
  `pairwise_snoc`: Lists that grow at their end.
* `pairwise_cut`: An element of a list against those on its two sides.
-/

namespace BridgeCustody

/-- A call that went through, with the store it met, the store it left and what
    it reported. -/
structure Entry (κ ρ : Type) where
  before : Store
  call : κ
  after : Store
  report : ρ

variable {κ ε ρ : Type}

/-- The runs that start at a store, by the store they reach and their log, oldest
    entry first. -/
inductive Run (perform : κ → Store → Except ε (Store × ρ)) (start : Store) :
    Store → List (Entry κ ρ) → Prop
  | here : Run perform start start []
  | went {s log call s' report} : Run perform start s log →
      perform call s = .ok (s', report) →
      Run perform start s' (log ++ [⟨s, call, s', report⟩])
  | refused {s log call e} : Run perform start s log → perform call s = .error e →
      Run perform start s log

namespace Run

variable {perform : κ → Store → Except ε (Store × ρ)} {start mid s : Store}
  {log log' : List (Entry κ ρ)}

theorem trans (h : Run perform start mid log) (h' : Run perform mid s log') :
    Run perform start s (log ++ log') := by
  induction h' with
  | here =>
      rw [List.append_nil]
      exact h
  | went _ hcall ih =>
      rw [← List.append_assoc]
      exact went ih hcall
  | refused _ hcall ih => exact refused ih hcall

/-- A run is cut where its log is cut. -/
theorem split {whole : List (Entry κ ρ)} (h : Run perform start s whole) :
    ∀ (log log' : List (Entry κ ρ)), whole = log ++ log' →
      ∃ mid, Run perform start mid log ∧ Run perform mid s log' := by
  induction h with
  | here =>
      intro log log' heq
      rcases List.append_eq_nil_iff.mp heq.symm with ⟨rfl, rfl⟩
      exact ⟨start, here, here⟩
  | @went s log₀ call s' report hr hcall ih =>
      intro log log' heq
      -- The last entry is in the second part, unless that part is empty.
      rcases List.eq_nil_or_concat log' with rfl | ⟨init, last, rfl⟩
      · rw [List.append_nil] at heq
        rw [← heq]
        exact ⟨s', went hr hcall, here⟩
      · rw [List.concat_eq_append] at heq ⊢
        rw [← List.append_assoc] at heq
        rcases List.append_inj' heq rfl with ⟨hinit, hlast⟩
        -- So the last entry stays behind the cut, and the rest is cut there.
        rcases ih log init hinit with ⟨mid, h1, h2⟩
        refine ⟨mid, h1, ?_⟩
        rw [← hlast]
        exact went h2 hcall
  | refused _ hcall ih =>
      intro log log' heq
      rcases ih log log' heq with ⟨mid, h1, h2⟩
      exact ⟨mid, h1, refused h2 hcall⟩

/-- A run in which nothing went through is still where it started. -/
theorem eq_start (h : Run perform start s log) (hl : log = []) : s = start := by
  induction h with
  | here => rfl
  -- A call that went through has left an entry.
  | went _ _ _ => exact absurd hl (List.append_ne_nil_of_right_ne_nil _ (List.cons_ne_nil _ _))
  | refused _ _ ih => exact ih hl

/-- A run whose log is one entry made that one call, where it started. -/
theorem single {e : Entry κ ρ} (h : Run perform start s log) (hl : log = [e]) :
    e.before = start ∧ e.after = s ∧ perform e.call start = .ok (s, e.report) := by
  induction h with
  | here => exact absurd hl.symm (List.cons_ne_nil _ _)
  | @went s log₀ call s' report hr hcall _ =>
      -- The one entry is the last, so nothing went through before it.
      have hcut : log₀ ++ [⟨s, call, s', report⟩] = [] ++ [e] := hl
      rcases List.append_inj' hcut rfl with ⟨hnil, hone⟩
      rw [← hr.eq_start hnil, ← List.singleton_inj.mp hone]
      exact ⟨rfl, rfl, hcall⟩
  | refused _ _ ih => exact ih hl

/-- An entry of the log is a call that went through, with a run before it and a
    run behind it. -/
theorem entry {log log' : List (Entry κ ρ)} {e : Entry κ ρ}
    (h : Run perform start s (log ++ e :: log')) :
    Run perform start e.before log ∧ perform e.call e.before = .ok (e.after, e.report) ∧
      Run perform e.after s log' := by
  -- Cut in front of the entry and again behind it: the middle run is one call.
  rcases h.split log (e :: log') rfl with ⟨m₁, h1, hrest⟩
  rcases hrest.split [e] log' rfl with ⟨m₂, hone, h2⟩
  rcases hone.single rfl with ⟨hb, ha, hcall⟩
  rw [hb, ha]
  exact ⟨h1, hcall, h2⟩

/-- The same for an entry that is somewhere in the log. -/
theorem of_mem {e : Entry κ ρ} (h : Run perform start s log) (he : e ∈ log) :
    ∃ pre post, log = pre ++ e :: post ∧ Run perform start e.before pre ∧
      perform e.call e.before = .ok (e.after, e.report) ∧ Run perform e.after s post := by
  rcases List.append_of_mem he with ⟨pre, post, rfl⟩
  exact ⟨pre, post, rfl, h.entry⟩

/-- What ties a store to the log holds at the end of a run if it holds of an
    empty log and every call that goes through extends it by its entry. -/
theorem logged {P : Store → List (Entry κ ρ) → Prop} (h : Run perform start s log)
    (h0 : P start [])
    (hstep : ∀ call s s' report log, P s log → perform call s = .ok (s', report) →
      P s' (log ++ [⟨s, call, s', report⟩])) : P s log := by
  induction h with
  | here => exact h0
  | went _ hcall ih => exact hstep _ _ _ _ _ ih hcall
  | refused _ _ ih => exact ih

/-- What every call that goes through preserves holds at the end of a run. -/
theorem invariant {P : Store → Prop} (h : Run perform start s log) (h0 : P start)
    (hstep : ∀ call s s' report, P s → perform call s = .ok (s', report) → P s') : P s :=
  h.logged (P := fun s _ => P s) h0 fun call s s' report _ => hstep call s s' report

/-- What every call of a kind preserves holds at the end of a run in which only
    such calls went through. -/
theorem invariant_of_forall {P : Store → Prop} {Q : Entry κ ρ → Prop}
    (h : Run perform start s log) (h0 : P start) (hall : ∀ e ∈ log, Q e)
    (hstep : ∀ call s s' report, P s → perform call s = .ok (s', report) →
      Q ⟨s, call, s', report⟩ → P s') : P s := by
  -- The condition is on the whole log, so it is carried along as a premise.
  refine h.logged (P := fun s log => (∀ e ∈ log, Q e) → P s) (fun _ => h0) ?_ hall
  intro call s s' report log ih hcall hall
  rw [List.forall_mem_append, List.forall_mem_singleton] at hall
  exact hstep call s s' report (ih hall.1) hcall hall.2

end Run

/-! ### Lists that grow at their end

Logs do, and so do the lists that a log is compared with. -/

section Snoc

variable {α : Type} {l : List α} {a : α}

theorem forall_mem_snoc {p : α → Prop} :
    (∀ a' ∈ l ++ [a], p a') ↔ (∀ a' ∈ l, p a') ∧ p a := by
  rw [List.forall_mem_append, List.forall_mem_singleton]

theorem exists_mem_snoc {p : α → Prop} :
    (∃ a' ∈ l ++ [a], p a') ↔ (∃ a' ∈ l, p a') ∨ p a := by
  simp only [List.mem_append, List.mem_singleton, or_and_right, exists_or, exists_eq_left]

theorem countP_snoc (p : α → Bool) :
    (l ++ [a]).countP p = l.countP p + if p a = true then 1 else 0 := by
  rw [List.countP_append, List.countP_singleton]

/-- A new entry at the end repeats nothing. -/
theorem nodup_snoc (hnodup : l.Nodup) (hnew : a ∉ l) : (l ++ [a]).Nodup := by
  refine List.nodup_append.mpr ⟨hnodup, List.pairwise_singleton _ _, ?_⟩
  intro b hb a' ha' hsame
  rw [List.mem_singleton] at ha'
  rw [hsame, ha'] at hb
  exact hnew hb

/-- A new entry at the end is compared with all that were there. -/
theorem pairwise_snoc {R : α → α → Prop} (h : l.Pairwise R) (hlast : ∀ a' ∈ l, R a' a) :
    (l ++ [a]).Pairwise R := by
  refine List.pairwise_append.mpr ⟨h, List.pairwise_singleton _ _, ?_⟩
  intro a' ha' b hb
  rw [List.mem_singleton.mp hb]
  exact hlast a' ha'

/-- In a list whose pairs are related, an element is related to those on its two
    sides. -/
theorem pairwise_cut {R : α → α → Prop} {l' : List α} (h : (l ++ a :: l').Pairwise R) :
    (∀ a' ∈ l, R a' a) ∧ ∀ a' ∈ l', R a a' := by
  rcases List.pairwise_append.mp h with ⟨-, hbehind, hacross⟩
  exact ⟨fun a' ha' => hacross a' ha' a List.mem_cons_self, (List.pairwise_cons.mp hbehind).1⟩

end Snoc

end BridgeCustody
