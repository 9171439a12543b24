import BridgeCustody.Proofs.Conditions
import BridgeCustody.Proofs.Run

/-!
# Lists That Are Admitted Entry by Entry

A committee is founded with a list of members, and a ledger is deployed with a list of
roles to grant. Both lists are of any length and come from outside, and both are gone
through in the same way. Each entry has to be in order by itself, and then it must not
repeat what came before it. Whoever made a mistake in such a list wants to be told
where, and is told about one entry only, so that it matters which one this is.

For the whole list this is one condition after the other, two for each entry. The first
of the two is a matter of the entry, but the second depends on everything in front of it.
So it has to be shown what the conditions come to, and it is no more than one expects:
all of them hold if every entry is in order and no two are the same.

What an entry repeats need not be the entry. A role is granted to an address, and the
text of the address is what is in the list. Nor need it have come from the list, because
some things may be taken before the list is looked at, as the first administrator is.

## Main definitions

* `Admission`: How the entries of a list are checked.
* `Admission.entry`, `Admission.conditions`: The conditions on one entry, and on a list.

## Theorems

* `Admission.forall_holds_iff`: Everything holds if all entries are in order and none is
  a repetition.
* `Admission.firstFails_iff`: What fails first is about the first entry that is not.
-/

namespace BridgeCustody

/-- How the entries of a list are checked: each by itself, and then for bringing
    something that is not taken. -/
structure Admission (α β ε : Type) where
  inOrder : α → Condition ε
  brings : α → β
  repeated : α → ε

namespace Admission

variable {α β ε : Type} (r : Admission α β ε)

/-- The conditions on an entry when some things are taken. -/
def entry (taken : List β) (a : α) : List (Condition ε) :=
  [r.inOrder a, .of (r.brings a ∉ taken) (r.repeated a)]

/-- The conditions on a list, in the order in which they are looked at. -/
def conditions (taken : List β) : List α → List (Condition ε)
  | [] => []
  | a :: rest => r.entry taken a ++ conditions (taken ++ [r.brings a]) rest

variable {r} {taken : List β} {l : List α} {e : ε}

/-- What holds of an entry. -/
theorem forall_entry_iff {a : α} :
    (∀ c ∈ r.entry taken a, c.Holds) ↔ (r.inOrder a).Holds ∧ r.brings a ∉ taken := by
  rw [entry, List.forall_mem_cons, List.forall_mem_singleton, Condition.holds_of]

/-- All conditions hold if every entry is in order and nothing is brought twice. -/
theorem forall_holds_iff (htaken : taken.Nodup) :
    (∀ c ∈ r.conditions taken l, c.Holds) ↔
      (∀ a ∈ l, (r.inOrder a).Holds) ∧ (taken ++ l.map r.brings).Nodup := by
  induction l generalizing taken with
  | nil =>
      rw [conditions, List.map_nil, List.append_nil]
      exact iff_of_true (List.forall_mem_nil _) ⟨List.forall_mem_nil _, htaken⟩
  | cons a rest ih =>
      have hsplit : taken ++ (a :: rest).map r.brings =
          (taken ++ [r.brings a]) ++ rest.map r.brings := by
        rw [List.map_cons, List.append_assoc, List.singleton_append]
      rw [conditions, List.forall_mem_append, forall_entry_iff, List.forall_mem_cons, hsplit]
      by_cases hold : r.brings a ∈ taken
      · -- What is taken already is brought twice, whatever follows.
        refine iff_of_false (fun h => h.1.2 hold) fun h => ?_
        rcases List.nodup_append.mp h.2 with ⟨hfront, -, -⟩
        rcases List.nodup_append.mp hfront with ⟨-, -, hdiffer⟩
        exact hdiffer _ hold _ List.mem_cons_self rfl
      · rw [ih (nodup_snoc htaken hold), and_iff_left hold, and_assoc]

/-- What fails first fails about one entry, and all that was looked at before it holds. -/
theorem firstFails_conditions_iff :
    FirstFails (r.conditions taken l) e ↔
      ∃ before a after, l = before ++ a :: after ∧ (∀ c ∈ r.conditions taken before, c.Holds) ∧
        FirstFails (r.entry (taken ++ before.map r.brings) a) e := by
  induction l generalizing taken with
  | nil =>
      refine iff_of_false firstFails_nil fun h => ?_
      rcases h with ⟨before, a, after, hnil, -⟩
      exact List.append_ne_nil_of_right_ne_nil before (List.cons_ne_nil a after) hnil.symm
  | cons x rest ih =>
      rw [conditions, firstFails_append_iff, ih]
      constructor
      · intro h
        rcases h with hfirst | ⟨hfirst, before, a, after, rfl, hbefore, hfails⟩
        · refine ⟨[], x, rest, rfl, List.forall_mem_nil _, ?_⟩
          rwa [List.map_nil, List.append_nil]
        · refine ⟨x :: before, a, after, rfl, ?_, ?_⟩
          · rw [conditions, List.forall_mem_append]
            exact ⟨hfirst, hbefore⟩
          · rwa [List.map_cons, List.append_cons]
      · intro h
        rcases h with ⟨before, a, after, hsplit, hbefore, hfails⟩
        -- The entry is the first of the list, or the first was looked at before it.
        cases before with
        | nil =>
            cases hsplit
            rw [List.map_nil, List.append_nil] at hfails
            exact .inl hfails
        | cons b before =>
            cases hsplit
            rw [conditions, List.forall_mem_append] at hbefore
            rw [List.map_cons, List.append_cons] at hfails
            exact .inr ⟨hbefore.1, before, a, after, rfl, hbefore.2, hfails⟩

/-- The same, in terms of the entries: those before it are in order and bring nothing
    twice. -/
theorem firstFails_iff (htaken : taken.Nodup) :
    FirstFails (r.conditions taken l) e ↔
      ∃ before a after, l = before ++ a :: after ∧ (∀ b ∈ before, (r.inOrder b).Holds) ∧
        (taken ++ before.map r.brings).Nodup ∧
        FirstFails (r.entry (taken ++ before.map r.brings) a) e := by
  simp only [firstFails_conditions_iff, forall_holds_iff htaken, and_assoc]

end Admission

end BridgeCustody
