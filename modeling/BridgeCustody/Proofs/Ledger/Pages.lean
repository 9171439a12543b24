import BridgeCustody.Ledger.Query
import BridgeCustody.Proofs.Ledger.Payout
import BridgeCustody.Proofs.Places

/-!
# A List of Holders Is Complete

Who holds a role can only be listed in pages, and whoever wants to know all of them has
to put the pages together: ask for a first page, go on behind its last entry, and stop
when a page comes back short. An auditor who does this relies on there being nobody
between two pages and nobody on both, on no page failing, and on the short page being
the last.

None of this is in the code of a page. That the pages fit together is because the store
is scanned in the order by which the cursor is compared, which is the order of bytes
for both. That no page fails is a fact about runs. A page is refused if some entry of it
cannot have come from a grant, so all entries have to, and the cursor has to be a valid
address because it was one when its role was granted. Only the deployer's address is
not checked by the ledger, which takes it from the host.

The sizes of the pages do not matter, as long as each is at least one. A page of nothing
would be full and without a last entry to go on behind.

## Main definitions

* `Rostered`: What stands under a role are marks for valid addresses.
* `Roster`: The holders of a role, in the order in which they are listed.
* `behind`: The part of a list behind a cursor.
* `Listing`: The pages of a role, put together.

## Theorems

* `Store.pairwise_below`: A scan is in the order of bytes.
* `Rostered.saved`, `run_rostered`: The marks along a run.
* `Roster.query_members`: What a page is.
* `Roster.exists_listing`, `Listing.flatten_eq`: The pages end, and are the list.
* `listing_complete`: All this for the runs from a deployment.
-/

namespace BridgeCustody

namespace Bytes

/-- Stores are ordered as lists of bytes are. -/
theorem compare_eq_lt_iff {a b : Bytes} : compare a b = .lt ↔ a < b := by
  induction a generalizing b with
  | nil => cases b <;> simp
  | cons x a ih =>
      cases b with
      | nil => simp
      | cons y b =>
          rw [List.cons_lt_cons_iff, ← ih, List.compare_eq_compareLex, List.compareLex_cons_cons,
            Ordering.then_eq_lt, Std.compare_eq_lt, Std.LawfulEqCmp.compare_eq_iff_eq]

/-- A common start does not matter to the order. -/
theorem append_lt_append_iff (start a b : Bytes) : start ++ a < start ++ b ↔ a < b := by
  induction start with
  | nil => rfl
  | cons x start ih => simp [ih]

end Bytes

/-- A scan goes through what is left of the keys in its order. -/
theorem Store.pairwise_below (s : Store) (start : Bytes) :
    (s.below start).Pairwise fun e e' => e.1 < e'.1 := by
  rw [below_eq_map, Std.ExtTreeMap.toList_filter, List.pairwise_map]
  refine (Std.ExtTreeMap.ordered_keys_toList.filter _).imp_of_mem ?_
  intro e e' he he' hlt
  rcases List.isPrefixOf_iff_prefix.mp (List.mem_filter.mp he).2 with ⟨rest, hrest⟩
  rcases List.isPrefixOf_iff_prefix.mp (List.mem_filter.mp he').2 with ⟨rest', hrest'⟩
  rw [Bytes.compare_eq_lt_iff, ← hrest, ← hrest', Bytes.append_lt_append_iff] at hlt
  rw [← hrest, ← hrest', List.drop_left, List.drop_left]
  exact hlt

namespace Ledger

/-- The entry that a grant leaves, with the start of its key cut off. -/
def entryOf (a : Address) : Bytes × String :=
  (a.bytes, Mark.text)

/-- Whatever stands under the start of a role is a mark for a valid address. -/
def Rostered [AddressRule] (s : Store) : Prop :=
  ∀ role, ∀ e ∈ s.below (roleStart role), ∃ a, Address.Valid a.text ∧ e = entryOf a

/-- The holders of a role, in the order of their bytes, are what stands under it. -/
structure Roster [AddressRule] (s : Store) (role : Role) (holders : List Address) : Prop where
  below_eq : s.below (roleStart role) = holders.map entryOf
  valid : ∀ a ∈ holders, Address.Valid a.text
  sorted : holders.Pairwise fun a b => a.bytes < b.bytes

/-- The part of a list of holders behind a cursor. -/
def behind : Option Address → List Address → List Address
  | none, holders => holders
  | some a, holders => holders.filter fun b => a.bytes < b.bytes

/-- The pages that are answered one after the other under some limits, each asked for
    behind the last entry of the one before, up to the first that is short. -/
inductive Listing [AddressRule] (chain : Chain) (s : Store) (role : Role) :
    Option Address → (Nat → Option UInt32) → List (List Address) → Prop
  | last {cursor limits page}
      (hpage : query chain s (.members role (cursor.map (·.text)) (limits 0)) =
        .ok (.members role page))
      (hshort : page.length < pageSize (limits 0)) : Listing chain s role cursor limits [page]
  | next {cursor limits page a pages}
      (hpage : query chain s (.members role (cursor.map (·.text)) (limits 0)) =
        .ok (.members role page))
      (hfull : pageSize (limits 0) ≤ page.length) (hlast : page.getLast? = some a)
      (hrest : Listing chain s role (some a) (fun i => limits (i + 1)) pages) :
      Listing chain s role cursor limits (page :: pages)

section Stores

variable [AddressRule] {p : Place} {s t : Store}

/-- What is saved keeps the marks in order, if it is not under a role, or is a mark for
    a valid address there, or nothing. -/
theorem Rostered.saved (h : Rostered s) (hsaves : Saves p s t)
    (hrole : ∀ role a, p = .role role a → ∀ text, t.get? p.key = some text →
      Address.Valid a.text ∧ text = Mark.text) : Rostered t := by
  rintro role ⟨rest, text⟩ he
  rw [Store.mem_below_iff] at he
  by_cases hkey : roleStart role ++ rest = p.key
  · rcases Place.roleStart_append_eq_key_iff.mp hkey with ⟨a, hp, rfl⟩
    rw [hkey] at he
    rcases hrole role a hp text he with ⟨hvalid, rfl⟩
    exact ⟨a, hvalid, rfl⟩
  · rw [hsaves.get?_of_ne hkey] at he
    exact h role _ (Store.mem_below_iff.mpr he)

/-- A mark for a valid address may be set. -/
theorem Rostered.occupy (h : Rostered s) (role : Role) {a : Address}
    (hvalid : Address.Valid a.text) : Rostered ((roleCell role a).occupy s) := by
  refine h.saved (.grant role a s) ?_
  intro role' a' hp text htext
  cases hp
  rw [Place.key, Cell.get?_occupy, if_pos rfl] at htext
  cases htext
  exact ⟨hvalid, rfl⟩

/-- A mark may be removed. -/
theorem Rostered.clear (h : Rostered s) (role : Role) (a : Address) :
    Rostered ((roleCell role a).clear s) := by
  refine h.saved (.revoke role a s) ?_
  intro role' a' hp text htext
  rw [Place.key, Cell.get?_clear, if_pos rfl] at htext
  cases htext

theorem Rostered.apply (h : Rostered s) {change : Change}
    (hgrant : ∀ role a, change = .grant role a → Address.Valid a.text) :
    Rostered (change.apply s) := by
  cases change with
  | nothing => exact h
  | grant role a => exact h.occupy role (hgrant role a rfl)
  | revoke role a => exact h.clear role a
  | refund id amount => exact h.saved (.refund id amount s) nofun

theorem rostered_empty : Rostered .empty := by
  rintro role ⟨rest, text⟩ he
  rw [Store.mem_below_iff, Store.get?_empty] at he
  cases he

/-- Only checked addresses are granted a role. -/
theorem Performs.valid_of_grant {g : Registry} {chain : Chain} {sender : Address} {l : Ledger}
    {message : Message} {out : Outcome} (h : Performs g chain sender l message out) {role : Role}
    {a : Address} (hchange : out.change = .grant role a) : Address.Valid a.text := by
  cases h with
  | grantRole _ haddress _ =>
      cases hchange
      exact haddress
  | _ => cases hchange

/-- A call that goes through keeps the marks in order. -/
theorem Rostered.perform (h : Rostered s) {call : Call} {receipt : Receipt}
    (hcall : call.perform s = .ok (t, receipt)) : Rostered t := by
  cases call with
  | migrate =>
      cases hcall
      exact h.saved (.release .ofLedger s) nofun
  | execute chain sender message =>
      rcases execute_eq_ok_iff.mp hcall with ⟨l, out, -, -, hperf, rfl, -⟩
      have happly := h.apply fun role a => hperf.valid_of_grant
      exact happly.saved (.value out.ledger _) nofun

theorem Rostered.grantEach (h : Rostered s) {grants : List Grant}
    (hgrants : grantEach grants s = .ok t) : Rostered t := by
  induction grants generalizing s with
  | nil =>
      cases hgrants
      exact h
  | cons g rest ih =>
      simp only [Ledger.grantEach, bind_eq_ok_iff, checkAddress_eq_ok_iff] at hgrants
      rcases hgrants with ⟨_, ⟨hvalid, rfl⟩, s₁, hone, hrest⟩
      rcases grant_eq_ok_iff.mp hone with ⟨-, rfl⟩
      exact ih (h.occupy g.role hvalid) hrest

/-- From a deployment on an empty store, by a valid address, the marks are in order. -/
theorem run_rostered {chain : Chain} {deployer : Address} {d : Deployment} {start : Store}
    {receipt : Receipt} {log : List (Entry Call Receipt)} (hdeployer : Address.Valid deployer.text)
    (hdeploy : deploy chain deployer d .empty = .ok (start, receipt))
    (hrun : Run Call.perform start s log) : Rostered s := by
  rcases deploy_eq_ok_iff.mp hdeploy with ⟨-, -, -, s₁, hadmin, hgrants, -⟩
  have hreleased := rostered_empty.saved (.release .ofLedger .empty) nofun
  have hwritten := hreleased.saved (.value (fresh ⟨d.token⟩ chain.height d) _) nofun
  rcases grant_eq_ok_iff.mp hadmin with ⟨-, rfl⟩
  have hstart := (hwritten.occupy .admin hdeployer).grantEach hgrants
  exact hrun.invariant hstart fun _ _ _ _ h hcall => h.perform hcall

/-- Entries that grants could have left are those of a list of addresses. -/
theorem exists_map_entryOf {entries : List (Bytes × String)}
    (h : ∀ e ∈ entries, ∃ a, Address.Valid a.text ∧ e = entryOf a) :
    ∃ holders : List Address, entries = holders.map entryOf ∧
      ∀ a ∈ holders, Address.Valid a.text := by
  induction entries with
  | nil => exact ⟨[], rfl, List.forall_mem_nil _⟩
  | cons e rest ih =>
      rcases List.forall_mem_cons.mp h with ⟨⟨a, ha, rfl⟩, hrest⟩
      rcases ih hrest with ⟨holders, rfl, hvalid⟩
      exact ⟨a :: holders, rfl, List.forall_mem_cons.mpr ⟨ha, hvalid⟩⟩

/-- Where the marks are in order, there is a list of the holders of each role. -/
theorem Rostered.exists_roster (h : Rostered s) (role : Role) :
    ∃ holders, Roster s role holders := by
  rcases exists_map_entryOf (h role) with ⟨holders, hbelow, hvalid⟩
  refine ⟨holders, hbelow, hvalid, ?_⟩
  -- The scan was in order, and the entries are in the order of the addresses.
  have hsorted := s.pairwise_below (roleStart role)
  rw [hbelow, List.pairwise_map] at hsorted
  exact hsorted

end Stores

section Lists

variable {cursor : Option Address} {holders : List Address} {a : Address} {n : Nat}

theorem mapM_holderOfEntry (holders : List Address) :
    (holders.map entryOf).mapM holderOfEntry = .ok holders := by
  induction holders with
  | nil => rfl
  | cons a rest ih =>
      have hone : holderOfEntry (entryOf a) = .ok a := by
        simp only [holderOfEntry, entryOf, holderOfKey, Address.bytes, Bytes.toText?_ofText,
          Mark.ofText_text]
        rfl
      rw [List.map_cons, List.mapM_cons, hone, ok_bind, ih, ok_bind]
      rfl

/-- Behind an element of a list in order is what follows it. -/
theorem behind_of_sorted {front back : List Address}
    (hsorted : (front ++ a :: back).Pairwise fun a b => a.bytes < b.bytes) :
    behind (some a) (front ++ a :: back) = back := by
  rcases pairwise_cut hsorted with ⟨hfront, hback⟩
  have hnone : front.filter (fun b => a.bytes < b.bytes) = [] := by
    refine List.filter_eq_nil_iff.mpr fun b hb => ?_
    rw [decide_eq_true_iff]
    exact List.lt_asymm (hfront b hb)
  have hall : back.filter (fun b => a.bytes < b.bytes) = back :=
    List.filter_eq_self.mpr fun b hb => decide_eq_true (hback b hb)
  rw [behind, List.filter_append, List.filter_cons, if_neg (by simp), hnone, hall,
    List.nil_append]

theorem mem_of_mem_behind (h : a ∈ behind cursor holders) : a ∈ holders := by
  cases cursor with
  | none => exact h
  | some c => exact List.mem_of_mem_filter h

/-- The last entry of a page is a cursor that stands for a holder. -/
theorem mem_of_getLast (hlast : ((behind cursor holders).take n).getLast? = some a) :
    ∀ b ∈ some a, b ∈ holders := by
  rintro b ⟨⟩
  exact mem_of_mem_behind (List.mem_of_mem_take (List.mem_of_getLast? hlast))

/-- The page behind a cursor is followed by what is behind its last entry. -/
theorem behind_getLast (hsorted : holders.Pairwise fun a b => a.bytes < b.bytes)
    (hcursor : ∀ a ∈ cursor, a ∈ holders)
    (hlast : ((behind cursor holders).take n).getLast? = some a) :
    behind (some a) holders = (behind cursor holders).drop n := by
  -- What is behind the cursor is the end of the list.
  have hsuffix : ∃ front, holders = front ++ behind cursor holders := by
    cases cursor with
    | none => exact ⟨[], rfl⟩
    | some c =>
        rcases List.append_of_mem (hcursor c rfl) with ⟨front, back, rfl⟩
        refine ⟨front ++ [c], ?_⟩
        rw [behind_of_sorted hsorted, List.append_assoc]
        rfl
  rcases hsuffix with ⟨front, hfront⟩
  rcases List.getLast?_eq_some_iff.mp hlast with ⟨init, hinit⟩
  have hcut : holders = (front ++ init) ++ a :: (behind cursor holders).drop n := by
    calc holders = front ++ behind cursor holders := hfront
      _ = front ++ ((behind cursor holders).take n ++ (behind cursor holders).drop n) := by
          rw [List.take_append_drop]
      _ = (front ++ init) ++ a :: (behind cursor holders).drop n := by
          rw [hinit, List.append_assoc, List.append_assoc]
          rfl
  rw [hcut] at hsorted
  have hbehind := behind_of_sorted hsorted
  rw [← hcut] at hbehind
  exact hbehind

end Lists

theorem queryAddress_eq_ok_iff [AddressRule] {text : String} {a : Address} :
    queryAddress text = .ok a ↔ Address.Valid text ∧ a = ⟨text⟩ :=
  ofHost_eq_ok_iff.symm.trans checkAddress_eq_ok_iff

/-- An address is said to hold a role if it is one and does. -/
theorem query_hasRole_eq_true_iff [AddressRule] {chain : Chain} {s : Store} {role : Role}
    {text : String} :
    query chain s (.hasRole role text) = .ok (.hasRole true) ↔
      Address.Valid text ∧ (Registry.ofStore s).holds role ⟨text⟩ = true := by
  rw [query]
  simp only [bind_eq_ok_iff, queryAddress_eq_ok_iff, pure_eq_ok, Except.ok.injEq,
    Answer.hasRole.injEq]
  constructor
  · rintro ⟨_, ⟨hvalid, rfl⟩, hholds⟩
    exact ⟨hvalid, hholds⟩
  · rintro ⟨hvalid, hholds⟩
    exact ⟨⟨text⟩, ⟨hvalid, rfl⟩, hholds⟩

theorem one_le_pageSize {limit : Option UInt32} (h : limit ≠ some 0) : 1 ≤ pageSize limit := by
  rw [pageSize, Nat.le_min]
  refine ⟨?_, by decide⟩
  cases limit with
  | none => decide
  | some n =>
      rw [Option.getD_some, Nat.one_le_iff_ne_zero]
      exact fun hzero => h (congrArg some (UInt32.toNat_inj.mp hzero))

section Pages

variable [AddressRule] {chain : Chain} {s : Store} {role : Role} {holders : List Address}
  {cursor : Option Address} {limits : Nat → Option UInt32} {pages : List (List Address)}

/-- A page is as much as there is behind the cursor, up to its size. -/
theorem Roster.query_members (h : Roster s role holders) (chain : Chain)
    (hcursor : ∀ a ∈ cursor, a ∈ holders) (limit : Option UInt32) :
    query chain s (.members role (cursor.map (·.text)) limit) =
      .ok (.members role ((behind cursor holders).take (pageSize limit))) := by
  have hread : (cursor.map (·.text)).mapM queryAddress = .ok cursor := by
    cases cursor with
    | none => rfl
    | some a =>
        have hchecked : queryAddress a.text = .ok a :=
          queryAddress_eq_ok_iff.mpr ⟨h.valid a (hcursor a rfl), rfl⟩
        rw [Option.map_some, Option.mapM_some, hchecked]
        rfl
  have hmembers : members s role cursor limit =
      .ok ((behind cursor holders).take (pageSize limit)) := by
    rw [← mapM_holderOfEntry, List.map_take]
    cases cursor with
    | none => rw [members, h.below_eq, behind]
    | some a =>
        rw [members, h.below_eq, behind, List.filter_map]
        rfl
  rw [query, hread, ok_bind, hmembers, ok_bind]
  rfl

/-- The pages come to an end, whatever their sizes are. -/
theorem Roster.exists_listing (h : Roster s role holders) (chain : Chain)
    (hlimits : ∀ i, limits i ≠ some 0) (hcursor : ∀ a ∈ cursor, a ∈ holders) :
    ∃ pages, Listing chain s role cursor limits pages := by
  -- By induction on how much is left, since a full page is not empty.
  induction hleft : (behind cursor holders).length using Nat.strong_induction_on
    generalizing cursor limits with
  | _ left ih =>
      have hpage := h.query_members chain hcursor (limits 0)
      by_cases hshort : left < pageSize (limits 0)
      · refine ⟨_, .last hpage ?_⟩
        rw [List.length_take, hleft]
        omega
      · have hpositive := one_le_pageSize (hlimits 0)
        have hlength : ((behind cursor holders).take (pageSize (limits 0))).length =
            pageSize (limits 0) := by
          rw [List.length_take, hleft]
          omega
        rcases hlast : ((behind cursor holders).take (pageSize (limits 0))).getLast? with _ | a
        · rw [List.getLast?_eq_none_iff] at hlast
          rw [hlast, List.length_nil] at hlength
          omega
        · have hless : (behind (some a) holders).length < left := by
            rw [behind_getLast h.sorted hcursor hlast, List.length_drop]
            omega
          rcases ih _ hless (fun i => hlimits (i + 1)) (mem_of_getLast hlast) rfl with
            ⟨pages, hpages⟩
          exact ⟨_, .next hpage (Nat.le_of_eq hlength.symm) hlast hpages⟩

/-- Put together, the pages are all that is behind the cursor. -/
theorem Listing.flatten_eq (hpages : Listing chain s role cursor limits pages)
    (h : Roster s role holders) (hcursor : ∀ a ∈ cursor, a ∈ holders) :
    pages.flatten = behind cursor holders := by
  induction hpages with
  | @last cursor limits page hpage hshort =>
      cases (h.query_members chain hcursor (limits 0)).symm.trans hpage
      rw [List.length_take] at hshort
      rw [List.flatten_singleton]
      exact List.take_of_length_le (by omega)
  | @next cursor limits page a pages hpage _ hlast _ ih =>
      cases (h.query_members chain hcursor (limits 0)).symm.trans hpage
      rw [List.flatten_cons, ih (mem_of_getLast hlast), behind_getLast h.sorted hcursor hlast,
        List.take_append_drop]

/-- No page is longer than its size. -/
theorem Listing.length_le (hpages : Listing chain s role cursor limits pages)
    (h : Roster s role holders) (hcursor : ∀ a ∈ cursor, a ∈ holders) :
    ∀ i page, pages[i]? = some page → page.length ≤ pageSize (limits i) := by
  induction hpages with
  | @last cursor limits page hpage hshort =>
      intro i page' hat
      cases i with
      | zero =>
          cases hat
          exact Nat.le_of_lt hshort
      | succ i => cases hat
  | @next cursor limits page a pages hpage _ hlast _ ih =>
      cases (h.query_members chain hcursor (limits 0)).symm.trans hpage
      intro i page' hat
      cases i with
      | zero =>
          cases hat
          exact List.length_take_le _ _
      | succ i => exact ih (mem_of_getLast hlast) i page' hat

/-- Who is on the list of a role is who is said to hold it. -/
theorem Roster.query_hasRole_iff (h : Roster s role holders) (chain : Chain) {text : String} :
    query chain s (.hasRole role text) = .ok (.hasRole true) ↔ ⟨text⟩ ∈ holders := by
  rw [query_hasRole_eq_true_iff, Registry.holds_iff_mem_below, h.below_eq]
  constructor
  · rintro ⟨-, mark, hmem⟩
    rcases List.mem_map.mp hmem with ⟨a, ha, hentry⟩
    rw [← Address.bytes_inj (Prod.mk.inj hentry).1]
    exact ha
  · exact fun hmem => ⟨h.valid _ hmem, Mark.text, List.mem_map_of_mem hmem⟩

end Pages

/-- In a run from a deployment by a valid address, the pages of a role can be asked for
    one after the other, in whatever sizes but zero, and none of them fails. They come
    to an end. Put together they are the addresses that are said to hold the role, in
    the order of bytes and each once, and no page is longer than its size. -/
theorem listing_complete [AddressRule] {chain : Chain} {deployer : Address} {d : Deployment}
    {start s : Store} {receipt : Receipt} {log : List (Entry Call Receipt)}
    (hdeployer : Address.Valid deployer.text)
    (hdeploy : deploy chain deployer d .empty = .ok (start, receipt))
    (hrun : Run Call.perform start s log) (asked : Chain) (role : Role)
    {limits : Nat → Option UInt32} (hlimits : ∀ i, limits i ≠ some 0) :
    (∃ pages, Listing asked s role none limits pages) ∧
    ∀ pages, Listing asked s role none limits pages →
      (∀ text, ⟨text⟩ ∈ pages.flatten ↔
        query asked s (.hasRole role text) = .ok (.hasRole true)) ∧
      (pages.flatten.Pairwise fun a b => a.bytes < b.bytes) ∧
      ∀ i page, pages[i]? = some page → page.length ≤ pageSize (limits i) := by
  rcases (run_rostered hdeployer hdeploy hrun).exists_roster role with ⟨holders, hroster⟩
  have hstart : ∀ a ∈ (none : Option Address), a ∈ holders := nofun
  refine ⟨hroster.exists_listing asked hlimits hstart, ?_⟩
  intro pages hpages
  have hall : pages.flatten = holders := hpages.flatten_eq hroster hstart
  rw [hall]
  exact ⟨fun text => (hroster.query_hasRole_iff asked).symm, hroster.sorted,
    hpages.length_le hroster hstart⟩

/-- The relayers of a small ledger are listed one by one. Its relayer is among them, and
    its deployer, who is an administrator, is not. -/
theorem listing_complete_of_relayer :
    ∃ start receipt s log pages,
      deploy stillChain ⟨"deployer"⟩ smallTerms .empty = .ok (start, receipt) ∧
      Run Call.perform start s log ∧
      Listing stillChain s .relayer none (fun _ => some 1) pages ∧
      ⟨"relayer"⟩ ∈ pages.flatten ∧ ⟨"deployer"⟩ ∉ pages.flatten := by
  rcases relay_smallTerms with ⟨start, receipt, s, log, hdeploy, hrun, hkept⟩
  have hdeployer : Address.Valid "deployer" := by decide
  have hone : (some 1 : Option UInt32) ≠ some 0 := by decide
  rcases listing_complete hdeployer hdeploy hrun stillChain .relayer fun _ => hone with
    ⟨⟨pages, hpages⟩, hall⟩
  rcases hall pages hpages with ⟨hmem, -, -⟩
  refine ⟨start, receipt, s, log, pages, hdeploy, hrun, hpages, ?_, ?_⟩
  · rw [hmem, query_hasRole_eq_true_iff, hkept.registry_eq]
    exact ⟨by decide, rfl⟩
  · rw [hmem, query_hasRole_eq_true_iff, hkept.registry_eq]
    exact fun h => Bool.noConfusion h.2

end Ledger

end BridgeCustody
