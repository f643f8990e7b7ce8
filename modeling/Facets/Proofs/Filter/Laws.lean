import Facets.Proofs.Filter.Demands
import Facets.Proofs.Order.Sorted

/-
Laws of filters.

What filters leave of a collection are the records that meet their demands
(`Filter.exists_apply_iff`).  Filtering again leaves the same records, because the
demands that are dropped the second time only widen what is left, and the records
left meet those that stay.  Filtering commutes with sorting, because demands
do not depend on the order of the records, and taking records commutes with a
stable sort.
-/
namespace Facets

open Outcome Facets.Order

namespace Constraint

variable {r : Record} {cs cs' : List Constraint}

/-- The record meets all demands, and each can be tested. -/
def meetsAll (cs : List Constraint) (r : Record) : Bool := gives (admitsAll r cs) true

theorem admitsAll_eq_true : admitsAll r cs = .ok true ↔ ∀ c ∈ cs, c.admits r = .ok true := by
  induction cs with
  | nil => simp [admitsAll]
  | cons c cs ih =>
    rw [admitsAll, bind_eq_ok, List.forall_mem_cons, ← ih]
    constructor
    · rintro ⟨admitted, hc, hcs⟩
      cases admitted with
      | true => exact ⟨hc, hcs⟩
      | false => cases hcs
    · rintro ⟨hc, hcs⟩
      exact ⟨true, hc, hcs⟩

theorem admitsAll_singleton (c : Constraint) (r : Record) :
    admitsAll r [c] = c.admits r := by
  rw [admitsAll]
  cases c.admits r with
  | error e => rfl
  | ok b => cases b <;> rfl

theorem meetsAll_iff : meetsAll cs r = true ↔ ∀ c ∈ cs, c.admits r = .ok true :=
  gives_iff.trans admitsAll_eq_true

theorem meetsAll_of_sublist (hsub : cs'.Sublist cs) (h : meetsAll cs r = true) :
    meetsAll cs' r = true :=
  meetsAll_iff.mpr fun c hc => meetsAll_iff.mp h c (hsub.subset hc)

theorem admitsAll_congr {r' : Record} (h : ∀ c ∈ cs, c.admits r' = c.admits r) :
    admitsAll r' cs = admitsAll r cs := by
  induction cs with
  | nil => rfl
  | cons c cs ih =>
    obtain ⟨hc, hcs⟩ := List.forall_mem_cons.mp h
    rw [admitsAll, admitsAll, hc, ih hcs]

end Constraint

open Constraint

namespace Filter

variable {s : Schema} {ds : List FilterDefinition} {state : FilterState} {ranges : FieldRanges}
  {records kept : List Record} {sel : Selection}

theorem outcome_noteSkipped (issues : List Issue) : (noteSkipped issues).outcome = .ok () := by
  induction issues with
  | nil => rfl
  | cons issue rest ih =>
    rw [noteSkipped, Journaled.outcome_bind, Journaled.outcome_note, ok_bind, ih]

theorem outcome_apply :
    (apply s ds state ranges records).outcome =
      (demands s state ranges records (s.usableFilters ds)).outcome >>= fun cs =>
        if cs.isEmpty then .ok .whole
        else keepWhere (fun r => admitsAll r cs) records >>= fun kept => .ok (.part kept) := by
  simp only [apply, Journaled.outcome_bind, outcome_noteSkipped, ok_bind]
  refine congrArg ((demands s state ranges records (s.usableFilters ds)).outcome >>= ·)
    (funext fun cs => ?_)
  cases cs.isEmpty <;> simp

theorem apply_eq_ok :
    (apply s ds state ranges records).outcome = .ok sel ↔
      ∃ cs, (demands s state ranges records (s.usableFilters ds)).outcome = .ok cs ∧
        if cs.isEmpty then .whole = sel
        else ∃ kept, keepWhere (fun r => admitsAll r cs) records = .ok kept ∧ .part kept = sel := by
  rw [outcome_apply, bind_eq_ok]
  refine exists_congr fun cs => and_congr_right fun _ => ?_
  cases cs.isEmpty <;> simp [bind_eq_ok]

/-- What filters leave are the records that meet all demands, in their order.  A
collection of which nothing is demanded is no exception. -/
theorem exists_apply_iff :
    (∃ sel, (apply s ds state ranges records).outcome = .ok sel ∧ sel.records records = kept) ↔
      ∃ cs, (demands s state ranges records (s.usableFilters ds)).outcome = .ok cs ∧
        (∀ r ∈ records, ∃ b, admitsAll r cs = .ok b) ∧ records.filter (meetsAll cs) = kept := by
  have hnone : records.filter (meetsAll []) = records := List.filter_eq_self.mpr fun _ _ => rfl
  constructor
  · rintro ⟨sel, hsel, rfl⟩
    obtain ⟨cs, hcs, hsel⟩ := apply_eq_ok.mp hsel
    refine ⟨cs, hcs, ?_⟩
    cases cs with
    | nil =>
      obtain rfl := hsel
      exact ⟨fun r _ => ⟨true, rfl⟩, hnone⟩
    | cons c cs =>
      obtain ⟨kept, hkept, rfl⟩ := hsel
      obtain ⟨hall, rfl⟩ := keepWhere_eq_ok.mp hkept
      exact ⟨hall, rfl⟩
  · rintro ⟨cs, hcs, hall, rfl⟩
    cases cs with
    | nil => exact ⟨.whole, apply_eq_ok.mpr ⟨[], hcs, rfl⟩, hnone.symm⟩
    | cons c cs =>
      refine ⟨.part _, apply_eq_ok.mpr ⟨c :: cs, hcs, ?_⟩, rfl⟩
      exact ⟨_, keepWhere_eq_ok.mpr ⟨hall, rfl⟩, rfl⟩

theorem exists_apply_of_perm {records' : List Record} (hperm : records'.Perm records)
    (h : (apply s ds state [] records).outcome = .ok sel) :
    ∃ sel', (apply s ds state [] records').outcome = .ok sel' ∧
      ∃ p, sel.records records = records.filter p ∧ sel'.records records' = records'.filter p := by
  obtain ⟨cs, hcs, hall, hkept⟩ := exists_apply_iff.mp ⟨sel, h, rfl⟩
  obtain ⟨sel', hsel', hkept'⟩ := exists_apply_iff.mpr
    ⟨cs, demands_perm hperm hcs, fun r hr => hall r (hperm.mem_iff.mp hr), rfl⟩
  exact ⟨sel', hsel', meetsAll cs, hkept.symm, hkept'⟩

end Filter

namespace Sample

/-- Books by length and by title. -/
def filters : List FilterDefinition :=
  [⟨"pages", .range, "Length", true, none⟩, ⟨"title", .text, "Title", true, none⟩]

/-- At least 300 pages, which spans the lengths of the books that it leaves. -/
def long : FilterState := [("pages", .list [.int 300, .null])]

theorem exists_apply_long :
    ∃ sel, (Filter.apply schema filters long [] books).outcome = .ok sel ∧
      (sel.records books).map Record.serial = [0, 2] := by
  have hserials : gives ((Filter.apply schema filters long [] books).outcome.map fun sel =>
      (sel.records books).map Record.serial) [0, 2] = true := by decide +kernel
  exact map_eq_ok.mp (gives_iff.mp hserials)

end Sample

/-! ## Filtering again -/

/-- Filters leave some of the records in their order, and leave them all when
they are used again.  Bounds of the data are those of what is filtered, so a
range may demand something the first time and nothing the second time. -/
theorem apply_sublist_idempotent {s : Schema} {ds : List FilterDefinition} {state : FilterState}
    {records : List Record} {sel : Selection}
    (h : (Filter.apply s ds state [] records).outcome = .ok sel) :
    (sel.records records).Sublist records ∧
      ∃ again, (Filter.apply s ds state [] (sel.records records)).outcome = .ok again ∧
        again.records (sel.records records) = sel.records records := by
  obtain ⟨cs, hcs, _, hkept⟩ := Filter.exists_apply_iff.mp ⟨sel, h, rfl⟩
  rw [← hkept]
  have hsub : (records.filter (meetsAll cs)).Sublist records := List.filter_sublist
  -- The bounds are now those of the records left, which can only drop demands.
  obtain ⟨cs', hcs', hfewer⟩ := Filter.exists_demands_of_subset hsub.subset hcs
  have hmeets : ∀ r ∈ records.filter (meetsAll cs), meetsAll cs' r = true := fun r hr =>
    meetsAll_of_sublist hfewer (List.mem_filter.mp hr).2
  refine ⟨hsub, Filter.exists_apply_iff.mpr ⟨cs', hcs', fun r hr => ?_, ?_⟩⟩
  · exact ⟨true, gives_iff.mp (hmeets r hr)⟩
  · exact List.filter_eq_self.mpr hmeets

open Sample in
theorem apply_sublist_idempotent_long :
    ∃ sel, (Filter.apply schema filters long [] books).outcome = .ok sel ∧
      (sel.records books).map Record.serial = [0, 2] ∧ (sel.records books).Sublist books ∧
      ∃ again, (Filter.apply schema filters long [] (sel.records books)).outcome = .ok again ∧
        again.records (sel.records books) = sel.records books := by
  obtain ⟨sel, hsel, hserials⟩ := exists_apply_long
  exact ⟨sel, hsel, hserials, apply_sublist_idempotent hsel⟩

/-! ## Filtering and sorting -/

/-- Filtering what is sorted and sorting what is filtered give the same records
in the same order. -/
theorem apply_sortBy_comm {s : Schema} {ds : List FilterDefinition} {state : FilterState}
    {key : SortKey} {records sorted : List Record} {sel : Selection}
    (hsort : (sortBy (some s) key records).outcome = .ok sorted)
    (h : (Filter.apply s ds state [] sorted).outcome = .ok sel) :
    ∃ first, (Filter.apply s ds state [] records).outcome = .ok first ∧
      (sortBy (some s) key (first.records records)).outcome = .ok (sel.records sorted) := by
  have hstable : IsStableSort (s.compareBy key) records sorted := Schema.sortBy_isStableSort hsort
  obtain ⟨first, hfirst, p, hkept, hkept'⟩ := Filter.exists_apply_of_perm hstable.perm.symm h
  refine ⟨first, hfirst, ?_⟩
  rw [hkept, hkept']
  have hpart : (records.filter p).Sublist records := List.filter_sublist
  obtain ⟨out, hout⟩ := Schema.exists_sortBy_of_sublist hpart hsort
  have hsame : out = sorted.filter p :=
    (Schema.sortBy_isStableSort hout).unique (s.isPreorder_compareBy key) (hstable.filter p)
  rw [hout, hsame]

open Sample in
theorem apply_sortBy_comm_books :
    ∃ sorted sel first, (sortBy (some schema) byTitle books).outcome = .ok sorted ∧
      (Filter.apply schema filters long [] sorted).outcome = .ok sel ∧
      (Filter.apply schema filters long [] books).outcome = .ok first ∧
      (sortBy (some schema) byTitle (first.records books)).outcome = .ok (sel.records sorted) := by
  have hrank : ∀ f, schema.sortField? byTitle.field = some f →
      ∀ r ∈ books, f.kind.CanRank (r.field byTitle.field) := by
    intro f hf r hr
    obtain rfl := Option.some.inj (hf : some title = some f)
    obtain ⟨text, htext⟩ := plain_title r hr
    exact Kind.canRank_of_plain htext
  obtain ⟨sorted, hsorted⟩ := Schema.exists_sortBy hrank
  obtain ⟨_, hunsorted, _⟩ := exists_apply_long
  obtain ⟨sel, hsel, _⟩ :=
    Filter.exists_apply_of_perm (Schema.sortBy_isStableSort hsorted).perm hunsorted
  obtain ⟨first, hfirst, hboth⟩ := apply_sortBy_comm hsorted hsel
  exact ⟨sorted, sel, first, hsorted, hsel, hfirst, hboth⟩

end Facets
