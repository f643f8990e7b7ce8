import Facets.Proofs.Filter.Laws
import Facets.Proofs.Filter.Ranges

/-
Filters in several passes.

With one list of data bounds, made from the whole collection, what a filter
demands depends neither on the pass it is used in nor on the filters around it
(`Filter.mem_demands_iff`).  So passes with the parts of a list of filters, in
any order, leave what one pass with all of them leaves.
-/
namespace Facets

open Outcome Constraint

namespace Filter

variable {s : Schema} {state : FilterState} {ranges : FieldRanges}
  {ds ds₁ ds₂ : List FilterDefinition} {records kept : List Record} {cs cs₁ cs₂ : List Constraint}

/-- The demands are those of the filters one by one. -/
theorem mem_demands_iff (h : (demands s state ranges records ds).outcome = .ok cs)
    {c : Constraint} :
    c ∈ cs ↔ ∃ d ∈ ds, (demandOf s state ranges records d).outcome = .ok (some c) := by
  induction ds generalizing cs with
  | nil =>
    obtain rfl := Except.ok.inj h
    simp
  | cons d ds ih =>
    obtain ⟨c', rest, hc', hrest, rfl⟩ := demands_cons_eq_ok.mp h
    simp only [List.mem_append, Option.mem_toList, List.mem_cons, exists_eq_or_imp, ih hrest, hc',
      Except.ok.injEq]

/-- A record meets the demands of two lists of filters when it meets those of any
list of the same filters. -/
theorem meetsAll_of_perm (hperm : (ds₁ ++ ds₂).Perm ds)
    (h : (demands s state ranges records ds).outcome = .ok cs)
    (h₁ : (demands s state ranges records ds₁).outcome = .ok cs₁)
    (h₂ : (demands s state ranges records ds₂).outcome = .ok cs₂) (r : Record) :
    meetsAll cs r = (meetsAll cs₁ r && meetsAll cs₂ r) := by
  have hmem : ∀ c, c ∈ cs ↔ c ∈ cs₁ ∨ c ∈ cs₂ := fun c => by
    simp only [mem_demands_iff h, mem_demands_iff h₁, mem_demands_iff h₂, ← hperm.mem_iff,
      List.mem_append, or_and_right, exists_or]
  rw [Bool.eq_iff_iff, Bool.and_eq_true, meetsAll_iff, meetsAll_iff, meetsAll_iff]
  simp only [hmem, or_imp, forall_and]

end Filter

/-! ## Two passes -/

namespace Sample

/-- At least 400 pages, and a title that two books have.  Only one of these has
pages, and more than 400. -/
def longEmma : FilterState := [("title", .text "emma"), ("pages", .list [.int 400, .null])]

/-- One filter is switched off, and one names no field. -/
def moreFilters : List FilterDefinition :=
  filters ++ [⟨"finished", .checkbox, "Finished", false, none⟩, ⟨"shelf", .select, "", true, none⟩]

end Sample

/-- Filtering with one part of the filters and then with the others, in any
order, is filtering with all of them, provided that both passes look at the data
bounds of the whole collection. -/
theorem apply_apply_of_perm {s : Schema} {ds ds₁ ds₂ : List FilterDefinition} {state : FilterState}
    {records : List Record} {ranges : List (String × Option (Number × Number))}
    {first second direct : Selection} (hperm : (ds₁ ++ ds₂).Perm ds)
    (hranges : fieldRanges s ds records = .ok ranges)
    (hfirst : (Filter.apply s ds₁ state (Query.toFieldRanges ranges) records).outcome = .ok first)
    (hsecond : (Filter.apply s ds₂ state (Query.toFieldRanges ranges)
      (first.records records)).outcome = .ok second)
    (hdirect : (Filter.apply s ds state [] records).outcome = .ok direct) :
    second.records (first.records records) = direct.records records := by
  obtain ⟨cs₁, hcs₁, _, hkept₁⟩ := Filter.exists_apply_iff.mp ⟨first, hfirst, rfl⟩
  obtain ⟨cs₂, hcs₂, _, hkept₂⟩ := Filter.exists_apply_iff.mp ⟨second, hsecond, rfl⟩
  obtain ⟨cs, hcs, _, hkept⟩ := Filter.exists_apply_iff.mp ⟨direct, hdirect, rfl⟩
  have husable : (s.usableFilters ds₁ ++ s.usableFilters ds₂).Perm (s.usableFilters ds) := by
    have hfilter := hperm.filter s.canFilter
    rwa [List.filter_append] at hfilter
  -- Either pass finds the bounds of the whole collection in the list.
  rw [Filter.demands_listed hranges fun d hd => husable.subset (List.mem_append_left _ hd)] at hcs₁
  rw [Filter.demands_listed hranges fun d hd => husable.subset (List.mem_append_right _ hd)] at hcs₂
  have hboth : ∀ r, meetsAll cs r = (meetsAll cs₁ r && meetsAll cs₂ r) :=
    Filter.meetsAll_of_perm husable hcs hcs₁ hcs₂
  calc second.records (first.records records)
      = (first.records records).filter (meetsAll cs₂) := hkept₂.symm
    _ = (records.filter (meetsAll cs₁)).filter (meetsAll cs₂) := by rw [hkept₁]
    _ = records.filter (meetsAll cs) := by
        rw [List.filter_filter]
        exact List.filter_congr fun r _ => by rw [hboth, Bool.and_comm]
    _ = direct.records records := hkept

namespace Sample

/-- What two passes leave, the second with the same list of bounds as the first. -/
def twoPasses (ds₁ ds₂ : List FilterDefinition) (ranges : FieldRanges) :
    Except Fault (List Nat) := do
  let first ← (Filter.apply schema ds₁ longEmma ranges books).outcome
  let second ← (Filter.apply schema ds₂ longEmma ranges (first.records books)).outcome
  pure ((second.records (first.records books)).map Record.serial)

def firstPass : List FilterDefinition :=
  [⟨"title", .text, "Title", true, none⟩, ⟨"shelf", .select, "", true, none⟩]

def secondPass : List FilterDefinition :=
  [⟨"finished", .checkbox, "Finished", false, none⟩, ⟨"pages", .range, "Length", true, none⟩]

end Sample

open Sample in
theorem apply_apply_of_perm_books :
    ∃ ranges first second direct, (firstPass ++ secondPass).Perm moreFilters ∧
      fieldRanges schema moreFilters books = .ok ranges ∧
      (Filter.apply schema firstPass longEmma (Query.toFieldRanges ranges) books).outcome =
        .ok first ∧
      (Filter.apply schema secondPass longEmma (Query.toFieldRanges ranges)
        (first.records books)).outcome = .ok second ∧
      (Filter.apply schema moreFilters longEmma [] books).outcome = .ok direct ∧
      second.records (first.records books) = direct.records books ∧
      (direct.records books).map Record.serial = [2] := by
  have hperm : (firstPass ++ secondPass).Perm moreFilters := by decide
  have hranges : fieldRanges schema moreFilters books = .ok [("pages", some (.int 90, .int 474))] :=
    gives_iff.mp (by decide +kernel)
  have htwo : gives (twoPasses firstPass secondPass
      (Query.toFieldRanges [("pages", some (.int 90, .int 474))])) [2] = true := by decide +kernel
  have hone : gives ((Filter.apply schema moreFilters longEmma [] books).outcome.map fun sel =>
      (sel.records books).map Record.serial) [2] = true := by decide +kernel
  obtain ⟨first, hfirst, htwo⟩ := bind_eq_ok.mp (gives_iff.mp htwo)
  obtain ⟨second, hsecond, _⟩ := bind_eq_ok.mp htwo
  obtain ⟨direct, hdirect, hserials⟩ := map_eq_ok.mp (gives_iff.mp hone)
  exact ⟨_, first, second, direct, hperm, hranges, hfirst, hsecond, hdirect,
    apply_apply_of_perm hperm hranges hfirst hsecond hdirect, hserials⟩

-- Bounds taken afresh from the first pass span the pages that are left, so the
-- second pass drops nothing.
open Sample in
example : gives (twoPasses firstPass secondPass []) [2, 3] = true := by decide +kernel

end Facets
