import Facets.Proofs.Filter.Laws
import Facets.Proofs.Group.Listing
import Facets.Proofs.Group.Partition
import Facets.Proofs.Query.Total
import Mathlib.Algebra.BigOperators.Ring.Finset

/-
What a query promises about its answer.

Each stage works on what the stage before it left, and no record is lost or
counted twice on the way (`Query.Contract`): the records are those that a direct
call of the filters keeps, sorting and paging only arrange them, and the groups
partition them.
-/
namespace Facets

open Outcome Facets.Order

/-! ## Pages and summaries -/

/-- A page is cut from the list where its number and its size say. -/
theorem Page.items_of {α : Type} {items : List α} {number size : Int} {page : Page α}
    (h : Page.of items number size = .ok page) :
    page.items = (items.drop (page.current * size).toNat).take size.toNat := by
  unfold Page.of at h
  split at h
  · cases h
  · obtain ⟨pages, _, h⟩ := bind_eq_ok.mp h
    rw [← pure_eq_ok.mp h]

namespace GroupSummary

/-- The group that is summarized. -/
def entry (g : GroupSummary) : Value × List Record := (g.key, g.records)

theorem of_ofGroup {f : StatisticsFields} {total : Int} {entry : Value × List Record}
    {g : GroupSummary} (h : ofGroup f total entry.1 entry.2 = .ok g) :
    g.entry = entry ∧ g.statistics.count = entry.2.length := by
  simp only [ofGroup, Statistics.ofGroup, bind_eq_ok, pure_eq_ok] at h
  obtain ⟨_, ⟨all, hall, rfl⟩, _, _, _, _, rfl⟩ := h
  exact ⟨rfl, Statistics.count_of_collect hall⟩

variable {o : GroupOrder} {f : StatisticsFields} {total : Int} {groups : Groups}
  {summaries : List GroupSummary}

/-- Summaries stand for the groups in the order asked for, and count their
members. -/
theorem of_ofGroups (h : ofGroups o f total groups = .ok summaries) :
    groups.sort o = .ok (summaries.map entry) ∧
      ∀ g ∈ summaries, g.statistics.count = g.records.length := by
  obtain ⟨sorted, hsorted, h⟩ := bind_eq_ok.mp h
  have hentries : summaries.map entry = sorted := by
    rw [← List.forall₂_eq_eq_eq, List.forall₂_map_left_iff]
    exact (mapM_eq_ok.mp h).flip.imp fun _ _ hg => (of_ofGroup hg).1
  refine ⟨hentries ▸ hsorted, fun g hg => ?_⟩
  obtain ⟨_, _, hgroup⟩ := mem_of_mapM_ok h g hg
  obtain ⟨rfl, hcount⟩ := of_ofGroup hgroup
  exact hcount

end GroupSummary

/-! ## The contract -/

namespace QueryConfig

variable (c : QueryConfig) (s : Schema) (d : Settings)

/-- The query sorts by a field: it names one that can be sorted by. -/
def SortsBy (key : String) : Prop :=
  c.sortField = some key ∧ key ≠ "" ∧ ∃ f, s.field? key = some f ∧ f.sortable = true

/-- The query groups by a field: it asks for groups, and names a field of the
schema or leaves it to the schema. -/
def GroupsBy (key : String) : Prop :=
  c.includeGroups = true ∧ (c.resolve s d).groupField = some key ∧ key ≠ "" ∧
    s.hasField key = true

end QueryConfig

namespace Query

/-- What the groups of a query promise, given the records that were filtered. -/
structure GroupContract (c : QueryConfig) (filtered : List Record) (result : QueryResult) :
    Prop where
  /-- The grouped records are the filtered records. -/
  grouped : IsPartition (result.grouped.map Prod.snd) filtered
  /-- So are the records of the listed groups. -/
  listed : IsPartition (result.groups.map GroupSummary.records) filtered
  /-- The groups are listed with their keys, in the order asked for. -/
  order : ∃ o, c.groupOrder = some o ∧
    IsStableSort o.compare result.grouped (result.groups.map GroupSummary.entry)
  /-- The counts of the groups add up to that of the whole. -/
  counts : ∃ total, result.statistics = some total ∧ total.count = filtered.length ∧
    (result.groups.map fun g => g.statistics.count).sum = total.count

/-- What a query promises about its answer. -/
structure Contract (s : Schema) (c : QueryConfig) (d : Settings) (records : List Record)
    (result : QueryResult) : Prop where
  /-- Filtering takes place on all records, with their own data bounds. -/
  filtered : ∃ direct, (Filter.apply s c.filters c.state [] records).outcome = .ok direct ∧
    result.filteredRecords records = direct.records records
  /-- Sorting loses and repeats nothing. -/
  perm : (result.sortedRecords records).Perm (result.filteredRecords records)
  sorted : ∀ key, c.SortsBy s key →
    (sortBy (some s) ⟨key, c.descending⟩ (result.filteredRecords records)).outcome =
      .ok (result.sortedRecords records)
  unsorted : (∀ key, ¬ c.SortsBy s key) →
    result.sortedRecords records = result.filteredRecords records
  /-- There is a page exactly when one is asked for. -/
  paged : result.page.isSome = c.page.isSome
  page : ∀ page ∈ result.page, ∃ number size, (c.resolve s d).page = some number ∧
    (c.resolve s d).pageSize = some size ∧
    Page.of (result.sortedRecords records) number size = .ok page ∧
    page.items = ((result.sortedRecords records).drop (page.current * size).toNat).take size.toNat
  groups : ∀ key, c.GroupsBy s d key →
    (Group.byField key (result.filteredRecords records)).outcome = .ok result.grouped ∧
      GroupContract (c.resolve s d) (result.filteredRecords records) result
  ungrouped : (∀ key, ¬ c.GroupsBy s d key) → result.grouped = [] ∧ result.groups = []

variable {s : Schema} {c : QueryConfig} {d : Settings} {records : List Record}
  {result : QueryResult}

theorem usableSort?_plan {key : SortKey} :
    (c.plan s d).usableSort? s = some key ↔
      c.SortsBy s key.field ∧ key.descending = c.descending := by
  have husable : (s.sortIssue? key.field).isNone = true ↔
      ∃ f, s.field? key.field = some f ∧ f.sortable = true := by
    unfold Schema.sortIssue?
    cases s.field? key.field with
    | none => simp
    | some f => cases hsortable : f.sortable <;> simp [hsortable]
  rw [Plan.usableSort?, Option.filter_eq_some_iff, sort_plan, husable, QueryConfig.SortsBy]
  constructor
  · rintro ⟨⟨hkey, hne, hdir⟩, hf⟩
    exact ⟨⟨hkey, hne, hf⟩, hdir⟩
  · rintro ⟨⟨hkey, hne, hf⟩, hdir⟩
    exact ⟨⟨hkey, hne, hdir⟩, hf⟩

theorem usableGroup?_plan {key : String} :
    (c.plan s d).usableGroup? s = some key ↔ c.GroupsBy s d key := by
  rw [Plan.usableGroup?, Option.filter_eq_some_iff, groupKey?_plan, QueryConfig.GroupsBy]
  simp only [and_assoc]

theorem page_plan {number size : Int} :
    (c.plan s d).page = some (number, size) ↔
      (c.resolve s d).page = some number ∧ (c.resolve s d).pageSize = some size := by
  simp only [QueryConfig.plan, QueryConfig.resolve, QueryConfig.pageSizeOr]
  cases c.page <;> cases c.pageSize <;> simp

/-- The groups of an answer partition the filtered records. -/
theorem Answers.groupContract (h : Answers s (c.plan s d) records result) {key : String}
    (hkey : (c.plan s d).usableGroup? s = some key) :
    GroupContract (c.resolve s d) (result.filteredRecords records) result := by
  obtain ⟨hgrouped, hgroups⟩ := h.grouped key hkey
  have htakes : (c.plan s d).takesStatistics s = true := by
    rw [Plan.takesStatistics, hkey, Option.isSome_some, Bool.or_true]
  obtain ⟨total, htotal, hcollect⟩ := h.statistics htakes
  obtain ⟨hsort, hcounts⟩ := GroupSummary.of_ofGroups (hgroups total htotal)
  have hpartition := (Group.byKey_partitions (Group.byField_eq_ok.mp hgrouped)).partition
  have hstable := Groups.sort_isStableSort hsort
  -- The listed groups are the groups in another order.
  have hlisted : IsPartition (result.groups.map GroupSummary.records)
      (result.filteredRecords records) := by
    have hparts := hstable.perm.map Prod.snd
    rw [List.map_map] at hparts
    exact hpartition.of_perm hparts
  refine ⟨hpartition, hlisted, ⟨c.groupOrder.getD d.groupOrder, ?_, hstable⟩,
    ⟨total, htotal, Statistics.count_of_collect hcollect, ?_⟩⟩
  · rw [QueryConfig.resolve]
    cases c.groupOrder <;> rfl
  · have hlengths : result.groups.map (fun g => g.statistics.count) =
        ((result.groups.map GroupSummary.records).map List.length).map Nat.cast := by
      rw [List.map_map, List.map_map]
      exact List.map_congr_left hcounts
    rw [hlengths, Statistics.count_of_collect hcollect, ← hlisted.sum_length, Nat.cast_list_sum]

theorem Answers.sortedRecords_eq (h : Answers s (c.plan s d) records result) {key : String}
    (hkey : c.SortsBy s key) :
    (sortBy (some s) ⟨key, c.descending⟩ (result.filteredRecords records)).outcome =
      .ok (result.sortedRecords records) := by
  obtain ⟨sorted, hresult, hsort⟩ := h.sorted ⟨key, c.descending⟩ (usableSort?_plan.mpr ⟨hkey, rfl⟩)
  rwa [QueryResult.sortedRecords, hresult]

theorem Answers.sortedRecords_of_none (h : Answers s (c.plan s d) records result)
    (hnone : ∀ key, ¬ c.SortsBy s key) :
    result.sortedRecords records = result.filteredRecords records := by
  have husable : (c.plan s d).usableSort? s = none :=
    Option.eq_none_iff_forall_ne_some.mpr fun key hkey =>
      hnone key.field (usableSort?_plan.mp hkey).1
  rw [QueryResult.sortedRecords, h.unsorted husable]
  rfl

theorem Answers.sortedRecords_perm (h : Answers s (c.plan s d) records result) :
    (result.sortedRecords records).Perm (result.filteredRecords records) := by
  by_cases hkey : ∃ key, c.SortsBy s key
  · obtain ⟨key, hkey⟩ := hkey
    exact (Schema.sortBy_isStableSort (h.sortedRecords_eq hkey)).perm
  · rw [h.sortedRecords_of_none (not_exists.mp hkey)]

theorem Answers.isSome_page (h : Answers s (c.plan s d) records result) :
    result.page.isSome = c.page.isSome := by
  cases hpage : (c.plan s d).page with
  | none =>
    rw [h.unpaged hpage, Option.isSome_none]
    rw [QueryConfig.plan, Option.map_eq_none_iff] at hpage
    rw [hpage, Option.isSome_none]
  | some numbered =>
    obtain ⟨page, hresult, _⟩ := h.paged numbered.1 numbered.2 hpage
    rw [hresult, Option.isSome_some]
    exact (Option.isSome_of_eq_some (page_plan.mp hpage).1).symm

/-- A page of an answer is the page that is asked for of the sorted records. -/
theorem Answers.page_eq (h : Answers s (c.plan s d) records result) {page : Page Record}
    (hpage : result.page = some page) :
    ∃ number size, (c.resolve s d).page = some number ∧ (c.resolve s d).pageSize = some size ∧
      Page.of (result.sortedRecords records) number size = .ok page := by
  cases hplan : (c.plan s d).page with
  | none =>
    rw [h.unpaged hplan] at hpage
    cases hpage
  | some numbered =>
    obtain ⟨page', hresult, hof⟩ := h.paged numbered.1 numbered.2 hplan
    obtain rfl := Option.some.inj (hpage.symm.trans hresult)
    obtain ⟨hnumber, hsize⟩ := page_plan.mp hplan
    exact ⟨numbered.1, numbered.2, hnumber, hsize, hof⟩

end Query

/-- Every answer keeps the contract. -/
theorem Query.run_contract {id : String} {s : Schema} {c : QueryConfig} {d : Settings}
    {records : List Record} {result : QueryResult}
    (h : (Query.run id s c d records).outcome = .ok result) :
    Query.Contract s c d records result := by
  obtain ⟨_, h⟩ := Query.run_eq_ok.mp h
  exact
    { filtered := ⟨result.filtered, h.filtered, rfl⟩
      perm := h.sortedRecords_perm
      sorted := fun _ hkey => h.sortedRecords_eq hkey
      unsorted := h.sortedRecords_of_none
      paged := h.isSome_page
      page := fun page hpage => by
        obtain ⟨number, size, hnumber, hsize, hof⟩ := h.page_eq hpage
        exact ⟨number, size, hnumber, hsize, hof, Page.items_of hof⟩
      groups := fun key hkey => by
        have husable := Query.usableGroup?_plan.mpr hkey
        exact ⟨(h.grouped key husable).1, h.groupContract husable⟩
      ungrouped := fun hnone => by
        refine h.ungrouped (Option.eq_none_iff_forall_ne_some.mpr fun key hkey => ?_)
        exact hnone key (Query.usableGroup?_plan.mp hkey) }

open Sample in
/-- The long books fall into two groups. -/
theorem Query.run_contract_overview :
    overview.SortsBy schema "title" ∧ overview.GroupsBy schema {} "finished" ∧
      ∃ result, (Query.run "books" schema overview {} books).outcome = .ok result ∧
        Query.Contract schema overview {} books result := by
  obtain ⟨result, hid, hanswers⟩ := Query.exists_answers overview_withinLimits
    (fun _ _ hpage => Query.pageSize_pos pageSize_overview hpage) "books" schema
  have hrun := Query.run_eq_ok.mpr ⟨hid, hanswers⟩
  exact ⟨⟨rfl, by decide, title, rfl, rfl⟩, ⟨rfl, rfl, by decide, by decide⟩, result, hrun,
    Query.run_contract hrun⟩

end Facets
