import Facets.Proofs.Filter.Total
import Facets.Proofs.Group.Listing
import Facets.Proofs.Group.Members
import Facets.Proofs.Group.Partition
import Facets.Proofs.Query.Issues
import Facets.Proofs.Statistics.Totals
import Mathlib.Algebra.Ring.Nat

/-
Queries on data within limits.

When what is stored and what is chosen is within limits, and the words stay safe
together, every stage of a query has an answer: the filters, the sort, the page,
the statistics (`Query.canCollect`) and the groups, whose keys can be
written (`Group.exists_byField`) and whose members are part of a whole that has
statistics (`GroupSummary.exists_ofGroups`).  So the query has an answer
(`Query.exists_answers`).  Outside the limits it need not have one: statistics
read the year of every record that is left, and a year of too many digits cannot
be read.
-/
namespace Facets

open Outcome

/-! ## Groups -/

namespace Groups

variable {groups : Groups}

/-- Groups whose keys can be written can be listed in every order. -/
theorem exists_sort (h : ∀ g ∈ groups, g.1.Writable) (o : GroupOrder) :
    ∃ sorted, groups.sort o = .ok sorted := by
  cases o with
  | alphabetical => exact exists_sort_alphabetical_iff.mpr h
  | largestFirst => exact ⟨_, rfl⟩
  | smallestFirst => exact ⟨_, rfl⟩

end Groups

/-- Records within limits can be grouped, and the keys of their groups can be
written. -/
theorem Group.exists_byField {records : List Record} (h : ∀ r ∈ records, r.WithinLimits)
    (key : String) : ∃ groups, (byField key records).outcome = .ok groups ∧
      Groups.ByKey (fun r => (r.field key).groupKey) groups records ∧
      ∀ g ∈ groups, g.1.Writable := by
  have hkey : ∀ r ∈ records, ∃ k, (r.field key).groupKey = .ok k ∧ k.Writable := fun r hr =>
    Value.exists_groupKey ((h r hr).field key).writable
  obtain ⟨groups, hgroups⟩ := exists_byKey_iff.mpr fun r hr => by
    obtain ⟨k, hk, _⟩ := hkey r hr
    exact ⟨k, hk⟩
  have hbyKey := byKey_partitions hgroups
  refine ⟨groups, byField_eq_ok.mpr hgroups, hbyKey, fun g hg => ?_⟩
  -- The key of a group is the key of a stored value.
  obtain ⟨first, rest, hmembers, hfirst, _⟩ := hbyKey.keyed g hg
  have hmem : first ∈ records := by
    have hsub := hbyKey.partition.inOrder g.2 (List.mem_map_of_mem hg)
    exact hsub.subset (hmembers ▸ List.mem_cons_self)
  obtain ⟨k, hk, hwritable⟩ := hkey first hmem
  obtain rfl := Except.ok.inj (hk.symm.trans hfirst)
  exact hwritable

namespace GroupSummary

variable {f : StatisticsFields} {groups : Groups} {members records : List Record} {key : Value}

/-- A group of records that have statistics has a summary. -/
theorem exists_ofGroup (h : Statistics.CanCollect f records) (hsub : members.Sublist records)
    (hkey : key.Writable) : ∃ g, ofGroup f records.length key members = .ok g := by
  obtain ⟨all, hall⟩ := Statistics.exists_collect (h.sublist hsub)
  obtain ⟨label, hlabel⟩ := Value.exists_groupLabel hkey
  obtain ⟨share, hshare⟩ := Statistics.exists_percentage hsub.length_le
  rw [← Statistics.count_of_collect hall] at hshare
  have hgroup : Statistics.ofGroup f members = .ok all.toGroupStatistics := by
    rw [Statistics.ofGroup, hall]
    rfl
  exact ⟨_, by rw [ofGroup, hgroup, ok_bind, hlabel, ok_bind, hshare]; rfl⟩

/-- Groups of records that have statistics have summaries in every order, if their
keys can be written. -/
theorem exists_ofGroups (h : Statistics.CanCollect f records)
    (hparts : IsPartition (groups.map Prod.snd) records) (hkeys : ∀ g ∈ groups, g.1.Writable)
    (o : GroupOrder) : ∃ summaries, ofGroups o f records.length groups = .ok summaries := by
  obtain ⟨sorted, hsorted⟩ := Groups.exists_sort hkeys o
  have hperm := (Groups.sort_isStableSort hsorted).perm
  have hall : ∀ g ∈ sorted, ∃ summary, ofGroup f records.length g.1 g.2 = .ok summary :=
    fun g hg => by
      have hgroup : g ∈ groups := hperm.mem_iff.mp hg
      exact exists_ofGroup h (hparts.inOrder g.2 (List.mem_map_of_mem hgroup)) (hkeys g hgroup)
  obtain ⟨summaries, hsummaries⟩ := exists_mapM_ok hall
  exact ⟨summaries, bind_eq_ok.mpr ⟨sorted, hsorted, hsummaries⟩⟩

end GroupSummary

/-! ## Queries -/

/-- What is stored and what is chosen is within limits, and the words and the
number of the records are far from the end of the doubles. -/
structure Plan.WithinLimits (p : Plan) (records : List Record) : Prop where
  stored : ∀ r ∈ records, r.WithinLimits
  chosen : ∀ q ∈ p.state, q.2.WithinLimits
  words : (records.map (Record.wholeSize p.fields.words)).sum < Number.safe
  count : records.length < Number.safe

namespace Query

variable {s : Schema} {p : Plan} {records filtered : List Record}

theorem canCollect (h : p.WithinLimits records) : Statistics.CanCollect p.fields records where
  words r hr := (h.stored r hr).exists_number p.fields.words
  years r hr := (h.stored r hr).exists_number p.fields.year
  safe := h.words

theorem exists_sorted (h : ∀ r ∈ filtered, r.WithinLimits) (s : Schema) (p : Plan) :
    ∃ sorted : Option (List Record), (sorted.getD filtered).Perm filtered ∧
      (∀ key, p.usableSort? s = some key → ∃ out, sorted = some out ∧
        (sortBy (some s) key filtered).outcome = .ok out) ∧
      (p.usableSort? s = none → sorted = none) := by
  cases p.usableSort? s with
  | none => exact ⟨none, .refl _, nofun, fun _ => rfl⟩
  | some key =>
    have hrank : ∀ f, s.sortField? key.field = some f →
        ∀ r ∈ filtered, f.kind.CanRank (r.field key.field) := fun f _ r hr => by
      obtain ⟨text, htext⟩ := Kind.exists_plain f.kind ((h r hr).field key.field)
      exact Kind.canRank_of_plain htext
    obtain ⟨out, hout⟩ := Schema.exists_sortBy hrank
    refine ⟨some out, (Schema.sortBy_isStableSort hout).perm, fun key' hkey' => ?_, nofun⟩
    obtain rfl := Option.some.inj hkey'
    exact ⟨out, rfl, hout⟩

theorem exists_page (hpage : ∀ number size, p.page = some (number, size) → 0 < size)
    (h : filtered.length < Number.safe) :
    ∃ page : Option (Page Record),
      (∀ number size, p.page = some (number, size) → ∃ cut, page = some cut ∧
        Page.of filtered number size = .ok cut) ∧
      (p.page = none → page = none) := by
  cases hplan : p.page with
  | none => exact ⟨none, nofun, fun _ => rfl⟩
  | some numbered =>
    obtain ⟨number, size⟩ := numbered
    obtain ⟨cut, hcut⟩ := @Page.exists_of _ _ number size (hpage number size hplan) h
    refine ⟨some cut, fun number' size' h' => ?_, nofun⟩
    obtain ⟨rfl, rfl⟩ := Prod.mk.inj (Option.some.inj h')
    exact ⟨cut, rfl, hcut⟩

theorem exists_grouped (h : ∀ r ∈ filtered, r.WithinLimits)
    (hcollect : Statistics.CanCollect p.fields filtered) (s : Schema) :
    ∃ (grouped : Groups) (groups : List GroupSummary),
      (∀ key, p.usableGroup? s = some key → (Group.byField key filtered).outcome = .ok grouped ∧
        GroupSummary.ofGroups p.groupOrder p.fields filtered.length grouped = .ok groups) ∧
      (p.usableGroup? s = none → grouped = [] ∧ groups = []) := by
  cases p.usableGroup? s with
  | none => exact ⟨[], [], nofun, fun _ => ⟨rfl, rfl⟩⟩
  | some key =>
    obtain ⟨grouped, hgrouped, hbyKey, hkeys⟩ := Group.exists_byField h key
    obtain ⟨groups, hgroups⟩ :=
      GroupSummary.exists_ofGroups hcollect hbyKey.partition hkeys p.groupOrder
    refine ⟨grouped, groups, fun key' hkey' => ?_, nofun⟩
    obtain rfl := Option.some.inj hkey'
    exact ⟨hgrouped, hgroups⟩

/-- A query on data within limits has an answer. -/
theorem exists_answers (h : p.WithinLimits records)
    (hpage : ∀ number size, p.page = some (number, size) → 0 < size) (id : String) (s : Schema) :
    ∃ result, result.id = id ∧ Answers s p records result := by
  obtain ⟨options, hoptions⟩ := exists_fieldOptions h.stored s p.filters
  obtain ⟨ranges, hranges⟩ := exists_fieldRanges h.stored s p.filters
  obtain ⟨sel, hsel, hsub⟩ := Filter.exists_apply h.stored h.chosen s p.filters
  -- What the filters leave is part of what is stored, and so within limits as well.
  have hfiltered : ∀ r ∈ sel.records records, r.WithinLimits := fun r hr =>
    h.stored r (hsub.subset hr)
  have hcollect := (canCollect h).sublist hsub
  obtain ⟨total, htotal⟩ := Statistics.exists_collect hcollect
  obtain ⟨sorted, hperm, hsorted, hunsorted⟩ := exists_sorted hfiltered s p
  have hlength : (sorted.getD (sel.records records)).length < Number.safe := by
    rw [hperm.length_eq]
    exact Nat.lt_of_le_of_lt hsub.length_le h.count
  obtain ⟨page, hpaged, hunpaged⟩ := exists_page hpage hlength
  obtain ⟨grouped, groups, hgrouped, hungrouped⟩ := exists_grouped hfiltered hcollect s
  let statistics := if p.takesStatistics s then some total else none
  refine ⟨⟨id, sel, sorted, grouped, groups, statistics, options, ranges, page,
    p.issues s ranges⟩, rfl, ⟨hoptions, hranges, hsel, hsorted, hunsorted, hpaged, hunpaged,
    fun htakes => ⟨total, if_pos htakes, htotal⟩, fun htakes => ?_, fun key hkey => ?_, hungrouped,
    rfl⟩⟩
  · exact if_neg (by rw [htakes]; exact Bool.false_ne_true)
  · obtain ⟨hgroup, hgroups⟩ := hgrouped key hkey
    refine ⟨hgroup, fun total' htotal' => ?_⟩
    obtain rfl := Option.some.inj (Option.ite_none_right_eq_some.mp htotal').2
    rw [Statistics.count_of_collect htotal]
    exact hgroups

variable {c : QueryConfig} {d : Settings}

/-- Pages hold something when the size that is asked for does. -/
theorem pageSize_pos (hsize : ∀ size, c.pageSize = some size → 0 < size) {number size : Int}
    (hpage : (c.plan s d).page = some (number, size)) : 0 < size := by
  obtain ⟨_, _, hplan⟩ := Option.map_eq_some_iff.mp hpage
  obtain ⟨_, rfl⟩ := Prod.mk.inj hplan
  cases hasked : c.pageSize with
  | none => exact d.pageSize_pos
  | some size => exact hsize size hasked

/-! ## Queries without an answer -/

theorem Answers.filteredRecords_of_nil {result : QueryResult} (h : Answers s p records result)
    (hfilters : p.filters = []) : result.filteredRecords records = records := by
  have hfiltered := h.filtered
  rw [hfilters] at hfiltered
  obtain ⟨cs, hcs, hsel⟩ := Filter.apply_eq_ok.mp hfiltered
  obtain rfl : [] = cs := Except.ok.inj hcs
  have hwhole : Selection.whole = result.filtered := hsel
  rw [QueryResult.filteredRecords, ← hwhole]
  rfl

/-- Statistics read the year of every record that the filters left. -/
theorem Answers.exists_year {result : QueryResult} (h : Answers s p records result)
    (htakes : p.takesStatistics s = true) :
    ∀ r ∈ result.filteredRecords records, ∃ n, (r.field p.fields.year).asNumber = .ok n := by
  obtain ⟨total, _, hcollect⟩ := h.statistics htakes
  exact fun r hr => (Statistics.exists_number_of_collect hcollect r hr).2

/-- One record whose year cannot be read keeps a query from having an answer. -/
theorem not_run_of_unreadable_year {r : Record} {fault : Fault} (hfilters : c.filters = [])
    (hstatistics : c.includeStatistics = true) (hr : r ∈ records)
    (hyear : (r.field (c.plan s d).fields.year).asNumber = .error fault) {id : String}
    {result : QueryResult} : (run id s c d records).outcome ≠ .ok result := by
  intro hrun
  obtain ⟨_, hanswers⟩ := run_eq_ok.mp hrun
  have htakes : (c.plan s d).takesStatistics s = true :=
    Bool.or_eq_true_iff.mpr (.inl hstatistics)
  have hall := hanswers.filteredRecords_of_nil hfilters
  obtain ⟨n, hn⟩ := hanswers.exists_year htakes r (hall.symm ▸ hr)
  rw [hyear] at hn
  cases hn

end Query

/-- A query has an answer when the data and the choices are within limits and a
page holds something, whatever else is asked for.  What cannot be used is
reported. -/
theorem exists_run {s : Schema} {c : QueryConfig} {d : Settings} {records : List Record}
    (hsize : ∀ size, c.pageSize = some size → 0 < size)
    (h : (c.plan s d).WithinLimits records) (id : String) :
    ∃ result, (Query.run id s c d records).outcome = .ok result ∧
      ∀ i, i ∈ result.issues ↔ Query.Due s (c.plan s d) records i := by
  obtain ⟨result, hid, hanswers⟩ :=
    Query.exists_answers h (fun _ _ hpage => Query.pageSize_pos hsize hpage) id s
  exact ⟨result, Query.run_eq_ok.mpr ⟨hid, hanswers⟩, fun i => Query.mem_issues_iff hanswers⟩

namespace Sample

/-- The first page of the long books by title, and their groups by whether they
are finished. -/
def overview : QueryConfig :=
  { filters, state := long, sortField := some "title", groupField := some "finished",
    words := some "pages", year := some "", page := some 0, pageSize := some 1 }

theorem pageSize_overview : ∀ size, overview.pageSize = some size → 0 < size := by
  intro size hsize
  obtain rfl := Option.some.inj hsize
  exact Int.one_pos

theorem overview_withinLimits : (overview.plan schema {}).WithinLimits books where
  stored := by decide +kernel
  chosen := by decide +kernel
  words := by decide +kernel
  count := by decide +kernel

def dated (year : String) : Record := book 0 [("title", .text "Walden"), ("year", .text year)]

theorem field_dated {year : String} {fault : Fault} (h : Number.ofText year = .error fault) :
    (dated year).field "year" = .text year := by
  change (if (Value.text year).isEmpty then Value.null else .text year) = _
  rw [Value.isEmpty_of_unreadable h, if_neg Bool.false_ne_true]

theorem asNumber_dated {year : String} {fault : Fault} (h : Number.ofText year = .error fault) :
    ((dated year).field "year").asNumber = .error fault := by
  rw [field_dated h, Value.asNumber, h]

theorem not_run_dated {year : String} {fault : Fault} (h : Number.ofText year = .error fault)
    {result : QueryResult} : (Query.run "books" schema {} {} [dated year]).outcome ≠ .ok result :=
  Query.not_run_of_unreadable_year rfl rfl List.mem_cons_self (asNumber_dated h)

end Sample

open Sample in
theorem exists_run_overview :
    ∃ result, (Query.run "books" schema overview {} books).outcome = .ok result ∧
      ∀ i, i ∈ result.issues ↔ Query.Due schema (overview.plan schema {}) books i :=
  exists_run pageSize_overview overview_withinLimits "books"

open Sample in
/-- A query that asks for nothing has no answer on a book with an endless year. -/
theorem not_run_of_endless_year :
    ¬ ∃ result, (Query.run "books" schema {} {} [dated endlessYear]).outcome = .ok result := by
  rintro ⟨result, hrun⟩
  exact not_run_dated ofText_endlessYear hrun

end Facets
