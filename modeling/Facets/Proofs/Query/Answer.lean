import Facets.Proofs.Filter.Ranges

/-
What a query answers, stage by stage.

`Query.Answers` puts together what each stage of a query does: which call of
which engine each part of the answer comes from, under which switches, and which
issues are reported.  A query has an answer exactly when such an answer exists
(`run_eq_ok`).  Statements about queries rest on this and do not look into the
stages again.
-/
namespace Facets

open Outcome

/-! ## What is asked for, and can be used -/

namespace Plan

variable (s : Schema) (p : Plan)

/-- The sort key, unless its field cannot be sorted by. -/
def usableSort? : Option SortKey := p.sort.filter fun key => (s.sortIssue? key.field).isNone

def sortIssues : List Issue := (p.sort.bind fun key => s.sortIssue? key.field).toList

/-- The field to group by, when groups are asked for. -/
def groupKey? : Option String := if p.includeGroups then p.groupField else none

/-- The field to group by, unless the schema does not know it. -/
def usableGroup? : Option String := p.groupKey?.filter s.hasField

def groupIssues : List Issue :=
  ((p.groupKey?.filter fun key => !s.hasField key).map Issue.unknownGroup).toList

/-- Statistics are taken when they are asked for, and when groups need them. -/
def takesStatistics : Bool := p.includeStatistics || (p.usableGroup? s).isSome

/-- Fields of statistics are only checked when statistics are asked for. -/
def statisticsIssues : List Issue :=
  if p.includeStatistics then Query.statisticsIssues s p.fields else []

/-- Everything that is reported about a query whose data bounds are known. -/
def issues (ranges : List (String × Option (Number × Number))) : List Issue :=
  s.filterIssues p.filters ++ Query.rangeIssues ranges ++ p.sortIssues s ++
    (p.statisticsIssues s ++ p.groupIssues s)

end Plan

namespace Query

/-- The answer to a query, by the calls of the engines it is made of. -/
structure Answers (s : Schema) (p : Plan) (records : List Record) (result : QueryResult) :
    Prop where
  options : fieldOptions s p.filters records = .ok result.options
  ranges : fieldRanges s p.filters records = .ok result.ranges
  filtered : (Filter.apply s p.filters p.state [] records).outcome = .ok result.filtered
  sorted : ∀ key, p.usableSort? s = some key → ∃ sorted, result.sorted = some sorted ∧
    (sortBy (some s) key (result.filteredRecords records)).outcome = .ok sorted
  unsorted : p.usableSort? s = none → result.sorted = none
  paged : ∀ number size, p.page = some (number, size) → ∃ page, result.page = some page ∧
    Page.of (result.sortedRecords records) number size = .ok page
  unpaged : p.page = none → result.page = none
  statistics : p.takesStatistics s = true → ∃ total, result.statistics = some total ∧
    Statistics.collect p.fields (result.filteredRecords records) = .ok total
  noStatistics : p.takesStatistics s = false → result.statistics = none
  grouped : ∀ key, p.usableGroup? s = some key →
    (Group.byField key (result.filteredRecords records)).outcome = .ok result.grouped ∧
      ∀ total ∈ result.statistics,
        GroupSummary.ofGroups p.groupOrder p.fields total.count result.grouped = .ok result.groups
  ungrouped : p.usableGroup? s = none → result.grouped = [] ∧ result.groups = []
  issues : result.issues = p.issues s result.ranges

variable {s : Schema} {p : Plan} {records filtered : List Record}

/-! ## The stages -/

theorem filter_eq_ok {x : Filtering} :
    (filter s p records).outcome = .ok x ↔
      fieldOptions s p.filters records = .ok x.options ∧
      fieldRanges s p.filters records = .ok x.ranges ∧
      (Filter.apply s p.filters p.state [] records).outcome = .ok x.selection ∧
      x.issues = s.filterIssues p.filters ++ rangeIssues x.ranges := by
  simp only [filter, Journaled.outcome_bind, Journaled.outcome_lift, Journaled.outcome_pure,
    bind_eq_ok, Except.ok.injEq]
  -- The listed bounds are those that the filters would find by themselves.
  constructor
  · rintro ⟨options, hoptions, ranges, hranges, selection, hselection, rfl⟩
    rw [Filter.apply_listed hranges] at hselection
    exact ⟨hoptions, hranges, hselection, rfl⟩
  · rintro ⟨hoptions, hranges, hselection, hissues⟩
    rw [← Filter.apply_listed hranges] at hselection
    exact ⟨x.options, hoptions, x.ranges, hranges, x.selection, hselection, by rw [← hissues]⟩

theorem sort_eq_ok {x : Option (List Record) × List Issue} :
    (sort s p filtered).outcome = .ok x ↔
      (∀ key, p.usableSort? s = some key → ∃ sorted, x.1 = some sorted ∧
        (sortBy (some s) key filtered).outcome = .ok sorted) ∧
      (p.usableSort? s = none → x.1 = none) ∧ x.2 = p.sortIssues s := by
  obtain ⟨sorted, issues⟩ := x
  cases hkey : p.sort with
  | none =>
    have husable : p.usableSort? s = none := by simp [Plan.usableSort?, hkey]
    have hissues : p.sortIssues s = [] := by simp [Plan.sortIssues, hkey]
    simp [sort, hkey, husable, hissues, eq_comm]
  | some key =>
    cases hissue : s.sortIssue? key.field with
    | some issue =>
      have husable : p.usableSort? s = none := by
        simp [Plan.usableSort?, hkey, Option.filter, hissue]
      have hissues : p.sortIssues s = [issue] := by simp [Plan.sortIssues, hkey, hissue]
      simp [sort, hkey, hissue, husable, hissues, eq_comm]
    | none =>
      have husable : p.usableSort? s = some key := by
        simp [Plan.usableSort?, hkey, Option.filter, hissue]
      have hissues : p.sortIssues s = [] := by simp [Plan.sortIssues, hkey, hissue]
      simp only [sort, hkey, hissue, husable, hissues, Journaled.outcome_bind,
        Journaled.outcome_pure, bind_eq_ok, Except.ok.injEq, Prod.mk.injEq, Option.some.injEq,
        forall_eq', reduceCtorEq, false_imp_iff, true_and]
      constructor
      · rintro ⟨out, hout, rfl, rfl⟩
        exact ⟨⟨out, rfl, hout⟩, rfl⟩
      · rintro ⟨⟨out, rfl, hout⟩, rfl⟩
        exact ⟨out, hout, rfl, rfl⟩

theorem order_eq_ok {x : Arrangement} :
    (order s p filtered).outcome = .ok x ↔
      (sort s p filtered).outcome = .ok (x.sorted, x.issues) ∧
      (∀ number size, p.page = some (number, size) → ∃ page, x.page = some page ∧
        Page.of (x.sorted.getD filtered) number size = .ok page) ∧
      (p.page = none → x.page = none) := by
  obtain ⟨sorted, page, issues⟩ := x
  simp only [order, Journaled.outcome_bind, bind_eq_ok, Prod.exists]
  cases hpage : p.page with
  | none =>
    simp only [Journaled.outcome_pure, Except.ok.injEq, Arrangement.mk.injEq]
    constructor
    · rintro ⟨sorted, issues, hsort, rfl, rfl, rfl⟩
      exact ⟨hsort, nofun, fun _ => rfl⟩
    · rintro ⟨hsort, _, hnone⟩
      exact ⟨sorted, issues, hsort, rfl, (hnone trivial).symm, rfl⟩
  | some numbered =>
    obtain ⟨number, size⟩ := numbered
    simp only [Journaled.outcome_bind, Journaled.outcome_lift, Journaled.outcome_pure, bind_eq_ok,
      Except.ok.injEq, Arrangement.mk.injEq]
    constructor
    · rintro ⟨sorted, issues, hsort, page, hof, rfl, rfl, rfl⟩
      refine ⟨hsort, fun number' size' h => ?_, nofun⟩
      obtain ⟨rfl, rfl⟩ := Prod.mk.inj (Option.some.inj h)
      exact ⟨page, rfl, hof⟩
    · rintro ⟨hsort, hpaged, _⟩
      obtain ⟨page, rfl, hof⟩ := hpaged number size rfl
      exact ⟨sorted, issues, hsort, page, hof, rfl, rfl, rfl⟩

theorem statistics_eq_ok {x : Option CollectionStatistics × List Issue} :
    statistics s p filtered = .ok x ↔
      (p.includeStatistics = true → ∃ total, x.1 = some total ∧
        Statistics.collect p.fields filtered = .ok total) ∧
      (p.includeStatistics = false → x.1 = none) ∧ x.2 = p.statisticsIssues s := by
  obtain ⟨known, issues⟩ := x
  cases hinclude : p.includeStatistics with
  | false => simp [statistics, Plan.statisticsIssues, hinclude, eq_comm]
  | true =>
    simp only [statistics, Plan.statisticsIssues, hinclude, if_true, bind_eq_ok, pure_eq_ok,
      Prod.mk.injEq, forall_const, reduceCtorEq, false_imp_iff, true_and]
    constructor
    · rintro ⟨total, htotal, rfl, rfl⟩
      exact ⟨⟨total, rfl, htotal⟩, rfl⟩
    · rintro ⟨⟨total, rfl, htotal⟩, rfl⟩
      exact ⟨total, htotal, rfl, rfl⟩

theorem collect_of_mem_statistics {x : Option CollectionStatistics × List Issue}
    (h : statistics s p filtered = .ok x) :
    ∀ total ∈ x.1, Statistics.collect p.fields filtered = .ok total := by
  obtain ⟨hyes, hno, _⟩ := statistics_eq_ok.mp h
  intro total htotal
  cases hinclude : p.includeStatistics with
  | false =>
    rw [hno hinclude] at htotal
    cases htotal
  | true =>
    obtain ⟨total', hknown, hcollect⟩ := hyes hinclude
    rw [hknown] at htotal
    rwa [← Option.some.inj htotal]

/-- Without a field to group by there are no groups, and what is known of the
statistics stays. -/
theorem outcome_groups_of_none (h : p.usableGroup? s = none)
    (known : Option CollectionStatistics) (issues : List Issue) :
    (groups s p filtered known issues).outcome =
      .ok ⟨[], [], known, issues ++ p.groupIssues s⟩ := by
  rw [groups.eq_def, ← Plan.groupKey?]
  cases hkey : p.groupKey? with
  | none => simp [Plan.groupIssues, hkey]
  | some key =>
    have hunknown : s.hasField key = false := by
      simpa [Plan.usableGroup?, hkey, Option.filter_eq_none_iff] using h
    simp [Plan.groupIssues, hkey, hunknown, Option.filter]

/-- Groups are summarized with the statistics of all filtered records, whether
these are known or not. -/
theorem groups_eq_ok {key : String} (h : p.usableGroup? s = some key)
    {known : Option CollectionStatistics} {issues : List Issue}
    (hknown : ∀ total ∈ known, Statistics.collect p.fields filtered = .ok total) {x : Grouping} :
    (groups s p filtered known issues).outcome = .ok x ↔
      ∃ total, Statistics.collect p.fields filtered = .ok total ∧ x.statistics = some total ∧
        (Group.byField key filtered).outcome = .ok x.grouped ∧
        GroupSummary.ofGroups p.groupOrder p.fields total.count x.grouped = .ok x.groups ∧
        x.issues = issues ++ p.groupIssues s := by
  obtain ⟨hkey, hfield⟩ := Option.filter_eq_some_iff.mp h
  have hissues : p.groupIssues s = [] := by simp [Plan.groupIssues, hkey, hfield, Option.filter]
  obtain ⟨grouped, summaries, statistics, xissues⟩ := x
  rw [groups.eq_def, ← Plan.groupKey?]
  simp only [hkey, hfield, if_true, Journaled.outcome_bind, Journaled.outcome_lift,
    Journaled.outcome_pure, bind_eq_ok, Except.ok.injEq, Grouping.mk.injEq, hissues,
    List.append_nil]
  constructor
  · rintro ⟨grouped, hgrouped, total, htotal, summaries, hsummaries, rfl, rfl, rfl, rfl⟩
    refine ⟨total, ?_, rfl, hgrouped, hsummaries, rfl⟩
    cases known with
    | none => exact htotal
    | some total' => exact (hknown total' rfl).trans htotal
  · rintro ⟨total, htotal, rfl, hgrouped, hsummaries, rfl⟩
    refine ⟨grouped, hgrouped, total, ?_, summaries, hsummaries, rfl, rfl, rfl, rfl⟩
    cases known with
    | none => exact htotal
    | some total' => exact (hknown total' rfl).symm.trans htotal

theorem group_eq_ok {x : Grouping} :
    (group s p filtered).outcome = .ok x ↔
      (p.takesStatistics s = true → ∃ total, x.statistics = some total ∧
        Statistics.collect p.fields filtered = .ok total) ∧
      (p.takesStatistics s = false → x.statistics = none) ∧
      (∀ key, p.usableGroup? s = some key →
        (Group.byField key filtered).outcome = .ok x.grouped ∧
        ∀ total ∈ x.statistics,
          GroupSummary.ofGroups p.groupOrder p.fields total.count x.grouped = .ok x.groups) ∧
      (p.usableGroup? s = none → x.grouped = [] ∧ x.groups = []) ∧
      x.issues = p.statisticsIssues s ++ p.groupIssues s := by
  simp only [group, Journaled.outcome_bind, Journaled.outcome_lift, bind_eq_ok, Prod.exists]
  cases husable : p.usableGroup? s with
  | none =>
    have htakes : p.takesStatistics s = p.includeStatistics := by
      simp [Plan.takesStatistics, husable]
    simp only [outcome_groups_of_none husable, statistics_eq_ok, htakes, Except.ok.injEq]
    constructor
    · rintro ⟨known, issues, ⟨hyes, hno, rfl⟩, rfl⟩
      exact ⟨hyes, hno, nofun, fun _ => ⟨rfl, rfl⟩, rfl⟩
    · rintro ⟨hyes, hno, _, hnone, hissues⟩
      obtain ⟨hgrouped, hgroups⟩ := hnone trivial
      exact ⟨x.statistics, _, ⟨hyes, hno, rfl⟩, by rw [← hgrouped, ← hgroups, ← hissues]⟩
  | some key =>
    have htakes : p.takesStatistics s = true := by simp [Plan.takesStatistics, husable]
    constructor
    · rintro ⟨known, issues, hknown, hgroups⟩
      obtain ⟨_, _, rfl⟩ := statistics_eq_ok.mp hknown
      obtain ⟨total, htotal, hstatistics, hgrouped, hsummaries, hissues⟩ :=
        (groups_eq_ok husable (collect_of_mem_statistics hknown)).mp hgroups
      refine ⟨fun _ => ⟨total, hstatistics, htotal⟩, fun h => ?_, fun key' hkey' => ?_, nofun,
        hissues⟩
      · rw [htakes] at h
        contradiction
      · obtain rfl := Option.some.inj hkey'
        refine ⟨hgrouped, fun total' htotal' => ?_⟩
        rw [hstatistics] at htotal'
        rwa [← Option.some.inj htotal']
    · rintro ⟨hyes, _, hgroup, _, hissues⟩
      obtain ⟨total, hstatistics, htotal⟩ := hyes htakes
      obtain ⟨hgrouped, hsummaries⟩ := hgroup key rfl
      have hknown : statistics s p filtered =
          .ok (if p.includeStatistics then some total else none, p.statisticsIssues s) := by
        refine statistics_eq_ok.mpr ⟨fun hinclude => ⟨total, if_pos hinclude, htotal⟩, ?_, rfl⟩
        intro hinclude
        rw [hinclude]
        rfl
      refine ⟨_, _, hknown, (groups_eq_ok husable (collect_of_mem_statistics hknown)).mpr ?_⟩
      exact ⟨total, htotal, hstatistics, hgrouped, hsummaries total hstatistics, hissues⟩

theorem outcome_noteIssues (issues : List Issue) : (noteIssues issues).outcome = .ok () := by
  induction issues with
  | nil => rfl
  | cons issue rest ih =>
    rw [noteIssues, Journaled.outcome_bind, Journaled.outcome_note, ok_bind, ih]

/-- A query has this answer exactly when its stages make it. -/
theorem run_eq_ok {id : String} {c : QueryConfig} {d : Settings} {result : QueryResult} :
    (run id s c d records).outcome = .ok result ↔
      result.id = id ∧ Answers s (c.plan s d) records result := by
  simp only [run, Journaled.outcome_bind, Journaled.outcome_note, Journaled.outcome_atStage,
    Journaled.outcome_pure, outcome_noteIssues, ok_bind, bind_eq_ok, Except.ok.injEq]
  constructor
  · rintro ⟨filtering, hfilter, ordering, horder, grouping, hgroup, rfl⟩
    obtain ⟨hoptions, hranges, hfiltered, hissues⟩ := filter_eq_ok.mp hfilter
    obtain ⟨hsort, hpaged, hunpaged⟩ := order_eq_ok.mp horder
    obtain ⟨hsorted, hunsorted, hsortIssues⟩ := sort_eq_ok.mp hsort
    obtain ⟨hyes, hno, hgrouped, hungrouped, hgroupIssues⟩ := group_eq_ok.mp hgroup
    refine ⟨rfl, ⟨hoptions, hranges, hfiltered, hsorted, hunsorted, hpaged, hunpaged, hyes, hno,
      hgrouped, hungrouped, ?_⟩⟩
    have hordering : ordering.issues = (c.plan s d).sortIssues s := hsortIssues
    rw [hissues, hordering, hgroupIssues]
    rfl
  · rintro ⟨rfl, h⟩
    let p := c.plan s d
    refine ⟨⟨result.filtered, result.options, result.ranges,
        s.filterIssues p.filters ++ rangeIssues result.ranges⟩,
      filter_eq_ok.mpr ⟨h.options, h.ranges, h.filtered, rfl⟩,
      ⟨result.sorted, result.page, p.sortIssues s⟩,
      order_eq_ok.mpr ⟨sort_eq_ok.mpr ⟨h.sorted, h.unsorted, rfl⟩, h.paged, h.unpaged⟩,
      ⟨result.grouped, result.groups, result.statistics, p.statisticsIssues s ++ p.groupIssues s⟩,
      group_eq_ok.mpr ⟨h.statistics, h.noStatistics, h.grouped, h.ungrouped, rfl⟩, ?_⟩
    obtain ⟨id, filtered, sorted, grouped, groups, statistics, options, ranges, page, issues⟩ :=
      result
    exact congrArg (QueryResult.mk _ _ _ _ _ _ _ _ _) h.issues.symm

end Query
end Facets
