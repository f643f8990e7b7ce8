import Facets.Proofs.Filter.Laws
import Facets.Proofs.Query.Answer

/-
What a query reports.

Each reference of a query that cannot be used is due for a report (`Query.Due`),
and exactly these are reported (`Query.mem_issues_iff`).  So a query that reports
nothing made only references that can be used.  The fields of statistics are the
exception: they are only looked at when statistics are asked for, although groups
take statistics as well.
-/
namespace Facets

open Outcome

namespace Query

/-- The reports that are due: one for each reference that cannot be used. -/
inductive Due (s : Schema) (p : Plan) (records : List Record) : Issue → Prop
  | unknownFilter {d : FilterDefinition} (asked : d ∈ p.filters) (enabled : d.enabled = true)
      (unknown : s.field? d.field = none) : Due s p records (.unknownFilter d.field)
  | notFilterable {d : FilterDefinition} {f : Field} (asked : d ∈ p.filters)
      (enabled : d.enabled = true) (found : s.field? d.field = some f)
      (unusable : f.filterable = false) : Due s p records (.notFilterable d.field)
  | noNumericData {d : FilterDefinition} (asked : d ∈ s.usableFilters p.filters)
      (range : d.kind = .range) (noNumbers : ¬ HasNumbers d.field records) :
      Due s p records (.noNumericData d.field)
  | unknownSort {key : SortKey} (asked : p.sort = some key) (unknown : s.field? key.field = none) :
      Due s p records (.unknownSort key.field)
  | notSortable {key : SortKey} {f : Field} (asked : p.sort = some key)
      (found : s.field? key.field = some f) (unusable : f.sortable = false) :
      Due s p records (.notSortable key.field)
  | unknownStatistics {key : String} (asked : p.includeStatistics = true)
      (used : key = p.fields.words ∨ key = p.fields.year) (named : key ≠ "")
      (unknown : s.hasField key = false) : Due s p records (.unknownStatistics key)
  | unknownGroup {key : String} (asked : p.groupKey? = some key)
      (unknown : s.hasField key = false) : Due s p records (.unknownGroup key)

section Reports

variable {s : Schema} {p : Plan} {records : List Record} {i : Issue}

theorem mem_filterIssues_iff :
    i ∈ s.filterIssues p.filters ↔
      (∃ d ∈ p.filters, d.enabled = true ∧ s.field? d.field = none ∧
        Issue.unknownFilter d.field = i) ∨
      ∃ d ∈ p.filters, d.enabled = true ∧ ∃ f, s.field? d.field = some f ∧ f.filterable = false ∧
        Issue.notFilterable d.field = i := by
  have hone : ∀ d : FilterDefinition, s.filterIssue? d = some i ↔
      (d.enabled = true ∧ s.field? d.field = none ∧ Issue.unknownFilter d.field = i) ∨
      (d.enabled = true ∧ ∃ f, s.field? d.field = some f ∧ f.filterable = false ∧
        Issue.notFilterable d.field = i) := by
    intro d
    unfold Schema.filterIssue?
    cases henabled : d.enabled with
    | false => simp
    | true =>
      cases hf : s.field? d.field with
      | none => simp
      | some f => cases hfilterable : f.filterable <;> simp [hfilterable]
  simp only [Schema.filterIssues, List.mem_filterMap, hone, and_or_left, exists_or]

theorem mem_rangeIssues_iff {ranges : List (String × Option (Number × Number))}
    (h : fieldRanges s p.filters records = .ok ranges) :
    i ∈ rangeIssues ranges ↔
      ∃ d ∈ s.usableFilters p.filters, d.kind = .range ∧ ¬ HasNumbers d.field records ∧
        Issue.noNumericData d.field = i := by
  have hone : ∀ q : String × Option (Number × Number),
      (if q.2.isNone then some (Issue.noNumericData q.1) else none) = some i ↔
        q.2 = none ∧ Issue.noNumericData q.1 = i := by
    rintro ⟨key, _ | data⟩ <;> simp
  simp only [rangeIssues, List.mem_filterMap, hone, mem_fieldRanges h]
  constructor
  · rintro ⟨⟨key, data⟩, ⟨⟨d, hd, hkind, rfl⟩, hdata⟩, rfl, rfl⟩
    refine ⟨d, hd, hkind, fun hnumbers => ?_, rfl⟩
    simpa using (isSome_fieldRange hdata).mpr hnumbers
  · rintro ⟨d, hd, hkind, hnone, rfl⟩
    obtain ⟨data, hdata⟩ := exists_fieldRange h hd hkind
    refine ⟨(d.field, data), ⟨⟨d, hd, hkind, rfl⟩, hdata⟩, ?_, rfl⟩
    rw [← Option.not_isSome_iff_eq_none, isSome_fieldRange hdata]
    exact hnone

theorem mem_sortIssues_iff :
    i ∈ p.sortIssues s ↔
      ∃ key, p.sort = some key ∧ ((s.field? key.field = none ∧ Issue.unknownSort key.field = i) ∨
        ∃ f, s.field? key.field = some f ∧ f.sortable = false ∧
          Issue.notSortable key.field = i) := by
  cases hkey : p.sort with
  | none => simp [Plan.sortIssues, hkey]
  | some key =>
    cases hf : s.field? key.field with
    | none => simp [Plan.sortIssues, hkey, Schema.sortIssue?, hf, @eq_comm _ i]
    | some f =>
      cases hsortable : f.sortable <;>
        simp [Plan.sortIssues, hkey, Schema.sortIssue?, hf, hsortable, @eq_comm _ i]

theorem mem_statisticsIssues_iff :
    i ∈ p.statisticsIssues s ↔
      ∃ key, p.includeStatistics = true ∧ (key = p.fields.words ∨ key = p.fields.year) ∧
        key ≠ "" ∧ s.hasField key = false ∧ Issue.unknownStatistics key = i := by
  have hone : ∀ key : String,
      (if key != "" && !s.hasField key then some (Issue.unknownStatistics key) else none) = some i ↔
        key ≠ "" ∧ s.hasField key = false ∧ Issue.unknownStatistics key = i := by
    intro key
    by_cases hkey : key = "" <;> cases hfield : s.hasField key <;> simp [hkey]
  cases hinclude : p.includeStatistics with
  | false => simp [Plan.statisticsIssues, hinclude]
  | true =>
    simp only [Plan.statisticsIssues, hinclude, if_true, statisticsIssues, List.mem_filterMap, hone,
      List.mem_cons, List.not_mem_nil, or_false, true_and]

theorem mem_groupIssues_iff :
    i ∈ p.groupIssues s ↔
      ∃ key, p.groupKey? = some key ∧ s.hasField key = false ∧ Issue.unknownGroup key = i := by
  simp only [Plan.groupIssues, Option.mem_toList, Option.map_eq_some_iff, Option.filter_eq_some_iff,
    Bool.not_eq_true', and_assoc]

/-- Every report that is due is made, and no other. -/
theorem mem_issues_iff {result : QueryResult} (h : Answers s p records result) :
    i ∈ result.issues ↔ Due s p records i := by
  simp only [h.issues, Plan.issues, List.mem_append, mem_filterIssues_iff,
    mem_rangeIssues_iff h.ranges, mem_sortIssues_iff, mem_statisticsIssues_iff, mem_groupIssues_iff]
  constructor
  · rintro ((((⟨d, hd, hon, hf, rfl⟩ | ⟨d, hd, hon, f, hf, hno, rfl⟩) | ⟨d, hd, hkind, hno, rfl⟩) |
      ⟨key, hkey, ⟨hf, rfl⟩ | ⟨f, hf, hno, rfl⟩⟩) |
      (⟨key, hinclude, hused, hnamed, hno, rfl⟩ | ⟨key, hkey, hno, rfl⟩))
    · exact .unknownFilter hd hon hf
    · exact .notFilterable hd hon hf hno
    · exact .noNumericData hd hkind hno
    · exact .unknownSort hkey hf
    · exact .notSortable hkey hf hno
    · exact .unknownStatistics hinclude hused hnamed hno
    · exact .unknownGroup hkey hno
  · rintro (⟨hd, hon, hf⟩ | ⟨hd, hon, hf, hno⟩ | ⟨hd, hkind, hno⟩ | ⟨hkey, hf⟩ | ⟨hkey, hf, hno⟩ |
      ⟨hinclude, hused, hnamed, hno⟩ | ⟨hkey, hno⟩)
    · exact .inl (.inl (.inl (.inl ⟨_, hd, hon, hf, rfl⟩)))
    · exact .inl (.inl (.inl (.inr ⟨_, hd, hon, _, hf, hno, rfl⟩)))
    · exact .inl (.inl (.inr ⟨_, hd, hkind, hno, rfl⟩))
    · exact .inl (.inr ⟨_, hkey, .inl ⟨hf, rfl⟩⟩)
    · exact .inl (.inr ⟨_, hkey, .inr ⟨_, hf, hno, rfl⟩⟩)
    · exact .inr (.inl ⟨_, hinclude, hused, hnamed, hno, rfl⟩)
    · exact .inr (.inr ⟨_, hkey, hno, rfl⟩)

end Reports

/-! ## Queries that report nothing -/

/-- Every reference of a query, what it leaves out filled in, can be used.  The
fields of statistics count when statistics are asked for. -/
structure Usable (s : Schema) (c : QueryConfig) (d : Settings) (records : List Record) :
    Prop where
  filters : ∀ x ∈ c.filters, x.enabled = true →
    ∃ f, s.field? x.field = some f ∧ f.filterable = true
  ranges : ∀ x ∈ c.filters, x.enabled = true → x.kind = .range → HasNumbers x.field records
  sort : ∀ key, c.sortField = some key → key ≠ "" → ∃ f, s.field? key = some f ∧ f.sortable = true
  group : c.includeGroups = true → ∀ key, (c.resolve s d).groupField = some key → key ≠ "" →
    s.hasField key = true
  statistics : c.includeStatistics = true → ∀ key,
    (c.resolve s d).words = some key ∨ (c.resolve s d).year = some key → key ≠ "" →
    s.hasField key = true

variable {s : Schema} {c : QueryConfig} {d : Settings} {records : List Record}

theorem mem_usedFields {key : String} :
    (c.resolve s d).words = some key ∨ (c.resolve s d).year = some key ↔
      key = (c.plan s d).fields.words ∨ key = (c.plan s d).fields.year := by
  simp only [QueryConfig.resolve, QueryConfig.plan]
  cases c.words <;> cases c.year <;> simp [eq_comm]

theorem groupKey?_plan {key : String} :
    (c.plan s d).groupKey? = some key ↔
      c.includeGroups = true ∧ (c.resolve s d).groupField = some key ∧ key ≠ "" := by
  cases hinclude : c.includeGroups <;>
    simp [Plan.groupKey?, QueryConfig.plan, QueryConfig.resolve, nonEmpty?, hinclude,
      Option.filter_eq_some_iff]

theorem sort_plan {key : SortKey} :
    (c.plan s d).sort = some key ↔
      c.sortField = some key.field ∧ key.field ≠ "" ∧ key.descending = c.descending := by
  obtain ⟨field, descending⟩ := key
  simp only [QueryConfig.plan, nonEmpty?, Option.map_eq_some_iff, Option.filter_eq_some_iff,
    SortKey.mk.injEq, bne_iff_ne]
  constructor
  · rintro ⟨key, ⟨hkey, hne⟩, rfl, rfl⟩
    exact ⟨hkey, hne, rfl⟩
  · rintro ⟨hkey, hne, rfl⟩
    exact ⟨field, ⟨hkey, hne⟩, rfl, rfl⟩

/-- A field has a property, unless it lacks it or is unknown. -/
theorem exists_field_of_not {test : Field → Bool} {key : String} (hknown : s.field? key ≠ none)
    (hhas : ∀ f, s.field? key = some f → test f ≠ false) :
    ∃ f, s.field? key = some f ∧ test f = true := by
  obtain ⟨f, hf⟩ := Option.ne_none_iff_exists'.mp hknown
  exact ⟨f, hf, Bool.ne_false_iff.mp (hhas f hf)⟩

theorem usable_of_not_due (hnone : ∀ i, ¬ Due s (c.plan s d) records i) :
    Usable s c d records := by
  have hfilters : ∀ x ∈ c.filters, x.enabled = true →
      ∃ f, s.field? x.field = some f ∧ f.filterable = true := fun x hx hon =>
    exists_field_of_not (fun hf => hnone _ (.unknownFilter hx hon hf))
      fun f hf hno => hnone _ (.notFilterable hx hon hf hno)
  refine ⟨hfilters, fun x hx hon hkind => ?_, fun key hkey hne => ?_,
    fun hgroups key hkey hne => ?_, fun hinclude key hkey hne => ?_⟩
  · by_contra hno
    exact hnone _ (.noNumericData (mem_usableFilters.mpr ⟨hx, hon, hfilters x hx hon⟩) hkind hno)
  · have hsort : (c.plan s d).sort = some ⟨key, c.descending⟩ := sort_plan.mpr ⟨hkey, hne, rfl⟩
    exact exists_field_of_not (fun hf => hnone _ (.unknownSort hsort hf))
      fun f hf hno => hnone _ (.notSortable hsort hf hno)
  · rw [← Bool.ne_false_iff]
    exact fun hno => hnone _ (.unknownGroup (groupKey?_plan.mpr ⟨hgroups, hkey, hne⟩) hno)
  · rw [← Bool.ne_false_iff]
    exact fun hno => hnone _ (.unknownStatistics hinclude (mem_usedFields.mp hkey) hne hno)

theorem Usable.not_due (h : Usable s c d records) {i : Issue} :
    ¬ Due s (c.plan s d) records i := by
  rintro (⟨hd, hon, hf⟩ | ⟨hd, hon, hf, hno⟩ | ⟨hd, hkind, hno⟩ | ⟨hkey, hf⟩ | ⟨hkey, hf, hno⟩ |
    ⟨hinclude, hused, hnamed, hno⟩ | ⟨hkey, hno⟩)
  · obtain ⟨f, hf', _⟩ := h.filters _ hd hon
    simp [hf] at hf'
  · obtain ⟨f, hf', hyes⟩ := h.filters _ hd hon
    obtain rfl := Option.some.inj (hf.symm.trans hf')
    simp [hno] at hyes
  · obtain ⟨hd, hon, _⟩ := mem_usableFilters.mp hd
    exact hno (h.ranges _ hd hon hkind)
  · obtain ⟨hasked, hne, _⟩ := sort_plan.mp hkey
    obtain ⟨f, hf', _⟩ := h.sort _ hasked hne
    simp [hf] at hf'
  · obtain ⟨hasked, hne, _⟩ := sort_plan.mp hkey
    obtain ⟨f, hf', hyes⟩ := h.sort _ hasked hne
    obtain rfl := Option.some.inj (hf.symm.trans hf')
    simp [hno] at hyes
  · have hyes := h.statistics hinclude _ (mem_usedFields.mpr hused) hnamed
    simp [hno] at hyes
  · obtain ⟨hgroups, hasked, hne⟩ := groupKey?_plan.mp hkey
    have hyes := h.group hgroups _ hasked hne
    simp [hno] at hyes

theorem takesStatistics_iff :
    (c.plan s d).takesStatistics s = true ↔
      c.includeStatistics = true ∨ c.includeGroups = true ∧
        ∃ key, (c.resolve s d).groupField = some key ∧ key ≠ "" ∧ s.hasField key = true := by
  have hgroup : ((c.plan s d).usableGroup? s).isSome = true ↔
      c.includeGroups = true ∧
        ∃ key, (c.resolve s d).groupField = some key ∧ key ≠ "" ∧ s.hasField key = true := by
    simp only [Option.isSome_iff_exists, Plan.usableGroup?, Option.filter_eq_some_iff,
      groupKey?_plan, and_assoc, exists_and_left]
  rw [Plan.takesStatistics, Bool.or_eq_true, hgroup]
  rfl

/-- Statistics are known exactly when they are asked for, or there are groups. -/
theorem Answers.isSome_statistics {p : Plan} {result : QueryResult}
    (h : Answers s p records result) : result.statistics.isSome = p.takesStatistics s := by
  cases htakes : p.takesStatistics s with
  | false => rw [h.noStatistics htakes, Option.isSome_none]
  | true =>
    obtain ⟨total, htotal, _⟩ := h.statistics htakes
    rw [htotal, Option.isSome_some]

end Query

/-- A query reports nothing exactly when every reference it makes can be used.
Statistics are also taken for groups, and their fields are not looked at when
only groups are asked for. -/
theorem isClean_iff_usable {id : String} {s : Schema} {c : QueryConfig} {d : Settings}
    {records : List Record} {result : QueryResult}
    (h : (Query.run id s c d records).outcome = .ok result) :
    (result.isClean = true ↔ Query.Usable s c d records) ∧
      (result.statistics.isSome = true ↔ c.includeStatistics = true ∨ c.includeGroups = true ∧
        ∃ key, (c.resolve s d).groupField = some key ∧ key ≠ "" ∧ s.hasField key = true) := by
  obtain ⟨_, hanswers⟩ := Query.run_eq_ok.mp h
  refine ⟨?_, ?_⟩
  · rw [QueryResult.isClean, List.isEmpty_iff, List.eq_nil_iff_forall_not_mem]
    simp only [Query.mem_issues_iff hanswers]
    exact ⟨Query.usable_of_not_due, fun husable _ => husable.not_due⟩
  · rw [hanswers.isSome_statistics, Query.takesStatistics_iff]

namespace Sample

/-- The books of one title, in groups by whether they are finished. -/
def shelf : QueryConfig :=
  { filters, state := [("title", .text "walden")], sortField := some "title",
    groupField := some "finished", words := some "pages", year := some "" }

/-- Groups alone, with words of a field that no book has. -/
def groupsOnly : QueryConfig := { shelf with words := some "words", includeStatistics := false }

/-- Whether a query of the books reports nothing, and whether it takes
statistics. -/
def reports (c : QueryConfig) (d : Settings) : Except Fault (Bool × Bool) :=
  ((Query.run "books" schema c d books).outcome).map fun r => (r.isClean, r.statistics.isSome)

end Sample

open Sample in
theorem isClean_iff_usable_books :
    ∃ result, (Query.run "books" schema shelf {} books).outcome = .ok result ∧
      result.isClean = true ∧ result.statistics.isSome = true ∧
      Query.Usable schema shelf {} books := by
  have hreports : gives (reports shelf {}) (true, true) = true := by decide +kernel
  obtain ⟨result, hresult, hflags⟩ := map_eq_ok.mp (gives_iff.mp hreports)
  obtain ⟨hclean, hknown⟩ := Prod.mk.inj hflags
  exact ⟨result, hresult, hclean, hknown, (isClean_iff_usable hresult).1.mp hclean⟩

open Sample in
/-- A query that only asks for groups reports nothing although it sums up a field
that is not in the schema. -/
theorem isClean_of_unknown_words :
    ∃ result, (Query.run "books" schema groupsOnly {} books).outcome = .ok result ∧
      result.isClean = true ∧ result.statistics.isSome = true ∧
      (groupsOnly.resolve schema {}).words = some "words" ∧ schema.hasField "words" = false := by
  have hreports : gives (reports groupsOnly {}) (true, true) = true := by decide +kernel
  obtain ⟨result, hresult, hflags⟩ := map_eq_ok.mp (gives_iff.mp hreports)
  obtain ⟨hclean, hknown⟩ := Prod.mk.inj hflags
  exact ⟨result, hresult, hclean, hknown, rfl, by decide⟩

end Facets
