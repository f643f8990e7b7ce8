import Facets.Proofs.Query.Answer
import Facets.Proofs.Record.Agreement

/-
Answers to queries on collections that cannot be told apart.

Each stage of a query passes related records on to the next (`Query.filter_agree`,
`order_agree`, `group_agree`), so the answers are related part by part
(`QueryResult.Agree`).  For two collections that differ only in what is stored without a
value, records are related when they stand at one place (`Record.Paired`).
-/
namespace Facets

open Outcome

variable {R : Record → Record → Prop} {records records' : List Record}

/-! ## Pages and summaries -/

/-- Two pages of related records that stand at one place of their lists. -/
structure Page.Agree (R : Record → Record → Prop) (x y : Page Record) : Prop where
  items : List.Forall₂ R x.items y.items
  totalPages : x.totalPages = y.totalPages
  current : x.current = y.current
  totalItems : x.totalItems = y.totalItems

theorem Page.of_agree (h : List.Forall₂ R records records') (number size : Int) :
    Outcome.Agree (Page.Agree R) (Page.of records number size) (Page.of records' number size) := by
  unfold Page.of
  rw [h.length_eq]
  split
  · exact .fault _
  · exact Agree.bind_left fun pages =>
      .ok ⟨List.forall₂_take _ (List.forall₂_drop _ h), rfl, rfl, rfl⟩

/-- Two summaries that differ in their members alone, which are related. -/
structure GroupSummary.Agree (R : Record → Record → Prop) (x y : GroupSummary) : Prop where
  key : x.key = y.key
  label : x.label = y.label
  records : List.Forall₂ R x.records y.records
  statistics : x.statistics = y.statistics
  percentage : x.percentage = y.percentage

namespace GroupSummary

theorem ofGroup_agree (hR : SameFields R) (h : List.Forall₂ R records records')
    (f : StatisticsFields) (total : Int) (key : Value) :
    Outcome.Agree (GroupSummary.Agree R) (ofGroup f total key records)
      (ofGroup f total key records') := by
  rw [ofGroup, ofGroup, Statistics.ofGroup, Statistics.ofGroup, Statistics.collect_eq hR h]
  exact Agree.bind_left fun statistics => Agree.bind_left fun label =>
    Agree.bind_left fun percentage => .ok ⟨rfl, rfl, h, rfl, rfl⟩

theorem ofGroups_agree (hR : SameFields R) {groups groups' : Groups}
    (h : Groups.Agree R groups groups') (o : GroupOrder) (f : StatisticsFields) (total : Int) :
    Outcome.Agree (List.Forall₂ (GroupSummary.Agree R)) (ofGroups o f total groups)
      (ofGroups o f total groups') := by
  refine (Groups.sort_agree h o).bind fun hsorted => Agree.mapM hsorted fun hg => ?_
  rw [hg.key]
  exact ofGroup_agree hR hg.value f total _

end GroupSummary

theorem Statistics.reduceBy_eq (hR : SameFields R) (h : List.Forall₂ R records records')
    (groupKey valueKey operation : String) :
    (reduceBy groupKey valueKey operation records).outcome =
      (reduceBy groupKey valueKey operation records').outcome := by
  simp only [reduceBy, Journaled.outcome_bind, Journaled.outcome_lift]
  refine agree_eq.mp (Agree.bind_left fun op => ?_)
  refine (Group.byField_agree hR h groupKey).bind fun hgroups => agree_eq.mpr ?_
  refine mapM_eq_of_forall₂ hgroups fun hg => ?_
  rw [hg.key, numbersOf_eq hR hg.value]

/-! ## Answers -/

/-- Two answers whose records are related place by place.  Everything else is the same. -/
structure QueryResult.Agree (R : Record → Record → Prop) (x y : QueryResult) : Prop where
  id : x.id = y.id
  filtered : x.filtered.Agree R y.filtered
  sorted : Option.Rel (List.Forall₂ R) x.sorted y.sorted
  grouped : Groups.Agree R x.grouped y.grouped
  groups : List.Forall₂ (GroupSummary.Agree R) x.groups y.groups
  statistics : x.statistics = y.statistics
  options : x.options = y.options
  ranges : x.ranges = y.ranges
  page : Option.Rel (Page.Agree R) x.page y.page
  issues : x.issues = y.issues

namespace Query

structure Filtering.Agree (R : Record → Record → Prop) (x y : Filtering) : Prop where
  selection : x.selection.Agree R y.selection
  options : x.options = y.options
  ranges : x.ranges = y.ranges
  issues : x.issues = y.issues

structure Arrangement.Agree (R : Record → Record → Prop) (x y : Arrangement) : Prop where
  sorted : Option.Rel (List.Forall₂ R) x.sorted y.sorted
  page : Option.Rel (Page.Agree R) x.page y.page
  issues : x.issues = y.issues

structure Grouping.Agree (R : Record → Record → Prop) (x y : Grouping) : Prop where
  grouped : Groups.Agree R x.grouped y.grouped
  groups : List.Forall₂ (GroupSummary.Agree R) x.groups y.groups
  statistics : x.statistics = y.statistics
  issues : x.issues = y.issues

section Stages

variable (hR : SameFields R) (h : List.Forall₂ R records records') (s : Schema) (p : Plan)

include hR h

theorem filter_agree :
    Outcome.Agree (Filtering.Agree R) (filter s p records).outcome
      (filter s p records').outcome := by
  simp only [filter, Journaled.outcome_bind, Journaled.outcome_lift, Journaled.outcome_pure,
    fieldOptions_eq hR h, fieldRanges_eq hR h]
  refine Agree.bind_left fun options => Agree.bind_left fun ranges => ?_
  exact (Filter.apply_agree hR h s _ _ _).bind fun hselection => .ok ⟨hselection, rfl, rfl, rfl⟩

theorem sort_agree :
    Outcome.Agree (fun x y => Option.Rel (List.Forall₂ R) x.1 y.1 ∧ x.2 = y.2)
      (sort s p records).outcome (sort s p records').outcome := by
  unfold sort
  cases p.sort with
  | none => exact .ok ⟨.none, rfl⟩
  | some key =>
    dsimp only
    cases s.sortIssue? key.field with
    | some issue => exact .ok ⟨.none, rfl⟩
    | none =>
      simp only [Journaled.outcome_bind, Journaled.outcome_pure]
      exact (Schema.sortBy_agree hR h s key).bind fun hsorted => .ok ⟨.some hsorted, rfl⟩

theorem order_agree :
    Outcome.Agree (Arrangement.Agree R) (order s p records).outcome
      (order s p records').outcome := by
  simp only [order, Journaled.outcome_bind]
  refine (sort_agree hR h s p).bind fun {x y} hxy => ?_
  cases p.page with
  | none => exact .ok ⟨hxy.1, .none, hxy.2⟩
  | some numbered =>
    simp only [Journaled.outcome_bind, Journaled.outcome_lift, Journaled.outcome_pure]
    exact (Page.of_agree (rel_getD hxy.1 h) _ _).bind fun hpage => .ok ⟨hxy.1, .some hpage, hxy.2⟩

theorem groups_agree (known : Option CollectionStatistics) (issues : List Issue) :
    Outcome.Agree (Grouping.Agree R) (groups s p records known issues).outcome
      (groups s p records' known issues).outcome := by
  unfold groups
  split
  · exact .ok ⟨.nil, .nil, rfl, rfl⟩
  · split
    · simp only [Journaled.outcome_bind, Journaled.outcome_lift, Journaled.outcome_pure,
        Statistics.collect_eq hR h]
      refine (Group.byField_agree hR h _).bind fun hgrouped => Agree.bind_left fun total => ?_
      exact (GroupSummary.ofGroups_agree hR hgrouped _ _ _).bind fun hgroups =>
        .ok ⟨hgrouped, hgroups, rfl, rfl⟩
    · exact .ok ⟨.nil, .nil, rfl, rfl⟩

theorem group_agree :
    Outcome.Agree (Grouping.Agree R) (group s p records).outcome (group s p records').outcome := by
  simp only [group, statistics, Journaled.outcome_bind, Journaled.outcome_lift,
    Statistics.collect_eq hR h]
  exact Agree.bind_left fun known => groups_agree hR h s p _ _

theorem run_agree (id : String) (c : QueryConfig) (d : Settings) :
    Outcome.Agree (QueryResult.Agree R) (run id s c d records).outcome
      (run id s c d records').outcome := by
  simp only [run, Journaled.outcome_bind, Journaled.outcome_note, Journaled.outcome_atStage,
    Journaled.outcome_pure, outcome_noteIssues, ok_bind]
  refine (filter_agree hR h s (c.plan s d)).bind fun hfiltering => ?_
  have hfiltered := hfiltering.selection.forall₂ h
  refine (order_agree hR hfiltered s (c.plan s d)).bind fun hordering => ?_
  refine (group_agree hR hfiltered s (c.plan s d)).bind fun hgrouping => .ok ?_
  refine ⟨rfl, hfiltering.selection, hordering.sorted, hgrouping.grouped, hgrouping.groups,
    hgrouping.statistics, hfiltering.options, hfiltering.ranges, hordering.page, ?_⟩
  rw [hfiltering.issues, hordering.issues, hgrouping.issues]

end Stages
end Query
/-! ## Absent and empty values -/

/-- Two records that stand at one place of two collections, and are one but for what is
stored without a value. -/
structure Record.Paired (records records' : List Record) (r r' : Record) : Prop where
  place : (r, r') ∈ records.zip records'
  agrees : r.Agrees r'

/-- Where one collection repeats a record, the other does as well. -/
def RepeatAlike (records records' : List Record) : Prop :=
  ∀ p ∈ records.zip records', ∀ q ∈ records.zip records',
    p.1.serial = q.1.serial ↔ p.2.serial = q.2.serial

instance : Decidable (RepeatAlike records records') :=
  inferInstanceAs (Decidable (∀ p ∈ records.zip records', ∀ q ∈ records.zip records',
    p.1.serial = q.1.serial ↔ p.2.serial = q.2.serial))

/-- No engine tells an absent value from an empty one.  On collections that differ only in
these, answers and groups hold the records of the same places, counts and reductions are
the same, and what faults on one side faults on the other.  Groups by items also need that
the collections repeat records alike. -/
theorem absent_eq_empty (h : List.Forall₂ Record.Agrees records records') :
    (∀ id s c d, Agree (QueryResult.Agree (Record.Paired records records'))
      (Query.run id s c d records).outcome (Query.run id s c d records').outcome) ∧
    (RepeatAlike records records' → ∀ key,
      Agree (Groups.Agree (Record.Paired records records')) (Group.byItem key records)
        (Group.byItem key records')) ∧
    (∀ key, Groups.Agree (Record.Paired records records') (Group.byMonth key records)
      (Group.byMonth key records')) ∧
    (∀ key, Statistics.countBy key records = Statistics.countBy key records') ∧
    ∀ groupKey valueKey operation,
      (Statistics.reduceBy groupKey valueKey operation records).outcome =
        (Statistics.reduceBy groupKey valueKey operation records').outcome := by
  have hsame : SameFields (Record.Paired records records') := fun hr key => hr.agrees.field_eq key
  have hpaired : List.Forall₂ (Record.Paired records records') records records' :=
    List.forall₂_iff_zip.mpr ⟨h.length_eq, fun hr => ⟨hr, List.forall₂_zip h hr⟩⟩
  refine ⟨fun id s c d => Query.run_agree hsame hpaired s id c d, fun hrepeat key => ?_,
    fun key => Group.byMonth_agree hsame hpaired key,
    fun key => Statistics.countBy_eq hsame hpaired key,
    fun groupKey valueKey operation => Statistics.reduceBy_eq hsame hpaired _ _ _⟩
  refine Group.byItem_agree hsame (fun {a a' b b'} ha hb => ?_) hpaired key
  rw [Bool.eq_iff_iff, beq_iff_eq, beq_iff_eq]
  exact hrepeat (a, a') ha.place (b, b') hb.place

namespace Sample

/-- The books, each with one empty value more. -/
def padded : List Record :=
  List.zipWith (fun r p => r.setField p.1 p.2) books
    [("shelf", .null), ("title", .text ""), ("tags", .frozenSet []), ("pages", .list [])]

theorem agrees_padded : List.Forall₂ Record.Agrees books padded :=
  .cons (Record.agrees_setField rfl (by decide)) <|
    .cons (Record.agrees_setField rfl (by decide)) <|
      .cons (Record.agrees_setField rfl (by decide)) <|
        .cons (Record.agrees_setField rfl (by decide)) .nil

/-- A record that stands in the list twice. -/
def repeated : List Record :=
  [⟨0, "x", "", .ofEntries [("tags", .list [.text "sea"])]⟩,
    ⟨0, "x", "", .ofEntries [("tags", .list [.text "sea"])]⟩]

/-- Two records with the contents of one. -/
def copied : List Record :=
  [⟨0, "x", "", .ofEntries [("tags", .list [.text "sea"])]⟩,
    ⟨1, "x", "", .ofEntries [("tags", .list [.text "sea"])]⟩]

theorem agrees_copied : List.Forall₂ Record.Agrees repeated copied :=
  .cons ⟨rfl, rfl, fun _ _ _ => .rfl⟩ (.cons ⟨rfl, rfl, fun _ _ _ => .rfl⟩ .nil)

end Sample

open Sample in
theorem absent_eq_empty_padded :
    List.Forall₂ Record.Agrees books padded ∧ RepeatAlike books padded ∧
      (∀ id s c d, Agree (QueryResult.Agree (Record.Paired books padded))
        (Query.run id s c d books).outcome (Query.run id s c d padded).outcome) ∧
      (∀ key, Agree (Groups.Agree (Record.Paired books padded)) (Group.byItem key books)
        (Group.byItem key padded)) ∧
      (∀ key, Groups.Agree (Record.Paired books padded) (Group.byMonth key books)
        (Group.byMonth key padded)) ∧
      (∀ key, Statistics.countBy key books = Statistics.countBy key padded) ∧
      ∀ groupKey valueKey operation,
        (Statistics.reduceBy groupKey valueKey operation books).outcome =
          (Statistics.reduceBy groupKey valueKey operation padded).outcome := by
  have hrepeat : RepeatAlike books padded := by decide
  obtain ⟨hrun, hitem, hrest⟩ := absent_eq_empty agrees_padded
  exact ⟨agrees_padded, hrepeat, hrun, hitem hrepeat, hrest⟩

open Sample in
/-- Grouping by items counts a repeated record once and its copies each. -/
theorem not_absent_eq_empty_copied :
    List.Forall₂ Record.Agrees repeated copied ∧
      ∃ groups groups', Group.byItem "tags" repeated = .ok groups ∧
        Group.byItem "tags" copied = .ok groups' ∧
        groups.map (fun g => g.2.length) = [1] ∧ groups'.map (fun g => g.2.length) = [2] := by
  have hrepeated : gives ((Group.byItem "tags" repeated).map fun groups =>
      groups.map fun g => g.2.length) [1] = true := by decide +kernel
  have hcopied : gives ((Group.byItem "tags" copied).map fun groups =>
      groups.map fun g => g.2.length) [2] = true := by decide +kernel
  obtain ⟨groups, hgroups, hone⟩ := map_eq_ok.mp (gives_iff.mp hrepeated)
  obtain ⟨groups', hgroups', htwo⟩ := map_eq_ok.mp (gives_iff.mp hcopied)
  exact ⟨agrees_copied, groups, groups', hgroups, hgroups', hone, htwo⟩

end Facets
