import Facets.Filter.Control
import Facets.Proofs.Agreement
import Facets.Proofs.Filter.Laws
import Facets.Proofs.Filter.Ranges
import Facets.Proofs.Record.Build
import Facets.Statistics.Basic

/-
Engines on records that cannot be told apart.

An engine reads a record through its fields alone, where an absent value and an empty
one are the same (`Record.Agrees.field_eq`).  So of two collections whose records are
related place by place, by any relation under which fields are the same
(`SameFields`), an engine computes the same values, and what it selects, sorts and
groups are related records.  Only grouping by items asks who a record is
(`Group.byItem_agree`).
-/
namespace Facets

open Outcome

/-! ## Records -/

/-- The records are one but for what is stored without a value: who they are, and every
value that is not empty. -/
structure Record.Agrees (r r' : Record) : Prop where
  id : r.id = r'.id
  path : r.path = r'.path
  stored : ∀ key v, v.isEmpty = false →
    (r.fields.get? key = some v ↔ r'.fields.get? key = some v)

/-- A field has a value exactly when the value is stored and not empty. -/
theorem Record.field_eq_iff {r : Record} {key : String} {v : Value} (hv : v.isEmpty = false) :
    r.field key = v ↔ r.fields.get? key = some v := by
  have hnull : Value.null ≠ v := by
    rintro rfl
    cases hv
  unfold field
  cases r.fields.get? key with
  | none => simpa using hnull
  | some w =>
    cases hw : w.isEmpty with
    | true =>
      have hne : w ≠ v := by
        rintro rfl
        rw [hv] at hw
        cases hw
      simp [hw, hnull, hne]
    | false => simp [hw]

theorem Record.field_eq_null_or (r : Record) (key : String) :
    r.field key = .null ∨ (r.field key).isEmpty = false := by
  unfold field
  cases r.fields.get? key with
  | none => exact .inl rfl
  | some v => cases hv : v.isEmpty <;> simp [hv]

/-- An absent field and one with an empty value are read alike. -/
theorem Record.Agrees.field_eq {r r' : Record} (h : r.Agrees r') (key : String) :
    r.field key = r'.field key := by
  rcases r.field_eq_null_or key with hnull | hv
  · rcases r'.field_eq_null_or key with hnull' | hv'
    · rw [hnull, hnull']
    · exact (field_eq_iff hv').mpr ((h.stored key _ hv').mpr ((field_eq_iff hv').mp rfl))
  · exact ((field_eq_iff hv).mpr ((h.stored key _ hv).mp ((field_eq_iff hv).mp rfl))).symm

/-- Storing an empty value where there is none makes no difference. -/
theorem Record.agrees_setField {r : Record} {key : String} {v : Value} (hv : v.isEmpty = true)
    (hnone : r.hasField key = false) : r.Agrees (r.setField key v) := by
  refine ⟨rfl, rfl, fun key' w hw => ?_⟩
  by_cases hkey : key' = key
  · subst hkey
    have hleft : r.fields.get? key' ≠ some w := by
      intro hget
      rw [hasField, (field_eq_iff hw).mpr hget, hw] at hnone
      cases hnone
    have hright : (r.fields.set key' v).get? key' ≠ some w := by
      rw [Fields.get?_set_self]
      rintro ⟨⟩
      rw [hv] at hw
      cases hw
    exact iff_of_false hleft hright
  · exact (Fields.get?_set_of_ne hkey).symm ▸ Iff.rfl

/-- Related records have the same fields. -/
def SameFields (R : Record → Record → Prop) : Prop :=
  ∀ {r r'}, R r r' → ∀ key, r.field key = r'.field key

variable {R : Record → Record → Prop} {records records' : List Record} {r r' : Record}

/-! ## Values -/

section Values

variable (hR : SameFields R) (h : List.Forall₂ R records records')

include hR h

theorem numbersOf_eq (key : String) : numbersOf key records = numbersOf key records' := by
  rw [numbersOf, numbersOf, mapM_eq_of_forall₂ h fun hr => by rw [hR hr key]]

theorem fieldRange_eq (key : String) : fieldRange key records = fieldRange key records' := by
  rw [fieldRange_eq_boundsOf, fieldRange_eq_boundsOf, numbersOf_eq hR h]

theorem dataRange_eq (ranges : FieldRanges) (key : String) :
    dataRange ranges key records = dataRange ranges key records' := by
  rw [dataRange, dataRange, fieldRange_eq hR h]

theorem uniqueValues_eq (key : String) : uniqueValues key records = uniqueValues key records' := by
  have hitems : records.flatMap (fieldItems key) = records'.flatMap (fieldItems key) :=
    flatMap_eq_of_forall₂ h fun hr => by rw [fieldItems, fieldItems, hR hr key]
  rw [uniqueValues, uniqueValues, hitems]

theorem fieldOptions_eq (s : Schema) (ds : List FilterDefinition) :
    fieldOptions s ds records = fieldOptions s ds records' := by
  simp only [fieldOptions, uniqueValues_eq hR h]

theorem fieldRanges_eq (s : Schema) (ds : List FilterDefinition) :
    fieldRanges s ds records = fieldRanges s ds records' := by
  simp only [fieldRanges, fieldRange_eq hR h]

theorem Statistics.collect_eq (f : StatisticsFields) : collect f records = collect f records' := by
  rw [collect, collect, numbersOf_eq hR h, numbersOf_eq hR h, h.length_eq]

theorem Statistics.countBy_eq (key : String) : countBy key records = countBy key records' :=
  foldlM_eq_of_forall₂ h (fun hr counts => by rw [occurringKeys, occurringKeys, hR hr key]) []

end Values

/-! ## Filters -/

theorem Constraint.admits_eq (hR : SameFields R) (hr : R r r') (c : Constraint) :
    c.admits r = c.admits r' := by
  cases c with
  | equals key kind expected => rw [admits, admits, hR hr key]
  | oneOf key kind expected => rw [admits, admits, hR hr key]
  | holds key targets => rw [admits, admits, hR hr key]
  | within key range => rw [admits, admits, hR hr key]
  | contains key kind query => rw [admits, admits, hR hr key]

/-- Two selections of related records. -/
inductive Selection.Agree (R : Record → Record → Prop) : Selection → Selection → Prop
  | whole : Agree R .whole .whole
  | part {kept kept' : List Record} (h : List.Forall₂ R kept kept') :
      Agree R (.part kept) (.part kept')

theorem Selection.Agree.forall₂ {sel sel' : Selection} (hsel : sel.Agree R sel')
    (h : List.Forall₂ R records records') :
    List.Forall₂ R (sel.records records) (sel'.records records') := by
  cases hsel with
  | whole => exact h
  | part hkept => exact hkept

theorem Filter.apply_agree (hR : SameFields R) (h : List.Forall₂ R records records') (s : Schema)
    (ds : List FilterDefinition) (state : FilterState) (ranges : FieldRanges) :
    Agree (Selection.Agree R) (apply s ds state ranges records).outcome
      (apply s ds state ranges records').outcome := by
  have hdemands : demands s state ranges records (s.usableFilters ds) =
      demands s state ranges records' (s.usableFilters ds) :=
    demands_congr fun d _ _ => dataRange_eq hR h ranges d.field
  rw [outcome_apply, outcome_apply, hdemands]
  refine Agree.bind_left fun cs => ?_
  cases cs.isEmpty with
  | true => exact .ok .whole
  | false =>
    have hadmits : ∀ {r r'}, R r r' →
        Constraint.admitsAll r cs = Constraint.admitsAll r' cs := fun hr =>
      Constraint.admitsAll_congr fun c _ => Constraint.admits_eq hR hr c
    exact (Agree.keepWhere h hadmits).bind fun hkept => .ok (.part hkept)

/-! ## Sorting -/

namespace Order

theorem readField_agree (hR : SameFields R) (h : List.Forall₂ R records records') (k : Kind)
    (key : String) :
    Agree (List.Forall₂ (Labelled R)) (readField k key records) (readField k key records') := by
  refine Agree.mapM h fun hr => ?_
  rw [hR hr key]
  exact Agree.bind_left fun t => .ok ⟨rfl, hr⟩

variable {read read' : List (Option Typed × Record)} {values values' : List (Typed × Record)}

theorem present_agree (h : List.Forall₂ (Labelled R) read read') :
    List.Forall₂ (Labelled R) (present read) (present read') := by
  refine List.rel_filterMap (fun p q hpq => ?_) h
  rw [hpq.key]
  cases q.1 with
  | none => exact .none
  | some t => exact .some ⟨rfl, hpq.value⟩

theorem absent_agree (h : List.Forall₂ (Labelled R) read read') :
    List.Forall₂ R (absent read) (absent read') := by
  have hnone := forall₂_filter (p := fun p => p.1.isNone) (q := fun p => p.1.isNone) h
    fun hpq => by rw [hpq.key]
  exact List.rel_map (fun _ _ hpq => hpq.value) hnone

theorem arrange_agree (h : List.Forall₂ (Labelled R) values values') (descending : Bool) :
    Agree (List.Forall₂ R) (arrange descending values) (arrange descending values') := by
  have hranked : Agree (List.Forall₂ (Labelled R))
      (values.mapM fun p => do
        let rank ← p.1.rank
        pure (rank, p.2))
      (values'.mapM fun p => do
        let rank ← p.1.rank
        pure (rank, p.2)) := by
    refine Agree.mapM h fun hp => ?_
    rw [hp.key]
    exact Agree.bind_left fun rank => .ok ⟨rfl, hp.value⟩
  -- A single value has no rank, so there are three cases.
  cases h with
  | nil => exact .ok .nil
  | cons hp hrest =>
    cases hrest with
    | nil => exact .ok (.cons hp.value .nil)
    | cons _ _ =>
      exact hranked.bind fun hsorted => .ok (forall₂_mergeSort_key (mayPrecede descending) hsorted)

theorem sortAs_agree (hR : SameFields R) (h : List.Forall₂ R records records') (k : Kind)
    (key : SortKey) :
    Agree (fun x y => List.Forall₂ R x.1 y.1 ∧ x.2 = y.2) (sortAs k key records)
      (sortAs k key records') := by
  refine (readField_agree hR h k key.field).bind fun hread => ?_
  refine (arrange_agree (present_agree hread) key.descending).bind fun hfront => ?_
  have hback := absent_agree hread
  exact .ok ⟨List.rel_append hfront hback, hback.length_eq⟩

end Order

theorem Schema.sortBy_agree (hR : SameFields R) (h : List.Forall₂ R records records')
    (s : Schema) (key : SortKey) :
    Agree (List.Forall₂ R) (sortBy (some s) key records).outcome
      (sortBy (some s) key records').outcome := by
  rw [outcome_sortBy, outcome_sortBy]
  cases s.sortField? key.field with
  | none => exact .ok h
  | some f => exact (Order.sortAs_agree hR h f.kind key).map fun hsorted => hsorted.1

/-! ## Groups -/

/-- Two lists of groups of related records under the same keys. -/
abbrev Groups.Agree (R : Record → Record → Prop) : Groups → Groups → Prop :=
  List.Forall₂ (Labelled (List.Forall₂ R))

namespace Groups

variable {groups groups' : Groups}

theorem Agree.add (h : Groups.Agree R groups groups') (hr : R r r') (key : Value) :
    Groups.Agree R (groups.add key r) (groups'.add key r') :=
  forall₂_update h key fun hmembers =>
    List.rel_append (rel_getD hmembers .nil) (.cons hr .nil)

/-- Whether a record is the last member is the same on both sides when the related
records repeat each other alike. -/
theorem Agree.addOnce (hsame : ∀ {a a' b b'}, R a a' → R b b' →
      (a.serial == b.serial) = (a'.serial == b'.serial))
    (h : Groups.Agree R groups groups') (hr : R r r') (key : Value) :
    Groups.Agree R (groups.addOnce key r) (groups'.addOnce key r') := by
  refine forall₂_update h key fun {members members'} hmembers => ?_
  have hlist := rel_getD hmembers .nil
  have hlast : ((members.getD []).getLast?.any fun last => last.serial == r.serial) =
      ((members'.getD []).getLast?.any fun last => last.serial == r'.serial) :=
    getLast?_any_eq hlist fun hlast => hsame hlast hr
  dsimp only
  rw [hlast]
  split
  · exact hlist
  · exact List.rel_append hlist (.cons hr .nil)

end Groups

namespace Group

theorem byKey_agree {keyOf : Record → Except Fault Value}
    (hkey : ∀ {r r'}, R r r' → keyOf r = keyOf r') (h : List.Forall₂ R records records') :
    Agree (Groups.Agree R) (byKey keyOf records) (byKey keyOf records') := by
  refine Agree.foldlM h (fun hgroups hr => ?_) .nil
  rw [hkey hr]
  exact Agree.bind_left fun key => .ok (hgroups.add hr key)

theorem byField_agree (hR : SameFields R) (h : List.Forall₂ R records records') (key : String) :
    Agree (Groups.Agree R) (byField key records).outcome (byField key records').outcome := by
  simp only [byField, Journaled.outcome_bind, Journaled.outcome_lift, Journaled.outcome_note,
    Journaled.outcome_pure, ok_bind]
  exact (byKey_agree (fun hr => by rw [hR hr key]) h).bind fun hgroups => .ok hgroups

theorem addItems_agree (hsame : ∀ {a a' b b'}, R a a' → R b b' →
      (a.serial == b.serial) = (a'.serial == b'.serial)) (hr : R r r') (items : List Value)
    {groups groups' : Groups} (h : Groups.Agree R groups groups') :
    Agree (Groups.Agree R) (addItems r items groups) (addItems r' items groups') := by
  induction items generalizing groups groups' with
  | nil => exact .ok h
  | cons v vs ih =>
    rw [addItems, addItems]
    split
    · exact ih h
    · exact Agree.bind_left fun key => ih (h.addOnce hsame hr key)

/-- Grouping by items tells a record that is repeated from one that is stored twice, so
it asks that related records repeat each other alike. -/
theorem byItem_agree (hR : SameFields R) (hsame : ∀ {a a' b b'}, R a a' → R b b' →
      (a.serial == b.serial) = (a'.serial == b'.serial))
    (h : List.Forall₂ R records records') (key : String) :
    Agree (Groups.Agree R) (byItem key records) (byItem key records') := by
  refine Agree.foldlM h (fun hgroups hr => ?_) .nil
  rw [hR hr key]
  split
  · exact addItems_agree hsame hr _ hgroups
  · exact .ok hgroups

theorem byMonth_agree (hR : SameFields R) (h : List.Forall₂ R records records') (key : String) :
    Groups.Agree R (byMonth key records) (byMonth key records') := by
  have hlast : ∀ {rest rest' : List Record}, List.Forall₂ R rest rest' →
      Groups.Agree R (if rest.isEmpty then [] else [(.null, rest)])
        (if rest'.isEmpty then [] else [(.null, rest')]) := by
    intro rest rest' hrest
    cases hrest with
    | nil => exact .nil
    | cons hr hrest => exact .cons ⟨rfl, .cons hr hrest⟩ .nil
  unfold byMonth
  refine List.rel_append (forall₂_mergeSort ?months ?order) (hlast (forall₂_filter h ?undated))
  case months =>
    refine List.rel_foldl (fun groups groups' hgroups r r' hr => ?_) .nil h
    rw [monthKey?, monthKey?, hR hr key]
    split
    · exact Groups.Agree.add hgroups hr _
    · exact hgroups
  case order =>
    intro g g' k k' hg hk
    rw [monthNotBefore, hg.key, hk.key]
    rfl
  case undated =>
    intro r r' hr
    rw [hR hr key]

end Group

namespace Groups

variable {groups groups' : Groups}

theorem sort_agree (h : Groups.Agree R groups groups') (o : GroupOrder) :
    Outcome.Agree (Groups.Agree R) (groups.sort o) (groups'.sort o) := by
  cases o with
  | alphabetical =>
    have hlisted : Outcome.Agree (List.Forall₂ (Labelled (Labelled (List.Forall₂ R))))
        (groups.mapM fun g => do
          let key ← listingKey g.1
          pure (key, g))
        (groups'.mapM fun g => do
          let key ← listingKey g.1
          pure (key, g)) := by
      refine Agree.mapM h fun hg => ?_
      rw [hg.key]
      exact Agree.bind_left fun key => .ok ⟨rfl, hg⟩
    exact hlisted.bind fun hsorted =>
      .ok (forall₂_mergeSort_key (fun k l => k.compare l != .gt) hsorted)
  | largestFirst =>
    exact .ok (forall₂_mergeSort h fun hg hg' => by rw [hg.value.length_eq, hg'.value.length_eq])
  | smallestFirst =>
    exact .ok (forall₂_mergeSort h fun hg hg' => by rw [hg.value.length_eq, hg'.value.length_eq])

end Groups
end Facets
