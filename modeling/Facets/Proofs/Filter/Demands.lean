import Facets.Proofs.Filter.Bounds
import Facets.Filter.Apply

/-
What filters demand of part of a collection.

Of all filters only a range looks at the collection, and only to see whether it
leaves out some of the data.  So what filters demand of part of a collection is
some of what they demand of the collection (`exists_demands_of_subset`), and what
they demand does not depend on the order of the records (`demands_perm`).
-/
namespace Facets

open Outcome

/-- A filter can be used when it is switched on and its field can be filtered by. -/
theorem Schema.canFilter_iff {s : Schema} {d : FilterDefinition} :
    s.canFilter d = true ↔
      d.enabled = true ∧ ∃ f, s.field? d.field = some f ∧ f.filterable = true := by
  unfold canFilter filterIssue?
  cases d.enabled with
  | false => simp
  | true =>
    cases hf : s.field? d.field with
    | none => simp
    | some f => cases hfilterable : f.filterable <;> simp [hfilterable]

theorem mem_usableFilters {s : Schema} {ds : List FilterDefinition} {x : FilterDefinition} :
    x ∈ s.usableFilters ds ↔
      x ∈ ds ∧ x.enabled = true ∧ ∃ f, s.field? x.field = some f ∧ f.filterable = true := by
  rw [Schema.usableFilters, List.mem_filter, Schema.canFilter_iff]

theorem Schema.usableFilters_singleton {s : Schema} {d : FilterDefinition}
    (h : s.canFilter d = true) : s.usableFilters [d] = [d] :=
  List.filter_cons_of_pos h

namespace Filter

variable {s : Schema} {state : FilterState} {ds : List FilterDefinition} {f : Field}
  {chosen : Value} {records part : List Record} {c : Option Constraint} {cs : List Constraint}

/-! ## Choices from values -/

section Values

variable {v : Value}

theorem isEmpty_of_mem_chosenValues (h : v ∈ chosenValues chosen) :
    v.isEmpty = false := by
  unfold chosenValues at h
  split at h
  case h_5 =>
    split at h
    · cases h
    · rename_i hempty
      rw [List.mem_singleton.mp h]
      simpa using hempty
  all_goals simpa using (List.mem_filter.mp h).2

theorem select_of_isArray (harray : f.kind.isArray = true) (hne : v.isEmpty = false) :
    select f v = v.display >>= fun target => pure (some (.holds f.key [target])) := by
  rw [select, hne, if_neg Bool.false_ne_true, if_pos harray]

theorem select_of_not_isArray (hscalar : f.kind.isArray = false) (hne : v.isEmpty = false) :
    select f v = expected f.kind v >>= fun w => pure (some (.equals f.key f.kind w)) := by
  rw [select, hne, hscalar, if_neg Bool.false_ne_true, if_neg Bool.false_ne_true]

theorem checkbox_of_nil (hnone : chosenValues chosen = []) : checkbox f chosen = .ok none := by
  rw [checkbox, hnone]
  rfl

section NonEmpty

variable (hne : chosenValues chosen ≠ [])

include hne

theorem checkbox_of_isArray (harray : f.kind.isArray = true) :
    checkbox f chosen = (chosenValues chosen).mapM Value.display >>= fun targets =>
      pure (some (.holds f.key targets)) := by
  rw [checkbox, if_neg (by simpa using hne), if_pos harray]

theorem checkbox_of_not_isArray (hscalar : f.kind.isArray = false) :
    checkbox f chosen = (chosenValues chosen).mapM (expected f.kind) >>= fun vs =>
      pure (some (.oneOf f.key f.kind vs)) := by
  rw [checkbox, if_neg (by simpa using hne), hscalar, if_neg Bool.false_ne_true]

theorem exists_of_checkbox {demand : Option Constraint} (h : checkbox f chosen = .ok demand) :
    ∃ c, demand = some c := by
  cases harray : f.kind.isArray with
  | true =>
    rw [checkbox_of_isArray hne harray] at h
    obtain ⟨targets, -, h⟩ := bind_eq_ok.mp h
    exact ⟨_, (pure_eq_ok.mp h).symm⟩
  | false =>
    rw [checkbox_of_not_isArray hne harray] at h
    obtain ⟨vs, -, h⟩ := bind_eq_ok.mp h
    exact ⟨_, (pure_eq_ok.mp h).symm⟩

end NonEmpty

/-- A demand of several values is one of their texts or one of their typed values. -/
theorem checkbox_cases {c : Constraint} (hc : checkbox f chosen = .ok (some c)) :
    (f.kind.isArray = true ∧ ∃ targets, (chosenValues chosen).mapM Value.display = .ok targets ∧
      c = .holds f.key targets) ∨
    (f.kind.isArray = false ∧ ∃ vs, (chosenValues chosen).mapM (expected f.kind) = .ok vs ∧
      c = .oneOf f.key f.kind vs) := by
  have hne : chosenValues chosen ≠ [] := fun hnone => by
    rw [checkbox_of_nil hnone] at hc
    cases hc
  cases harray : f.kind.isArray with
  | true =>
    rw [checkbox_of_isArray hne harray] at hc
    obtain ⟨targets, htargets, hc⟩ := bind_eq_ok.mp hc
    exact .inl ⟨rfl, targets, htargets, (Option.some.inj (pure_eq_ok.mp hc)).symm⟩
  | false =>
    rw [checkbox_of_not_isArray hne harray] at hc
    obtain ⟨vs, hvs, hc⟩ := bind_eq_ok.mp hc
    exact .inr ⟨rfl, vs, hvs, (Option.some.inj (pure_eq_ok.mp hc)).symm⟩

/-- Several values can be demanded when each of them can. -/
theorem exists_checkbox_iff :
    (∃ c, checkbox f chosen = .ok c) ↔ ∀ v ∈ chosenValues chosen, ∃ c, select f v = .ok c := by
  by_cases hne : chosenValues chosen = []
  · simp [checkbox_of_nil, hne]
  · cases harray : f.kind.isArray with
    | true =>
      rw [checkbox_of_isArray hne harray, exists_bind_pure_iff, exists_mapM_ok_iff]
      refine forall₂_congr fun v hv => ?_
      rw [select_of_isArray harray (isEmpty_of_mem_chosenValues hv), exists_bind_pure_iff]
    | false =>
      rw [checkbox_of_not_isArray hne harray, exists_bind_pure_iff, exists_mapM_ok_iff]
      refine forall₂_congr fun v hv => ?_
      rw [select_of_not_isArray harray (isEmpty_of_mem_chosenValues hv), exists_bind_pure_iff]

end Values

/-! ## Bounds -/

/-- What chosen bounds demand of a collection with these data bounds. -/
def narrowing (f : Field) (data : Option (Number × Number)) (bounds : Range) :
    Option Constraint :=
  if bounds.narrows data then some (.within f.key bounds) else none

theorem outcome_range :
    (range [] records f chosen).outcome = (do
      match ← Range.ofChoice chosen with
      | none => pure none
      | some bounds => do
        let data ← fieldRange f.key records
        pure (narrowing f data bounds)) := by
  rw [range, Journaled.outcome_bind]
  refine congrArg (Range.ofChoice chosen >>= ·) (funext fun choice => ?_)
  cases choice with
  | none => rfl
  | some bounds =>
    rw [Journaled.outcome_bind]
    change (fieldRange f.key records >>= fun data => pure (data.map amountRange)) >>= _ = _
    cases fieldRange f.key records with
    | error e => rfl
    | ok data =>
      cases data with
      | none => rfl
      | some d =>
        cases hcovers : bounds.covers (.ofNumber d.1) (.ofNumber d.2) with
        | true => simp [narrowing, Range.narrows, amountRange, hcovers]
        | false => simp [narrowing, Range.narrows, amountRange, hcovers]

theorem narrowing_sublist {data data' : Option (Number × Number)} {bounds : Range}
    (hencloses : Encloses data data') :
    (narrowing f data' bounds).toList.Sublist (narrowing f data bounds).toList := by
  by_cases hnarrows : bounds.narrows data' = true
  · rw [narrowing, narrowing, if_pos hnarrows, if_pos (Range.narrows_of_encloses hencloses hnarrows)]
  · rw [narrowing, if_neg hnarrows]
    exact List.nil_sublist _

theorem exists_range_of_subset (hpart : part ⊆ records)
    (h : (range [] records f chosen).outcome = .ok c) :
    ∃ c', (range [] part f chosen).outcome = .ok c' ∧ c'.toList.Sublist c.toList := by
  rw [outcome_range] at h ⊢
  obtain ⟨choice, hchoice, h⟩ := bind_eq_ok.mp h
  rw [hchoice]
  cases choice with
  | none => exact ⟨c, h, .refl _⟩
  | some bounds =>
    obtain ⟨data, hdata, hc⟩ := bind_eq_ok.mp h
    obtain rfl := pure_eq_ok.mp hc
    obtain ⟨data', hdata', hencloses⟩ := fieldRange_subset hpart hdata
    refine ⟨narrowing f data' bounds, ?_, narrowing_sublist hencloses⟩
    rw [ok_bind, hdata']
    rfl

/-- A filter demands of part of a collection what it demands of the collection,
or nothing. -/
theorem exists_demand_of_subset (hpart : part ⊆ records) {kind : FilterKind}
    (h : (demand [] records kind f chosen).outcome = .ok c) :
    ∃ c', (demand [] part kind f chosen).outcome = .ok c' ∧ c'.toList.Sublist c.toList := by
  cases kind with
  | select => exact ⟨c, h, .refl _⟩
  | checkbox => exact ⟨c, h, .refl _⟩
  | range => exact exists_range_of_subset hpart h
  | text => exact ⟨c, h, .refl _⟩

/-- What a usable filter demands.  Without a choice it demands nothing. -/
def demandOf (s : Schema) (state : FilterState) (ranges : FieldRanges) (records : List Record)
    (d : FilterDefinition) : Journaled (Option Constraint) :=
  match s.field? d.field, Assoc.find? (· == ·) d.field state with
  | some f, some chosen => demand ranges records d.kind f chosen
  | _, _ => pure none

theorem demands_cons_eq_ok {ranges : FieldRanges} {d : FilterDefinition} :
    (demands s state ranges records (d :: ds)).outcome = .ok cs ↔
      ∃ c rest, (demandOf s state ranges records d).outcome = .ok c ∧
        (demands s state ranges records ds).outcome = .ok rest ∧ c.toList ++ rest = cs := by
  rw [demands, demandOf]
  cases s.field? d.field with
  | none => simp
  | some f =>
    cases Assoc.find? (· == ·) d.field state with
    | none => simp
    | some chosen =>
      simp only [Journaled.outcome_bind, Journaled.outcome_pure, bind_eq_ok, exists_and_left,
        Except.ok.injEq]

theorem demands_singleton {ranges : FieldRanges} (d : FilterDefinition) :
    (demands s state ranges records [d]).outcome =
      (demandOf s state ranges records d).outcome >>= fun c => pure c.toList := by
  rw [demands, demandOf]
  cases s.field? d.field with
  | none => rfl
  | some f =>
    cases Assoc.find? (· == ·) d.field state with
    | none => rfl
    | some chosen =>
      simp only [demands, Journaled.outcome_bind, Journaled.outcome_pure, ok_bind, List.append_nil]
      rfl

theorem exists_demandOf_of_subset (hpart : part ⊆ records) {d : FilterDefinition}
    (h : (demandOf s state [] records d).outcome = .ok c) :
    ∃ c', (demandOf s state [] part d).outcome = .ok c' ∧ c'.toList.Sublist c.toList := by
  unfold demandOf at h ⊢
  split at h
  · exact exists_demand_of_subset hpart h
  · exact ⟨c, h, .refl _⟩

/-- Filters demand of part of a collection some of what they demand of it. -/
theorem exists_demands_of_subset (hpart : part ⊆ records)
    (h : (demands s state [] records ds).outcome = .ok cs) :
    ∃ cs', (demands s state [] part ds).outcome = .ok cs' ∧ cs'.Sublist cs := by
  induction ds generalizing cs with
  | nil => exact ⟨cs, h, .refl _⟩
  | cons d ds ih =>
    obtain ⟨c, rest, hc, hrest, rfl⟩ := demands_cons_eq_ok.mp h
    obtain ⟨c', hc', hsub⟩ := exists_demandOf_of_subset hpart hc
    obtain ⟨rest', hrest', hsub'⟩ := ih hrest
    exact ⟨c'.toList ++ rest', demands_cons_eq_ok.mpr ⟨c', rest', hc', hrest', rfl⟩,
      hsub.append hsub'⟩

theorem demands_perm {records' : List Record} (hperm : records'.Perm records)
    (h : (demands s state [] records ds).outcome = .ok cs) :
    (demands s state [] records' ds).outcome = .ok cs := by
  obtain ⟨cs', hcs', hsub⟩ := exists_demands_of_subset hperm.subset h
  obtain ⟨cs'', hcs'', hsub'⟩ := exists_demands_of_subset hperm.symm.subset hcs'
  rw [h] at hcs''
  obtain rfl := Except.ok.inj hcs''
  rw [hcs', hsub.antisymm hsub']

end Filter
end Facets
