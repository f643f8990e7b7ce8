import Facets.Filter.Control
import Facets.Proofs.Field.Limits
import Facets.Proofs.Filter.Laws

/-
Filters on values within limits.

Records and choices within limits make no filter fail: each choice has a demand
(`Filter.exists_demand`), each record can be tested against it
(`Constraint.exists_admits`), and so a collection can be filtered
(`Filter.exists_apply`).
-/
namespace Facets

open Outcome

variable {s : Schema} {ds : List FilterDefinition} {records : List Record} {key : String}

/-! ## The data -/

theorem Record.WithinLimits.exists_number {r : Record} (h : r.WithinLimits) (key : String) :
    ∃ n, (r.field key).asNumber = .ok n := by
  obtain ⟨n, hn, _⟩ := Value.exists_asNumber (h.field key).writable (h.field key).readable
  exact ⟨n, hn⟩

theorem Value.exists_expected {v : Value} (h : v.WithinLimits) (k : Kind) :
    ∃ w, Filter.expected k v = .ok w := by
  obtain ⟨t, ht, _⟩ := Kind.exists_coerce k h
  exact ⟨_, by rw [Filter.expected, ht]; rfl⟩

theorem mem_fieldItems {r : Record} (h : r.WithinLimits) :
    ∀ v ∈ fieldItems key r, v.WithinLimits := by
  unfold fieldItems
  dsimp only
  cases hitems : (r.field key).items? with
  | none => simpa using h.field key
  | some items => exact (h.field key).mem_items hitems

/-- The values of records that can be listed. -/
def listable (key : String) (records : List Record) : List Value :=
  (records.flatMap (fieldItems key)).filter fun v => !v.isEmpty && v.isKey

theorem mem_listable {v : Value} :
    v ∈ listable key records ↔
      (∃ r ∈ records, v ∈ fieldItems key r) ∧ v.isEmpty = false ∧ v.isKey = true := by
  simp [listable]

/-- The values of records can be listed exactly when each of them has a text. -/
theorem exists_uniqueValues_iff :
    (∃ values, uniqueValues key records = .ok values) ↔
      ∀ v ∈ Value.distinct (listable key records), ∃ text, v.display = .ok text := by
  constructor
  · rintro ⟨values, h⟩ v hv
    obtain ⟨listed, hlisted, -⟩ := bind_eq_ok.mp h
    obtain ⟨p, -, hp⟩ := ok_of_mapM_ok hlisted v hv
    obtain ⟨text, htext, -⟩ := bind_eq_ok.mp hp
    exact ⟨text, htext⟩
  · intro h
    obtain ⟨listed, hlisted⟩ := exists_mapM_ok
      (f := fun v : Value => v.display.bind fun text => pure (text, v)) fun v hv => by
        obtain ⟨text, htext⟩ := h v hv
        exact ⟨(text, v), by rw [htext]; rfl⟩
    exact ⟨_, bind_eq_ok.mpr ⟨listed, hlisted, rfl⟩⟩

theorem exists_uniqueValues (h : ∀ r ∈ records, r.WithinLimits) (key : String) :
    ∃ values, uniqueValues key records = .ok values := by
  refine exists_uniqueValues_iff.mpr fun v hv => ?_
  obtain ⟨⟨r, hr, hitem⟩, -⟩ := mem_listable.mp (Value.distinct_subset _ hv)
  exact Value.exists_display (mem_fieldItems (h r hr) v hitem).writable

theorem exists_fieldOptions (h : ∀ r ∈ records, r.WithinLimits) (s : Schema)
    (ds : List FilterDefinition) : ∃ options, fieldOptions s ds records = .ok options := by
  refine exists_foldlM_ok (fun d _ kept => ?_) _
  obtain ⟨values, hvalues⟩ := exists_uniqueValues h d.field
  split
  · exact ⟨kept, rfl⟩
  · split
    · exact ⟨_, rfl⟩
    · exact ⟨_, by rw [hvalues]; rfl⟩

theorem exists_fieldRanges (h : ∀ r ∈ records, r.WithinLimits) (s : Schema)
    (ds : List FilterDefinition) : ∃ ranges, fieldRanges s ds records = .ok ranges := by
  refine exists_foldlM_ok (fun d _ kept => ?_) _
  obtain ⟨data, hdata⟩ := exists_fieldRange_ok fun r hr => (h r hr).exists_number d.field
  exact ⟨_, by rw [hdata]; rfl⟩

/-! ## Choices -/

theorem Range.exists_between {low high : Value} (hlow : low.WithinLimits)
    (hhigh : high.WithinLimits) : ∃ r, between low high = .ok r := by
  obtain ⟨m, hm, _⟩ := Value.exists_asNumber hlow.writable hlow.readable
  obtain ⟨n, hn, _⟩ := Value.exists_asNumber hhigh.writable hhigh.readable
  exact ⟨_, by rw [between, hm, hn]; rfl⟩

theorem Range.exists_ofChoice {v : Value} (h : v.WithinLimits) : ∃ r, ofChoice v = .ok r := by
  unfold ofChoice
  split
  · exact ⟨_, rfl⟩
  · rename_i ps
    have hvalue : ∀ key, ((Value.valueAt? key ps).getD .null).WithinLimits := by
      intro key
      cases hfound : Value.valueAt? key ps with
      | none => exact Value.withinLimits_null
      | some w =>
        obtain ⟨k, hmem, _⟩ := Assoc.exists_mem_of_find? hfound
        exact (h.mem_entries (k, w) hmem).2
    exact exists_between (hvalue _) (hvalue _)
  · have hitems := h.mem_items rfl
    exact exists_between (hitems _ (by simp)) (hitems _ (by simp))
  · have hitems := h.mem_items rfl
    exact exists_between (hitems _ (by simp)) (hitems _ (by simp))
  · exact ⟨_, rfl⟩

namespace Filter

variable {f : Field} {chosen : Value} {state : FilterState}

theorem mem_chosenValues (h : chosen.WithinLimits) :
    ∀ v ∈ chosenValues chosen, v.WithinLimits := by
  intro v hv
  cases chosen with
  | set vs | frozenSet vs | list vs | tuple vs =>
    exact .of_everyItem h.writable h.readable v (List.mem_of_mem_filter hv)
  | _ =>
    simp only [chosenValues] at hv
    split at hv
    · cases hv
    · rwa [List.mem_singleton.mp hv]

theorem exists_select (h : chosen.WithinLimits) (f : Field) : ∃ c, select f chosen = .ok c := by
  obtain ⟨target, htarget⟩ := Value.exists_display h.writable
  obtain ⟨v, hv⟩ := Value.exists_expected h f.kind
  unfold select
  split
  · exact ⟨_, rfl⟩
  · split
    · exact ⟨_, by rw [htarget]; rfl⟩
    · exact ⟨_, by rw [hv]; rfl⟩

theorem exists_checkbox (h : chosen.WithinLimits) (f : Field) :
    ∃ c, checkbox f chosen = .ok c :=
  exists_checkbox_iff.mpr fun v hv => exists_select (mem_chosenValues h v hv) f

theorem exists_range (hrecords : ∀ r ∈ records, r.WithinLimits) (h : chosen.WithinLimits)
    (f : Field) : ∃ c, (range [] records f chosen).outcome = .ok c := by
  rw [outcome_range]
  obtain ⟨choice, hchoice⟩ := Range.exists_ofChoice h
  obtain ⟨data, hdata⟩ := exists_fieldRange_ok fun r hr => (hrecords r hr).exists_number f.key
  rw [hchoice, ok_bind]
  cases choice with
  | none => exact ⟨_, rfl⟩
  | some bounds => exact ⟨_, by rw [hdata]; rfl⟩

theorem exists_text (h : chosen.WithinLimits) (f : Field) : ∃ c, text f chosen = .ok c := by
  unfold text
  split
  · exact ⟨_, rfl⟩
  · obtain ⟨shown, hshown⟩ := Value.exists_display h.writable
    exact ⟨_, by rw [hshown]; rfl⟩

/-- A choice within limits has a demand on records within limits. -/
theorem exists_demand (hrecords : ∀ r ∈ records, r.WithinLimits) (h : chosen.WithinLimits)
    (kind : FilterKind) (f : Field) : ∃ c, (demand [] records kind f chosen).outcome = .ok c := by
  cases kind with
  | select => exact exists_select h f
  | checkbox => exact exists_checkbox h f
  | range => exact exists_range hrecords h f
  | text => exact exists_text h f

theorem exists_demands (hrecords : ∀ r ∈ records, r.WithinLimits)
    (hstate : ∀ p ∈ state, p.2.WithinLimits) (s : Schema) (ds : List FilterDefinition) :
    ∃ cs, (demands s state [] records ds).outcome = .ok cs := by
  induction ds with
  | nil => exact ⟨[], rfl⟩
  | cons d ds ih =>
    obtain ⟨rest, hrest⟩ := ih
    have hone : ∃ c, (demandOf s state [] records d).outcome = .ok c := by
      unfold demandOf
      split
      · rename_i f chosen _ hchosen
        exact exists_demand hrecords (hstate _ (Assoc.mem_of_find? hchosen)) d.kind f
      · exact ⟨none, rfl⟩
    obtain ⟨c, hc⟩ := hone
    exact ⟨_, demands_cons_eq_ok.mpr ⟨c, rest, hc, hrest, rfl⟩⟩

end Filter

/-! ## Tests -/

namespace Constraint

variable {r : Record}

/-- The text of the value, or the label in it, is one of the targets. -/
def isTarget (targets : List String) (v : Value) : Bool :=
  match v.display with
  | .ok text => targets.contains text || targets.contains (entryLabel text)
  | .error _ => false

theorem someTarget_eq_any {items : List Value} (h : ∀ v ∈ items, ∃ text, v.display = .ok text)
    (targets : List String) : someTarget targets items = .ok (items.any (isTarget targets)) := by
  induction items with
  | nil => rfl
  | cons v vs ih =>
    obtain ⟨⟨text, htext⟩, hvs⟩ := List.forall_mem_cons.mp h
    have hv : isTarget targets v = (targets.contains text || targets.contains (entryLabel text)) := by
      rw [isTarget, htext]
    rw [someTarget, htext, ok_bind, List.any_cons, hv, ih hvs]
    cases targets.contains text || targets.contains (entryLabel text) <;> rfl

/-- A record within limits can be tested against any demand. -/
theorem exists_admits (h : r.WithinLimits) (c : Constraint) : ∃ b, c.admits r = .ok b := by
  cases c with
  | equals key kind expected =>
    obtain ⟨t, ht, _⟩ := Kind.exists_coerce kind (h.field key)
    exact ⟨_, by rw [admits, ht]; rfl⟩
  | oneOf key kind expected =>
    obtain ⟨t, ht, _⟩ := Kind.exists_coerce kind (h.field key)
    rw [admits, ht, ok_bind]
    cases t with
    | none => exact ⟨_, rfl⟩
    | some t => exact ⟨_, rfl⟩
  | holds key targets =>
    rw [admits]
    cases hitems : (r.field key).items? with
    | none => exact ⟨_, rfl⟩
    | some items =>
      have hwithin := (h.field key).mem_items hitems
      exact ⟨_, someTarget_eq_any (fun v hv => Value.exists_display (hwithin v hv).writable) targets⟩
  | within key range =>
    obtain ⟨n, hn⟩ := h.exists_number key
    rw [admits, hn, ok_bind]
    cases n with
    | none => exact ⟨_, rfl⟩
    | some n => exact ⟨_, rfl⟩
  | contains key kind query =>
    obtain ⟨text, htext⟩ := Kind.exists_plain kind (h.field key)
    exact ⟨_, by rw [admits, Kind.folded, htext]; rfl⟩

theorem exists_admitsAll (h : r.WithinLimits) (cs : List Constraint) :
    ∃ b, admitsAll r cs = .ok b := by
  induction cs with
  | nil => exact ⟨true, rfl⟩
  | cons c cs ih =>
    obtain ⟨b, hb⟩ := exists_admits h c
    rw [admitsAll, hb, ok_bind]
    cases b with
    | true => exact ih
    | false => exact ⟨false, rfl⟩

end Constraint

/-- Records within limits can be filtered by choices within limits. -/
theorem Filter.exists_apply {state : FilterState} (hrecords : ∀ r ∈ records, r.WithinLimits)
    (hstate : ∀ p ∈ state, p.2.WithinLimits) (s : Schema) (ds : List FilterDefinition) :
    ∃ sel, (apply s ds state [] records).outcome = .ok sel ∧
      (sel.records records).Sublist records := by
  obtain ⟨cs, hcs⟩ := exists_demands hrecords hstate s (s.usableFilters ds)
  obtain ⟨sel, hsel, hkept⟩ := exists_apply_iff.mpr
    ⟨cs, hcs, fun r hr => Constraint.exists_admitsAll (hrecords r hr) cs, rfl⟩
  refine ⟨sel, hsel, ?_⟩
  rw [hkept]
  exact List.filter_sublist

end Facets
