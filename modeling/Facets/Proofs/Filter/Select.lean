import Facets.Proofs.Filter.Laws
import Facets.Proofs.Filter.Ranges
import Facets.Proofs.Record.Build

/-
One choice from the values of a field.

A filter for one value keeps exactly the records that meet its demand
(`Choice.exists_apply`).  On built records the stored value of a scalar type is its own
typed value, so a choice of it is compared with it as it stands
(`Choice.exists_apply_scalar`).
-/
namespace Facets

open Outcome Constraint

theorem Schema.field?_of_mem {s : Schema} {f : Field} (hf : f ∈ s.fields) :
    s.field? f.key = some f := by
  have hfind : ∀ {fields : List Field}, (fields.map Field.key).Nodup → f ∈ fields →
      fields.find? (·.key == f.key) = some f := by
    intro fields hdistinct hf
    induction fields with
    | nil => cases hf
    | cons g fields ih =>
      obtain ⟨hg, hrest⟩ := List.nodup_cons.mp hdistinct
      rcases List.mem_cons.mp hf with rfl | hf
      · exact List.find?_cons_of_pos BEq.rfl
      · -- A field before it that has its key would be a second one.
        have hkey : g.key ≠ f.key := fun heq => hg (heq ▸ List.mem_map_of_mem hf)
        rw [List.find?_cons_of_neg (by simpa using hkey)]
        exact ih hrest hf
  exact hfind s.distinct hf

/-- The types of single values. -/
def Kind.isScalar : Kind → Bool
  | .string | .number | .boolean | .date => true
  | _ => false

theorem Kind.isArray_of_isScalar {k : Kind} (h : k.isScalar = true) : k.isArray = false := by
  cases k <;> first | rfl | cases h

/-- A value that can be stored is a number, if it is a double. -/
theorem Typed.isNaN_toValue (t : Typed) : t.toValue.isNaN = false := by
  cases t with
  | number n => cases n <;> rfl
  | _ => rfl

theorem Record.Holds.isNaN_field {r : Record} {f : Field} {x : Option Typed} (h : r.Holds f x) :
    (r.field f.key).isNaN = false := by
  rw [h.field]
  cases x with
  | none => rfl
  | some t => exact t.isNaN_toValue

/-! ## A filter for one value -/

/-- The filter offers a choice from the values of a field of the schema, and can be
used. -/
structure FilterDefinition.Selects (d : FilterDefinition) (s : Schema) (f : Field) : Prop where
  mem : f ∈ s.fields
  field : d.field = f.key
  filterable : f.filterable = true
  enabled : d.enabled = true
  kind : d.kind = .select

namespace Choice

variable {s : Schema} {f : Field} {d : FilterDefinition} {state : FilterState}
  {ranges : FieldRanges} {records : List Record} {chosen : Value} {c : Constraint}
  {p : Record → Bool}

theorem field?_eq (h : d.Selects s f) : s.field? d.field = some f := by
  rw [h.field, Schema.field?_of_mem h.mem]

theorem usableFilters_eq (h : d.Selects s f) : s.usableFilters [d] = [d] :=
  Schema.usableFilters_singleton
    (Schema.canFilter_iff.mpr ⟨h.enabled, f, field?_eq h, h.filterable⟩)

theorem demands_eq_ok (h : d.Selects s f) (hstate : Assoc.find? (· == ·) f.key state = some chosen)
    (hc : Filter.select f chosen = .ok (some c)) :
    (Filter.demands s state ranges records (s.usableFilters [d])).outcome = .ok [c] := by
  have hdemand : (Filter.demandOf s state ranges records d).outcome = .ok (some c) := by
    rw [Filter.demandOf, field?_eq h, h.field, hstate]
    change (Filter.demand ranges records d.kind f chosen).outcome = _
    rw [h.kind]
    exact hc
  rw [usableFilters_eq h, Filter.demands_singleton, hdemand]
  rfl

/-- A choice whose demand can be tested on every record keeps those that meet it. -/
theorem exists_apply (h : d.Selects s f) (hstate : Assoc.find? (· == ·) f.key state = some chosen)
    (hc : Filter.select f chosen = .ok (some c)) (hp : ∀ r ∈ records, c.admits r = .ok (p r)) :
    ∃ sel, (Filter.apply s [d] state ranges records).outcome = .ok sel ∧
      sel.records records = records.filter p := by
  have hall : ∀ r ∈ records, admitsAll r [c] = .ok (p r) := fun r hr =>
    (admitsAll_singleton c r).trans (hp r hr)
  refine Filter.exists_apply_iff.mpr
    ⟨[c], demands_eq_ok h hstate hc, fun r hr => ⟨p r, hall r hr⟩, ?_⟩
  refine List.filter_congr fun r hr => ?_
  rw [meetsAll, hall r hr]
  cases p r <;> rfl

/-! ## Choices on built records -/

variable {r : Record} {t : Typed} {x : Option Typed}

/-- A typed value is chosen as it stands. -/
theorem select_toValue (hscalar : f.kind.isScalar = true) (ht : t.Fit) (hkind : t.kind = f.kind) :
    Filter.select f t.toValue = .ok (some (.equals f.key f.kind t.toValue)) := by
  have hcoerce : f.kind.coerce t.toValue = .ok (some t) := hkind ▸ Typed.coerce_toValue ht
  rw [Filter.select, if_neg (by simp [ht.1]), if_neg (by simp [Kind.isArray_of_isScalar hscalar]),
    Filter.expected, hcoerce]
  rfl

/-- A built record is compared by what it stores, which no comparison leaves out. -/
theorem admits_equals (h : r.Holds f x) (expected : Value) :
    (Constraint.equals f.key f.kind expected).admits r = .ok ((r.field f.key).same expected) := by
  have htyped : f.kind.coerce (r.field f.key) = .ok x := h.typed
  rw [admits, htyped, ok_bind, ← h.field, Value.equal, h.isNaN_field]
  rfl

/-- The choice of a typed value keeps the records that store it. -/
theorem exists_apply_scalar (h : d.Selects s f) (hscalar : f.kind.isScalar = true)
    (hbuilt : ∀ r ∈ records, r.IsBuilt s) (ht : t.Fit) (hkind : t.kind = f.kind)
    (hstate : Assoc.find? (· == ·) f.key state = some t.toValue) :
    ∃ sel, (Filter.apply s [d] state ranges records).outcome = .ok sel ∧
      sel.records records = records.filter fun r => (r.field f.key).same t.toValue := by
  refine exists_apply h hstate (select_toValue hscalar ht hkind) fun r hr => ?_
  obtain ⟨x, hx⟩ := (hbuilt r hr).exists_holds h.mem
  exact admits_equals hx t.toValue

theorem select_text {text : String} (harray : f.kind.isArray = true) (htext : text ≠ "") :
    Filter.select f (.text text) = .ok (some (.holds f.key [text])) := by
  rw [Filter.select, if_neg (by simpa [Value.isEmpty] using htext), if_pos harray]
  rfl

end Choice
end Facets
