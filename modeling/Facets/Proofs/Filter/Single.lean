import Facets.Proofs.Filter.Laws
import Facets.Proofs.Filter.Ranges

/-
One filter and one choice.

A filter that can be used demands one thing of the records, or nothing, and keeps
those that meet it (`FilterDefinition.keeps_eq`).  What a choice keeps is stated over
`FilterDefinition.keeps`, whatever the other choices in the state are.
-/
namespace Facets

open Outcome Constraint

namespace FilterDefinition

/-- The filter can be used, and this is its field. -/
structure Uses (d : FilterDefinition) (s : Schema) (f : Field) : Prop where
  usable : s.canFilter d = true
  field : s.field? d.field = some f

/-- What the filter keeps of a collection when this is chosen for its field. -/
def keeps (d : FilterDefinition) (s : Schema) (state : FilterState) (ranges : FieldRanges)
    (records : List Record) (chosen : Value) : Except Fault (List Record) :=
  (Filter.apply s [d] (Assoc.put (· == ·) d.field chosen state) ranges records).outcome.map
    (·.records records)

variable {d : FilterDefinition} {s : Schema} {f : Field} {state : FilterState}
  {ranges : FieldRanges} {records kept : List Record} {chosen : Value} {r : Record}

/-- The same filter as one of another type, which can be used as well. -/
def withKind (d : FilterDefinition) (kind : FilterKind) : FilterDefinition :=
  { d with kind := kind }

theorem withKind_self (d : FilterDefinition) : d.withKind d.kind = d := rfl

theorem Uses.withKind (h : d.Uses s f) (kind : FilterKind) : (d.withKind kind).Uses s f :=
  ⟨h.usable, h.field⟩

theorem Uses.demands_eq (h : d.Uses s f) :
    (Filter.demands s (Assoc.put (· == ·) d.field chosen state) ranges records
      (s.usableFilters [d])).outcome =
      (Filter.demand ranges records d.kind f chosen).outcome >>= fun c => pure c.toList := by
  have hdemand : Filter.demandOf s (Assoc.put (· == ·) d.field chosen state) ranges records d =
      Filter.demand ranges records d.kind f chosen := by
    rw [Filter.demandOf, h.field, Assoc.find?_put_self]
  rw [Schema.usableFilters_singleton h.usable, Filter.demands_singleton, hdemand]

/-- The records that meet the demand are kept, and all of them when there is none. -/
theorem keeps_eq (h : d.Uses s f) :
    d.keeps s state ranges records chosen =
      (Filter.demand ranges records d.kind f chosen).outcome >>= fun c =>
        keepWhere (fun r => admitsAll r c.toList) records := by
  rw [keeps, Filter.outcome_apply, h.demands_eq]
  cases (Filter.demand ranges records d.kind f chosen).outcome with
  | error e => rfl
  | ok c =>
    cases c with
    | none =>
      have hall : keepWhere (fun r => admitsAll r []) records = .ok records :=
        keepWhere_eq_ok.mpr ⟨fun r _ => ⟨true, rfl⟩, (List.filter_eq_self.mpr fun _ _ => rfl).symm⟩
      exact hall.symm
    | some c =>
      simp only [ok_bind, Option.toList_some]
      change Except.map _ (keepWhere (fun r => admitsAll r [c]) records >>= _) = _
      cases keepWhere (fun r => admitsAll r [c]) records <;> rfl

theorem keeps_eq_ok (h : d.Uses s f) :
    d.keeps s state ranges records chosen = .ok kept ↔
      ∃ c, (Filter.demand ranges records d.kind f chosen).outcome = .ok c ∧
        (∀ r ∈ records, ∃ b, admitsAll r c.toList = .ok b) ∧
        kept = records.filter (meetsAll c.toList) := by
  rw [keeps_eq h, bind_eq_ok]
  exact exists_congr fun c => and_congr_right fun _ => keepWhere_eq_ok

/-- Two filters that keep the same records of a collection keep them in the same order. -/
theorem eq_of_mem_keeps_iff {d' : FilterDefinition} {s' : Schema} {f' : Field}
    {state' : FilterState} {chosen' : Value} {kept' : List Record} (h : d.Uses s f)
    (h' : d'.Uses s' f') (hkept : d.keeps s state ranges records chosen = .ok kept)
    (hkept' : d'.keeps s' state' ranges records chosen' = .ok kept')
    (hmem : ∀ r, r ∈ kept ↔ r ∈ kept') : kept = kept' := by
  obtain ⟨c, -, -, rfl⟩ := (keeps_eq_ok h).mp hkept
  obtain ⟨c', -, -, rfl⟩ := (keeps_eq_ok h').mp hkept'
  refine List.filter_congr fun r hr => Bool.eq_iff_iff.mpr ?_
  have hboth := hmem r
  simp only [List.mem_filter, hr, true_and] at hboth
  exact hboth

section Demand

variable {c : Constraint} (h : d.Uses s f)
  (hc : (Filter.demand ranges records d.kind f chosen).outcome = .ok (some c))

include h hc

theorem keeps_eq_ok_of_demand :
    d.keeps s state ranges records chosen = .ok kept ↔
      (∀ r ∈ records, ∃ b, c.admits r = .ok b) ∧
        kept = records.filter fun r => gives (c.admits r) true := by
  have hadmits : (fun r => admitsAll r (some c).toList) = c.admits := funext c.admitsAll_singleton
  rw [keeps_eq h, hc, ok_bind, hadmits, keepWhere_eq_ok]

/-- A demand can be made of a collection when each record can be tested. -/
theorem exists_keeps_iff_of_demand :
    (∃ kept, d.keeps s state ranges records chosen = .ok kept) ↔
      ∀ r ∈ records, ∃ b, c.admits r = .ok b := by
  simp only [keeps_eq_ok_of_demand h hc]
  exact ⟨fun hanswer => hanswer.choose_spec.1, fun hall => ⟨_, hall, rfl⟩⟩

theorem mem_keeps_of_demand (hkept : d.keeps s state ranges records chosen = .ok kept) :
    r ∈ kept ↔ r ∈ records ∧ c.admits r = .ok true := by
  obtain ⟨-, rfl⟩ := (keeps_eq_ok_of_demand h hc).mp hkept
  rw [List.mem_filter, gives_iff]

end Demand

end FilterDefinition
end Facets
