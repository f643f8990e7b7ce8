import Facets.Proofs.Filter.Demands
import Facets.Query.Run

/-
The data bounds that are listed once for all range filters.

The list holds the bounds of exactly the fields that some usable range filter
names (`mem_fieldRanges`).  A filter that finds its bounds in the list demands of
any records what it demands of the records the list was made from
(`demands_listed`), so filtering a collection with its own list is filtering it
without one (`apply_listed`).
-/
namespace Facets

open Outcome

theorem Schema.key_of_field? {s : Schema} {key : String} {f : Field}
    (h : s.field? key = some f) : f.key = key := by
  have hkey := List.find?_some h
  exact beq_iff_eq.mp hkey

variable {s : Schema} {ds : List FilterDefinition} {records part : List Record}
  {ranges : List (String × Option (Number × Number))}

/-! ## What is listed -/

/-- Exactly the bounds of the fields that these filters name are listed. -/
def ListsRanges (records : List Record) (ds : List FilterDefinition)
    (ranges : List (String × Option (Number × Number))) : Prop :=
  ∀ p, p ∈ ranges ↔ (∃ d ∈ ds, d.field = p.1) ∧ fieldRange p.1 records = .ok p.2

/-- One more field is listed.  A field that is listed again is listed with the
same bounds. -/
theorem ListsRanges.put {data : Option (Number × Number)} {d : FilterDefinition}
    (h : ListsRanges records ds ranges) (hdata : fieldRange d.field records = .ok data) :
    ListsRanges records (ds ++ [d]) (Assoc.put (· == ·) d.field data ranges) := by
  intro p
  constructor
  · intro hp
    rcases Assoc.mem_of_mem_put hp with rfl | hp
    · exact ⟨⟨d, by simp, rfl⟩, hdata⟩
    · obtain ⟨⟨d', hd', hkey⟩, hp⟩ := (h p).mp hp
      exact ⟨⟨d', List.mem_append_left _ hd', hkey⟩, hp⟩
  · rintro ⟨⟨d', hd', hkey⟩, hp⟩
    -- A field that is named again has the bounds that it had.
    by_cases hsame : p.1 = d.field
    · rw [hsame, hdata] at hp
      have hentry : p = (d.field, data) := Prod.ext hsame (Except.ok.inj hp).symm
      rw [hentry]
      exact Assoc.mem_put_self
    · refine Assoc.mem_put_of_ne hsame ((h p).mpr ⟨⟨d', ?_, hkey⟩, hp⟩)
      rcases List.mem_append.mp hd' with hd' | hd'
      · exact hd'
      · rw [List.mem_singleton.mp hd'] at hkey
        exact absurd hkey.symm hsame

/-- The bounds of exactly the fields that usable range filters name are listed. -/
theorem mem_fieldRanges (h : fieldRanges s ds records = .ok ranges)
    {p : String × Option (Number × Number)} :
    p ∈ ranges ↔
      (∃ d ∈ s.usableFilters ds, d.kind = .range ∧ d.field = p.1) ∧
        fieldRange p.1 records = .ok p.2 := by
  have hlists := foldlM_invariant (I := ListsRanges records) (by simp [ListsRanges])
    (fun done kept d next hdone hnext => by
      obtain ⟨data, hdata, hnext⟩ := bind_eq_ok.mp hnext
      obtain rfl := pure_eq_ok.mp hnext
      exact hdone.put hdata) h p
  simp only [List.mem_filter, beq_iff_eq, and_assoc] at hlists
  exact hlists

/-- The bounds of every usable range filter have been found. -/
theorem exists_fieldRange (h : fieldRanges s ds records = .ok ranges) {d : FilterDefinition}
    (hd : d ∈ s.usableFilters ds) (hkind : d.kind = .range) :
    ∃ data, fieldRange d.field records = .ok data := by
  have hmem : d ∈ (s.usableFilters ds).filter fun d => d.kind == .range :=
    List.mem_filter.mpr ⟨hd, beq_iff_eq.mpr hkind⟩
  refine foldlM_invariant (I := fun done _ => ∀ d ∈ done,
    ∃ data, fieldRange d.field records = .ok data) (by simp)
    (fun done kept d next hdone hnext => ?_) h d hmem
  obtain ⟨data, hdata, _⟩ := bind_eq_ok.mp hnext
  intro d' hd'
  rcases List.mem_append.mp hd' with hd' | hd'
  · exact hdone d' hd'
  · rw [List.mem_singleton.mp hd']
    exact ⟨data, hdata⟩

/-! ## Filtering with listed bounds -/

/-- With a list, the bounds of a range filter do not depend on the records. -/
theorem dataRange_listed (h : fieldRanges s ds records = .ok ranges) {d : FilterDefinition}
    (hd : d ∈ s.usableFilters ds) (hkind : d.kind = .range) (part : List Record) :
    dataRange (Query.toFieldRanges ranges) d.field part = dataRange [] d.field records := by
  obtain ⟨data, hdata⟩ := exists_fieldRange h hd hkind
  have hmem : (d.field, data) ∈ ranges := (mem_fieldRanges h).mpr ⟨⟨d, hd, hkind, rfl⟩, hdata⟩
  obtain ⟨data', hfind⟩ := Assoc.exists_find?_of_mem hmem
  have hdata' : fieldRange d.field records = .ok data' :=
    ((mem_fieldRanges h).mp (Assoc.mem_of_find? hfind)).2
  rw [dataRange, Query.toFieldRanges, Assoc.find?_map, hfind]
  change _ = fieldRange d.field records >>= _
  rw [hdata']
  rfl

namespace Filter

variable {state : FilterState}

/-- Filters that find the same data bounds demand the same. -/
theorem demands_congr {ranges ranges' : FieldRanges}
    (h : ∀ d ∈ ds, d.kind = .range →
      dataRange ranges d.field part = dataRange ranges' d.field records) :
    demands s state ranges part ds = demands s state ranges' records ds := by
  induction ds with
  | nil => rfl
  | cons d ds ih =>
    obtain ⟨hd, hds⟩ := List.forall_mem_cons.mp h
    rw [demands, demands, ih hds]
    cases hf : s.field? d.field with
    | none => rfl
    | some f =>
      cases Assoc.find? (· == ·) d.field state with
      | none => rfl
      | some chosen =>
        have hdemand : demand ranges part d.kind f chosen =
            demand ranges' records d.kind f chosen := by
          cases hkind : d.kind with
          | range =>
            have hdata := hd hkind
            rw [← Schema.key_of_field? hf] at hdata
            simp only [demand, range, hdata]
          | _ => rfl
        simp only [hdemand]

/-- With a list of the data bounds of a collection, filters demand of any
records what they demand of the collection. -/
theorem demands_listed (h : fieldRanges s ds records = .ok ranges)
    {some : List FilterDefinition} (hsome : some ⊆ s.usableFilters ds) (part : List Record) :
    demands s state (Query.toFieldRanges ranges) part some = demands s state [] records some :=
  demands_congr fun _ hd hkind => dataRange_listed h (hsome hd) hkind part

/-- Filtering a collection with its own list of bounds is filtering it without. -/
theorem apply_listed (h : fieldRanges s ds records = .ok ranges) :
    apply s ds state (Query.toFieldRanges ranges) records = apply s ds state [] records := by
  rw [apply, apply, demands_listed h (List.Subset.refl _)]

end Filter
end Facets
