import Facets.Proofs.Filter.Composition
import Facets.Proofs.Number.Exact
import Facets.Proofs.Query.Total
import Mathlib.Order.Bounds.Basic

/-
What bounds keep of a collection.

A filter whose bounds span the data is dropped, and then keeps every record, also those
without a number.  This never changes what becomes of a number: the numbers of a
collection lie between its least and its greatest one, so bounds that span these two
allow all others (`Range.Spans.allows`).
-/
namespace Facets

open Outcome Constraint

/-! ## Bounds -/

namespace Range

variable {bounds : Range} {m n : Number} {low high x : ℚ}

/-- Neither bound is what is no number. -/
def HasNoNaN (bounds : Range) : Prop :=
  ∀ a ∈ bounds.min.toList ++ bounds.max.toList, a.level?.isSome = true

instance (bounds : Range) : Decidable bounds.HasNoNaN :=
  inferInstanceAs (Decidable (∀ a ∈ _, _))

def lower? (bounds : Range) : Option Line := bounds.min.bind Amount.level?

def upper? (bounds : Range) : Option Line := bounds.max.bind Amount.level?

def Spans (bounds : Range) (low high : ℚ) : Prop :=
  (∀ l ∈ bounds.lower?, l ≤ (low : Line)) ∧ ∀ u ∈ bounds.upper?, (high : Line) ≤ u

def Allows (bounds : Range) (x : ℚ) : Prop := bounds.Spans x x

/-- Bounds that span the least and the greatest number allow all numbers between. -/
theorem Spans.allows (h : bounds.Spans low high) (hlow : low ≤ x) (hhigh : x ≤ high) :
    bounds.Allows x := by
  have hlow' : (low : Line) ≤ x := WithBotTop.coe_le_coe.mpr hlow
  have hhigh' : (x : Line) ≤ high := WithBotTop.coe_le_coe.mpr hhigh
  exact ⟨fun l hl => le_trans (h.1 l hl) hlow', fun u hu => le_trans hhigh' (h.2 u hu)⟩

/-- The upper bound lies below the lower one. -/
def IsInverted (bounds : Range) : Prop := ∃ l ∈ bounds.lower?, ∃ u ∈ bounds.upper?, u < l

theorem IsInverted.not_spans (h : bounds.IsInverted) (hle : low ≤ high) :
    ¬ bounds.Spans low high := by
  intro hspans
  obtain ⟨l, hl, u, hu, hul⟩ := h
  obtain ⟨hlow, hhigh⟩ := hspans.allows (le_refl low) hle
  exact absurd (le_trans (hlow l hl) (hhigh u hu)) (not_le.mpr hul)

theorem covers_iff (h : bounds.HasNoNaN) :
    bounds.covers (.ofNumber m) (.ofNumber n) = true ↔ bounds.Spans m.value n.value := by
  obtain ⟨min, max⟩ := bounds
  have hm := Amount.level?_ofNumber m
  have hn := Amount.level?_ofNumber n
  rw [covers, Bool.and_eq_true, Spans]
  refine and_congr ?_ ?_
  · cases min with
    | none => simp [lower?]
    | some a =>
      obtain ⟨l, hl⟩ := Option.isSome_iff_exists.mp (h a (by simp))
      simp [lower?, hl, ← Amount.atMost_iff hl hm]
  · cases max with
    | none => simp [upper?]
    | some a =>
      obtain ⟨u, hu⟩ := Option.isSome_iff_exists.mp (h a (by simp))
      simp [upper?, hu, ← Amount.atMost_iff hn hu]

/-- Bounds that are numbers contain a number when they span it. -/
theorem contains_iff (h : bounds.HasNoNaN) :
    bounds.contains (.ofNumber n) = true ↔ bounds.Allows n.value := by
  have hsame : bounds.contains (.ofNumber n) = bounds.covers (.ofNumber n) (.ofNumber n) := by
    obtain ⟨min, max⟩ := bounds
    have hn := Amount.level?_ofNumber n
    refine congrArg₂ (· && ·) ?_ ?_
    · cases min with
      | none => rfl
      | some a =>
        obtain ⟨l, hl⟩ := Option.isSome_iff_exists.mp (h a (by simp))
        exact Amount.not_below hn hl
    · cases max with
      | none => rfl
      | some a =>
        obtain ⟨u, hu⟩ := Option.isSome_iff_exists.mp (h a (by simp))
        exact Amount.not_below hu hn
  rw [hsame, Allows, covers_iff h]

end Range

/-! ## Numbers of a collection -/

section Data

variable {key : String} {records : List Record} {low high : Number}

/-- The numbers that records have in a field. -/
def valuesIn (key : String) (records : List Record) : Set ℚ :=
  {x | ∃ r ∈ records, ∃ n, (r.field key).asNumber = .ok (some n) ∧ n.value = x}

/-- The data bounds of a field are its least and its greatest number. -/
theorem extremes_of_fieldRange (h : fieldRange key records = .ok (some (low, high))) :
    IsLeast (valuesIn key records) low.value ∧ IsGreatest (valuesIn key records) high.value := by
  obtain ⟨ns, hns, hbounds⟩ := fieldRange_eq_ok.mp h
  have hmem : ∀ {n}, n ∈ ns ↔ ∃ r ∈ records, (r.field key).asNumber = .ok (some n) :=
    mem_numbersOf hns
  have hne : ns ≠ [] := by
    rintro rfl
    cases hbounds
  rw [boundsOf, dif_neg hne, Option.some.injEq, Prod.mk.injEq] at hbounds
  obtain ⟨rfl, rfl⟩ := hbounds
  refine ⟨⟨?_, ?_⟩, ⟨?_, ?_⟩⟩
  · obtain ⟨r, hr, hn⟩ := hmem.mp (List.minOn_mem (f := Number.scaled) (h := hne))
    exact ⟨r, hr, _, hn, rfl⟩
  · rintro _ ⟨r, hr, n, hn, rfl⟩
    exact Number.value_le_value.mpr (List.apply_minOn_le_of_mem (hmem.mpr ⟨r, hr, hn⟩))
  · obtain ⟨r, hr, hn⟩ := hmem.mp (List.maxOn_mem (f := Number.scaled) (h := hne))
    exact ⟨r, hr, _, hn, rfl⟩
  · rintro _ ⟨r, hr, n, hn, rfl⟩
    exact Number.value_le_value.mpr (List.le_apply_maxOn_of_mem (hmem.mpr ⟨r, hr, hn⟩))

/-- The data bounds of a field can be found when every value of it can be read. -/
theorem exists_fieldRange_iff :
    (∃ data, fieldRange key records = .ok data) ↔
      ∀ r ∈ records, ∃ n, (r.field key).asNumber = .ok n := by
  constructor
  · rintro ⟨data, h⟩ r hr
    obtain ⟨ns, hns, -⟩ := fieldRange_eq_ok.mp h
    obtain ⟨read, hread, -⟩ := bind_eq_ok.mp hns
    obtain ⟨n, -, hn⟩ := ok_of_mapM_ok hread r hr
    exact ⟨n, hn⟩
  · exact exists_fieldRange_ok

end Data

/-! ## Records within bounds -/

/-- What bounds keep of a collection. -/
structure Range.Selects (bounds : Range) (key : String) (records kept : List Record) : Prop where
  inOrder : ∃ keep : Record → Bool, records.filter keep = kept
  /-- Without a number in the collection there is nothing to narrow. -/
  whole : ¬ HasNumbers key records → kept = records
  number : ∀ r ∈ records, ∀ n, (r.field key).asNumber = .ok (some n) →
    (r ∈ kept ↔ bounds.Allows n.value)
  /-- A record without a number is kept along with all numbers, or not at all. -/
  noNumber : HasNumbers key records → ∃ low high, IsLeast (valuesIn key records) low ∧
    IsGreatest (valuesIn key records) high ∧
      ∀ r ∈ records, (r.field key).asNumber = .ok none → (r ∈ kept ↔ bounds.Spans low high)
  inverted : HasNumbers key records → bounds.IsInverted → kept = []

namespace Range.Selects

variable {bounds : Range} {key : String} {records : List Record} {low high : Number}

theorem of_no_numbers (h : fieldRange key records = .ok none) :
    bounds.Selects key records records := by
  have hnone : ¬ HasNumbers key records := fun hsome => by
    have hisSome := (isSome_fieldRange h).mpr hsome
    cases hisSome
  refine ⟨⟨fun _ => true, List.filter_true records⟩, fun _ => rfl, ?_,
    fun hsome => absurd hsome hnone, fun hsome => absurd hsome hnone⟩
  intro r hr n hn
  exact absurd ⟨r, hr, n, hn⟩ hnone

theorem of_filter {keep : Record → Bool} (h : fieldRange key records = .ok (some (low, high)))
    (hnumber : ∀ r ∈ records, ∀ n, (r.field key).asNumber = .ok (some n) →
      (keep r = true ↔ bounds.Allows n.value))
    (hnone : ∀ r ∈ records, (r.field key).asNumber = .ok none →
      (keep r = true ↔ bounds.Spans low.value high.value)) :
    bounds.Selects key records (records.filter keep) := by
  have hmem : ∀ r ∈ records, (r ∈ records.filter keep ↔ keep r = true) := fun r hr => by
    simp [hr]
  have hsome : HasNumbers key records := (isSome_fieldRange h).mp rfl
  obtain ⟨hleast, hgreatest⟩ := extremes_of_fieldRange h
  refine ⟨⟨keep, rfl⟩, fun hno => absurd hsome hno, ?_, fun _ => ?_, fun _ hinverted => ?_⟩
  · intro r hr n hn
    rw [hmem r hr, hnumber r hr n hn]
  · refine ⟨low.value, high.value, hleast, hgreatest, fun r hr hr' => ?_⟩
    rw [hmem r hr, hnone r hr hr']
  · refine List.filter_eq_nil_iff.mpr fun r hr hkeep => ?_
    obtain ⟨n, hn⟩ := exists_fieldRange_iff.mp ⟨_, h⟩ r hr
    cases n with
    | none =>
      have hle : low.value ≤ high.value := hleast.2 hgreatest.1
      exact hinverted.not_spans hle ((hnone r hr hn).mp hkeep)
    | some n => exact hinverted.not_spans (le_refl n.value) ((hnumber r hr n hn).mp hkeep)

end Range.Selects

namespace Filter

variable {s : Schema} {d : FilterDefinition} {f : Field} {state : FilterState} {chosen : Value}
  {bounds : Range} {records : List Record} {r : Record} {key : String} {n : Number}
  {data : Option (Number × Number)}

theorem admits_within (h : (r.field key).asNumber = .ok (some n)) :
    (Constraint.within key bounds).admits r = .ok (bounds.contains (.ofNumber n)) := by
  rw [admits, h]
  rfl

theorem admits_within_of_none (h : (r.field key).asNumber = .ok none) :
    (Constraint.within key bounds).admits r = .ok false := by
  rw [admits, h]
  rfl

/-- Bounds can be tested on a record whose value can be read. -/
theorem exists_admitsAll_narrowing {read : Option Number}
    (h : (r.field f.key).asNumber = .ok read) :
    ∃ b, admitsAll r (narrowing f data bounds).toList = .ok b := by
  unfold narrowing
  split
  · rw [Option.toList_some, admitsAll_singleton]
    cases read with
    | none => exact ⟨false, admits_within_of_none h⟩
    | some n => exact ⟨_, admits_within h⟩
  · exact ⟨true, rfl⟩

/-- Whether the bounds span the data or not, what is left is what they select. -/
theorem selects_meetsAll (h : fieldRange f.key records = .ok data) (hnan : bounds.HasNoNaN) :
    bounds.Selects f.key records (records.filter (meetsAll (narrowing f data bounds).toList)) := by
  have hall : records.filter (meetsAll []) = records := List.filter_eq_self.mpr fun _ _ => rfl
  cases data with
  | none =>
    show bounds.Selects f.key records (records.filter (meetsAll []))
    rw [hall]
    exact .of_no_numbers h
  | some data =>
    obtain ⟨low, high⟩ := data
    obtain ⟨hleast, hgreatest⟩ := extremes_of_fieldRange h
    by_cases hspans : bounds.Spans low.value high.value
    · have hcovers := (Range.covers_iff hnan).mpr hspans
      have hnarrowing : narrowing f (some (low, high)) bounds = none := by
        simp [narrowing, Range.narrows, hcovers]
      rw [hnarrowing]
      refine .of_filter h (fun r hr n hn => iff_of_true rfl ?_) fun r hr _ => iff_of_true rfl hspans
      exact hspans.allows (hleast.2 ⟨r, hr, n, hn, rfl⟩) (hgreatest.2 ⟨r, hr, n, hn, rfl⟩)
    · have hcovers : bounds.covers (.ofNumber low) (.ofNumber high) = false := by
        rw [← Bool.not_eq_true, Range.covers_iff hnan]
        exact hspans
      have hnarrowing : narrowing f (some (low, high)) bounds = some (.within f.key bounds) := by
        simp [narrowing, Range.narrows, hcovers]
      have hmeets : ∀ r, meetsAll [.within f.key bounds] r = true ↔
          (Constraint.within f.key bounds).admits r = .ok true := fun r => by
        rw [meetsAll_iff, List.forall_mem_singleton]
      rw [hnarrowing, Option.toList_some]
      refine .of_filter h (fun r hr n hn => ?_) fun r hr hn => ?_
      · rw [hmeets, admits_within hn, Except.ok.injEq]
        exact Range.contains_iff hnan
      · rw [hmeets, admits_within_of_none hn]
        exact iff_of_false (fun hfalse => by cases hfalse) hspans

section Chosen

variable (henabled : d.enabled = true) (hkind : d.kind = .range)
  (hf : s.field? d.field = some f) (hfilterable : f.filterable = true)
  (hchosen : Assoc.find? (· == ·) d.field state = some chosen)
  (hbounds : Range.ofChoice chosen = .ok (some bounds))

include henabled hkind hf hfilterable hchosen hbounds

theorem demands_range_eq_ok {cs : List Constraint} :
    (demands s state [] records (s.usableFilters [d])).outcome = .ok cs ↔
      ∃ data, fieldRange d.field records = .ok data ∧ (narrowing f data bounds).toList = cs := by
  have husable : s.usableFilters [d] = [d] :=
    Schema.usableFilters_singleton (Schema.canFilter_iff.mpr ⟨henabled, f, hf, hfilterable⟩)
  have hdemand : (demandOf s state [] records d).outcome =
      fieldRange d.field records >>= fun data => pure (narrowing f data bounds) := by
    rw [demandOf, hf, hchosen]
    show (demand [] records d.kind f chosen).outcome = _
    rw [hkind, ← Schema.key_of_field? hf]
    show (range [] records f chosen).outcome = _
    rw [outcome_range, hbounds]
    rfl
  rw [husable, demands_cons_eq_ok, hdemand]
  constructor
  · rintro ⟨c, rest, hc, hrest, rfl⟩
    obtain ⟨data, hdata, hc⟩ := bind_eq_ok.mp hc
    obtain rfl := pure_eq_ok.mp hc
    obtain rfl := Except.ok.inj hrest
    exact ⟨data, hdata, (List.append_nil _).symm⟩
  · rintro ⟨data, hdata, rfl⟩
    exact ⟨narrowing f data bounds, [], bind_eq_ok.mpr ⟨data, hdata, rfl⟩, rfl, List.append_nil _⟩

/-- A range filter has an answer when every value of its field can be read. -/
theorem exists_apply_range_iff :
    (∃ sel, (apply s [d] state [] records).outcome = .ok sel) ↔
      ∀ r ∈ records, ∃ read, (r.field d.field).asNumber = .ok read := by
  have hdemands : ∀ cs, (demands s state [] records (s.usableFilters [d])).outcome = .ok cs ↔
      ∃ data, fieldRange d.field records = .ok data ∧ (narrowing f data bounds).toList = cs :=
    fun _ => demands_range_eq_ok henabled hkind hf hfilterable hchosen hbounds
  constructor
  · rintro ⟨sel, hsel⟩
    obtain ⟨cs, hcs, -⟩ := apply_eq_ok.mp hsel
    obtain ⟨data, hdata, -⟩ := (hdemands cs).mp hcs
    exact exists_fieldRange_iff.mp ⟨data, hdata⟩
  · intro hread
    obtain ⟨data, hdata⟩ := exists_fieldRange_iff.mpr hread
    have hadmits : ∀ r ∈ records, ∃ b, admitsAll r (narrowing f data bounds).toList = .ok b := by
      intro r hr
      obtain ⟨read, hr⟩ := hread r hr
      rw [← Schema.key_of_field? hf] at hr
      exact exists_admitsAll_narrowing hr
    obtain ⟨sel, hsel, -⟩ :=
      exists_apply_iff.mpr ⟨_, (hdemands _).mpr ⟨data, hdata, rfl⟩, hadmits, rfl⟩
    exact ⟨sel, hsel⟩

end Chosen

end Filter

namespace Filter

/-- A range filter keeps the records whose number its bounds allow, whether or not the
bounds narrow the data, and it has an answer when every value of the field can be
read. -/
theorem apply_range_selects {s : Schema} {d : FilterDefinition} {f : Field} {state : FilterState}
    {chosen : Value} {bounds : Range} (henabled : d.enabled = true) (hkind : d.kind = .range)
    (hf : s.field? d.field = some f) (hfilterable : f.filterable = true)
    (hchosen : Assoc.find? (· == ·) d.field state = some chosen)
    (hbounds : Range.ofChoice chosen = .ok (some bounds)) (hnan : bounds.HasNoNaN)
    (records : List Record) :
    ((∃ sel, (apply s [d] state [] records).outcome = .ok sel) ↔
      ∀ r ∈ records, ∃ read, (r.field d.field).asNumber = .ok read) ∧
    ∀ sel, (apply s [d] state [] records).outcome = .ok sel →
      bounds.Selects d.field records (sel.records records) := by
  refine ⟨exists_apply_range_iff henabled hkind hf hfilterable hchosen hbounds, fun sel hsel => ?_⟩
  obtain ⟨cs, hcs, -, hkept⟩ := exists_apply_iff.mp ⟨sel, hsel, rfl⟩
  obtain ⟨data, hdata, rfl⟩ :=
    (demands_range_eq_ok henabled hkind hf hfilterable hchosen hbounds).mp hcs
  have hkey : f.key = d.field := Schema.key_of_field? hf
  rw [← hkey] at hdata ⊢
  rw [← hkept]
  exact selects_meetsAll hdata hnan

end Filter

namespace Sample

def byLength : FilterDefinition := ⟨"pages", .range, "Length", true, none⟩

def year : Field := ⟨"year", "Year", .number, true, true, true, 0, none⟩

def printing : Schema := ⟨"printing", [year], {}, by decide⟩

def byYear : FilterDefinition := ⟨"year", .range, "Year", true, none⟩

/-- The years of the last century. -/
def lastCentury : FilterState := [("year", .list [.int 1900, .int 2000])]

/-- One year has more digits than are read. -/
def printings : List Record :=
  [dated endlessYear, book 1 [("year", .int 1928)], book 2 [("year", .int 1850)]]

end Sample

namespace Filter

open Sample in
theorem apply_range_selects_books :
    ∃ sel, (apply schema [byLength] long [] books).outcome = .ok sel ∧
      Range.Selects ⟨some (.int 300), none⟩ "pages" books (sel.records books) ∧
      (sel.records books).map Record.serial = [0, 2] := by
  have hserials : gives ((apply schema [byLength] long [] books).outcome.map fun sel =>
      (sel.records books).map Record.serial) [0, 2] = true := by decide +kernel
  obtain ⟨sel, hsel, hkept⟩ := map_eq_ok.mp (gives_iff.mp hserials)
  have hselects := (apply_range_selects rfl rfl rfl rfl rfl rfl (by decide) books).2 sel hsel
  exact ⟨sel, hsel, hselects, hkept⟩

open Sample in
/-- A year with too many digits leaves the filter without an answer, also for the
years that its bounds allow. -/
theorem not_apply_range_of_endless_year :
    Range.ofChoice (.list [.int 1900, .int 2000]) =
        .ok (some ⟨some (.int 1900), some (.int 2000)⟩) ∧
      (∃ r ∈ printings, (r.field "year").asNumber = .ok (some (.int 1928))) ∧
      Range.Allows ⟨some (.int 1900), some (.int 2000)⟩ (Number.int 1928).value ∧
      ¬ ∃ sel, (apply printing [byYear] lastCentury [] printings).outcome = .ok sel := by
  have hmem : book 1 [("year", .int 1928)] ∈ printings :=
    List.mem_cons_of_mem _ List.mem_cons_self
  refine ⟨rfl, ⟨_, hmem, rfl⟩, ?_, fun hanswer => ?_⟩
  · exact (Range.contains_iff (by decide)).mp (by decide +kernel)
  · have hall := (exists_apply_range_iff rfl rfl rfl rfl rfl rfl).mp hanswer
    obtain ⟨read, hread⟩ := hall (dated endlessYear) List.mem_cons_self
    have hfault := asNumber_dated ofText_endlessYear
    cases hread.symm.trans hfault

end Filter

end Facets
