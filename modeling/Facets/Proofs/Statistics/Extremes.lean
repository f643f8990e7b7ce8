import Facets.Proofs.Filter.Within
import Facets.Proofs.Statistics.Conservation
import Facets.Proofs.Value.Canonical
import Mathlib.Data.List.MinMax

/-
The least and the greatest number of a field.

Bounds of a field come from one pass over the records, and statistics from the list of
their numbers.  Both displace a number only by a smaller or a greater one, so they come
to the same numbers: the first of the least and the first of the greatest, as they stand
in the records (`Statistics.extremes_agree`).  An integer and a double may have the same
value, and then it is the first of them that is told.
-/
namespace Facets

open Outcome

/-! ## One pass -/

/-- One more number widens the bounds. -/
theorem boundsOf_concat (ns : List Number) (n : Number) :
    boundsOf (ns ++ [n]) = widen (boundsOf ns) n := by
  rw [← foldl_widen_none, List.foldl_append, foldl_widen_none]
  rfl

/-- Widening bounds by each number in turn keeps the first of the least numbers below and
the first of the greatest above. -/
theorem boundsOf_extremes (ns : List Number) :
    (boundsOf ns).map Prod.fst = ns.argmin Number.value ∧
      (boundsOf ns).map Prod.snd = ns.argmax Number.value := by
  induction ns using List.reverseRecOn with
  | nil => exact ⟨rfl, rfl⟩
  | append_singleton ns n ih =>
    rw [boundsOf_concat, List.argmin_concat, List.argmax_concat, ← ih.1, ← ih.2]
    cases boundsOf ns with
    | none => exact ⟨rfl, rfl⟩
    | some data =>
      simp only [widen, Option.map_some, Number.below_iff]
      exact ⟨apply_ite some _ _ _, apply_ite some _ _ _⟩

/-! ## Extremes -/

/-- `low` and `high` are the extremes of the numbers in a field.  Of several numbers of one
value, `argmin` and `argmax` take the first. -/
structure AreExtremes (key : String) (records : List Record) (low high : Number) : Prop where
  firstLeast : (records.filterMap (Record.number? key)).argmin Number.value = some low
  firstGreatest : (records.filterMap (Record.number? key)).argmax Number.value = some high
  attained : ∀ n ∈ [low, high], ∃ r ∈ records, (r.field key).asNumber = .ok (some n)
  between : ∀ r ∈ records, ∀ n, (r.field key).asNumber = .ok (some n) →
    low.value ≤ n.value ∧ n.value ≤ high.value

section Data

variable {key : String} {records : List Record} {low high : Number}

theorem areExtremes_of_fieldRange (h : fieldRange key records = .ok (some (low, high))) :
    AreExtremes key records low high := by
  obtain ⟨ns, hns, hbounds⟩ := fieldRange_eq_ok.mp h
  have hmem : ∀ n ∈ ns, ∃ r ∈ records, (r.field key).asNumber = .ok (some n) := fun _ =>
    (mem_numbersOf hns).mp
  obtain ⟨hleast, hgreatest⟩ := extremes_of_fieldRange h
  obtain ⟨hlow, hhigh⟩ := boundsOf_extremes ns
  rw [hbounds] at hlow hhigh
  obtain ⟨-, rfl⟩ := numbersOf_eq_ok.mp hns
  refine ⟨hlow.symm, hhigh.symm, ?_, fun r hr n hn => ?_⟩
  · rw [List.forall_mem_cons, List.forall_mem_singleton]
    exact ⟨hmem low (List.argmin_mem hlow.symm), hmem high (List.argmax_mem hhigh.symm)⟩
  · exact ⟨hleast.2 ⟨r, hr, n, hn, rfl⟩, hgreatest.2 ⟨r, hr, n, hn, rfl⟩⟩

end Data

namespace Statistics

variable {key : String} {f : StatisticsFields} {records : List Record}
  {data : Option (Number × Number)}

theorem numeric_of_no_numbers (h : fieldRange key records = .ok none) :
    numeric key records = .ok {} := by
  obtain ⟨ns, hns, hbounds⟩ := fieldRange_eq_ok.mp h
  rw [numeric, hns, ok_bind, extremes_eq_boundsOf, hbounds]
  rfl

theorem bounds_of_numeric {low high : Number} {s : NumericStatistics}
    (h : fieldRange key records = .ok (some (low, high))) (hs : numeric key records = .ok s) :
    s.min = .ofNumber low ∧ s.max = .ofNumber high := by
  obtain ⟨ns, hns, hbounds⟩ := fieldRange_eq_ok.mp h
  rw [numeric, hns, ok_bind, extremes_eq_boundsOf, hbounds] at hs
  obtain ⟨total, -, hs⟩ := bind_eq_ok.mp hs
  obtain ⟨average, -, hs⟩ := bind_eq_ok.mp hs
  obtain rfl := pure_eq_ok.mp hs
  exact ⟨rfl, rfl⟩

theorem years_of_ofGroup {g : GroupStatistics} (h : fieldRange f.year records = .ok data)
    (hg : ofGroup f records = .ok g) :
    g.years = ⟨data.map fun d => .ofNumber d.1, data.map fun d => .ofNumber d.2⟩ := by
  obtain ⟨ns, hns, rfl⟩ := fieldRange_eq_ok.mp h
  obtain ⟨s, hs, rfl⟩ := ofGroup_eq_ok.mp hg
  obtain ⟨words, years, total, average, -, hyears, -, -, rfl⟩ := collect_eq_ok.mp hs
  obtain rfl := Except.ok.inj (hns.symm.trans hyears)
  show yearRange ns = _
  rw [yearRange_eq, lowest, highest, Option.map_map, Option.map_map]
  rfl

/-- The bounds of a field, its statistics and the years of a collection tell the same
extremes, and bounds can be found when every value of the field can be read. -/
theorem extremes_agree (key words : String) (records : List Record) :
    ((∃ data, fieldRange key records = .ok data) ↔
      ∀ r ∈ records, ∃ n, (r.field key).asNumber = .ok n) ∧
    ∀ data, fieldRange key records = .ok data →
      (data = none ↔ ¬ HasNumbers key records) ∧
      (data = none → numeric key records = .ok {} ∧
        ∀ g, ofGroup ⟨words, key⟩ records = .ok g → g.years = {}) ∧
      ∀ low high, data = some (low, high) → AreExtremes key records low high ∧
        (∀ s, numeric key records = .ok s → s.min = .ofNumber low ∧ s.max = .ofNumber high) ∧
        ∀ g, ofGroup ⟨words, key⟩ records = .ok g →
          g.years = ⟨some (.ofNumber low), some (.ofNumber high)⟩ := by
  refine ⟨exists_fieldRange_iff, fun data h => ?_⟩
  have hyears : ∀ g, ofGroup ⟨words, key⟩ records = .ok g →
      g.years = ⟨data.map fun d => .ofNumber d.1, data.map fun d => .ofNumber d.2⟩ :=
    fun _ hg => years_of_ofGroup h hg
  refine ⟨?_, ?_, ?_⟩
  · rw [← isSome_fieldRange h, Option.not_isSome_iff_eq_none]
  · rintro rfl
    exact ⟨numeric_of_no_numbers h, hyears⟩
  · rintro low high rfl
    exact ⟨areExtremes_of_fieldRange h, fun s hs => bounds_of_numeric h hs, hyears⟩

end Statistics

namespace Sample

/-- The zeros are a negative double and an integer, and the ones an integer in a text and a
double.  One leaflet has no pages. -/
def leaflets : List Record :=
  [book 0 [("pages", .float (.finite minusZero))], book 1 [], book 2 [("pages", .text "1")],
    book 3 [("pages", .int 0)], book 4 [("pages", .float (.finite one))]]

end Sample

namespace Statistics

open Sample in
theorem extremes_agree_leaflets :
    fieldRange "pages" leaflets = .ok (some (.float minusZero, .int 1)) ∧
      AreExtremes "pages" leaflets (.float minusZero) (.int 1) ∧
      (∃ s, numeric "pages" leaflets = .ok s ∧
        s.min = .float (.finite minusZero) ∧ s.max = .int 1) ∧
      ∃ g, ofGroup ⟨"words", "pages"⟩ leaflets = .ok g ∧
        g.years = ⟨some (.float (.finite minusZero)), some (.int 1)⟩ := by
  have hrange : fieldRange "pages" leaflets = .ok (some (.float minusZero, .int 1)) :=
    gives_iff.mp (by decide +kernel)
  have hcounts : gives (do
      let s ← numeric "pages" leaflets
      let g ← ofGroup ⟨"words", "pages"⟩ leaflets
      pure (s.count, g.count)) (4, 5) = true := by decide +kernel
  obtain ⟨-, -, hsome⟩ := (extremes_agree "pages" "words" leaflets).2 _ hrange
  obtain ⟨hextremes, hnumeric, hgroup⟩ := hsome _ _ rfl
  obtain ⟨s, hs, hcounts⟩ := bind_eq_ok.mp (gives_iff.mp hcounts)
  obtain ⟨g, hg, -⟩ := bind_eq_ok.mp hcounts
  exact ⟨hrange, hextremes, ⟨s, hs, hnumeric s hs⟩, g, hg, hgroup g hg⟩

end Statistics
end Facets
