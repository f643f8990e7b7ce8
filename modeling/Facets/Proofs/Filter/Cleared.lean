import Facets.Proofs.Filter.Laws

/-
Filters without a choice.

An empty choice demands nothing of choices from values and of ranges, whatever its
form.  A text filter looks only for null and for the empty text: it takes any other
choice by its text, so an empty collection is searched for as it is written
(`Filter.text_eq_none_iff`).  That is the only way in which cleared filters can still
demand something (`Filter.exists_demands_cleared`).
-/
namespace Facets

open Outcome

namespace Value

/-- The containers.  An empty one has a notation, such as a pair of brackets. -/
def isCollection : Value → Bool
  | .list _ | .tuple _ | .set _ | .frozenSet _ | .dict _ => true
  | _ => false

end Value

/-- An empty choice stands for no range. -/
theorem Range.ofChoice_of_isEmpty {chosen : Value} (h : chosen.isEmpty = true) :
    Range.ofChoice chosen = .ok none := by
  cases chosen with
  | list vs | tuple vs | dict vs =>
    have hvs : vs = [] := by simpa [Value.isEmpty] using h
    rw [hvs]
    rfl
  | range r => cases h
  | _ => rfl

namespace Filter

variable {s : Schema} {f : Field} {d : FilterDefinition} {ds : List FilterDefinition}
  {state : FilterState} {ranges : FieldRanges} {records : List Record} {chosen : Value}

/-! ## Empty choices by type of filter -/

theorem select_of_isEmpty (h : chosen.isEmpty = true) : select f chosen = .ok none := by
  rw [select, if_pos h]

theorem checkbox_of_isEmpty (h : chosen.isEmpty = true) : checkbox f chosen = .ok none := by
  have hvalues : chosenValues chosen = [] := by
    cases chosen with
    | set vs | frozenSet vs | list vs | tuple vs =>
      have hvs : vs = [] := by simpa [Value.isEmpty] using h
      rw [hvs]
      rfl
    | _ => simp [chosenValues, h]
  rw [checkbox, hvalues]
  rfl

theorem range_of_isEmpty (h : chosen.isEmpty = true) :
    (range ranges records f chosen).outcome = .ok none := by
  rw [range, Journaled.outcome_bind, Journaled.outcome_lift, Range.ofChoice_of_isEmpty h]
  rfl

/-- An empty choice is searched for if it is a collection. -/
theorem exists_text_of_isEmpty (h : chosen.isEmpty = true) :
    ∃ c, text f chosen = .ok c ∧ c.isSome = chosen.isCollection := by
  cases chosen with
  | null => exact ⟨none, rfl, rfl⟩
  | text query =>
    have hquery : query = "" := by simpa [Value.isEmpty] using h
    rw [hquery]
    exact ⟨none, rfl, rfl⟩
  | list vs | tuple vs | set vs | frozenSet vs | dict vs =>
    have hvs : vs = [] := by simpa [Value.isEmpty] using h
    rw [hvs]
    refine ⟨_, rfl, ?_⟩
    rw [if_neg (by decide)]
    rfl
  | _ => cases h

/-! ## Cleared filters -/

/-- A text filter whose choice is an empty collection. -/
def searchesEmpty (state : FilterState) (d : FilterDefinition) : Bool :=
  d.kind == .text && (Assoc.find? (· == ·) d.field state).any Value.isCollection

/-- Of filters with empty choices only a search for an empty collection demands
something. -/
theorem exists_demandOf_cleared (hstate : ∀ p ∈ state, p.2.isEmpty = true)
    (hd : d ∈ s.usableFilters ds) :
    ∃ c, (demandOf s state ranges records d).outcome = .ok c ∧ c.isSome = searchesEmpty state d := by
  obtain ⟨-, -, f, hf, -⟩ := mem_usableFilters.mp hd
  rw [demandOf, hf, searchesEmpty]
  cases hchosen : Assoc.find? (· == ·) d.field state with
  | none => exact ⟨none, rfl, by simp⟩
  | some chosen =>
    have hempty : chosen.isEmpty = true := hstate _ (Assoc.mem_of_find? hchosen)
    cases hkind : d.kind with
    | select => exact ⟨none, select_of_isEmpty hempty, rfl⟩
    | checkbox => exact ⟨none, checkbox_of_isEmpty hempty, rfl⟩
    | range => exact ⟨none, range_of_isEmpty hempty, rfl⟩
    | text => exact exists_text_of_isEmpty hempty

theorem exists_demands_cleared (hstate : ∀ p ∈ state, p.2.isEmpty = true)
    {part : List FilterDefinition} (hpart : part ⊆ s.usableFilters ds) (ranges : FieldRanges)
    (records : List Record) :
    ∃ cs, (demands s state ranges records part).outcome = .ok cs ∧
      cs.length = part.countP (searchesEmpty state) := by
  induction part with
  | nil => exact ⟨[], rfl, rfl⟩
  | cons d part ih =>
    obtain ⟨hd, hpart⟩ := List.cons_subset.mp hpart
    obtain ⟨c, hc, hsome⟩ := exists_demandOf_cleared hstate hd
    obtain ⟨cs, hcs, hlength⟩ := ih hpart
    refine ⟨c.toList ++ cs, demands_cons_eq_ok.mpr ⟨c, cs, hc, hcs, rfl⟩, ?_⟩
    rw [List.countP_cons, ← hsome, List.length_append, hlength]
    cases c <;> simp [Nat.add_comm]

/-- Clearing all filters restores the collection, as long as no text filter is cleared by
an empty collection.  Each of these is still active. -/
theorem apply_cleared (hstate : ∀ p ∈ state, p.2.isEmpty = true) (s : Schema)
    (ds : List FilterDefinition) (ranges : FieldRanges) (records : List Record) :
    (activeCount s ds state ranges records).outcome =
        .ok ((s.usableFilters ds).countP (searchesEmpty state)) ∧
      ((apply s ds state ranges records).outcome = .ok .whole ↔
        ∀ d ∈ s.usableFilters ds, searchesEmpty state d = false) := by
  obtain ⟨cs, hcs, hlength⟩ :=
    exists_demands_cleared hstate (List.Subset.refl (s.usableFilters ds)) ranges records
  have hnone : cs.isEmpty = true ↔ ∀ d ∈ s.usableFilters ds, searchesEmpty state d = false := by
    rw [List.isEmpty_iff_length_eq_zero, hlength, List.countP_eq_zero]
    simp only [Bool.not_eq_true]
  constructor
  · rw [activeCount, Journaled.outcome_bind, hcs, ← hlength]
    rfl
  · rw [← hnone, apply_eq_ok]
    constructor
    · rintro ⟨cs', hcs', h⟩
      obtain rfl := Except.ok.inj (hcs.symm.trans hcs')
      split at h
      · assumption
      · obtain ⟨kept, -, hpart⟩ := h
        cases hpart
    · intro h
      exact ⟨cs, hcs, by rw [if_pos h]⟩

end Filter

namespace Sample

/-- One filter of each type. -/
def oneOfEach : List FilterDefinition :=
  [⟨"title", .select, "", true, none⟩, ⟨"finished", .checkbox, "", true, none⟩,
    ⟨"pages", .range, "", true, none⟩, ⟨"title", .text, "", true, none⟩]

def clearedChoices : FilterState :=
  [("title", .text ""), ("finished", .frozenSet []), ("pages", .dict [])]

end Sample

namespace Filter

open Sample in
theorem apply_cleared_books :
    (∀ p ∈ clearedChoices, p.2.isEmpty = true) ∧
      (∀ d ∈ schema.usableFilters oneOfEach, searchesEmpty clearedChoices d = false) ∧
      (activeCount schema oneOfEach clearedChoices [] books).outcome = .ok 0 ∧
      (apply schema oneOfEach clearedChoices [] books).outcome = .ok .whole := by
  have hempty : ∀ p ∈ clearedChoices, p.2.isEmpty = true := by decide
  have hnone : ∀ d ∈ schema.usableFilters oneOfEach, searchesEmpty clearedChoices d = false := by
    decide
  obtain ⟨hcount, hwhole⟩ := apply_cleared hempty schema oneOfEach [] books
  have hzero : (schema.usableFilters oneOfEach).countP (searchesEmpty clearedChoices) = 0 := by
    decide
  exact ⟨hempty, hnone, hzero ▸ hcount, hwhole.mpr hnone⟩

open Sample in
/-- A text filter that is cleared by an empty list searches for a pair of brackets. -/
theorem not_apply_cleared_of_list :
    (∀ p ∈ [("title", Value.list [])], p.2.isEmpty = true) ∧
      (activeCount schema [⟨"title", .text, "", true, none⟩] [("title", .list [])] [] books).outcome =
        .ok 1 ∧
      ∃ sel, (apply schema [⟨"title", .text, "", true, none⟩] [("title", .list [])] []
        books).outcome = .ok sel ∧ sel.records books = [] ∧ books ≠ [] := by
  have hlength : gives ((apply schema [⟨"title", .text, "", true, none⟩] [("title", .list [])] []
      books).outcome.map fun sel => (sel.records books).length) 0 = true := by decide +kernel
  obtain ⟨sel, hsel, hnone⟩ := map_eq_ok.mp (gives_iff.mp hlength)
  exact ⟨by decide, gives_iff.mp (by decide +kernel), sel, hsel, List.length_eq_zero_iff.mp hnone,
    List.cons_ne_nil _ _⟩

end Filter
end Facets
