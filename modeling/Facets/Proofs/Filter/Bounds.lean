import Facets.Proofs.Outcome
import Facets.Filter.Bounds

/-
The data bounds of part of a collection.

The numbers of part of a collection are among those of the collection, so its
bounds lie within the bounds of the collection (`fieldRange_subset`), and a range
that spans the data of the collection spans the data of the part
(`Range.narrows_of_encloses`).  Neither the order of the records nor how often one
occurs plays a part.
-/
namespace Facets

open Outcome

/-! ## Least and greatest items -/

section Folds

variable {α : Type} (rank : α → Int) (a : α) (rest : List α)

/-- Only an item of lesser rank displaces the one that was found so far. -/
theorem foldl_eq_minOn :
    rest.foldl (fun low b => if rank b < rank low then b else low) a =
      (a :: rest).minOn rank (List.cons_ne_nil a rest) := by
  have hstep : (fun low b : α => if rank b < rank low then b else low) = minOn rank := by
    funext low b
    simp only [minOn_eq_if, ← Int.not_lt, ite_not]
  exact congrArg (List.foldl · a rest) hstep

theorem foldl_eq_maxOn :
    rest.foldl (fun high b => if rank high < rank b then b else high) a =
      (a :: rest).maxOn rank (List.cons_ne_nil a rest) := by
  have hstep : (fun high b : α => if rank high < rank b then b else high) = maxOn rank := by
    funext high b
    simp only [maxOn_eq_if, ← Int.not_lt, ite_not]
  exact congrArg (List.foldl · a rest) hstep

end Folds

namespace Number

/-- A later number displaces the least one only when it is smaller. -/
theorem least_eq_minOn (n : Number) (rest : List Number) :
    least n rest = (n :: rest).minOn scaled (List.cons_ne_nil n rest) := by
  simp only [least, below, decide_eq_true_eq]
  exact foldl_eq_minOn scaled n rest

theorem greatest_eq_maxOn (n : Number) (rest : List Number) :
    greatest n rest = (n :: rest).maxOn scaled (List.cons_ne_nil n rest) := by
  simp only [greatest, below, decide_eq_true_eq]
  exact foldl_eq_maxOn scaled n rest

end Number

/-- Some record has a number in the field. -/
def HasNumbers (key : String) (records : List Record) : Prop :=
  ∃ r ∈ records, ∃ n, (r.field key).asNumber = .ok (some n)

/-- Data bounds lie within others.  No data lies within any bounds. -/
def Encloses (outer inner : Option (Number × Number)) : Prop :=
  ∀ d' ∈ inner, ∃ d ∈ outer, d.1.scaled ≤ d'.1.scaled ∧ d'.2.scaled ≤ d.2.scaled

/-! ## Bounds of the data -/

section Data

variable {key : String} {records part : List Record} {ns : List Number}
  {data : Option (Number × Number)}

/-- The numbers of part of a collection are numbers of the collection. -/
theorem numbersOf_subset (hpart : part ⊆ records) (h : numbersOf key records = .ok ns) :
    ∃ ns', numbersOf key part = .ok ns' ∧ ns' ⊆ ns := by
  obtain ⟨read, hread, h⟩ := bind_eq_ok.mp h
  obtain rfl := pure_eq_ok.mp h
  obtain ⟨read', hread', hsub⟩ := mapM_subset hpart hread
  exact ⟨_, bind_eq_ok.mpr ⟨read', hread', rfl⟩, List.filterMap_subset id hsub⟩

theorem exists_numbersOf (h : ∀ r ∈ records, ∃ n, (r.field key).asNumber = .ok n) :
    ∃ ns, numbersOf key records = .ok ns := by
  obtain ⟨read, hread⟩ := exists_mapM_ok h
  exact ⟨read.filterMap id, bind_eq_ok.mpr ⟨read, hread, rfl⟩⟩

def boundsOf (ns : List Number) : Option (Number × Number) :=
  if h : ns = [] then none else some (ns.minOn Number.scaled h, ns.maxOn Number.scaled h)

theorem foldl_widen (low high : Number) (rest : List Number) :
    rest.foldl widen (some (low, high)) = some (low.least rest, high.greatest rest) := by
  induction rest generalizing low high with
  | nil => rfl
  | cons n rest ih => exact ih _ _

/-- Widening bounds by every number in turn comes to the least and the greatest number. -/
theorem foldl_widen_none (ns : List Number) : ns.foldl widen none = boundsOf ns := by
  cases ns with
  | nil => rfl
  | cons n rest =>
    rw [List.foldl_cons, widen, foldl_widen, Number.least_eq_minOn, Number.greatest_eq_maxOn]
    rfl

/-- One pass over the records comes to the bounds of the numbers that they have. -/
theorem fieldRange_eq_boundsOf (key : String) (records : List Record) :
    fieldRange key records = numbersOf key records >>= fun ns => pure (boundsOf ns) := by
  -- The pass may start from any bounds.
  suffices hpass : ∀ start : Option (Number × Number),
      (records.foldlM (fun data r => do
        let n ← (r.field key).asNumber
        pure (n.elim data (widen data))) start) =
      numbersOf key records >>= fun ns => pure (ns.foldl widen start) by
    rw [fieldRange, hpass]
    simp only [foldl_widen_none]
  induction records with
  | nil => exact fun _ => rfl
  | cons r records ih =>
    intro start
    simp only [List.foldlM_cons, numbersOf, List.mapM_cons, bind_assoc, pure_bind, ih]
    refine congrArg _ (funext fun read => ?_)
    cases read <;> rfl

theorem fieldRange_eq_ok :
    fieldRange key records = .ok data ↔
      ∃ ns, numbersOf key records = .ok ns ∧ boundsOf ns = data := by
  simp only [fieldRange_eq_boundsOf, bind_eq_ok, pure_eq_ok]

theorem exists_fieldRange_ok (h : ∀ r ∈ records, ∃ n, (r.field key).asNumber = .ok n) :
    ∃ data, fieldRange key records = .ok data := by
  obtain ⟨ns, hns⟩ := exists_numbersOf h
  exact ⟨boundsOf ns, fieldRange_eq_ok.mpr ⟨ns, hns, rfl⟩⟩

theorem encloses_boundsOf {ns' : List Number} (hsub : ns' ⊆ ns) :
    Encloses (boundsOf ns) (boundsOf ns') := by
  intro d' hd'
  by_cases h' : ns' = []
  · simp [boundsOf, h'] at hd'
  have h : ns ≠ [] := fun h => h' (List.subset_nil.mp (h ▸ hsub))
  rw [boundsOf, dif_neg h', Option.mem_some] at hd'
  rw [boundsOf, dif_neg h, ← hd']
  refine ⟨_, rfl, ?_⟩
  exact ⟨List.apply_minOn_le_apply_minOn_of_subset hsub h',
    List.apply_maxOn_le_apply_maxOn_of_subset hsub h'⟩

theorem fieldRange_subset (hpart : part ⊆ records) (h : fieldRange key records = .ok data) :
    ∃ data', fieldRange key part = .ok data' ∧ Encloses data data' := by
  obtain ⟨ns, hns, rfl⟩ := fieldRange_eq_ok.mp h
  obtain ⟨ns', hns', hsub⟩ := numbersOf_subset hpart hns
  exact ⟨boundsOf ns', fieldRange_eq_ok.mpr ⟨ns', hns', rfl⟩, encloses_boundsOf hsub⟩

theorem mem_numbersOf (h : numbersOf key records = .ok ns) {n : Number} :
    n ∈ ns ↔ ∃ r ∈ records, (r.field key).asNumber = .ok (some n) := by
  obtain ⟨read, hread, h⟩ := bind_eq_ok.mp h
  obtain rfl := pure_eq_ok.mp h
  rw [List.mem_filterMap]
  constructor
  · rintro ⟨n', hn', rfl⟩
    exact mem_of_mapM_ok hread _ hn'
  · rintro ⟨r, hr, hn⟩
    obtain ⟨n', hn', hr'⟩ := ok_of_mapM_ok hread r hr
    exact ⟨n', hn', Except.ok.inj (hr'.symm.trans hn)⟩

/-- A field has data bounds when some record has a number in it. -/
theorem isSome_fieldRange (h : fieldRange key records = .ok data) :
    data.isSome = true ↔ HasNumbers key records := by
  obtain ⟨ns, hns, rfl⟩ := fieldRange_eq_ok.mp h
  have hsome : (boundsOf ns).isSome = true ↔ ns ≠ [] := by
    unfold boundsOf
    split
    · next hnil => simp [hnil]
    · next hne => simp [hne]
  rw [hsome]
  constructor
  · intro hne
    obtain ⟨n, hn⟩ := List.exists_mem_of_ne_nil ns hne
    obtain ⟨r, hr, hn⟩ := (mem_numbersOf hns).mp hn
    exact ⟨r, hr, n, hn⟩
  · rintro ⟨r, hr, n, hn⟩
    exact List.ne_nil_of_mem ((mem_numbersOf hns).mpr ⟨r, hr, hn⟩)

end Data

/-! ## Chosen bounds -/

namespace Amount

theorem atMost_mono {a : Amount} {m n : Number} (hmn : m.scaled ≤ n.scaled)
    (h : a.atMost (ofNumber m) = true) : a.atMost (ofNumber n) = true := by
  rw [atMost, place?_ofNumber] at h ⊢
  generalize a.place? = p at h ⊢
  match p with
  | none => exact h
  | some .bottom => rfl
  | some .top => exact h
  | some (.at k) =>
    simp only [Place.below, Bool.not_eq_true', decide_eq_false_iff_not] at h ⊢
    omega

theorem atMost_anti {a : Amount} {m n : Number} (hmn : m.scaled ≤ n.scaled)
    (h : (ofNumber n).atMost a = true) : (ofNumber m).atMost a = true := by
  rw [atMost, place?_ofNumber] at h ⊢
  generalize a.place? = p at h ⊢
  match p with
  | none => exact h
  | some .bottom => exact h
  | some .top => rfl
  | some (.at k) =>
    simp only [Place.below, Bool.not_eq_true', decide_eq_false_iff_not] at h ⊢
    omega

end Amount

namespace Range

/-- A range that spans bounds spans everything within them. -/
theorem covers_mono {r : Range} {low low' high high' : Number} (hlow : low.scaled ≤ low'.scaled)
    (hhigh : high'.scaled ≤ high.scaled) (h : r.covers (.ofNumber low) (.ofNumber high) = true) :
    r.covers (.ofNumber low') (.ofNumber high') = true := by
  rw [covers, Bool.and_eq_true, Option.all_eq_true, Option.all_eq_true] at h ⊢
  obtain ⟨hmin, hmax⟩ := h
  exact ⟨fun a ha => Amount.atMost_mono hlow (hmin a ha),
    fun a ha => Amount.atMost_anti hhigh (hmax a ha)⟩

/-- The range leaves out some of the data. -/
def narrows (r : Range) (data : Option (Number × Number)) : Bool :=
  data.any fun d => !r.covers (.ofNumber d.1) (.ofNumber d.2)

/-- A range that narrows part of a collection narrows the collection. -/
theorem narrows_of_encloses {r : Range} {data data' : Option (Number × Number)}
    (hencloses : Encloses data data') (h : r.narrows data' = true) : r.narrows data = true := by
  rw [narrows, Option.any_eq_true] at h ⊢
  obtain ⟨d', hd', hnot⟩ := h
  obtain ⟨d, hd, hlow, hhigh⟩ := hencloses d' hd'
  refine ⟨d, hd, ?_⟩
  rw [Bool.not_eq_true', Bool.eq_false_iff] at hnot ⊢
  exact fun hcovers => hnot (covers_mono hlow hhigh hcovers)

end Range

end Facets
