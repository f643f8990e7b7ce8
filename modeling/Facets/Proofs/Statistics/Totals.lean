import Facets.Page
import Facets.Proofs.Filter.Bounds
import Facets.Proofs.Statistics.Shares
import Mathlib.Algebra.Order.BigOperators.Group.List
import Mathlib.Algebra.Order.Group.Nat
import Mathlib.Algebra.Ring.Nat

/-
Totals, averages, shares and pages that have an answer.

Integers add exactly, but the first double turns the total into a double, and an
average is a quotient of the total.  Both go well while the integers together stay
safe (`Amount.exists_sum`).  Shares of a whole and counts of pages are quotients
of counts, which are far from the end of the doubles.
-/
namespace Facets

open Outcome Number

/-! ## Sums -/

/-- How far an integer is from zero.  Doubles do not count: adding one cannot
fail. -/
def Number.wholeSize : Number → Nat
  | .int n => n.natAbs
  | .float _ => 0

/-- How far a total is from zero while it is an integer. -/
def Amount.wholeSize : Amount → Nat
  | .int n => n.natAbs
  | .float _ => 0

namespace Amount

variable {a : Amount} {n : Number} {ns : List Number}

theorem exists_add (h : a.wholeSize + n.wholeSize < safe) :
    ∃ b, a.add n = .ok b ∧ b.wholeSize ≤ a.wholeSize + n.wholeSize := by
  cases a with
  | int m =>
    cases n with
    | int n => exact ⟨.int (m + n), rfl, Int.natAbs_add_le m n⟩
    | float y =>
      obtain ⟨x, hx⟩ := exists_double (Nat.lt_of_le_of_lt (Nat.le_add_right _ _) h)
      exact ⟨.float (x.add (.finite y)), by rw [add, hx]; rfl, Nat.zero_le _⟩
  | float x =>
    cases n with
    | int n =>
      obtain ⟨y, hy⟩ := exists_double (Nat.lt_of_le_of_lt (Nat.le_add_left _ _) h)
      exact ⟨.float (x.add y), by rw [add, hy]; rfl, Nat.zero_le _⟩
    | float y => exact ⟨.float (x.add (.finite y)), rfl, Nat.zero_le _⟩

theorem exists_foldlM_add (h : a.wholeSize + (ns.map Number.wholeSize).sum < safe) :
    ∃ total, ns.foldlM add a = .ok total ∧ total.wholeSize < safe := by
  -- Each step moves the size of a number from what is left to the total at most.
  induction ns generalizing a with
  | nil => exact ⟨a, rfl, h⟩
  | cons n rest ih =>
    rw [List.map_cons, List.sum_cons, ← Nat.add_assoc] at h
    obtain ⟨b, hb, hsize⟩ := exists_add (Nat.lt_of_le_of_lt (Nat.le_add_right _ _) h)
    obtain ⟨total, htotal, hsafe⟩ := ih (Nat.lt_of_le_of_lt (Nat.add_le_add_right hsize _) h)
    exact ⟨total, by rw [List.foldlM_cons, hb, ok_bind, htotal], hsafe⟩

/-- Integers that together stay safe have a sum with any doubles. -/
theorem exists_sum (h : (ns.map Number.wholeSize).sum < safe) :
    ∃ total, sum ns = .ok total ∧ total.wholeSize < safe := by
  refine exists_foldlM_add ?_
  rwa [wholeSize, Int.natAbs_zero, Nat.zero_add]

theorem exists_average (count : Nat) (h : a.wholeSize < safe) :
    ∃ x, a.average count = .ok x := by
  cases a with
  | int n =>
    obtain ⟨x, hx⟩ := exists_quotient_of_lt_safe count h
    exact ⟨_, hx⟩
  | float x => exact ⟨_, rfl⟩

end Amount

/-! ## Statistics -/

/-- How much a record can add to the integers of a field. -/
def Record.wholeSize (key : String) (r : Record) : Nat :=
  match (r.field key).asNumber with
  | .ok (some n) => n.wholeSize
  | _ => 0

section Collect

variable {key : String} {f : StatisticsFields} {records part : List Record} {ns : List Number}

theorem sum_wholeSize (h : numbersOf key records = .ok ns) :
    (ns.map Number.wholeSize).sum = (records.map (Record.wholeSize key)).sum := by
  obtain ⟨read, hread, hns⟩ := bind_eq_ok.mp h
  obtain rfl := pure_eq_ok.mp hns
  clear h hns
  induction mapM_eq_ok.mp hread with
  | nil => rfl
  | @cons r n records read hn hrest ih =>
    rw [List.map_cons, List.sum_cons, ← ih (mapM_eq_ok.mpr hrest)]
    cases n with
    | none => simp [Record.wholeSize, hn]
    | some n => simp [Record.wholeSize, hn]

namespace Statistics

theorem exists_averageOf {total : Amount} (count : Nat) (h : total.wholeSize < safe) :
    ∃ x, averageOf total count = .ok x := by
  unfold averageOf
  split
  · exact ⟨_, rfl⟩
  · obtain ⟨x, hx⟩ := Amount.exists_average count h
    exact ⟨.float x, by rw [hx]; rfl⟩

/-- The words and years of all records can be read, and the words together stay
safe. -/
structure CanCollect (f : StatisticsFields) (records : List Record) : Prop where
  words : ∀ r ∈ records, ∃ n, (r.field f.words).asNumber = .ok n
  years : ∀ r ∈ records, ∃ n, (r.field f.year).asNumber = .ok n
  safe : (records.map (Record.wholeSize f.words)).sum < safe

theorem CanCollect.sublist (h : CanCollect f records) (hsub : part.Sublist records) :
    CanCollect f part where
  words r hr := h.words r (hsub.subset hr)
  years r hr := h.years r (hsub.subset hr)
  safe := by
    have hle := (hsub.map (Record.wholeSize f.words)).sum_le_sum fun _ _ => Nat.zero_le _
    exact Nat.lt_of_le_of_lt hle h.safe

theorem exists_collect (h : CanCollect f records) : ∃ total, collect f records = .ok total := by
  obtain ⟨words, hwords⟩ := exists_numbersOf h.words
  obtain ⟨years, hyears⟩ := exists_numbersOf h.years
  have hsafe := h.safe
  rw [← sum_wholeSize hwords] at hsafe
  obtain ⟨total, htotal, hsize⟩ := Amount.exists_sum hsafe
  obtain ⟨average, haverage⟩ := exists_averageOf words.length hsize
  exact ⟨_, by simp only [collect, hwords, hyears, htotal, haverage, ok_bind]; rfl⟩

theorem count_of_collect {total : CollectionStatistics} (h : collect f records = .ok total) :
    total.count = records.length := by
  simp only [collect, bind_eq_ok, pure_eq_ok] at h
  obtain ⟨_, _, _, _, _, _, _, _, rfl⟩ := h
  rfl

/-- Statistics have read the words and the year of every record. -/
theorem exists_number_of_collect {total : CollectionStatistics}
    (h : collect f records = .ok total) : ∀ r ∈ records,
    (∃ n, (r.field f.words).asNumber = .ok n) ∧ ∃ n, (r.field f.year).asNumber = .ok n := by
  simp only [collect, bind_eq_ok] at h
  obtain ⟨words, hwords, years, hyears, _⟩ := h
  intro r hr
  obtain ⟨read, hread, _⟩ := bind_eq_ok.mp hwords
  obtain ⟨read', hread', _⟩ := bind_eq_ok.mp hyears
  obtain ⟨n, _, hn⟩ := ok_of_mapM_ok hread r hr
  obtain ⟨n', _, hn'⟩ := ok_of_mapM_ok hread' r hr
  exact ⟨⟨n, hn⟩, ⟨n', hn'⟩⟩

end Statistics
end Collect

/-! ## Shares and pages -/

/-- Part of a whole has a share of it. -/
theorem Statistics.exists_percentage {count total : Nat} (h : count ≤ total) :
    ∃ share, percentage count total = .ok share := by
  rcases Nat.eq_zero_or_pos total with rfl | hpos
  · exact ⟨0, rfl⟩
  · exact ⟨_, percentage_eq h hpos⟩

theorem Page.exists_count {items : Nat} (size : Nat) (h : items < safe) :
    ∃ pages, count items size = .ok pages := by
  obtain ⟨x, hx⟩ := exists_quotient_of_lt_safe (n := items) size h
  exact ⟨x.ceil, by rw [count, hx]; rfl⟩

theorem Page.exists_of {α : Type} {items : List α} {number size : Int} (hsize : 0 < size)
    (h : items.length < safe) : ∃ page, Page.of items number size = .ok page := by
  obtain ⟨pages, hpages⟩ := exists_count size.toNat h
  unfold Page.of
  rw [if_neg (by omega), hpages]
  exact ⟨_, rfl⟩

end Facets
