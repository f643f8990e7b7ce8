import Facets.Page
import Facets.Proofs.Number.Error
import Facets.Proofs.Outcome

/-
Pages of a list.

The count of pages is a quotient that is rounded to a double and then rounded up.  For
lists of up to `2 ^ 53` items that is the exact quotient rounded up (`Page.count_eq_succ`),
unless the pages are so great that the quotient is rounded to zero (`Page.count_eq_zero`).
With the exact count the pages cut the list: nothing is lost and nothing repeated
(`Page.exists_cuts`, `Page.of_cuts`).
-/
namespace Facets
namespace Page

open Outcome Number

/-! ## The count of pages -/

section Count

variable {items size n : Nat}

theorem count_eq (size : Nat) (hitems : items ≤ 2 ^ 53) :
    count items size =
      .ok ⌈(Double.roundUnits (items * unitsInOne) size : ℚ) / unitsInOne⌉ := by
  have hsafe : 2 ^ 53 < safe := by decide +kernel
  have hrange : InRange (items * unitsInOne / size) :=
    (inRange_mul_unitsInOne (hitems.trans_lt hsafe)).of_le (Nat.div_le_self _ _)
  obtain ⟨x, hx, hunits⟩ := exists_quotient_eq hrange
  obtain ⟨y, rfl, hceil⟩ := hunits.exists_ceil
  rw [count, hx, ok_bind]
  exact congrArg Except.ok hceil

/-- A quotient rounded up, by the whole numbers next to it. -/
theorem ceil_eq_succ {a d : Nat} (hd : 0 < d) (hlow : n * d < a) (hhigh : a ≤ (n + 1) * d) :
    ⌈(a : ℚ) / d⌉ = n + 1 := by
  have hd' : (0 : ℚ) < d := Nat.cast_pos.mpr hd
  rw [Int.ceil_eq_iff, lt_div_iff₀ hd', div_le_iff₀ hd']
  push_cast
  rw [add_sub_cancel_right]
  exact ⟨by exact_mod_cast hlow, by exact_mod_cast hhigh⟩

/-- Where the last page begins. -/
theorem exists_last (hitems : 0 < items) (hsize : 0 < size) :
    ∃ n, n * size < items ∧ items ≤ (n + 1) * size := by
  have hbelow := Nat.div_mul_le_self (items - 1) size
  have habove := Nat.lt_div_mul_add (a := items - 1) hsize
  refine ⟨(items - 1) / size, by omega, ?_⟩
  rw [Nat.succ_mul]
  omega

/-- The count is exact unless the quotient is rounded to zero. -/
theorem count_eq_succ (hsize : 0 < size) (hitems : items ≤ 2 ^ 53)
    (hzero : size < 2 * (items * unitsInOne)) (hlow : n * size < items)
    (hhigh : items ≤ (n + 1) * size) : count items size = .ok (n + 1) := by
  have hbits : n + 1 ≤ 2 ^ 53 := by
    have hn : n ≤ n * size := Nat.le_mul_of_pos_right n hsize
    omega
  have hexact : items * unitsInOne ≤ (n + 1) * unitsInOne * size := by
    rw [Nat.mul_right_comm]
    exact Nat.mul_le_mul_right unitsInOne hhigh
  have hlow' := Double.lt_roundUnits_of_lt hsize hitems hlow hzero
  have hhigh' := Double.roundUnits_le_whole hsize hbits hexact
  rw [count_eq size hitems, ceil_eq_succ unitsInOne_pos hlow' hhigh']

theorem count_eq_zero (hsize : 0 < size) (hitems : items ≤ 2 ^ 53)
    (hzero : 2 * (items * unitsInOne) ≤ size) : count items size = .ok 0 := by
  rw [count_eq size hitems, (Double.roundUnits_eq_zero_iff hsize).mpr hzero, Nat.cast_zero,
    zero_div, Int.ceil_zero]

end Count

/-! ## Cutting a list -/

section Cut

variable {α : Type} {items : List α} {number total : Int} {size n : Nat}

/-- The items at the places of one page. -/
def slice (items : List α) (size i : Nat) : List α := (items.drop (i * size)).take size

/-- Pages of a list, numbered from zero, that hold each item once. -/
structure Cuts (items : List α) (size : Int) (pages : List (Page α)) : Prop where
  numbered : (List.range pages.length).mapM (fun i : Nat => Page.of items i size) = .ok pages
  count : (pages.length : Int) = ⌈(items.length : ℚ) / size⌉
  concat : pages.flatMap Page.items = items
  full : ∀ page ∈ pages.dropLast, (page.items.length : Int) = size
  last : ∀ page ∈ pages.getLast?, page.items ≠ []

theorem flatMap_slice (items : List α) (size n : Nat) :
    (List.range n).flatMap (slice items size) = items.take (n * size) := by
  induction n with
  | zero => simp
  | succ n ih =>
    rw [List.range_succ, List.flatMap_append, ih, List.flatMap_singleton, slice, Nat.succ_mul,
      List.take_add]

theorem of_eq (hsize : 0 < size) (hcount : count items.length size = .ok total) (number : Int) :
    Page.of items number size = .ok
      ⟨slice items size (max 0 (min number (total - 1))).toNat, total,
        max 0 (min number (total - 1)), items.length⟩ := by
  obtain ⟨current, hcurrent⟩ := Int.eq_ofNat_of_zero_le (le_max_left 0 (min number (total - 1)))
  rw [Page.of, if_neg (by omega), Int.toNat_natCast, hcount, ok_bind]
  simp only [hcurrent, slice, Int.toNat_natCast, ← Int.natCast_mul]
  rfl

theorem length_slice (items : List α) (size i : Nat) :
    (slice items size i).length = min size (items.length - i * size) := by
  rw [slice, List.length_take, List.length_drop]

theorem cuts_nil (size : Int) : Cuts ([] : List α) size [] :=
  ⟨rfl, by simp, rfl, by simp, by simp⟩

/-- With the exact count the pages cut the list. -/
theorem exists_cuts (hsize : 0 < size) (hcount : count items.length size = .ok (n + 1))
    (hlow : n * size < items.length) (hhigh : items.length ≤ (n + 1) * size) :
    ∃ pages, Cuts items size pages := by
  let page (i : Nat) : Page α := ⟨slice items size i, n + 1, i, items.length⟩
  have hlength : ((List.range (n + 1)).map page).length = n + 1 := by simp
  have hpages : (List.range (n + 1)).map page = (List.range n).map page ++ [page n] := by
    rw [List.range_succ, List.map_append, List.map_singleton]
  refine ⟨(List.range (n + 1)).map page, ?_, ?_, ?_, ?_, ?_⟩
  · rw [hlength, mapM_eq_ok, List.forall₂_map_right_iff, List.forall₂_same]
    intro i hi
    have hi : i < n + 1 := List.mem_range.mp hi
    have hcurrent : max 0 (min (i : Int) (n + 1 - 1)) = i := by omega
    rw [of_eq hsize hcount, hcurrent, Int.toNat_natCast]
  · rw [hlength, Int.cast_natCast, ceil_eq_succ hsize hlow hhigh, Nat.cast_succ]
  · rw [List.flatMap_map]
    exact (flatMap_slice items size (n + 1)).trans (List.take_of_length_le hhigh)
  · intro p hp
    rw [hpages, List.dropLast_concat] at hp
    obtain ⟨i, hi, rfl⟩ := List.mem_map.mp hp
    have hnext : (i + 1) * size ≤ n * size := Nat.mul_le_mul_right size (List.mem_range.mp hi)
    rw [Nat.succ_mul] at hnext
    show ((slice items size i).length : Int) = size
    rw [length_slice]
    omega
  · intro p hp
    rw [hpages, List.getLast?_concat, Option.mem_some_iff] at hp
    rw [← hp, ← List.length_pos_iff]
    show 0 < (slice items size n).length
    rw [length_slice]
    omega

end Cut

/-! ## Pages -/

variable {α : Type} {items : List α} {size : Int}

/-- The list fills at most the part `2 ^ -1075` of a page. -/
def Dwarfs (size : Int) (items : List α) : Prop :=
  items ≠ [] ∧ (items.length : Int) * 2 ^ 1075 ≤ size

theorem dwarfs_iff {size : Nat} :
    Dwarfs (size : Int) items ↔ items ≠ [] ∧ 2 * (items.length * unitsInOne) ≤ size := by
  have hpow : ((2 * unitsInOne : Nat) : Int) = 2 ^ 1075 := by decide +kernel
  rw [Dwarfs, ← hpow, ← Int.natCast_mul, Int.ofNat_le, Nat.mul_left_comm]

/-- With a count of pages, a number stands for the page with the number clamped to the
pages. -/
theorem of_clamp {size : Nat} {total : Int} (hsize : 0 < size)
    (hcount : count items.length size = .ok total) (number : Int) :
    ∃ page, Page.of items number size = .ok page ∧ page.totalPages = total ∧
      page.totalItems = items.length ∧
      Page.of items (max 0 (min number (max 0 (total - 1)))) size = .ok page := by
  have hclamp : max 0 (min (max 0 (min number (max 0 (total - 1)))) (total - 1)) =
      max 0 (min number (total - 1)) := by omega
  refine ⟨_, of_eq hsize hcount number, rfl, rfl, ?_⟩
  rw [of_eq hsize hcount, hclamp]

/-- Every number stands for a page.  The pages cut the list, unless one of them dwarfs
it; then there is a page with the whole list, but no pages are counted. -/
theorem of_cuts (hsize : 0 < size) (hlength : items.length ≤ 2 ^ 53) :
    ∃ total : Int,
      (∀ number, ∃ page, Page.of items number size = .ok page ∧ page.totalPages = total ∧
        page.totalItems = items.length ∧
        Page.of items (max 0 (min number (max 0 (total - 1)))) size = .ok page) ∧
      (¬ Dwarfs size items → total = ⌈(items.length : ℚ) / size⌉ ∧
        ∃ pages, Cuts items size pages) ∧
      (Dwarfs size items → total = 0 ∧
        ∀ number, ∃ page, Page.of items number size = .ok page ∧ page.items = items) := by
  obtain ⟨size, rfl⟩ := Int.eq_ofNat_of_zero_le hsize.le
  rw [Int.natCast_pos] at hsize
  by_cases hne : items = []
  · subst hne
    have hcount : count 0 size = .ok 0 := count_eq_zero hsize (Nat.zero_le _) (by omega)
    have hceil : (0 : Int) = ⌈(([] : List α).length : ℚ) / (size : Int)⌉ := by simp
    exact ⟨0, of_clamp hsize hcount, fun _ => ⟨hceil, [], cuts_nil size⟩,
      fun hdwarfs => absurd rfl hdwarfs.1⟩
  · rw [dwarfs_iff, and_iff_right hne]
    rcases Nat.lt_or_ge size (2 * (items.length * unitsInOne)) with hzero | hzero
    · obtain ⟨n, hlow, hhigh⟩ := exists_last (List.length_pos_iff.mpr hne) hsize
      have hcount := count_eq_succ hsize hlength hzero hlow hhigh
      refine ⟨n + 1, of_clamp hsize hcount, fun _ => ⟨?_, ?_⟩, ?_⟩
      · rw [Int.cast_natCast, ceil_eq_succ hsize hlow hhigh]
      · exact exists_cuts hsize hcount hlow hhigh
      · intro hdwarfs
        exact absurd hdwarfs hzero.not_ge
    · have hcount := count_eq_zero hsize hlength hzero
      refine ⟨0, of_clamp hsize hcount, fun hnot => absurd hzero hnot, ?_⟩
      refine fun _ => ⟨rfl, fun number => ⟨_, of_eq hsize hcount number, ?_⟩⟩
      have hfirst : max 0 (min number (0 - 1)) = 0 := by omega
      have hfits : items.length ≤ size := by
        have hpos := unitsInOne_pos
        have hle : items.length ≤ items.length * unitsInOne := Nat.le_mul_of_pos_right _ hpos
        omega
      show slice items size (max 0 (min number (0 - 1))).toNat = items
      rw [hfirst, slice, Int.toNat_zero, Nat.zero_mul, List.drop_zero,
        List.take_of_length_le hfits]

/-- Three items make two pages of two. -/
theorem of_cuts_three :
    (0 : Int) < 2 ∧ [7, 8, 9].length ≤ 2 ^ 53 ∧ ¬ Dwarfs 2 [7, 8, 9] ∧
      ∃ pages, Cuts [7, 8, 9] 2 pages := by
  have hsize : (0 : Int) < 2 := by decide
  have hlength : [7, 8, 9].length ≤ 2 ^ 53 := by decide
  have hdwarfs : ¬ Dwarfs 2 [7, 8, 9] := by
    have hpow : ¬ 3 * 2 ^ 1075 ≤ (2 : Int) := by decide +kernel
    exact fun h => hpow h.2
  obtain ⟨_, _, hcuts, _⟩ := of_cuts hsize hlength
  exact ⟨hsize, hlength, hdwarfs, (hcuts hdwarfs).2⟩

/-- One item on a page that dwarfs it is on no page that counts. -/
theorem not_totalPages_eq_ceil_of_dwarfs :
    ¬ ∀ (items : List Nat) (size : Int), 0 < size → ∃ page, Page.of items 0 size = .ok page ∧
      page.totalPages = ⌈(items.length : ℚ) / size⌉ := by
  intro hceil
  let size : Nat := Nat.pow 10 400
  have hsize : 0 < size := by decide +kernel
  have hzero : 2 * ([7].length * unitsInOne) ≤ size := by decide +kernel
  have hone : [7].length ≤ (0 + 1) * size := by
    rw [Nat.zero_add, Nat.one_mul]
    exact hsize
  obtain ⟨page, hpage, htotal⟩ := hceil [7] size (Int.natCast_pos.mpr hsize)
  have hcount : count [7].length size = .ok 0 := count_eq_zero hsize (by decide) hzero
  rw [of_eq hsize hcount, Except.ok.injEq] at hpage
  rw [← hpage, Int.cast_natCast, ceil_eq_succ hsize (by simp) hone] at htotal
  exact absurd htotal (by decide)

end Page
end Facets
