import Facets.Proofs.Calendar.Dates
import Facets.Proofs.Group.Members
import Mathlib.Data.Set.List

/-
The order of months.

Grouping by month sorts the texts of the months, the greatest first
(`Group.exists_ofYearMonths`).  A text shows the year without zeros before it, so texts
are in the order of time only among years with equally many digits
(`YearMonth.before_of_name_lt`): from the year 1000 on the newest month comes first
(`Group.byMonth_newestFirst`).
-/
namespace Facets

open Text Calendar

namespace Text

variable {s t u v : List Char}

theorem append_lt_append (hlen : s.length = t.length) (h : s ++ u < t ++ v) :
    s < t ∨ s = t ∧ u < v := by
  induction s generalizing t with
  | nil =>
    obtain rfl := List.eq_nil_of_length_eq_zero hlen.symm
    exact .inr ⟨rfl, h⟩
  | cons c s ih =>
    obtain ⟨d, t, rfl⟩ := List.exists_cons_of_length_eq_add_one hlen.symm
    rw [List.cons_append, List.cons_append, List.cons_lt_cons_iff] at h
    rw [List.cons_lt_cons_iff, List.cons.injEq]
    rcases h with hcd | ⟨rfl, h⟩
    · exact .inl (.inl hcd)
    · rcases ih (Nat.succ.inj hlen) h with hlt | ⟨rfl, huv⟩
      · exact .inl (.inr ⟨rfl, hlt⟩)
      · exact .inr ⟨⟨rfl, rfl⟩, huv⟩

end Text

/-! ## Months -/

/-- A month of a year. -/
structure YearMonth where
  year : Nat
  month : Nat
  deriving DecidableEq

namespace YearMonth

variable {p q : YearMonth}

/-- The month that a clock shows. -/
def of (m : Moment) : YearMonth := ⟨m.clock.date.year, m.clock.date.month⟩

/-- The text of a month, which is the key of its group. -/
def name (p : YearMonth) : String :=
  String.ofList (decimal p.year ++ '-' :: padded 2 p.month)

def digits (p : YearMonth) : Nat := (decimal p.year).length

/-- The order of time. -/
def Before (p q : YearMonth) : Prop := p.year < q.year ∨ p.year = q.year ∧ p.month < q.month

instance (p q : YearMonth) : Decidable (p.Before q) := inferInstanceAs (Decidable (_ ∨ _))

/-- The record has a date in the month. -/
def has (key : String) (p : YearMonth) (r : Record) : Bool :=
  (r.field key).asMoment.any fun m => of m == p

theorem has_iff {key : String} {r : Record} :
    p.has key r = true ↔ ∃ m, (r.field key).asMoment = some m ∧ of m = p := by
  unfold has
  cases (r.field key).asMoment <;> simp

theorem monthText_eq (m : Moment) : Group.monthText m = (of m).name := rfl

theorem name_injective : Function.Injective name := by
  intro p q h
  -- The dash is no digit, so both texts are parted at the same place.
  have hyear : '-' ∉ decimal p.year := fun hmem => absurd (digits_decimal _ _ hmem) (by decide)
  have hmonth : '-' ∉ padded 2 p.month := fun hmem => absurd (digits_padded _ _ _ hmem) (by decide)
  obtain ⟨hyear, -, hmonth⟩ :=
    (List.append_cons_inj_of_notMem hyear hmonth).mp (String.ofList_injective h)
  have hyear := congrArg ofDecimal hyear
  have hmonth := congrArg ofDecimal hmonth
  rw [ofDecimal_decimal, ofDecimal_decimal] at hyear
  rw [ofDecimal_padded, ofDecimal_padded] at hmonth
  cases p
  cases q
  exact congrArg₂ YearMonth.mk hyear hmonth

/-- Among years with equally many digits the texts are in the order of time. -/
theorem before_of_name_lt (hdigits : p.digits = q.digits) (hp : p.month < 100)
    (hq : q.month < 100) (h : p.name < q.name) : p.Before q := by
  have hchars : p.name.toList < q.name.toList := h
  rw [name, name, String.toList_ofList, String.toList_ofList] at hchars
  have hlen : (padded 2 p.month).length = (padded 2 q.month).length := by
    rw [length_padded Nat.two_pos hp, length_padded Nat.two_pos hq]
  rcases append_lt_append hdigits hchars with hyear | ⟨hyear, hrest⟩
  · have hlt := ofDecimal_lt_of_lt hdigits (digits_decimal _) hyear
    rw [ofDecimal_decimal, ofDecimal_decimal] at hlt
    exact .inl hlt
  · have heq := congrArg ofDecimal hyear
    rw [ofDecimal_decimal, ofDecimal_decimal] at heq
    rw [List.cons_lt_cons_iff] at hrest
    obtain ⟨-, hmonth⟩ := hrest.resolve_left (Char.lt_irrefl _)
    have hlt := ofDecimal_lt_of_lt hlen (digits_padded 2 _) hmonth
    rw [ofDecimal_padded, ofDecimal_padded] at hlt
    exact .inr ⟨heq, hlt⟩

theorem digits_eq_four (hlow : 1000 ≤ p.year) (hhigh : p.year < 10 ^ 4) : p.digits = 4 := by
  have hle : p.digits ≤ 4 := (Nat.length_toDigits_le_iff (by decide) (by decide)).mpr hhigh
  have hnot : ¬ p.digits ≤ 3 := by
    intro hthree
    have hlt := (Nat.length_toDigits_le_iff (by decide) (by decide)).mp hthree
    omega
  omega

end YearMonth

/-! ## Groups by month -/

/-- The group of a month. -/
def Group.ofYearMonth (key : String) (records : List Record) (p : YearMonth) :
    Value × List Record :=
  (.text p.name, records.filter (p.has key))

/-- Groups by month are the groups of these months, the greatest text first, and the
records without a value. -/
structure Groups.OfYearMonths (key : String) (groups : Groups) (records : List Record)
    (months : List YearMonth) : Prop where
  groups_eq : groups = months.map (Group.ofYearMonth key records) ++
    if records.filter (fun r => !r.hasField key) = [] then []
    else [(.null, records.filter fun r => !r.hasField key)]
  keys_eq : groups.keys = months.map fun p => .text p.name
  occurs : ∀ p, p ∈ months ↔ ∃ r ∈ records, p.has key r = true
  sorted : months.Pairwise fun p q => q.name < p.name

namespace Group

open YearMonth

variable {key : String} {records : List Record} {groups : Groups}

/-- The groups of the records with a date are groups of months. -/
theorem exists_map_ofYearMonth
    (h : Groups.ByKey (monthOf key) groups
      (records.filter fun r => (r.field key).asMoment.isSome)) :
    ∃ months : List YearMonth, groups = months.map (ofYearMonth key records) := by
  have hgroups : ∀ g ∈ groups, ∃ p, ofYearMonth key records p = g := by
    intro g hg
    obtain ⟨first, rest, -, hfirst, -⟩ := h.keyed g hg
    obtain ⟨m, -, hmonth⟩ := monthOf_eq_ok.mp hfirst
    refine ⟨of m, Prod.ext hmonth ?_⟩
    rw [h.members_eq hg, ← hmonth, List.filter_filter]
    refine List.filter_congr fun r _ => ?_
    rw [isAt_monthOf, has]
    congr 1
    funext m'
    rw [Bool.eq_iff_iff, beq_iff_eq, beq_iff_eq, monthText_eq, monthText_eq]
    exact name_injective.eq_iff.symm
  have hrange : groups ∈ Set.range (List.map (ofYearMonth key records)) := by
    rw [Set.range_list_map]
    exact hgroups
  obtain ⟨months, hmonths⟩ := hrange
  exact ⟨months, hmonths.symm⟩

theorem mergeSort_ofYearMonth (months : List YearMonth) :
    (months.map (ofYearMonth key records)).mergeSort monthNotBefore =
      (months.mergeSort fun p q => q.name ≤ p.name).map (ofYearMonth key records) := by
  refine (List.map_mergeSort fun p _ q _ => ?_).symm
  rfl

theorem pairwise_name_lt {months : List YearMonth} (h : months.Nodup) :
    (months.mergeSort fun p q => q.name ≤ p.name).Pairwise fun p q => q.name < p.name := by
  have hsorted : (months.mergeSort fun p q => q.name ≤ p.name).Pairwise
      fun p q => decide (q.name ≤ p.name) = true := by
    refine List.pairwise_mergeSort (fun p q r hpq hqr => ?_) (fun p q => ?_) months
    · rw [decide_eq_true_eq] at hpq hqr ⊢
      exact String.le_trans hqr hpq
    · rw [Bool.or_eq_true, decide_eq_true_eq, decide_eq_true_eq]
      exact String.le_total q.name p.name
  have hnodup := (List.mergeSort_perm months fun p q => decide (q.name ≤ p.name)).nodup_iff.mpr h
  refine (hsorted.and hnodup).imp fun {p q} ⟨hle, hne⟩ => ?_
  by_contra hlt
  exact hne (name_injective (String.le_antisymm hlt (of_decide_eq_true hle)))

/-- The months of groups are the months in which records have a date. -/
theorem mem_ofYearMonth_iff {months : List YearMonth} {p : YearMonth}
    (h : Groups.ByKey (monthOf key) (months.map (ofYearMonth key records))
      (records.filter fun r => (r.field key).asMoment.isSome)) :
    p ∈ months ↔ ∃ r ∈ records, p.has key r = true := by
  constructor
  · intro hp
    have hne := h.partition.nonempty (records.filter (p.has key)) (List.mem_map.mpr
      ⟨ofYearMonth key records p, List.mem_map_of_mem hp, rfl⟩)
    obtain ⟨r, hr⟩ := List.exists_mem_of_ne_nil _ hne
    exact ⟨r, List.mem_filter.mp hr⟩
  · rintro ⟨r, hr, hhas⟩
    obtain ⟨m, hm, rfl⟩ := has_iff.mp hhas
    obtain ⟨g, hg, hmem⟩ := h.exists_group (List.mem_filter.mpr ⟨hr, by rw [hm]; rfl⟩)
    obtain ⟨q, hq, rfl⟩ := List.mem_map.mp hg
    obtain ⟨m', hm', rfl⟩ := has_iff.mp (List.mem_filter.mp hmem).2
    rwa [Option.some.inj (hm.symm.trans hm')]

/-- The null key is not counted among the keys. -/
theorem keys_ofYearMonths (months : List YearMonth) (undated : List Record) :
    Groups.keys (months.map (ofYearMonth key records) ++
        if undated = [] then [] else [(.null, undated)]) =
      months.map fun p => .text p.name := by
  induction months with
  | nil => split <;> rfl
  | cons p months ih => exact congrArg (.text p.name :: ·) ih

theorem exists_ofYearMonths (key : String) (records : List Record) :
    ∃ months, Groups.OfYearMonths key (byMonth key records) records months := by
  obtain ⟨groups, hbyKey, heq⟩ := exists_months key records
  obtain ⟨months, rfl⟩ := exists_map_ofYearMonth hbyKey
  have hnodup : months.Nodup := by
    refine (List.pairwise_map.mp (List.pairwise_map.mp hbyKey.apart)).imp fun {p q} happart => ?_
    rintro rfl
    rw [Value.same_refl] at happart
    cases happart
  rw [mergeSort_ofYearMonth] at heq
  refine ⟨_, heq, ?_, fun p => ?_, pairwise_name_lt hnodup⟩
  · rw [heq, keys_ofYearMonths]
  · rw [List.mem_mergeSort, mem_ofYearMonth_iff hbyKey]

/-- The months of records in the order of their groups: among years with equally many
digits, and so from the year 1000 on, the newest comes first. -/
theorem byMonth_newestFirst (key : String) (records : List Record) :
    ∃ months, Groups.OfYearMonths key (byMonth key records) records months ∧
      months.Pairwise (fun p q => p.digits = q.digits → q.Before p) ∧
      ((∀ p ∈ months, 1000 ≤ p.year) → months.Pairwise fun p q => q.Before p) := by
  obtain ⟨months, h⟩ := exists_ofYearMonths key records
  have hvalid : ∀ p ∈ months, p.month < 100 ∧ p.year < 10 ^ 4 := by
    intro p hp
    obtain ⟨r, -, hhas⟩ := (h.occurs p).mp hp
    obtain ⟨m, -, rfl⟩ := has_iff.mp hhas
    exact ⟨(Date.month_le m.clock.date).trans_lt (by decide),
      m.clock.date.isDate.2.1.trans_lt (by decide)⟩
  have hsame : months.Pairwise fun p q => p.digits = q.digits → q.Before p := by
    refine h.sorted.imp_of_mem fun {p q} hp hq hlt hdigits => ?_
    exact before_of_name_lt hdigits.symm (hvalid q hq).1 (hvalid p hp).1 hlt
  refine ⟨months, h, hsame, fun hyears => ?_⟩
  refine hsame.imp_of_mem fun {p q} hp hq hbefore => hbefore ?_
  rw [digits_eq_four (hyears p hp) (hvalid p hp).2, digits_eq_four (hyears q hq) (hvalid q hq).2]

end Group

namespace Sample

def onDay (serial : Nat) (day : String) : Record :=
  ⟨serial, toString serial, "", .ofEntries [("date", .text day)]⟩

/-- A date of the tenth century and one of this century. -/
def centuries : List Record := [onDay 0 "0987-06-05", onDay 1 "2020-01-01"]

end Sample

namespace Group

open YearMonth Sample

/-- The text of a month in the year 987 comes before that of one in the year 2020, as the
greater text. -/
theorem not_byMonth_newestFirst_of_early :
    ¬ ∀ (key : String) (records : List Record), ∃ months : List YearMonth,
      (byMonth key records).keys = months.map (fun p => .text p.name) ∧
        months.Pairwise fun p q => q.Before p := by
  intro hnewest
  obtain ⟨months, hkeys, hbefore⟩ := hnewest "date" centuries
  obtain ⟨months', h⟩ := exists_ofYearMonths "date" centuries
  have hinjective : Function.Injective fun p : YearMonth => Value.text p.name :=
    fun p q heq => name_injective (Value.text.inj heq)
  obtain rfl : months = months' :=
    List.map_injective_iff.mpr hinjective (hkeys.symm.trans h.keys_eq)
  have hold : ⟨987, 6⟩ ∈ months := (h.occurs _).mpr (by decide +kernel)
  have hnew : ⟨2020, 1⟩ ∈ months := (h.occurs _).mpr (by decide +kernel)
  obtain ⟨i, hi, hold⟩ := List.getElem_of_mem hold
  obtain ⟨j, hj, hnew⟩ := List.getElem_of_mem hnew
  rcases Nat.lt_trichotomy i j with hij | rfl | hij
  · -- The newer month comes later.
    have hlater := List.pairwise_iff_getElem.mp hbefore i j hi hj hij
    rw [hold, hnew] at hlater
    exact absurd hlater (by decide)
  · rw [hold] at hnew
    exact absurd hnew (by decide)
  · -- The greater text comes later.
    have hgreater := List.pairwise_iff_getElem.mp h.sorted j i hj hi hij
    rw [hold, hnew] at hgreater
    exact absurd hgreater (by decide)

end Group
end Facets
