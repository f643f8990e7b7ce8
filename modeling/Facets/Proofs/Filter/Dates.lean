import Facets.Filter.Simple
import Facets.Proofs.Calendar.Zones
import Facets.Proofs.Order.Sorted
import Facets.Statistics.Basic

/-
The dates of a field.

A date has many forms, and each of them stands for one moment.  A bound is tested by
itself, so two bounds keep what each of them keeps.  The rest needs the moments to have one
order (`Moment.IsOrdered`), and moments of several places have one only apart from twofold
readings.  Then the earliest and the latest date keep every date, and bounds that are
closer together keep no more (`dates_agree`).  Around the hour at which the clocks of a zone
are set back all of this fails (`not_dates_agree_of_twofold`).
-/
namespace Facets

/-! ## The earliest and the latest date -/

section Displaced

variable {α : Type} (before : α → α → Bool)

/-- An item displaces another that it is before. -/
def displace (kept b : α) : α := if before b kept then b else kept

theorem displace_cons_subset (a b : α) (rest : List α) :
    displace before a b :: rest ⊆ a :: b :: rest := by
  have hkept : displace before a b ∈ a :: b :: rest := by
    unfold displace
    split
    · exact List.mem_cons_of_mem a List.mem_cons_self
    · exact List.mem_cons_self
  have hrest : rest ⊆ a :: b :: rest :=
    fun x hx => List.mem_cons_of_mem a (List.mem_cons_of_mem b hx)
  exact List.cons_subset.mpr ⟨hkept, hrest⟩

/-- Neither of two compared items is before the one that is kept. -/
theorem not_before_displace (hasymm : ∀ x y, before x y = true → before y x = false) (a b : α) :
    before a (displace before a b) = false ∧ before b (displace before a b) = false := by
  have hirrefl : ∀ x, before x x = false :=
    fun x => Bool.eq_false_iff.mpr fun h => Bool.eq_false_iff.mp (hasymm x x h) h
  unfold displace
  cases h : before b a with
  | true => exact ⟨hasymm b a h, hirrefl b⟩
  | false => exact ⟨hirrefl a, h⟩

/-- The item that is left is one of them. -/
theorem foldl_displace_mem (a : α) (rest : List α) :
    rest.foldl (displace before) a ∈ a :: rest := by
  induction rest generalizing a with
  | nil => exact List.mem_singleton_self a
  | cons b rest ih =>
    rw [List.foldl_cons]
    exact displace_cons_subset before a b rest (ih (displace before a b))

/-- No item is before the one that is left, if the items have one order. -/
theorem not_before_foldl_displace (hasymm : ∀ x y, before x y = true → before y x = false)
    (a : α) (rest : List α)
    (horder : ∀ x ∈ a :: rest, ∀ y ∈ a :: rest, ∀ z ∈ a :: rest,
      before y x = false → before z y = false → before z x = false) :
    ∀ b ∈ a :: rest, before b (rest.foldl (displace before) a) = false := by
  induction rest generalizing a with
  | nil =>
    intro b hb
    rw [List.mem_singleton.mp hb]
    have hself := (not_before_displace before hasymm a a).1
    rwa [displace, ite_self] at hself
  | cons m rest ih =>
    obtain ⟨ha, hm⟩ := not_before_displace before hasymm a m
    have hsub := displace_cons_subset before a m rest
    have hleft := foldl_displace_mem before (displace before a m) rest
    rw [List.foldl_cons]
    generalize displace before a m = kept at ha hm hsub hleft ⊢
    have hrest := ih kept fun x hx y hy z hz => horder x (hsub hx) y (hsub hy) z (hsub hz)
    -- What is not before the item kept of the first two is not before the one that is left.
    have hthrough : ∀ b ∈ a :: m :: rest, before b kept = false →
        before b (rest.foldl (displace before) kept) = false :=
      fun b hb h => horder _ (hsub hleft) kept (hsub List.mem_cons_self) b hb
        (hrest kept List.mem_cons_self) h
    intro b hb
    rcases List.mem_cons.mp hb with rfl | hb'
    · exact hthrough b hb ha
    · rcases List.mem_cons.mp hb' with rfl | hb'
      · exact hthrough b hb hm
      · exact hrest b (List.mem_cons_of_mem kept hb')

end Displaced

/-- The dates of a field, record by record. -/
def datesOf (key : String) (records : List Record) : List Moment :=
  records.filterMap fun r => (r.field key).asMoment

/-- `low` and `high` are dates of a field, and no date of it is before `low` or after
`high`. -/
structure BoundsDates (key : String) (records : List Record) (low high : Moment) : Prop where
  low_mem : low ∈ datesOf key records
  high_mem : high ∈ datesOf key records
  between : ∀ m ∈ datesOf key records, m.isBefore low = false ∧ high.isBefore m = false

section Dates

variable {key : String} {records : List Record} {low high : Moment}

theorem mem_datesOf {m : Moment} :
    m ∈ datesOf key records ↔ ∃ r ∈ records, (r.field key).asMoment = some m :=
  List.mem_filterMap

theorem dateRange_eq_none :
    Statistics.dateRange key records = none ↔ ∀ r ∈ records, (r.field key).asMoment = none := by
  rw [← List.filterMap_eq_nil_iff, Statistics.dateRange]
  cases records.filterMap fun r => (r.field key).asMoment <;> simp

theorem exists_dates_of_dateRange (h : Statistics.dateRange key records = some (low, high)) :
    ∃ m rest, datesOf key records = m :: rest ∧ m.earliest rest = low ∧ m.latest rest = high := by
  rw [Statistics.dateRange, ← datesOf] at h
  cases hdates : datesOf key records with
  | nil =>
    rw [hdates] at h
    cases h
  | cons m rest =>
    rw [hdates] at h
    obtain ⟨hlow, hhigh⟩ := Prod.mk.inj (Option.some.inj h)
    exact ⟨m, rest, rfl, hlow, hhigh⟩

theorem mem_of_dateRange (h : Statistics.dateRange key records = some (low, high)) :
    low ∈ datesOf key records ∧ high ∈ datesOf key records := by
  obtain ⟨m, rest, hdates, rfl, rfl⟩ := exists_dates_of_dateRange h
  rw [hdates]
  exact ⟨foldl_displace_mem Moment.isBefore m rest,
    foldl_displace_mem (fun x y : Moment => y.isBefore x) m rest⟩

theorem boundsDates_of_dateRange (h : Statistics.dateRange key records = some (low, high))
    (horder : Moment.IsOrdered (datesOf key records)) : BoundsDates key records low high := by
  obtain ⟨hlow, hhigh⟩ := mem_of_dateRange h
  obtain ⟨m, rest, hdates, rfl, rfl⟩ := exists_dates_of_dateRange h
  refine ⟨hlow, hhigh, fun d hd => ?_⟩
  rw [hdates] at horder hd
  have hasymm : ∀ x y : Moment, x.isBefore y = true → y.isBefore x = false :=
    fun _ _ => Moment.isBefore_asymm
  exact ⟨not_before_foldl_displace Moment.isBefore hasymm m rest horder d hd,
    not_before_foldl_displace (fun x y : Moment => y.isBefore x) (fun x y => hasymm y x) m rest
      (fun x hx y hy z hz hxy hyz => horder z hz y hy x hx hyz hxy) d hd⟩

end Dates

/-! ## Dates within bounds -/

/-- The record has a date in the field, and it lies between two bounds. -/
def hasDateIn (key : String) (lower upper : Option Moment) (r : Record) : Bool :=
  (r.field key).asMoment.any fun m => m.isWithin lower upper

section Bounds

variable {key : String} {lower upper : Option Moment} {low low' high high' : Moment} {r : Record}
  {records : List Record}

theorem withDateIn_eq (start stop : Option Value) :
    withDateIn key start stop records =
      records.filter (hasDateIn key (start.bind Value.asMoment) (stop.bind Value.asMoment)) := by
  refine List.filter_congr fun r _ => ?_
  rw [hasDateIn]
  cases (r.field key).asMoment <;> rfl

theorem hasDateIn_iff :
    hasDateIn key (some low) (some high) r = true ↔ ∃ m, (r.field key).asMoment = some m ∧
      m.isBefore low = false ∧ high.isBefore m = false := by
  simp [hasDateIn, Moment.isWithin, Option.any_eq_true]

theorem hasDateIn_none : hasDateIn key none none r = (r.field key).asMoment.isSome := by
  unfold hasDateIn
  cases (r.field key).asMoment <;> rfl

/-- Each bound is tested by itself. -/
theorem hasDateIn_eq_and :
    hasDateIn key lower upper r = (hasDateIn key lower none r && hasDateIn key none upper r) := by
  unfold hasDateIn Moment.isWithin
  cases (r.field key).asMoment <;> simp

/-- Of moments with one order, bounds that are closer together keep no others. -/
theorem withDateIn_sublist {start start' stop stop' : Value} (hstart : start.asMoment = some low)
    (hstart' : start'.asMoment = some low') (hstop : stop.asMoment = some high)
    (hstop' : stop'.asMoment = some high')
    (hlow : ∀ m ∈ datesOf key records, m.isBefore low' = false → m.isBefore low = false)
    (hhigh : ∀ m ∈ datesOf key records, high'.isBefore m = false → high.isBefore m = false) :
    (withDateIn key (some start') (some stop') records).Sublist
      (withDateIn key (some start) (some stop) records) := by
  have hsub : ∀ r ∈ records, hasDateIn key (some low') (some high') r = true →
      hasDateIn key (some low) (some high) r = true := by
    intro r hr h
    obtain ⟨m, hm, hlower, hupper⟩ := hasDateIn_iff.mp h
    have hmem := mem_datesOf.mpr ⟨r, hr, hm⟩
    exact hasDateIn_iff.mpr ⟨m, hm, hlow m hmem hlower, hhigh m hmem hupper⟩
  simp only [withDateIn_eq, Option.bind_some, hstart, hstart', hstop, hstop']
  have hkept : records.filter (hasDateIn key (some low') (some high')) =
      (records.filter (hasDateIn key (some low) (some high))).filter
        (hasDateIn key (some low') (some high')) := by
    rw [List.filter_filter]
    refine List.filter_congr fun r hr => ?_
    rw [Bool.eq_iff_iff, Bool.and_eq_true]
    exact ⟨fun h => ⟨h, hsub r hr h⟩, And.left⟩
  rw [hkept]
  exact List.filter_sublist

theorem withDateIn_none :
    withDateIn key none none records =
      records.filter fun r => (r.field key).asMoment.isSome := by
  rw [withDateIn_eq]
  exact List.filter_congr fun r _ => hasDateIn_none

/-- The earliest and the latest date leave out no record with a date. -/
theorem withDateIn_extremes (h : BoundsDates key records low high) :
    withDateIn key (some (.ofMoment low)) (some (.ofMoment high)) records =
      records.filter fun r => (r.field key).asMoment.isSome := by
  rw [withDateIn_eq]
  refine List.filter_congr fun r hr => ?_
  have hlow : (Value.ofMoment low).asMoment = some low := rfl
  have hhigh : (Value.ofMoment high).asMoment = some high := rfl
  rw [Option.bind_some, Option.bind_some, hlow, hhigh, Bool.eq_iff_iff, hasDateIn_iff,
    Option.isSome_iff_exists]
  exact exists_congr fun m =>
    and_iff_left_of_imp fun hm => h.between m (mem_datesOf.mpr ⟨r, hr, hm⟩)

end Bounds

/-- Two bounds keep the records that each of them keeps, and may be applied one after the
other. -/
structure IsIntersection (key : String) (start stop : Value) (records : List Record) : Prop where
  mem : ∀ r, r ∈ withDateIn key (some start) (some stop) records ↔
    r ∈ withDateIn key (some start) none records ∧ r ∈ withDateIn key none (some stop) records
  startFirst : withDateIn key (some start) (some stop) records =
    withDateIn key none (some stop) (withDateIn key (some start) none records)
  stopFirst : withDateIn key (some start) (some stop) records =
    withDateIn key (some start) none (withDateIn key none (some stop) records)

theorem withDateIn_isIntersection (key : String) (start stop : Value) (records : List Record) :
    IsIntersection key start stop records := by
  have hboth : withDateIn key (some start) (some stop) records = records.filter fun r =>
      hasDateIn key start.asMoment none r && hasDateIn key none stop.asMoment r := by
    rw [withDateIn_eq]
    exact List.filter_congr fun r _ => hasDateIn_eq_and
  refine ⟨fun r => ?_, ?_, ?_⟩
  · rw [hboth, withDateIn_eq, withDateIn_eq, List.mem_filter, List.mem_filter, List.mem_filter,
      Bool.and_eq_true]
    exact and_and_left
  · rw [hboth, withDateIn_eq, withDateIn_eq, List.filter_filter]
    exact List.filter_congr fun r _ => Bool.and_comm _ _
  · rw [hboth, withDateIn_eq, withDateIn_eq, List.filter_filter]
    rfl

/-- Without any date in a field no bounds keep a record.  Otherwise its earliest and its
latest date are dates of it, and keep all of them if the dates have one order.  Two bounds
of any form keep what both of them keep, and less of it when one of them moves towards the
other in the order of the dates. -/
theorem dates_agree (key : String) (records : List Record) :
    (Statistics.dateRange key records = none →
      (∀ r ∈ records, (r.field key).asMoment = none) ∧
        ∀ start stop, withDateIn key start stop records = []) ∧
    (∀ low high, Statistics.dateRange key records = some (low, high) →
      (low ∈ datesOf key records ∧ high ∈ datesOf key records) ∧
      withDateIn key none none records =
        records.filter (fun r => (r.field key).asMoment.isSome) ∧
      (Moment.IsOrdered (datesOf key records) →
        BoundsDates key records low high ∧
        withDateIn key (some (.ofMoment low)) (some (.ofMoment high)) records =
          records.filter fun r => (r.field key).asMoment.isSome)) ∧
    ∀ start stop low high, start.asMoment = some low → stop.asMoment = some high →
      (∀ r, r ∈ withDateIn key (some start) (some stop) records ↔ r ∈ records ∧
        ∃ m, (r.field key).asMoment = some m ∧
          m.isBefore low = false ∧ high.isBefore m = false) ∧
      IsIntersection key start stop records ∧
      (∀ start' low', start'.asMoment = some low' → low'.isBefore low = false →
        Moment.IsOrdered (low :: low' :: datesOf key records) →
        (withDateIn key (some start') (some stop) records).Sublist
          (withDateIn key (some start) (some stop) records)) ∧
      ∀ stop' high', stop'.asMoment = some high' → high.isBefore high' = false →
        Moment.IsOrdered (high :: high' :: datesOf key records) →
        (withDateIn key (some start) (some stop') records).Sublist
          (withDateIn key (some start) (some stop) records) := by
  refine ⟨fun h => ?_, fun low high h => ?_, fun start stop low high hstart hstop => ?_⟩
  · rw [dateRange_eq_none] at h
    refine ⟨h, fun start stop => ?_⟩
    rw [withDateIn_eq, List.filter_eq_nil_iff]
    intro r hr
    simp [hasDateIn, h r hr]
  · refine ⟨mem_of_dateRange h, withDateIn_none, fun horder => ?_⟩
    have hbounds := boundsDates_of_dateRange h horder
    exact ⟨hbounds, withDateIn_extremes hbounds⟩
  · refine ⟨fun r => ?_, withDateIn_isIntersection key start stop records, ?_, ?_⟩
    · rw [withDateIn_eq, Option.bind_some, Option.bind_some, hstart, hstop, List.mem_filter,
        hasDateIn_iff]
    · intro start' low' hstart' hle horder
      refine withDateIn_sublist hstart hstart' hstop hstop (fun m hm hlow => ?_) fun _ _ h => h
      have hmem : m ∈ low :: low' :: datesOf key records :=
        List.mem_cons_of_mem low (List.mem_cons_of_mem low' hm)
      exact horder low (by simp) low' (by simp) m hmem hle hlow
    · intro stop' high' hstop' hle horder
      refine withDateIn_sublist hstart hstart hstop hstop' (fun _ _ h => h) fun m hm hhigh => ?_
      have hmem : m ∈ high :: high' :: datesOf key records :=
        List.mem_cons_of_mem high (List.mem_cons_of_mem high' hm)
      exact horder m hmem high' (by simp) high (by simp) hhigh hle

namespace Sample

def newYear : Date := ⟨2020, 1, 1, by decide⟩

def newYearMorning : LocalTime := { date := newYear, time := ⟨36000000000, by decide⟩ }

/-- The first of November 2020. -/
def allSaints : Date := ⟨2020, 11, 1, by decide⟩

/-- The zone of New York in the year 2020: five hours behind, and four from the morning of
the eighth of March to the morning of the first of November. -/
def newYork : Zone where
  name := "America/New_York"
  start := ⟨-18000000000, by decide⟩
  changes :=
    [⟨(LocalTime.mk ⟨2020, 3, 8, by decide⟩ ⟨25200000000, by decide⟩ false).micros,
        -14400000000, by decide⟩,
      ⟨(LocalTime.mk allSaints ⟨21600000000, by decide⟩ false).micros, -18000000000, by decide⟩]
  inTurn := by decide +kernel

/-- Half past one in New York, before the clocks are set back. -/
def halfPastOne : Moment := ⟨⟨allSaints, ⟨5400000000, by decide⟩, false⟩, .zone newYork⟩

/-- Ten past one in New York, after the clocks were set back: forty minutes later. -/
def tenPastOne : Moment := ⟨⟨allSaints, ⟨4200000000, by decide⟩, true⟩, .zone newYork⟩

/-- Ten to six in universal time, which lies between the two. -/
def tenToSix : Moment := ⟨⟨allSaints, ⟨21000000000, by decide⟩, false⟩, .utc⟩

/-- When books were read: a time of a place, a day, a month, a count of milliseconds and
times of no place and of New York.  One book has a value that is no date, and one has
none. -/
def diary : List Record :=
  [book 0 [("read", .text "2020-01-01T12:00:00+02:00")],
    book 1 [("read", .date ⟨2020, 1, 2, by decide⟩)], book 2 [("read", .text "2020-02")],
    book 3 [("read", .int 1577836800000)], book 4 [("read", .dateTime newYearMorning none)],
    book 5 [("read", .bool true)], book 6 [],
    book 7 [("read", .dateTime newYearMorning (some (.zone newYork)))]]

/-- Books that were read in the night in which the clocks of New York are set back. -/
def autumn : List Record :=
  [book 0 [("read", .ofMoment halfPastOne)], book 1 [("read", .ofMoment tenPastOne)],
    book 2 [("read", .ofMoment tenToSix)]]

/-- The first instant of the year, as another place shows it. -/
def yearBegins : Moment :=
  ⟨{ date := newYear, time := ⟨3600000000, by decide⟩ }, .fixed ⟨3600000000, by decide⟩⟩

/-- The first two were read in one zone, so that their dates have one order. -/
theorem isOrdered_autumn : Moment.IsOrdered (datesOf "read" (autumn.take 2)) := by
  have hdates : datesOf "read" (autumn.take 2) = [halfPastOne, tenPastOne] := by decide +kernel
  refine Moment.isOrdered_of_zone (z := newYork) fun m hm => ?_
  rw [hdates, List.mem_pair] at hm
  rcases hm with rfl | rfl <;> rfl

end Sample

open Sample in
theorem dates_agree_diary :
    (Statistics.dateRange "finished" diary = none ∧
      ∀ start stop, withDateIn "finished" start stop diary = []) ∧
    (∃ low high, Statistics.dateRange "read" diary = some (low, high) ∧
      BoundsDates "read" diary low high ∧
      (withDateIn "read" (some (.ofMoment low)) (some (.ofMoment high)) diary).map
        Record.serial = [0, 1, 2, 3, 4, 7]) ∧
    BoundsDates "read" (autumn.take 2) tenPastOne halfPastOne ∧
    (withDateIn "read" (some (.ofMoment yearBegins)) (some (.int 1577923200000)) diary).map
      Record.serial = [0, 1, 3, 4, 7] ∧
    IsIntersection "read" (.ofMoment yearBegins) (.int 1577923200000) diary ∧
    (withDateIn "read" (some (.text "2020-01-01 10:00")) (some (.int 1577923200000))
      diary).Sublist
      (withDateIn "read" (some (.ofMoment yearBegins)) (some (.int 1577923200000)) diary) := by
  have hstart : (Value.text "2020-01-01 10:00").asMoment = some ⟨newYearMorning, .utc⟩ := by
    decide +kernel
  have hstop : (Value.int 1577923200000).asMoment =
      some ⟨.startOf ⟨2020, 1, 2, by decide⟩, .utc⟩ := by
    decide +kernel
  have hnone : Statistics.dateRange "finished" diary = none := by decide +kernel
  have hsteady : ∀ m ∈ yearBegins :: ⟨newYearMorning, .utc⟩ :: datesOf "read" diary,
      m.isTwofold = false := by
    decide +kernel
  have horder := Moment.isOrdered_of_steady hsteady
  have hdates : datesOf "read" diary ⊆ yearBegins :: ⟨newYearMorning, .utc⟩ ::
      datesOf "read" diary :=
    fun m hm => List.mem_cons_of_mem _ (List.mem_cons_of_mem _ hm)
  obtain ⟨⟨low, high⟩, hrange⟩ := Option.isSome_iff_exists.mp
    (by decide +kernel : (Statistics.dateRange "read" diary).isSome = true)
  obtain ⟨-, -, hkept⟩ := (dates_agree "read" diary).2.1 low high hrange
  obtain ⟨hbounds, hkept⟩ := hkept (horder.mono hdates)
  obtain ⟨-, hintersects, hlater, -⟩ :=
    (dates_agree "read" diary).2.2 (.ofMoment yearBegins) _ yearBegins _ rfl hstop
  obtain ⟨-, -, hnight⟩ :=
    (dates_agree "read" (autumn.take 2)).2.1 tenPastOne halfPastOne (by decide +kernel)
  refine ⟨⟨hnone, ((dates_agree "finished" diary).1 hnone).2⟩, ⟨low, high, hrange, hbounds, ?_⟩,
    (hnight isOrdered_autumn).1, by decide +kernel, hintersects, hlater _ _ hstart (by decide +kernel) horder⟩
  rw [hkept]
  decide +kernel

open Sample in
/-- In the night in which the clocks are set back the earliest and the latest date are one,
and leave out the other two.  A start that is moved later adds a record. -/
theorem not_dates_agree_of_twofold :
    Statistics.dateRange "read" autumn = some (tenToSix, tenToSix) ∧
    (withDateIn "read" (some (.ofMoment tenToSix)) (some (.ofMoment tenToSix)) autumn).map
      Record.serial = [2] ∧
    (withDateIn "read" none none autumn).map Record.serial = [0, 1, 2] ∧
    ¬ Moment.IsOrdered (datesOf "read" autumn) ∧ halfPastOne.isBefore tenToSix = true ∧
    (withDateIn "read" (some (.ofMoment halfPastOne)) none autumn).map Record.serial = [0, 2] ∧
    (withDateIn "read" (some (.ofMoment tenToSix)) none autumn).map Record.serial = [1, 2] := by
  decide +kernel

end Facets
