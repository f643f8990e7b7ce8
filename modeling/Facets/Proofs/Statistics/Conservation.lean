import Facets.Statistics.Basic
import Facets.Proofs.Filter.Bounds
import Facets.Proofs.Group.Members
import Mathlib.Algebra.BigOperators.Ring.Finset

/-
The statistics of groups and of all records.

The numbers of a collection are those of its groups in another order
(`Statistics.perm_flatten_of_partition`).  So sums of integers add up, and a bound of
the whole is a bound of one of the groups.  The same holds for any other order of the
records: its groups are the same up to their order and that of their members
(`Group.exists_perm_of_byKey`).
-/
namespace Facets

open Outcome

/-! ## Numbers of records -/

/-- The number in a field of a record. -/
def Record.number? (key : String) (r : Record) : Option Number :=
  match (r.field key).asNumber with
  | .ok n => n
  | .error _ => none

theorem Record.number?_eq_some {key : String} {r : Record} {n : Number} :
    r.number? key = some n ↔ (r.field key).asNumber = .ok (some n) := by
  unfold Record.number?
  cases (r.field key).asNumber <;> simp

section Numbers

variable {key : String} {records records' : List Record} {ns : List Number}

theorem numbersOf_eq_ok :
    numbersOf key records = .ok ns ↔
      (∀ r ∈ records, ∃ n, (r.field key).asNumber = .ok n) ∧
        ns = records.filterMap (Record.number? key) := by
  have hread : ∀ {read : List (Option Number)}, (records.mapM fun r => (r.field key).asNumber) =
      .ok read → read = records.map (Record.number? key) := by
    intro read h
    induction mapM_eq_ok.mp h with
    | nil => rfl
    | cons hn hrest ih => rw [List.map_cons, ← ih (mapM_eq_ok.mpr hrest), Record.number?, hn]
  constructor
  · intro h
    obtain ⟨read, hmap, h⟩ := bind_eq_ok.mp h
    refine ⟨fun r hr => ?_, ?_⟩
    · obtain ⟨n, -, hn⟩ := ok_of_mapM_ok hmap r hr
      exact ⟨n, hn⟩
    · rw [← pure_eq_ok.mp h, hread hmap, List.filterMap_map]
      rfl
  · rintro ⟨hall, rfl⟩
    obtain ⟨read, hmap⟩ := exists_mapM_ok hall
    refine bind_eq_ok.mpr ⟨read, hmap, ?_⟩
    rw [hread hmap, List.filterMap_map]
    rfl

/-- The numbers of records in another order are the same in another order. -/
theorem numbersOf_perm (hperm : records'.Perm records) (h : numbersOf key records = .ok ns) :
    ∃ ns', numbersOf key records' = .ok ns' ∧ ns'.Perm ns := by
  obtain ⟨hall, rfl⟩ := numbersOf_eq_ok.mp h
  exact ⟨_, numbersOf_eq_ok.mpr ⟨fun r hr => hall r (hperm.mem_iff.mp hr), rfl⟩,
    hperm.filterMap _⟩

end Numbers

/-! ## Sums of integers -/

/-- The integer.  A double counts nothing. -/
def Number.whole : Number → Int
  | .int n => n
  | .float _ => 0

/-- Integers add exactly. -/
theorem Amount.sum_of_integers {ns : List Number} (h : ∀ n ∈ ns, ∃ m, n = .int m) :
    Amount.sum ns = .ok (.int (ns.map Number.whole).sum) := by
  suffices hgo : ∀ start : Int,
      ns.foldlM Amount.add (.int start) = .ok (.int (start + (ns.map Number.whole).sum)) by
    rw [Amount.sum, hgo 0, Int.zero_add]
  induction ns with
  | nil => intro start; simp
  | cons n ns ih =>
    intro start
    obtain ⟨⟨m, rfl⟩, hrest⟩ := List.forall_mem_cons.mp h
    rw [List.foldlM_cons, Amount.add, ok_bind, ih hrest, List.map_cons, List.sum_cons,
      Number.whole, Int.add_assoc]

/-! ## Bounds -/

namespace Amount

theorem atMost_ofNumber {m n : Number} :
    (ofNumber m).atMost (ofNumber n) = true ↔ m.scaled ≤ n.scaled := by
  simp [atMost, Place.below]

end Amount

namespace Statistics

/-- The bound of a list of bounds in an order: one of them that comes before all
others.  There is none when each of them is missing. -/
def IsBound (le : Amount → Amount → Bool) (bound : Option Amount) (bounds : List (Option Amount)) :
    Prop :=
  match bound with
  | none => ∀ b ∈ bounds, b = none
  | some a => (∃ b, some b ∈ bounds ∧ a.same b = true) ∧ ∀ b, some b ∈ bounds → le a b = true

/-- A choice of a number of the least rank, from any list that has one. -/
structure Chooses (rank : Number → Int) (choose : List Number → Option Number) : Prop where
  none_iff : ∀ ns, choose ns = none ↔ ns = []
  mem : ∀ ns n, choose ns = some n → n ∈ ns
  least : ∀ ns n, choose ns = some n → ∀ m ∈ ns, rank n ≤ rank m

section Chooses

variable {rank : Number → Int} {choose : List Number → Option Number}

theorem Chooses.sameBound (h : Chooses rank choose)
    (hsame : ∀ m n, (Amount.ofNumber m).same (.ofNumber n) = true ↔ rank m = rank n)
    {ns ns' : List Number} (hperm : ns'.Perm ns) :
    Range.sameBound ((choose ns').map .ofNumber) ((choose ns).map .ofNumber) = true := by
  cases hn : choose ns with
  | none =>
    have hnil : ns' = [] := by
      rw [(h.none_iff ns).mp hn] at hperm
      exact hperm.eq_nil
    rw [(h.none_iff ns').mpr hnil]
    rfl
  | some n =>
    cases hn' : choose ns' with
    | none =>
      have hnil : ns = [] := by
        rw [(h.none_iff ns').mp hn'] at hperm
        exact hperm.symm.eq_nil
      rw [(h.none_iff ns).mpr hnil] at hn
      cases hn
    | some n' =>
      have hle : rank n ≤ rank n' := h.least ns n hn n' (hperm.mem_iff.mp (h.mem ns' n' hn'))
      have hle' : rank n' ≤ rank n := h.least ns' n' hn' n (hperm.mem_iff.mpr (h.mem ns n hn))
      exact (hsame n' n).mpr (by omega)

/-- The choice from the whole is a bound of the choices from the parts. -/
theorem Chooses.isBound (h : Chooses rank choose) (le : Amount → Amount → Bool)
    (hle : ∀ m n, le (.ofNumber m) (.ofNumber n) = true ↔ rank m ≤ rank n)
    (hsame : ∀ m n, (Amount.ofNumber m).same (.ofNumber n) = true ↔ rank m = rank n)
    {whole : List Number} {parts : List (List Number)} (hperm : parts.flatten.Perm whole) :
    IsBound le ((choose whole).map .ofNumber)
      (parts.map fun part => (choose part).map .ofNumber) := by
  have hmem : ∀ part ∈ parts, ∀ n ∈ part, n ∈ whole := by
    intro part hpart n hn
    exact hperm.mem_iff.mp (List.mem_flatten.mpr ⟨part, hpart, hn⟩)
  cases hn : choose whole with
  | none =>
    have hnil : whole = [] := (h.none_iff whole).mp hn
    intro b hb
    obtain ⟨part, hpart, rfl⟩ := List.mem_map.mp hb
    have hpartNil : part = [] := by
      by_contra hne
      obtain ⟨m, hm⟩ := List.exists_mem_of_ne_nil part hne
      rw [hnil] at hmem
      exact absurd (hmem part hpart m hm) List.not_mem_nil
    rw [(h.none_iff part).mpr hpartNil]
    rfl
  | some n =>
    constructor
    · obtain ⟨part, hpart, hnpart⟩ :=
        List.mem_flatten.mp (hperm.mem_iff.mpr (h.mem whole n hn))
      cases hm : choose part with
      | none =>
        rw [(h.none_iff part).mp hm] at hnpart
        cases hnpart
      | some m =>
        have hle₁ : rank m ≤ rank n := h.least part m hm n hnpart
        have hle₂ : rank n ≤ rank m := h.least whole n hn m (hmem part hpart m (h.mem part m hm))
        refine ⟨.ofNumber m, List.mem_map.mpr ⟨part, hpart, ?_⟩, (hsame n m).mpr (by omega)⟩
        rw [hm]
        rfl
    · intro b hb
      obtain ⟨part, hpart, hb⟩ := List.mem_map.mp hb
      obtain ⟨m, hm, rfl⟩ := Option.map_eq_some_iff.mp hb
      exact (hle n m).mpr (h.least whole n hn m (hmem part hpart m (h.mem part m hm)))

end Chooses

/-! ## Years -/

def lowest (ns : List Number) : Option Number := (boundsOf ns).map Prod.fst

def highest (ns : List Number) : Option Number := (boundsOf ns).map Prod.snd

theorem boundsOf_eq_none {ns : List Number} : boundsOf ns = none ↔ ns = [] := by
  simp [boundsOf]

theorem boundsOf_eq_some {ns : List Number} {low high : Number} (h : boundsOf ns = some (low, high)) :
    (low ∈ ns ∧ ∀ m ∈ ns, low.scaled ≤ m.scaled) ∧ high ∈ ns ∧ ∀ m ∈ ns, m.scaled ≤ high.scaled := by
  unfold boundsOf at h
  split at h
  · cases h
  · obtain ⟨rfl, rfl⟩ := Prod.mk.inj (Option.some.inj h)
    exact ⟨⟨List.minOn_mem, fun m hm => List.apply_minOn_le_of_mem hm⟩,
      List.maxOn_mem, fun m hm => List.le_apply_maxOn_of_mem hm⟩

theorem chooses_lowest : Chooses Number.scaled lowest where
  none_iff ns := by rw [lowest, Option.map_eq_none_iff, boundsOf_eq_none]
  mem ns n h := by
    obtain ⟨⟨low, high⟩, hbounds, rfl⟩ := Option.map_eq_some_iff.mp h
    exact (boundsOf_eq_some hbounds).1.1
  least ns n h := by
    obtain ⟨⟨low, high⟩, hbounds, rfl⟩ := Option.map_eq_some_iff.mp h
    exact (boundsOf_eq_some hbounds).1.2

theorem chooses_highest : Chooses (fun n => -n.scaled) highest where
  none_iff ns := by rw [highest, Option.map_eq_none_iff, boundsOf_eq_none]
  mem ns n h := by
    obtain ⟨⟨low, high⟩, hbounds, rfl⟩ := Option.map_eq_some_iff.mp h
    exact (boundsOf_eq_some hbounds).2.1
  least ns n h m hm := by
    obtain ⟨⟨low, high⟩, hbounds, rfl⟩ := Option.map_eq_some_iff.mp h
    have hle : m.scaled ≤ high.scaled := (boundsOf_eq_some hbounds).2.2 m hm
    show -high.scaled ≤ -m.scaled
    omega

theorem extremes_eq_boundsOf (ns : List Number) : extremes ns = boundsOf ns := by
  cases ns with
  | nil => rfl
  | cons n rest =>
    rw [extremes, Number.least_eq_minOn, Number.greatest_eq_maxOn]
    rfl

theorem yearRange_eq (ns : List Number) :
    yearRange ns = ⟨(lowest ns).map .ofNumber, (highest ns).map .ofNumber⟩ := by
  rw [yearRange, extremes_eq_boundsOf, lowest, highest]
  cases boundsOf ns <;> rfl

/-! ## Collecting -/

section Collect

variable {f : StatisticsFields} {records records' : List Record} {s : CollectionStatistics}

theorem collect_eq_ok :
    collect f records = .ok s ↔
      ∃ words years total average, numbersOf f.words records = .ok words ∧
        numbersOf f.year records = .ok years ∧ Amount.sum words = .ok total ∧
        averageOf total words.length = .ok average ∧
        { count := records.length, totalWords := total, averageWords := average,
          years := yearRange years, withWords := words.length, withYear := years.length } = s := by
  simp only [collect, bind_eq_ok, pure_eq_ok, exists_and_left]

theorem ofGroup_eq_ok {g : GroupStatistics} :
    ofGroup f records = .ok g ↔ ∃ s, collect f records = .ok s ∧ s.toGroupStatistics = g := by
  simp only [ofGroup, bind_eq_ok, pure_eq_ok]

/-- The numbers of words are integers. -/
def WholeWords (f : StatisticsFields) (records : List Record) : Prop :=
  ∀ r ∈ records, ∀ n, (r.field f.words).asNumber = .ok (some n) → ∃ m, n = .int m

theorem wholeWords_iff :
    WholeWords f records ↔ ∀ n ∈ records.filterMap (Record.number? f.words), n = .int n.whole := by
  constructor
  · intro h n hn
    obtain ⟨r, hr, hread⟩ := List.mem_filterMap.mp hn
    obtain ⟨m, rfl⟩ := h r hr n (Record.number?_eq_some.mp hread)
    rfl
  · intro h r hr n hread
    exact ⟨n.whole, h n (List.mem_filterMap.mpr ⟨r, hr, Record.number?_eq_some.mpr hread⟩)⟩

instance : Decidable (WholeWords f records) := decidable_of_iff _ wholeWords_iff.symm

theorem WholeWords.sum_eq {words : List Number} (hwhole : WholeWords f records)
    (hwords : numbersOf f.words records = .ok words) :
    Amount.sum words = .ok (.int (words.map Number.whole).sum) := by
  refine Amount.sum_of_integers fun n hn => ?_
  obtain ⟨r, hr, hread⟩ := (mem_numbersOf hwords).mp hn
  exact hwhole r hr n hread

/-- The words of all records together, where they are integers. -/
def wholeWords (f : StatisticsFields) (records : List Record) : Int :=
  ((records.filterMap (Record.number? f.words)).map Number.whole).sum

/-- What statistics say besides averages and how many records have numbers. -/
theorem figures_of_collect (hwhole : WholeWords f records) (h : collect f records = .ok s) :
    s.count = records.length ∧ s.totalWords = .int (wholeWords f records) ∧
      s.years = yearRange (records.filterMap (Record.number? f.year)) := by
  obtain ⟨words, years, total, average, hwords, hyears, htotal, -, rfl⟩ := collect_eq_ok.mp h
  rw [hwhole.sum_eq hwords] at htotal
  refine ⟨rfl, ?_, ?_⟩
  · rw [← Except.ok.inj htotal, (numbersOf_eq_ok.mp hwords).2]
    rfl
  · rw [← (numbersOf_eq_ok.mp hyears).2]

theorem wholeWords_perm (hperm : records'.Perm records) :
    wholeWords f records' = wholeWords f records :=
  ((hperm.filterMap _).map _).sum_eq

/-- Records in another order have statistics when the records have them. -/
theorem exists_collect_of_perm (hwhole : WholeWords f records) (hperm : records'.Perm records)
    (h : collect f records = .ok s) : ∃ s', collect f records' = .ok s' := by
  obtain ⟨words, years, total, average, hwords, hyears, htotal, haverage, rfl⟩ :=
    collect_eq_ok.mp h
  obtain ⟨words', hwords', hpermWords⟩ := numbersOf_perm hperm hwords
  obtain ⟨years', hyears', -⟩ := numbersOf_perm hperm hyears
  have hwhole' : WholeWords f records' := fun r hr => hwhole r (hperm.mem_iff.mp hr)
  have htotal' : Amount.sum words' = .ok total := by
    rw [← htotal, hwhole.sum_eq hwords, hwhole'.sum_eq hwords',
      (hpermWords.map Number.whole).sum_eq]
  rw [← hpermWords.length_eq] at haverage
  exact ⟨_, collect_eq_ok.mpr ⟨words', years', total, average, hwords', hyears', htotal',
    haverage, rfl⟩⟩

end Collect

/-! ## Groups -/

/-- The statistics of groups make up those of the whole. -/
structure Conserves (total : CollectionStatistics) (parts : List GroupStatistics) : Prop where
  count : (parts.map fun s => s.count).sum = total.count
  words : ∃ ns : List Int, (parts.map fun s => s.totalWords) = ns.map .int ∧
    total.totalWords = .int ns.sum
  lowest : IsBound Amount.atMost total.years.min (parts.map fun s => s.years.min)
  highest : IsBound (fun a b => b.atMost a) total.years.max (parts.map fun s => s.years.max)

/-- Statistics that agree in all that groups conserve. -/
structure Agree (s s' : CollectionStatistics) : Prop where
  count : s.count = s'.count
  words : s.totalWords = s'.totalWords
  lowest : Range.sameBound s.years.min s'.years.min = true
  highest : Range.sameBound s.years.max s'.years.max = true

theorem neg_scaled_le {m n : Number} :
    (Amount.ofNumber n).atMost (.ofNumber m) = true ↔ -m.scaled ≤ -n.scaled := by
  rw [Amount.atMost_ofNumber]
  omega

theorem neg_scaled_eq {m n : Number} :
    (Amount.ofNumber m).same (.ofNumber n) = true ↔ -m.scaled = -n.scaled := by
  rw [Amount.same_ofNumber]
  omega

section Groups

variable {f : StatisticsFields} {records records' : List Record} {groups : Groups}
  {total total' : CollectionStatistics} {stats : List GroupStatistics}

theorem agree_of_perm (hwhole : WholeWords f records) (hperm : records'.Perm records)
    (h : collect f records = .ok total) (h' : collect f records' = .ok total') :
    Agree total' total := by
  have hwhole' : WholeWords f records' := fun r hr => hwhole r (hperm.mem_iff.mp hr)
  have hyears := hperm.filterMap (Record.number? f.year)
  obtain ⟨hcount, hwords, hrange⟩ := figures_of_collect hwhole h
  obtain ⟨hcount', hwords', hrange'⟩ := figures_of_collect hwhole' h'
  rw [yearRange_eq] at hrange hrange'
  refine ⟨?_, ?_, ?_, ?_⟩
  · rw [hcount, hcount', hperm.length_eq]
  · rw [hwords, hwords', wholeWords_perm hperm]
  · rw [hrange, hrange']
    exact chooses_lowest.sameBound (fun m n => Amount.same_ofNumber) hyears
  · rw [hrange, hrange']
    exact chooses_highest.sameBound (fun m n => neg_scaled_eq) hyears

theorem conserves_of_partition (hwhole : WholeWords f records)
    (hparts : IsPartition (groups.map Prod.snd) records) (htotal : collect f records = .ok total)
    (hstats : (groups.mapM fun g => ofGroup f g.2) = .ok stats) : Conserves total stats := by
  obtain ⟨hcount, hwords, hrange⟩ := figures_of_collect hwhole htotal
  have hfigures : ∀ g ∈ groups, ∀ s, ofGroup f g.2 = .ok s →
      s.count = g.2.length ∧ s.totalWords = .int (wholeWords f g.2) ∧
        s.years = yearRange (g.2.filterMap (Record.number? f.year)) := by
    intro g hg s hs
    have hsub : g.2 ⊆ records := (hparts.inOrder g.2 (List.mem_map_of_mem hg)).subset
    obtain ⟨all, hall, rfl⟩ := ofGroup_eq_ok.mp hs
    exact figures_of_collect (fun r hr => hwhole r (hsub hr)) hall
  have hyears : ((groups.map fun g => g.2.filterMap (Record.number? f.year)).flatten).Perm
      (records.filterMap (Record.number? f.year)) := by
    have h := hparts.perm.filterMap (Record.number? f.year)
    rwa [List.filterMap_flatten, List.map_map] at h
  rw [yearRange_eq] at hrange
  refine ⟨?_, ⟨groups.map fun g => wholeWords f g.2, ?_, ?_⟩, ?_, ?_⟩
  · rw [map_eq_of_mapM_ok hstats fun g hg s hs => (hfigures g hg s hs).1, hcount,
      ← hparts.sum_length, List.map_map, Nat.cast_list_sum, List.map_map]
    rfl
  · rw [map_eq_of_mapM_ok hstats fun g hg s hs => (hfigures g hg s hs).2.1, List.map_map]
    rfl
  · have h := ((hparts.perm.filterMap (Record.number? f.words)).map Number.whole).sum_eq
    rw [List.filterMap_flatten, List.map_flatten, List.sum_flatten, List.map_map, List.map_map,
      List.map_map] at h
    rw [hwords, wholeWords, ← h]
    rfl
  · have h := chooses_lowest.isBound Amount.atMost (fun m n => Amount.atMost_ofNumber)
      (fun m n => Amount.same_ofNumber) hyears
    rw [map_eq_of_mapM_ok hstats fun g hg s hs => congrArg YearRange.min (hfigures g hg s hs).2.2]
    simpa only [hrange, yearRange_eq, List.map_map, Function.comp_def] using h
  · have h := chooses_highest.isBound (fun a b => b.atMost a) (fun m n => neg_scaled_le)
      (fun m n => neg_scaled_eq) hyears
    rw [map_eq_of_mapM_ok hstats fun g hg s hs => congrArg YearRange.max (hfigures g hg s hs).2.2]
    simpa only [hrange, yearRange_eq, List.map_map, Function.comp_def] using h

/-- Where the numbers of words are integers, the statistics of the groups of a field
make up those of all records.  Another order of the records changes nothing. -/
theorem byField_conserves {key : String} (hwhole : WholeWords f records)
    (hgroups : (Group.byField key records).outcome = .ok groups)
    (htotal : collect f records = .ok total)
    (hstats : (groups.mapM fun g => ofGroup f g.2) = .ok stats) :
    total.count = records.length ∧ Conserves total stats ∧
      ∀ records', records'.Perm records → ∃ groups' total' stats',
        (Group.byField key records').outcome = .ok groups' ∧
        collect f records' = .ok total' ∧
        (groups'.mapM fun g => ofGroup f g.2) = .ok stats' ∧
        Conserves total' stats' ∧ Agree total' total := by
  have hbyKey := Group.byField_eq_ok.mp hgroups
  have hparts := (Group.byKey_partitions hbyKey).partition
  refine ⟨(figures_of_collect hwhole htotal).1,
    conserves_of_partition hwhole hparts htotal hstats, fun records' hperm => ?_⟩
  have hwhole' : WholeWords f records' := fun r hr => hwhole r (hperm.mem_iff.mp hr)
  obtain ⟨groups', hbyKey'⟩ := Group.exists_byKey_iff.mpr fun r hr =>
    Group.exists_byKey_iff.mp ⟨groups, hbyKey⟩ r (hperm.mem_iff.mp hr)
  obtain ⟨total', htotal'⟩ := exists_collect_of_perm hwhole hperm htotal
  -- Each group is one of the groups from before in another order.
  have hgroup : ∀ g' ∈ groups', ∃ s', ofGroup f g'.2 = .ok s' := by
    intro g' hg'
    obtain ⟨g, hg, hmembers⟩ := Group.exists_perm_of_byKey hperm hbyKey hbyKey' g' hg'
    obtain ⟨s, -, hs⟩ := ok_of_mapM_ok hstats g hg
    obtain ⟨all, hall, -⟩ := ofGroup_eq_ok.mp hs
    have hsub : g.2 ⊆ records := (hparts.inOrder g.2 (List.mem_map_of_mem hg)).subset
    obtain ⟨all', hall'⟩ :=
      exists_collect_of_perm (fun r hr => hwhole r (hsub hr)) hmembers hall
    exact ⟨_, ofGroup_eq_ok.mpr ⟨all', hall', rfl⟩⟩
  obtain ⟨stats', hstats'⟩ := exists_mapM_ok hgroup
  have hparts' := (Group.byKey_partitions hbyKey').partition
  exact ⟨groups', total', stats', Group.byField_eq_ok.mpr hbyKey', htotal', hstats',
    conserves_of_partition hwhole' hparts' htotal' hstats',
    agree_of_perm hwhole hperm htotal htotal'⟩

end Groups

end Statistics

namespace Sample

def essay (serial : Nat) (entries : List (String × Value)) : Record :=
  ⟨serial, toString serial, "", .ofEntries entries⟩

/-- Two shelves and a record on none.  Words and years are missing here and there,
and two of them are texts. -/
def essays : List Record :=
  [essay 0 [("shelf", .text "a"), ("word-count", .int 12), ("year", .int 1990)],
    essay 1 [("shelf", .text "b"), ("word-count", .text "30")],
    essay 2 [("shelf", .text "a"), ("year", .text "1985")],
    essay 3 [("word-count", .int 5), ("year", .float (.ofInt 2001))]]

theorem exists_statistics_essays :
    Statistics.WholeWords {} essays ∧
      ∃ groups total stats, (Group.byField "shelf" essays).outcome = .ok groups ∧
        Statistics.collect {} essays = .ok total ∧
        (groups.mapM fun g => Statistics.ofGroup {} g.2) = .ok stats ∧
        (stats.map fun s => s.totalWords) = [.int 12, .int 30, .int 5] := by
  have hrun : Statistics.WholeWords {} essays ∧ gives (do
      let groups ← (Group.byField "shelf" essays).outcome
      let _ ← Statistics.collect {} essays
      let stats ← groups.mapM fun g => Statistics.ofGroup {} g.2
      pure (stats.map fun s => s.totalWords)) [.int 12, .int 30, .int 5] = true := by
    decide +kernel
  obtain ⟨hwhole, hwords⟩ := hrun
  obtain ⟨groups, hgroups, h⟩ := bind_eq_ok.mp (gives_iff.mp hwords)
  obtain ⟨total, htotal, h⟩ := bind_eq_ok.mp h
  obtain ⟨stats, hstats, h⟩ := bind_eq_ok.mp h
  exact ⟨hwhole, groups, total, stats, hgroups, htotal, hstats, pure_eq_ok.mp h⟩

end Sample

namespace Statistics

open Sample in
theorem byField_conserves_essays :
    ∃ groups total stats, WholeWords {} essays ∧
      (Group.byField "shelf" essays).outcome = .ok groups ∧
      collect {} essays = .ok total ∧ (groups.mapM fun g => ofGroup {} g.2) = .ok stats ∧
      (stats.map fun s => s.totalWords) = [.int 12, .int 30, .int 5] ∧
      total.count = essays.length ∧ Conserves total stats ∧
      ∀ records', records'.Perm essays → ∃ groups' total' stats',
        (Group.byField "shelf" records').outcome = .ok groups' ∧
        collect {} records' = .ok total' ∧ (groups'.mapM fun g => ofGroup {} g.2) = .ok stats' ∧
        Conserves total' stats' ∧ Agree total' total := by
  obtain ⟨hwhole, groups, total, stats, hgroups, htotal, hstats, hwords⟩ :=
    exists_statistics_essays
  exact ⟨groups, total, stats, hwhole, hgroups, htotal, hstats, hwords,
    byField_conserves hwhole hgroups htotal hstats⟩

end Statistics
end Facets
