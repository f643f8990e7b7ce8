import Facets.Calendar.Moment

/-
Clocks that are set forward and back.

The changes of a zone come in turn, so among the readings that have one offset the later
ones belong to later instants (`Zone.instant_lt_of_steady`).  Moments that are one
therefore fall into classes (`Moment.same_trans`), which is what keys and choices need.
Their order is another matter: `Moment.isBefore` goes by the clock inside of a zone and by
the instant outside, and at twofold readings the two disagree.  `Moment.IsOrdered` says of
moments that they have one order, as those without twofold readings do
(`Moment.isOrdered_of_steady`).
-/
namespace Facets

namespace ClockChange

variable (before : Offset) (c : ClockChange)

theorem reading_true_le : c.reading before true ≤ c.reading before false := by
  simp only [reading, if_true, Bool.false_eq_true, if_false]
  omega

theorem instant_add_le_reading :
    c.instant + before.micros ≤ c.reading before false ∧
      c.instant + c.offset.micros ≤ c.reading before false := by
  simp only [reading, Bool.false_eq_true, if_false]
  omega

theorem reading_le_instant_add :
    c.reading before true ≤ c.instant + before.micros ∧
      c.reading before true ≤ c.instant + c.offset.micros := by
  simp only [reading, if_true]
  omega

end ClockChange

namespace Zone

open ClockChange

variable {before : Offset} {c : ClockChange} {changes : List ClockChange} {reading : Int}
  {later : Bool}

theorem areInTurn_tail (h : areInTurn before (c :: changes) = true) :
    areInTurn c.offset changes = true := by
  cases changes with
  | nil => rfl
  | cons next rest =>
    rw [areInTurn, Bool.and_eq_true] at h
    exact h.2

/-- Around one change no other change matters. -/
theorem offsetAmong_of_lt (h : areInTurn before (c :: changes) = true)
    (hlt : reading < c.reading before false) :
    offsetAmong reading later c.offset changes = c.offset := by
  cases changes with
  | nil => rfl
  | cons next rest =>
    rw [areInTurn, Bool.and_eq_true, decide_eq_true_eq] at h
    have hnext : next.reading c.offset true ≤ next.reading c.offset later := by
      cases later
      · exact reading_true_le _ next
      · exact Int.le_refl _
    rw [offsetAmong, if_neg]
    omega

/-- What is read after a change comes after it. -/
theorem instant_le_of_reading_le (h : areInTurn before (c :: changes) = true)
    (hle : c.reading before false ≤ reading) :
    c.instant ≤ reading - (offsetAmong reading false c.offset changes).micros := by
  induction changes generalizing before c with
  | nil =>
    have hc := (instant_add_le_reading before c).2
    rw [offsetAmong]
    omega
  | cons next rest ih =>
    have hc := (instant_add_le_reading before c).2
    have hturn := h
    rw [areInTurn, Bool.and_eq_true, decide_eq_true_eq] at hturn
    rw [offsetAmong]
    by_cases hnext : next.reading c.offset false ≤ reading
    · have hlater := ih (areInTurn_tail h) hnext
      have hstart := (reading_le_instant_add c.offset next).1
      rw [if_pos hnext]
      omega
    · rw [if_neg hnext]
      omega

/-- A reading that has one offset, whichever of its times is meant. -/
def IsSteady (reading : Int) (before : Offset) (changes : List ClockChange) : Prop :=
  offsetAmong reading true before changes = offsetAmong reading false before changes

/-- A change is past for both times of a steady reading, or for neither. -/
theorem past_of_steady (h : areInTurn before (c :: changes) = true)
    (hsteady : IsSteady reading before (c :: changes)) (hpast : c.reading before true ≤ reading) :
    c.reading before false ≤ reading := by
  refine Decidable.byContradiction fun hahead => ?_
  have hlt : reading < c.reading before false := by omega
  rw [IsSteady, offsetAmong, if_pos hpast, offsetAmong, if_neg hahead,
    offsetAmong_of_lt h hlt] at hsteady
  have hsame : c.reading before true = c.reading before false := by
    simp [ClockChange.reading, hsteady]
  omega

theorem isSteady_tail (hsteady : IsSteady reading before (c :: changes))
    (hpast : c.reading before false ≤ reading) : IsSteady reading c.offset changes := by
  have hpast' : c.reading before true ≤ reading := Int.le_trans (reading_true_le before c) hpast
  rwa [IsSteady, offsetAmong, if_pos hpast', offsetAmong, if_pos hpast] at hsteady

/-- Of two steady readings the later one belongs to the later instant. -/
theorem instant_lt_of_steady {reading' : Int} (h : areInTurn before changes = true)
    (hsteady : IsSteady reading before changes) (hsteady' : IsSteady reading' before changes)
    (hlt : reading < reading') :
    reading - (offsetAmong reading false before changes).micros <
      reading' - (offsetAmong reading' false before changes).micros := by
  induction changes generalizing before with
  | nil =>
    rw [offsetAmong, offsetAmong]
    omega
  | cons c rest ih =>
    by_cases hpast : c.reading before false ≤ reading
    · have hpast' : c.reading before false ≤ reading' := by omega
      rw [offsetAmong, if_pos hpast, offsetAmong, if_pos hpast']
      exact ih (areInTurn_tail h) (isSteady_tail hsteady hpast) (isSteady_tail hsteady' hpast')
    · have hahead : ¬ c.reading before true ≤ reading :=
        fun hle => hpast (past_of_steady h hsteady hle)
      have hstart := (reading_le_instant_add before c).1
      rw [offsetAmong, if_neg hpast]
      by_cases hpast' : c.reading before false ≤ reading'
      · have hinstant := instant_le_of_reading_le h hpast'
        have hbefore : reading - before.micros < c.instant := by
          simp only [ClockChange.reading, if_true] at hahead
          omega
        rw [offsetAmong, if_pos hpast']
        omega
      · rw [offsetAmong, if_neg hpast']
        omega

end Zone

namespace Moment

variable {m m' m'' : Moment}

/-! ## Moments that are one -/

theorem sharesZone_iff :
    m.sharesZone m' = true ↔ ∃ z, m.place = .zone z ∧ m'.place = .zone z := by
  unfold sharesZone
  cases m.place with
  | fixed o => simp
  | zone z =>
    cases m'.place with
    | fixed o => simp
    | zone z' =>
      constructor
      · intro h
        exact ⟨z, rfl, congrArg Place.zone (eq_of_beq h).symm⟩
      · intro h
        obtain ⟨y, hz, hz'⟩ := h
        exact beq_iff_eq.mpr ((Place.zone.inj hz).trans (Place.zone.inj hz').symm)

theorem sharesZone_comm (m m' : Moment) : m.sharesZone m' = m'.sharesZone m := by
  rw [Bool.eq_iff_iff, sharesZone_iff, sharesZone_iff]
  exact exists_congr fun z => and_comm

theorem sharesZone_trans (h : m.sharesZone m' = true) (h' : m'.sharesZone m'' = true) :
    m.sharesZone m'' = true := by
  obtain ⟨z, hm, hm'⟩ := sharesZone_iff.mp h
  obtain ⟨z', hz', hm''⟩ := sharesZone_iff.mp h'
  obtain rfl : z = z' := Place.zone.inj (hm'.symm.trans hz')
  exact sharesZone_iff.mpr ⟨z, hm, hm''⟩

theorem isTwofold_of_fixed {o : Offset} (h : m.place = .fixed o) : m.isTwofold = false := by
  rw [isTwofold, offset, h]
  exact bne_self_eq_false o

theorem isTwofold_eq_false_iff {z : Zone} (h : m.place = .zone z) :
    m.isTwofold = false ↔ Zone.IsSteady m.clock.micros z.start z.changes := by
  have hflip : ({ m.clock with later := !m.clock.later } : LocalTime).micros = m.clock.micros :=
    rfl
  rw [isTwofold, offset, h, Place.offsetAt, Place.offsetAt, hflip, bne_eq_false_iff_eq,
    Zone.IsSteady]
  cases m.clock.later with
  | false => rfl
  | true => exact eq_comm

/-- A reading that is not twofold has one offset, whichever of its times is meant. -/
theorem offset_of_steady {z : Zone} (h : m.place = .zone z) (hm : m.isTwofold = false) :
    m.offset = Zone.offsetAmong m.clock.micros false z.start z.changes := by
  have hsteady : Zone.IsSteady _ _ _ := (isTwofold_eq_false_iff h).mp hm
  rw [offset, h, Place.offsetAt]
  cases m.clock.later with
  | false => rfl
  | true => exact hsteady

/-- What shows the same in one zone is one instant, and twofold or not together. -/
theorem instant_eq_of_clock {z : Zone} (h : m.place = .zone z) (h' : m'.place = .zone z)
    (hm : m.isTwofold = false) (hclock : m.clock.micros = m'.clock.micros) :
    m.instant = m'.instant ∧ m'.isTwofold = false := by
  have hm' : m'.isTwofold = false := by
    rw [isTwofold_eq_false_iff h] at hm
    rwa [isTwofold_eq_false_iff h', ← hclock]
  refine ⟨?_, hm'⟩
  rw [instant, instant, offset_of_steady h hm, offset_of_steady h' hm', hclock]

theorem instant_lt_of_clock {z : Zone} (h : m.place = .zone z) (h' : m'.place = .zone z)
    (hm : m.isTwofold = false) (hm' : m'.isTwofold = false)
    (hclock : m.clock.micros < m'.clock.micros) : m.instant < m'.instant := by
  have hlt := Zone.instant_lt_of_steady z.inTurn ((isTwofold_eq_false_iff h).mp hm)
    ((isTwofold_eq_false_iff h').mp hm') hclock
  rwa [instant, instant, offset_of_steady h hm, offset_of_steady h' hm']

/-- In one zone the clock and the instant give one order of the readings that are not
twofold. -/
theorem clock_lt_iff (hzone : m.sharesZone m' = true) (hm : m.isTwofold = false)
    (hm' : m'.isTwofold = false) :
    m.clock.micros < m'.clock.micros ↔ m.instant < m'.instant := by
  obtain ⟨z, h, h'⟩ := sharesZone_iff.mp hzone
  refine ⟨instant_lt_of_clock h h' hm hm', fun hinstant => ?_⟩
  refine Decidable.byContradiction fun hclock => ?_
  rcases Int.lt_or_eq_of_le (Int.not_lt.mp hclock) with hlt | heq
  · have := instant_lt_of_clock h' h hm' hm hlt
    omega
  · have := (instant_eq_of_clock h' h hm' heq).1
    omega

theorem same_refl (m : Moment) : m.same m = true := by
  unfold same
  cases hzone : m.sharesZone m with
  | true => simp
  | false =>
    have hm : m.isTwofold = false := by
      cases hplace : m.place with
      | fixed o => exact isTwofold_of_fixed hplace
      | zone z =>
        rw [sharesZone_iff.mpr ⟨z, hplace, hplace⟩] at hzone
        cases hzone
    simp [hm]

/-- A moment that is one with a moment of another place is not twofold. -/
theorem same_iff_of_not_sharesZone (hzone : m.sharesZone m' = false) :
    m.same m' = true ↔ m.instant = m'.instant ∧ m.isTwofold = false ∧ m'.isTwofold = false := by
  simp [same, hzone, and_assoc]

theorem same_iff_of_sharesZone (hzone : m.sharesZone m' = true) :
    m.same m' = true ↔ m.clock.micros = m'.clock.micros := by
  simp [same, hzone]

theorem same_symm (h : m.same m' = true) : m'.same m = true := by
  cases hzone : m.sharesZone m' with
  | true =>
    rw [same_iff_of_sharesZone (sharesZone_comm m m' ▸ hzone)]
    exact ((same_iff_of_sharesZone hzone).mp h).symm
  | false =>
    obtain ⟨hinstant, hm, hm'⟩ := (same_iff_of_not_sharesZone hzone).mp h
    rw [same_iff_of_not_sharesZone (sharesZone_comm m m' ▸ hzone)]
    exact ⟨hinstant.symm, hm', hm⟩

/-- What is one with a moment of its zone is one with whatever that moment is one with
elsewhere. -/
theorem same_trans_of_sharesZone (hzone : m.sharesZone m' = true)
    (hzone' : m'.sharesZone m'' = false) (h : m.same m' = true) (h' : m'.same m'' = true) :
    m.same m'' = true := by
  obtain ⟨z, hm, hm'⟩ := sharesZone_iff.mp hzone
  have hclock := (same_iff_of_sharesZone hzone).mp h
  obtain ⟨hinstant, hsteady', hsteady''⟩ := (same_iff_of_not_sharesZone hzone').mp h'
  obtain ⟨hshown, hsteady⟩ := instant_eq_of_clock hm' hm hsteady' hclock.symm
  have hother : m.sharesZone m'' = false := by
    rw [Bool.eq_false_iff] at hzone' ⊢
    exact fun hshares => hzone' (sharesZone_trans (sharesZone_comm m m' ▸ hzone) hshares)
  exact (same_iff_of_not_sharesZone hother).mpr ⟨hshown.symm.trans hinstant, hsteady, hsteady''⟩

theorem same_trans (h : m.same m' = true) (h' : m'.same m'' = true) : m.same m'' = true := by
  cases hzone : m.sharesZone m' with
  | true =>
    cases hzone' : m'.sharesZone m'' with
    | true =>
      rw [same_iff_of_sharesZone (sharesZone_trans hzone hzone')]
      exact ((same_iff_of_sharesZone hzone).mp h).trans ((same_iff_of_sharesZone hzone').mp h')
    | false => exact same_trans_of_sharesZone hzone hzone' h h'
  | false =>
    cases hzone' : m'.sharesZone m'' with
    | true =>
      have hback := same_trans_of_sharesZone (sharesZone_comm m' m'' ▸ hzone')
        (sharesZone_comm m m' ▸ hzone) (same_symm h') (same_symm h)
      exact same_symm hback
    | false =>
      obtain ⟨hinstant, hm, -⟩ := (same_iff_of_not_sharesZone hzone).mp h
      obtain ⟨hinstant', -, hm''⟩ := (same_iff_of_not_sharesZone hzone').mp h'
      have hends : m.instant = m''.instant := hinstant.trans hinstant'
      cases hshares : m.sharesZone m'' with
      | true =>
        have hlt := clock_lt_iff hshares hm hm''
        have hgt := clock_lt_iff (sharesZone_comm m m'' ▸ hshares) hm'' hm
        rw [same_iff_of_sharesZone hshares]
        omega
      | false => exact (same_iff_of_not_sharesZone hshares).mpr ⟨hends, hm, hm''⟩

/-! ## The order of moments -/

theorem isBefore_iff_of_sharesZone (hzone : m.sharesZone m' = true) :
    m.isBefore m' = true ↔ m.clock.micros < m'.clock.micros := by
  simp [isBefore, hzone]

theorem isBefore_iff_of_not_sharesZone (hzone : m.sharesZone m' = false) :
    m.isBefore m' = true ↔ m.instant < m'.instant := by
  simp [isBefore, hzone]

/-- Of two moments at most one is before the other. -/
theorem isBefore_asymm (h : m.isBefore m' = true) : m'.isBefore m = false := by
  rw [Bool.eq_false_iff]
  intro h'
  cases hzone : m.sharesZone m' with
  | true =>
    rw [isBefore_iff_of_sharesZone hzone] at h
    rw [isBefore_iff_of_sharesZone (sharesZone_comm m m' ▸ hzone)] at h'
    omega
  | false =>
    rw [isBefore_iff_of_not_sharesZone hzone] at h
    rw [isBefore_iff_of_not_sharesZone (sharesZone_comm m m' ▸ hzone)] at h'
    omega

/-- Moments that have one order: where `b` is not before `a` and `c` is not before `b`, `c` is
not before `a`. -/
def IsOrdered (ms : List Moment) : Prop :=
  ∀ a ∈ ms, ∀ b ∈ ms, ∀ c ∈ ms,
    b.isBefore a = false → c.isBefore b = false → c.isBefore a = false

instance (ms : List Moment) : Decidable (IsOrdered ms) :=
  inferInstanceAs (Decidable (∀ _ ∈ _, _))

theorem IsOrdered.mono {ms ns : List Moment} (h : IsOrdered ms) (hsub : ns ⊆ ms) :
    IsOrdered ns :=
  fun a ha b hb c hc => h a (hsub ha) b (hsub hb) c (hsub hc)

/-- What goes by one number has one order. -/
theorem isOrdered_of_rank {ms : List Moment} (rank : Moment → Int)
    (h : ∀ m ∈ ms, ∀ m' ∈ ms, m.isBefore m' = true ↔ rank m < rank m') : IsOrdered ms := by
  intro a ha b hb c hc hba hcb
  rw [← Bool.not_eq_true, h b hb a ha] at hba
  rw [← Bool.not_eq_true, h c hc b hb] at hcb
  rw [← Bool.not_eq_true, h c hc a ha]
  omega

/-- Without twofold readings moments have one order, that of their instants. -/
theorem isOrdered_of_steady {ms : List Moment} (h : ∀ m ∈ ms, m.isTwofold = false) :
    IsOrdered ms := by
  refine isOrdered_of_rank instant fun m hm m' hm' => ?_
  cases hzone : m.sharesZone m' with
  | true => rw [isBefore_iff_of_sharesZone hzone, clock_lt_iff hzone (h m hm) (h m' hm')]
  | false => exact isBefore_iff_of_not_sharesZone hzone

/-- Moments of one zone have one order, that of its clocks. -/
theorem isOrdered_of_zone {ms : List Moment} {z : Zone} (h : ∀ m ∈ ms, m.place = .zone z) :
    IsOrdered ms := by
  refine isOrdered_of_rank (fun m => m.clock.micros) fun m hm m' hm' => ?_
  exact isBefore_iff_of_sharesZone (sharesZone_iff.mpr ⟨z, h m hm, h m' hm'⟩)

end Moment
end Facets
