import Facets.Calendar.Printer
import Facets.Calendar.Reader
import Facets.Proofs.Text.Digits

/-
Dates that are read from their own text.

A day of the calendar is printed with fields of fixed widths, which are the widths that
the reader takes (`takeFixed_padded`), so the text of a date is read as that date
(`Calendar.readDate?_isoDateChars`), at midnight of universal time
(`Moment.ofText?_isoDateChars`).
-/
namespace Facets

open Text Calendar

namespace Date

theorem month_le (d : Date) : d.month ≤ 12 := by
  have hday := d.isDate.2.2
  by_contra hmonth
  have hnone : daysInMonth d.year d.month = 0 := by
    unfold daysInMonth
    split <;> omega
  omega

theorem day_le (d : Date) : d.day ≤ 31 := by
  have hday := d.isDate.2.2
  have hmonth : daysInMonth d.year d.month ≤ 31 := by
    unfold daysInMonth
    split <;> (try split) <;> omega
  omega

end Date

namespace Calendar

variable {n width : Nat}

theorem takeFixed_padded (hwidth : 0 < width) (h : n < 10 ^ width) (rest : List Char) :
    takeFixed width (padded width n ++ rest) = some (n, rest) := by
  have hlength := length_padded hwidth h
  have hdigits : (padded width n).all Char.isDigit = true :=
    List.all_eq_true.mpr (digits_padded width n)
  simp only [takeFixed, List.take_left' hlength, List.drop_left' hlength]
  rw [if_pos ⟨hlength, hdigits⟩, ofDecimal_padded]

theorem isoDateChars_eq (d : Date) :
    isoDateChars d = padded 4 d.year ++ '-' :: (padded 2 d.month ++ '-' :: padded 2 d.day) := rfl

theorem year_lt (d : Date) : d.year < 10 ^ 4 := Nat.lt_succ_of_le d.isDate.2.1

theorem month_lt (d : Date) : d.month < 10 ^ 2 := Nat.lt_of_le_of_lt d.month_le (by decide)

theorem day_lt (d : Date) : d.day < 10 ^ 2 := Nat.lt_of_le_of_lt d.day_le (by decide)

/-- A month does not begin with the mark of a week. -/
theorem month_not_week (d : Date) (rest : List Char) :
    (padded 2 d.month ++ rest).head? ≠ some 'W' := by
  have hdigits := digits_padded 2 d.month
  have hlength := length_padded (by decide) (month_lt d)
  cases hmonth : padded 2 d.month with
  | nil =>
    rw [hmonth] at hlength
    cases hlength
  | cons c cs =>
    intro hweek
    obtain rfl := Option.some.inj hweek
    rw [hmonth] at hdigits
    exact absurd (hdigits 'W' List.mem_cons_self) (by decide)

theorem readDate?_isoDateChars (d : Date) : readDate? (isoDateChars d) = some d := by
  have hyear := takeFixed_padded (by decide) (year_lt d)
    ('-' :: (padded 2 d.month ++ '-' :: padded 2 d.day))
  have hmonth := takeFixed_padded (by decide) (month_lt d) ('-' :: padded 2 d.day)
  have hday := takeFixed_padded (by decide) (day_lt d) []
  rw [List.append_nil] at hday
  rw [readDate?, isoDateChars_eq, hyear]
  simp only [Option.bind_eq_bind, Option.bind_some]
  split
  · rename_i rest hrest
    have hweek := congrArg List.head? hrest
    exact absurd hweek (month_not_week d _)
  · simp [hmonth, hday, takeDash, Date.ofParts?, d.isDate]

theorem length_isoDateChars (d : Date) : (isoDateChars d).length = 10 := by
  have hyear := length_padded (by decide) (year_lt d)
  have hmonth := length_padded (by decide) (month_lt d)
  have hday := length_padded (by decide) (day_lt d)
  simp [isoDateChars_eq, hyear, hmonth, hday]

theorem dateLength?_isoDateChars (d : Date) : dateLength? (isoDateChars d) = some 10 := by
  have hyear := length_padded (by decide) (year_lt d)
  have hdash : (isoDateChars d)[4]? = some '-' := by
    rw [isoDateChars_eq, List.getElem?_append_right (Nat.le_of_eq hyear), hyear]
    rfl
  have hweek : (isoDateChars d)[5]? ≠ some 'W' := by
    have hle : (padded 4 d.year).length ≤ 5 := by omega
    have hhead := month_not_week d ('-' :: padded 2 d.day)
    rw [isoDateChars_eq, List.getElem?_append_right hle, hyear]
    rwa [List.head?_eq_getElem?] at hhead
  unfold dateLength?
  simp only [length_isoDateChars, hdash, hweek]
  rfl

theorem readDateTime?_isoDateChars (d : Date) :
    readDateTime? (isoDateChars d) = some (.startOf d, none) := by
  have htake : (isoDateChars d).take 10 = isoDateChars d :=
    List.take_of_length_le (Nat.le_of_eq (length_isoDateChars d))
  have hdrop : (isoDateChars d).drop 10 = [] :=
    List.drop_of_length_le (Nat.le_of_eq (length_isoDateChars d))
  simp [readDateTime?, dateLength?_isoDateChars, htake, hdrop, readDate?_isoDateChars]

theorem not_isBlank_isoDateChars (d : Date) : ∀ c ∈ isoDateChars d, isBlank c = false := by
  have hdash : isBlank '-' = false := by decide
  intro c hc
  rw [isoDateChars_eq, List.mem_append, List.mem_cons, List.mem_append, List.mem_cons] at hc
  rcases hc with hc | rfl | hc | rfl | hc
  · exact not_isBlank_of_isDigit (digits_padded _ _ c hc)
  · exact hdash
  · exact not_isBlank_of_isDigit (digits_padded _ _ c hc)
  · exact hdash
  · exact not_isBlank_of_isDigit (digits_padded _ _ c hc)

end Calendar

/-- The text of a date is read as midnight of universal time. -/
theorem Moment.ofText?_isoDateChars (d : Date) :
    ofText? (strip (isoDateChars d)) = some ⟨.startOf d, .utc⟩ := by
  rw [strip_eq_self (not_isBlank_isoDateChars d), ofText?, readDateTime?_isoDateChars]
  rfl

end Facets
