import Facets.Proofs.Calendar.Dates
import Facets.Proofs.Field.Coercion
import Facets.Proofs.Filter.Select
import Facets.Proofs.Number.Reading

/-
Plain texts that are read back.

The plain text of a value of a scalar type is read as a value that is one with it
(`Kind.plain_reads_back`), and it is its own plain text.  An integral double is written
as an integer of its value (`Number.exists_plain_of_isWhole`), and a moment as the day
that its clock shows.
-/
namespace Facets

open Outcome Text

/-! ## Numbers -/

namespace Number

variable {n : Int} {x : FiniteDouble}

theorem not_isBlank_integerChars (n : Int) : ∀ c ∈ integerChars n, isBlank c = false := by
  have hdigits : ∀ c ∈ decimal n.natAbs, isBlank c = false := fun c hc =>
    not_isBlank_of_isDigit (digits_decimal _ c hc)
  unfold integerChars
  split
  · exact List.forall_mem_cons.mpr ⟨by decide, hdigits⟩
  · exact hdigits

theorem spells_integerChars (n : Int) :
    Numeral.Spells ⟨n < 0, decimal n.natAbs, none, none⟩ (integerChars n) := by
  have hmantissa := Mantissa.whole (digits_decimal n.natAbs) (decimal_ne_nil n.natAbs)
  unfold integerChars
  by_cases hneg : n < 0
  · have hspells := Numeral.Spells.mk .minus hmantissa .absent
    rw [List.append_nil] at hspells
    simpa [hneg] using hspells
  · have hspells := Numeral.Spells.mk .absent hmantissa .absent
    rw [List.append_nil] at hspells
    simpa [hneg] using hspells

/-- The text of an integer is read as the integer. -/
theorem ofText_integerChars (h : Value.isShort n = true) :
    ofText (String.ofList (integerChars n)) = .ok (some (.int n)) := by
  have hlength : (decimal n.natAbs).length ≤ Fault.digitLimit :=
    length_decimal_le (by decide) (of_decide_eq_true h)
  have hinteger : Numeral.integer ⟨n < 0, decimal n.natAbs, none, none⟩ = n := by
    simp only [Numeral.integer, ofDecimal_decimal, decide_eq_true_eq]
    split <;> omega
  rw [ofText, String.toList_ofList, strip_eq_self (not_isBlank_integerChars n),
    Numeral.read?_of_spells (spells_integerChars n)]
  dsimp only
  rw [Numeral.number_of_isInteger rfl hlength, hinteger]

theorem scaled_truncate (h : x.isIntegral = true) : x.truncate * unitsInOne = x.scaled := by
  have hunits : (x.units / unitsInOne * unitsInOne : Nat) = x.units :=
    Nat.div_mul_cancel (Nat.dvd_of_mod_eq_zero (beq_iff_eq.mp h))
  unfold FiniteDouble.truncate FiniteDouble.scaled
  dsimp only
  split
  · rw [Int.neg_mul, ← Int.natCast_mul, hunits]
  · rw [← Int.natCast_mul, hunits]

/-- An integer that can be written, or a double without a fraction. -/
def IsWhole : Number → Prop
  | .int n => Value.isShort n = true
  | .float x => x.isIntegral = true

theorem exists_plain_of_isWhole {n : Number} (h : n.IsWhole) :
    ∃ m : Int, n.value = m ∧ Value.isShort m = true ∧
      n.plain = .ok (String.ofList (integerChars m)) := by
  cases n with
  | int n => exact ⟨n, rfl, h, Value.integerText_eq_ok h⟩
  | float x =>
    have hscaled := scaled_truncate h
    have hvalue : (float x).value = (int x.truncate).value := value_inj.mpr hscaled.symm
    exact ⟨x.truncate, hvalue, Value.isShort_of_lt (Value.natAbs_lt_of_scaled hscaled), if_pos h⟩

end Number

/-! ## Typed values -/

namespace Typed

/-- What the plain text of a typed value is read as: a number of its value, midnight of
its day in universal time, or the value itself. -/
inductive ReadsBack : Typed → Typed → Prop
  | text (s : String) : ReadsBack (.text s) (.text s)
  | number {m n : Number} (h : m.value = n.value) : ReadsBack (.number m) (.number n)
  | flag (b : Bool) : ReadsBack (.flag b) (.flag b)
  | moment (m : Moment) : ReadsBack (.moment m) (.moment ⟨.startOf m.clock.date, .utc⟩)

variable {t : Typed}

theorem exists_readsBack (ht : t.Fit) (hscalar : t.kind.isScalar = true)
    (hwhole : ∀ n, t = .number n → n.IsWhole) :
    ∃ p u, t.plain = .ok p ∧ p ≠ "" ∧ t.kind.convert (.text p) = .ok (some u) ∧
      ReadsBack t u ∧ u.plain = .ok p := by
  cases t with
  | text s =>
    have hs : s ≠ "" := by simpa [toValue, Value.isEmpty] using ht.1
    exact ⟨s, .text s, rfl, hs, by simp [kind, Kind.convert, Value.asText, hs], .text s, rfl⟩
  | number n =>
    obtain ⟨m, hvalue, hshort, hplain⟩ := Number.exists_plain_of_isWhole (hwhole n rfl)
    have hread := Number.ofText_integerChars hshort
    have htext : (Typed.number (.int m)).plain =
        .ok (String.ofList (Number.integerChars m)) := by
      rw [plain, Number.plain, Value.integerText_eq_ok hshort]
    refine ⟨_, .number (.int m), hplain, Number.plain_ne_empty hplain, ?_, .number hvalue, htext⟩
    rw [kind, Kind.convert, Value.asNumber, hread, ok_bind]
    rfl
  | flag b =>
    refine ⟨if b then "true" else "false", .flag b, rfl, ?_, ?_, .flag b, rfl⟩
    · cases b <;> decide
    · cases b <;> rfl
  | moment m =>
    refine ⟨_, .moment ⟨.startOf m.clock.date, .utc⟩, rfl, ?_, ?_, .moment m, rfl⟩
    · simp [Calendar.isoDateChars_eq]
    · rw [kind, Kind.convert, Value.asMoment, String.toList_ofList,
        Moment.ofText?_isoDateChars]
      rfl
  | items _ | labels _ | mapping _ => cases hscalar

end Typed

namespace Kind

variable {k : Kind} {v : Value} {t : Typed}

theorem coerce_text {p : String} (h : p ≠ "") : k.coerce (.text p) = k.convert (.text p) :=
  if_neg (by simpa [Value.isEmpty] using h)

/-- The plain text of a scalar value is not empty, it is read as what the value is, and
it is its own plain text.  Numbers are written exactly when they have no fraction. -/
theorem plain_reads_back (hscalar : k.isScalar = true) (h : k.coerce v = .ok (some t))
    (hwhole : ∀ n, t = .number n → n.IsWhole) :
    ∃ p u, k.plain v = .ok p ∧ p ≠ "" ∧ k.coerce (.text p) = .ok (some u) ∧
      t.ReadsBack u ∧ k.plain (.text p) = .ok p := by
  have hkind : t.kind = k := kind_of_coerce h
  rw [← hkind] at hscalar
  obtain ⟨p, u, hp, hne, hconvert, hback, hu⟩ :=
    Typed.exists_readsBack (fit_of_coerce h) hscalar hwhole
  rw [hkind] at hconvert
  have hcoerce : k.coerce (.text p) = .ok (some u) := by rw [coerce_text hne, hconvert]
  refine ⟨p, u, ?_, hne, hcoerce, hback, ?_⟩
  · rw [plain, h, ok_bind]
    exact hp
  · rw [plain, hcoerce, ok_bind]
    exact hu

end Kind

theorem Number.onGrid_zero : OnGrid 0 := by decide +kernel

/-- Zero as it is left by what rounds to it from below. -/
def Sample.negativeZero : Number := .float ⟨true, 0, Number.onGrid_zero⟩

open Sample in
theorem Kind.plain_reads_back_negativeZero :
    ∃ u, number.plain (Value.ofNumber negativeZero) = .ok "0" ∧
      number.coerce (.text "0") = .ok (some u) ∧ (Typed.number negativeZero).ReadsBack u ∧
      number.plain (.text "0") = .ok "0" := by
  have hzero : gives (number.plain (Value.ofNumber negativeZero)) "0" = true := by decide +kernel
  have hwhole : ∀ n, Typed.number negativeZero = .number n → n.IsWhole := by
    intro n hn
    obtain rfl := Typed.number.inj hn
    simp [negativeZero, Number.IsWhole, Number.FiniteDouble.isIntegral]
  obtain ⟨p, u, hp, -, hcoerce, hback, hagain⟩ :=
    plain_reads_back (k := number) (v := Value.ofNumber negativeZero) rfl rfl hwhole
  obtain rfl := Except.ok.inj (hp.symm.trans (gives_iff.mp hzero))
  exact ⟨u, gives_iff.mp hzero, hcoerce, hback, hagain⟩

end Facets
