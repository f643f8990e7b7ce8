import Facets.Text.Blank
import Facets.Text.Digit
import Mathlib.Algebra.Ring.Nat

/-
Texts of decimal digits.

What a digit text stands for is a sum over its digits (`ofDecimal_append`), so it is
bounded by the length of the text, and texts of one length are in the order of their
numbers (`ofDecimal_lt_of_lt`).
-/
namespace Facets
namespace Text

variable {s t cs ds : List Char} {c : Char} {n width : Nat}

def Digits (cs : List Char) : Prop := ∀ c ∈ cs, c.isDigit = true

theorem digits_append_iff : Digits (cs ++ ds) ↔ Digits cs ∧ Digits ds := List.forall_mem_append

/-- A digit is no character of another kind. -/
theorem ne_of_isDigit {d : Char} (hd : d.isDigit = true) (hc : c.isDigit = false) : d ≠ c := by
  rintro rfl
  exact Bool.false_ne_true (hc.symm.trans hd)

theorem Digits.not_mem (h : Digits cs) (hc : c.isDigit = false) : c ∉ cs := fun hmem =>
  ne_of_isDigit (h c hmem) hc rfl

theorem not_isBlank_of_isDigit (h : c.isDigit = true) : isBlank c = false := by
  obtain ⟨hlow, hhigh⟩ := Char.isDigit_iff_toNat.mp h
  have hzero : '0'.toNat = 48 := rfl
  have hnine : '9'.toNat = 57 := rfl
  simp only [isBlank, blanks, List.contains_eq_mem, List.mem_cons, List.not_mem_nil,
    or_false, decide_eq_false_iff_not]
  omega

/-- A text without blanks has none at its ends. -/
theorem strip_eq_self (h : ∀ c ∈ cs, isBlank c = false) : strip cs = cs := by
  have hdrop : ∀ ds : List Char, (∀ c ∈ ds, isBlank c = false) → ds.dropWhile isBlank = ds := by
    intro ds hds
    cases ds with
    | nil => rfl
    | cons d ds => exact List.dropWhile_cons_of_neg (by simp [hds d List.mem_cons_self])
  rw [strip, hdrop cs h, hdrop cs.reverse fun c hc => h c (List.mem_reverse.mp hc),
    List.reverse_reverse]

/-- What passes a test is taken off what begins with none that does. -/
theorem span_append {p : Char → Bool} (hcs : ∀ c ∈ cs, p c = true)
    (hds : ∀ d ∈ ds.head?, p d = false) :
    (cs ++ ds).takeWhile p = cs ∧ (cs ++ ds).dropWhile p = ds := by
  have hstop : ds.takeWhile p = [] ∧ ds.dropWhile p = ds := by
    cases ds with
    | nil => exact ⟨rfl, rfl⟩
    | cons d ds => simp [hds d rfl]
  rw [List.takeWhile_append_of_pos hcs, List.dropWhile_append_of_pos hcs, hstop.1, hstop.2,
    List.append_nil]
  exact ⟨rfl, rfl⟩

/-! ## The numbers of digit texts -/

theorem ofDecimal_append (cs ds : List Char) :
    ofDecimal (cs ++ ds) = 10 ^ ds.length * ofDecimal cs + ofDecimal ds := by
  rw [ofDecimal, Nat.ofDigitChars_append, Nat.ofDigitChars_eq_ofDigitChars_zero]
  rfl

theorem ofDecimal_cons (c : Char) (cs : List Char) :
    ofDecimal (c :: cs) = 10 ^ cs.length * (c.toNat - '0'.toNat) + ofDecimal cs := by
  rw [ofDecimal, Nat.ofDigitChars_cons, Nat.ofDigitChars_eq_ofDigitChars_zero, Nat.mul_zero,
    Nat.zero_add]
  rfl

theorem ofDecimal_lt (h : Digits cs) : ofDecimal cs < 10 ^ cs.length := by
  induction cs with
  | nil => exact Nat.one_pos
  | cons c cs ih =>
    have hrest : ofDecimal cs < 10 ^ cs.length := ih fun d hd => h d (List.mem_cons_of_mem c hd)
    have hc : c.toNat - '0'.toNat ≤ 9 := digit_le_nine (h c List.mem_cons_self)
    have hfirst := Nat.mul_le_mul_left (10 ^ cs.length) hc
    rw [ofDecimal_cons, List.length_cons, Nat.pow_succ]
    omega

/-- Digit texts of one length are in the order of their numbers. -/
theorem ofDecimal_lt_of_lt (hlen : s.length = t.length) (hs : Digits s) (h : s < t) :
    ofDecimal s < ofDecimal t := by
  induction s generalizing t with
  | nil =>
    obtain rfl := List.eq_nil_of_length_eq_zero hlen.symm
    exact absurd h (List.lt_irrefl _)
  | cons c s ih =>
    obtain ⟨d, t, rfl⟩ := List.exists_cons_of_length_eq_add_one hlen.symm
    have hrest : Digits s := fun e he => hs e (List.mem_cons_of_mem c he)
    rw [ofDecimal_cons, ofDecimal_cons, ← Nat.succ.inj hlen]
    rcases List.cons_lt_cons_iff.mp h with hcd | ⟨rfl, hst⟩
    · have hlow : '0'.toNat ≤ c.toNat := (Char.isDigit_iff_toNat.mp (hs c List.mem_cons_self)).1
      have hlt : c.toNat < d.toNat := hcd
      have hdigit : c.toNat - '0'.toNat + 1 ≤ d.toNat - '0'.toNat := by omega
      have hmul := Nat.mul_le_mul_left (10 ^ s.length) hdigit
      have hbound := ofDecimal_lt hrest
      rw [Nat.mul_add] at hmul
      omega
    · exact Nat.add_lt_add_left (ih (Nat.succ.inj hlen) hrest hst) _

/-! ## Zeros before a number -/

theorem ofDecimal_dropZeros (cs : List Char) :
    ofDecimal (cs.dropWhile (· == '0')) = ofDecimal cs := by
  induction cs with
  | nil => rfl
  | cons c cs ih =>
    by_cases hc : c = '0'
    · subst hc
      rw [List.dropWhile_cons_of_pos (by rfl), ih, ofDecimal_cons, Nat.sub_self, Nat.mul_zero,
        Nat.zero_add]
    · rw [List.dropWhile_cons_of_neg (by simpa using hc)]

/-- The first digit of a number that is left without zeros before it counts. -/
theorem le_ofDecimal_dropZeros (h : Digits cs) (hne : cs.dropWhile (· == '0') ≠ []) :
    10 ^ ((cs.dropWhile (· == '0')).length - 1) ≤ ofDecimal (cs.dropWhile (· == '0')) := by
  have hfirst := List.head_dropWhile_not (· == '0') hne
  have hdigits : Digits (cs.dropWhile (· == '0')) := fun c hc =>
    h c ((List.dropWhile_suffix _).subset hc)
  generalize cs.dropWhile (· == '0') = ds at hne hfirst hdigits ⊢
  cases ds with
  | nil => exact absurd rfl hne
  | cons c rest =>
    have hlow := (Char.isDigit_iff_toNat.mp (hdigits c List.mem_cons_self)).1
    have hzero : c.toNat ≠ '0'.toNat := by
      intro heq
      rw [List.head_cons, Char.toNat_inj.mp heq] at hfirst
      cases hfirst
    have hpos : 1 ≤ c.toNat - '0'.toNat := by
      have hcode : '0'.toNat = 48 := rfl
      omega
    calc 10 ^ rest.length = 10 ^ rest.length * 1 := (Nat.mul_one _).symm
      _ ≤ 10 ^ rest.length * (c.toNat - '0'.toNat) := Nat.mul_le_mul_left _ hpos
      _ ≤ ofDecimal (c :: rest) := by
        rw [ofDecimal_cons]
        exact Nat.le_add_right _ _

/-! ## The texts of numbers -/

theorem digits_decimal (n : Nat) : Digits (decimal n) := fun _ =>
  Nat.isDigit_of_mem_toDigits (by decide) (by decide)

theorem decimal_ne_nil (n : Nat) : decimal n ≠ [] := by
  intro h
  have hpos : 0 < (Nat.toDigits 10 n).length := Nat.length_toDigits_pos
  rw [decimal] at h
  rw [h] at hpos
  exact absurd hpos (by decide)

theorem digits_padded (width n : Nat) : Digits (padded width n) := by
  refine digits_append_iff.mpr ⟨fun c hc => ?_, digits_decimal n⟩
  rw [List.eq_of_mem_replicate hc]
  rfl

theorem ofDecimal_padded (width n : Nat) : ofDecimal (padded width n) = n := by
  rw [padded, ofDecimal_append, ofDecimal_decimal, ofDecimal, Nat.ofDigitChars_replicate_zero,
    Nat.mul_zero, Nat.mul_zero, Nat.zero_add]

theorem length_decimal_le (hwidth : 0 < width) (h : n < Nat.pow 10 width) :
    (decimal n).length ≤ width :=
  (Nat.length_toDigits_le_iff (by decide) hwidth).mpr h

theorem length_padded (hwidth : 0 < width) (h : n < 10 ^ width) :
    (padded width n).length = width := by
  rw [padded, List.length_append, List.length_replicate]
  exact Nat.sub_add_cancel (length_decimal_le hwidth h)

end Text
end Facets
