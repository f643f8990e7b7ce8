import Facets.Field.Format
import Facets.Proofs.Field.PlainText
import Mathlib.Data.List.DropRight

/-
Numbers for display, with and without groups of digits.

Either form is a sign, an integer part and a fraction, and the two differ in the integer
part alone (`exists_displayParts`).  `Grouped` says where the commas are in it by cutting
it in two: a comma begins the right part exactly when the left part ends in a digit and the
digits on the right are complete blocks of three.  Rounding to three places may lengthen
the integer part; as it comes before the digits are grouped, nothing here depends on it.
-/
namespace Facets

open Outcome Text

/-! ## Commas -/

namespace Text

/-- The digits of the text are one or more blocks of three. -/
def CompleteBlocks (cs : List Char) : Prop :=
  0 < cs.countP Char.isDigit ∧ 3 ∣ cs.countP Char.isDigit

def EndsInDigit (cs : List Char) : Prop := ∃ d ∈ cs.getLast?, d.isDigit = true

/-- Digits with a comma before each complete block of three, counted from the right end,
but none at the start. -/
structure Grouped (cs : List Char) : Prop where
  characters : ∀ c ∈ cs, c.isDigit = true ∨ c = ','
  comma_iff : ∀ left right, cs = left ++ right →
    (right.head? = some ',' ↔ EndsInDigit left ∧ CompleteBlocks right)

section Commas

variable {c d : Char} {cs ds : List Char}

theorem not_endsInDigit_nil : ¬ EndsInDigit [] := by simp [EndsInDigit]

theorem endsInDigit_singleton : EndsInDigit [d] ↔ d.isDigit = true := by simp [EndsInDigit]

theorem endsInDigit_cons_cons : EndsInDigit (c :: d :: cs) ↔ EndsInDigit (d :: cs) := by
  rw [EndsInDigit, EndsInDigit, List.getLast?_cons_cons]

theorem completeBlocks_comma : CompleteBlocks (',' :: cs) ↔ CompleteBlocks cs := by
  rw [CompleteBlocks, CompleteBlocks, List.countP_cons_of_neg (by decide)]

theorem Grouped.head?_ne (h : Grouped cs) : cs.head? ≠ some ',' := fun hcomma =>
  not_endsInDigit_nil ((h.comma_iff [] cs rfl).mp hcomma).1

theorem grouped_nil : Grouped [] where
  characters _ hc := absurd hc List.not_mem_nil
  comma_iff left right hcut := by
    obtain ⟨rfl, rfl⟩ := List.append_eq_nil_iff.mp hcut.symm
    simp [not_endsInDigit_nil]

/-- A digit goes before digits that are not yet complete blocks. -/
theorem Grouped.cons (h : Grouped cs) (hd : d.isDigit = true) (hblocks : ¬ CompleteBlocks cs) :
    Grouped (d :: cs) where
  characters := List.forall_mem_cons.mpr ⟨.inl hd, h.characters⟩
  comma_iff left right hcut := by
    rcases List.cons_eq_append_iff.mp hcut with ⟨rfl, rfl⟩ | ⟨left, rfl, rfl⟩
    · have hcomma : d ≠ ',' := ne_of_isDigit hd rfl
      simp [not_endsInDigit_nil, hcomma]
    · cases left with
      | nil => exact iff_of_false h.head?_ne fun hboth => hblocks hboth.2
      | cons e left => rw [endsInDigit_cons_cons, h.comma_iff (e :: left) right rfl]

/-- A comma goes between a digit and the complete blocks after it. -/
theorem Grouped.cons_comma (h : Grouped cs) (hd : d.isDigit = true) (hblocks : CompleteBlocks cs) :
    Grouped (d :: ',' :: cs) where
  characters :=
    List.forall_mem_cons.mpr ⟨.inl hd, List.forall_mem_cons.mpr ⟨.inr rfl, h.characters⟩⟩
  comma_iff left right hcut := by
    rcases List.cons_eq_append_iff.mp hcut with ⟨rfl, rfl⟩ | ⟨left, rfl, hrest⟩
    · have hcomma : d ≠ ',' := ne_of_isDigit hd rfl
      simp [not_endsInDigit_nil, hcomma]
    rcases List.cons_eq_append_iff.mp hrest with ⟨rfl, rfl⟩ | ⟨left, rfl, rfl⟩
    · simp [endsInDigit_singleton, completeBlocks_comma, hd, hblocks]
    rw [endsInDigit_cons_cons]
    cases left with
    | nil =>
      have hcomma : ¬ EndsInDigit [','] := by simp [endsInDigit_singleton]
      exact iff_of_false h.head?_ne fun hboth => hcomma hboth.1
    | cons e left => rw [endsInDigit_cons_cons, h.comma_iff (e :: left) right rfl]

end Commas

end Text

namespace Number

variable {c : Char} {cs ds : List Char} {p : Char → Bool} {n : Number}

theorem groupThousands_cons (d : Char) (ds : List Char) :
    groupThousands (d :: ds) =
      if ds.length % 3 = 0 ∧ ds ≠ [] then d :: ',' :: groupThousands ds
      else d :: groupThousands ds :=
  rfl

/-- Without the commas the digits are as they were. -/
theorem filter_groupThousands (h : Digits ds) : (groupThousands ds).filter (· ≠ ',') = ds := by
  induction ds with
  | nil => rfl
  | cons d ds ih =>
    obtain ⟨hd, hds⟩ := List.forall_mem_cons.mp h
    have hkept : (d :: groupThousands ds).filter (· ≠ ',') = d :: ds := by
      rw [List.filter_cons_of_pos (by simpa using ne_of_isDigit hd rfl), ih hds]
    rw [groupThousands_cons]
    split
    · exact hkept
    · exact hkept

theorem countP_groupThousands (h : Digits ds) :
    (groupThousands ds).countP Char.isDigit = ds.length := by
  induction ds with
  | nil => rfl
  | cons d ds ih =>
    obtain ⟨hd, hds⟩ := List.forall_mem_cons.mp h
    rw [groupThousands_cons, List.length_cons]
    split
    · rw [List.countP_cons_of_pos hd, List.countP_cons_of_neg (by decide), ih hds]
    · rw [List.countP_cons_of_pos hd, ih hds]

theorem completeBlocks_groupThousands (h : Digits ds) :
    CompleteBlocks (groupThousands ds) ↔ ds.length % 3 = 0 ∧ ds ≠ [] := by
  rw [CompleteBlocks, countP_groupThousands h, List.length_pos_iff, Nat.dvd_iff_mod_eq_zero,
    and_comm]

theorem grouped_groupThousands (h : Digits ds) : Grouped (groupThousands ds) := by
  induction ds with
  | nil => exact grouped_nil
  | cons d ds ih =>
    obtain ⟨hd, hds⟩ := List.forall_mem_cons.mp h
    have hblocks := completeBlocks_groupThousands hds
    rw [groupThousands_cons]
    split
    · rename_i hcomplete
      exact (ih hds).cons_comma hd (hblocks.mpr hcomplete)
    · rename_i hcomplete
      exact (ih hds).cons hd fun hnot => hcomplete (hblocks.mp hnot)

theorem groupThousands_ne_nil (h : ds ≠ []) : groupThousands ds ≠ [] := by
  cases ds with
  | nil => exact absurd rfl h
  | cons d ds =>
    rw [groupThousands_cons]
    split <;> exact List.cons_ne_nil _ _

example : groupThousands "1234567".toList = "1,234,567".toList := by decide

/-! ## Fractions -/

theorem dropEnd_eq_rdropWhile (p : Char → Bool) (cs : List Char) :
    dropEnd p cs = cs.rdropWhile p :=
  rfl

/-- After a character that stays, characters are taken away as if nothing stood before. -/
theorem dropEnd_append (hlast : ∀ c ∈ cs.getLast?, p c = false) :
    dropEnd p (cs ++ ds) = cs ++ dropEnd p ds := by
  simp only [dropEnd_eq_rdropWhile]
  induction ds using List.reverseRecOn with
  | nil =>
    rw [List.append_nil, List.rdropWhile_nil, List.append_nil, List.rdropWhile_eq_self_iff]
    intro hne
    simpa using hlast _ (List.getLast?_eq_some_getLast hne)
  | append_singleton ds d ih =>
    rw [← List.append_assoc, List.rdropWhile_concat, List.rdropWhile_concat, ih]
    split
    · rfl
    · rw [List.append_assoc]

/-- The point and the digits after it without the zeros at the end, and without the point
when no digit is left. -/
def shownFraction (ds : List Char) : List Char :=
  dropEnd (· == '.') ('.' :: dropEnd (· == '0') ds)

/-- A point with digits after it, or nothing. -/
def IsFraction (cs : List Char) : Prop := cs = [] ∨ ∃ ds, ds ≠ [] ∧ Digits ds ∧ cs = '.' :: ds

theorem dropEnd_fraction (hcs : '.' ∉ cs) :
    dropEnd (· == '.') (dropEnd (· == '0') (cs ++ '.' :: ds)) = cs ++ shownFraction ds := by
  have hpoint : ∀ c ∈ (cs ++ ['.']).getLast?, (c == '0') = false := by simp
  have hwhole : ∀ c ∈ cs.getLast?, (c == '.') = false := by
    intro c hc
    refine beq_false_of_ne ?_
    rintro rfl
    exact hcs (List.mem_of_getLast? hc)
  rw [List.append_cons, dropEnd_append hpoint, List.append_assoc, dropEnd_append hwhole]
  rfl

theorem isFraction_shownFraction (h : Digits ds) : IsFraction (shownFraction ds) := by
  have hdigits : Digits (dropEnd (· == '0') ds) := by
    intro c hc
    rw [dropEnd_eq_rdropWhile] at hc
    exact h c ((List.rdropWhile_prefix _ _).subset hc)
  unfold shownFraction
  generalize dropEnd (· == '0') ds = fs at hdigits
  rcases List.eq_nil_or_concat' fs with rfl | ⟨gs, d, rfl⟩
  · exact .inl rfl
  · have hd : ¬ (d == '.') = true := by
      rw [beq_iff_eq]
      exact ne_of_isDigit (hdigits d (by simp)) rfl
    refine .inr ⟨gs ++ [d], by simp, hdigits, ?_⟩
    rw [dropEnd_eq_rdropWhile, ← List.cons_append, List.rdropWhile_concat_neg (· == '.') _ d hd]

/-! ## Displayed numbers -/

def signChars (negative : Bool) : List Char := if negative then ['-'] else []

theorem signChars_append (negative : Bool) (cs : List Char) :
    signChars negative ++ cs = if negative then '-' :: cs else cs := by
  cases negative <;> rfl

theorem wholeChars_ne_nil (grouped : Bool) (k : Nat) : wholeChars grouped k ≠ [] := by
  cases grouped with
  | false => exact decimal_ne_nil k
  | true => exact groupThousands_ne_nil (decimal_ne_nil k)

theorem point_not_mem_wholeChars (grouped : Bool) (k : Nat) : '.' ∉ wholeChars grouped k := by
  cases grouped with
  | false => exact (digits_decimal k).not_mem rfl
  | true =>
    intro hmem
    rcases (grouped_groupThousands (digits_decimal k)).characters '.' hmem with hdigit | hcomma
    · cases hdigit
    · exact absurd hcomma (by decide)

/-- The magnitude in thousandths, rounded to the nearest. -/
def FiniteDouble.thousandths (x : FiniteDouble) : Nat := divNearest (x.units * 1000) unitsInOne

theorem dropEnd_threePlaces (grouped : Bool) (x : FiniteDouble) :
    dropEnd (· == '.') (dropEnd (· == '0') (x.threePlaces grouped)) =
      signChars x.negative ++
        (wholeChars grouped (x.thousandths / 1000) ++
          shownFraction (padded 3 (x.thousandths % 1000))) := by
  have hpoint : '.' ∉ signChars x.negative ++ wholeChars grouped (x.thousandths / 1000) := by
    rw [List.mem_append, not_or]
    refine ⟨?_, point_not_mem_wholeChars grouped _⟩
    cases x.negative <;> decide
  rw [← List.append_assoc, ← dropEnd_fraction hpoint, List.append_assoc, signChars_append]
  rfl

/-- The parts of a displayed number. -/
structure DisplayParts (cs sign whole fraction : List Char) : Prop where
  joined : cs = sign ++ (whole ++ fraction)
  signed : sign = [] ∨ sign = ['-']
  shown : whole ≠ []
  point : IsFraction fraction

theorem displayParts_signChars (negative grouped : Bool) (k : Nat) (h : IsFraction cs) :
    DisplayParts (signChars negative ++ (wholeChars grouped k ++ cs)) (signChars negative)
      (wholeChars grouped k) cs where
  joined := rfl
  signed := by cases negative <;> simp [signChars]
  shown := wholeChars_ne_nil grouped k
  point := h

/-- With and without groups, the sign, the number before the point and the fraction are the
same. -/
theorem exists_displayParts (n : Number) :
    ∃ sign k fraction, ∀ grouped,
      DisplayParts (displayChars grouped n) sign (wholeChars grouped k) fraction := by
  have hinteger : ∀ m : Int, ∃ sign k fraction, ∀ grouped,
      DisplayParts (if m < 0 then '-' :: wholeChars grouped m.natAbs else
        wholeChars grouped m.natAbs) sign (wholeChars grouped k) fraction := by
    intro m
    refine ⟨signChars (m < 0), m.natAbs, [], fun grouped => ?_⟩
    have hparts := displayParts_signChars (m < 0) grouped m.natAbs (.inl rfl)
    simpa [signChars_append] using hparts
  cases n with
  | int m => exact hinteger m
  | float x =>
    by_cases hintegral : x.isIntegral = true
    · simpa [displayChars, hintegral] using hinteger x.truncate
    · refine ⟨signChars x.negative, x.thousandths / 1000,
        shownFraction (padded 3 (x.thousandths % 1000)), fun grouped => ?_⟩
      rw [displayChars, if_neg hintegral, dropEnd_threePlaces]
      exact displayParts_signChars _ _ _ (isFraction_shownFraction (digits_padded 3 _))

/-- Only an integer that is too long is not displayed. -/
theorem display_eq_ok (h : Value.isShortNumber n = true) (grouped : Bool) :
    n.display grouped = .ok (String.ofList (displayChars grouped n)) := by
  cases n with
  | int m =>
    have hm : Value.isShort m = true := h
    rw [display, if_pos (decide_eq_true_eq.mp hm)]
  | float x => rfl

/-- Numbers without a fraction are displayed without groups as they are searched. -/
theorem plain_eq_display (h : n.IsWhole) : n.plain = n.display false := by
  cases n with
  | int m => rfl
  | float x =>
    have hintegral : x.isIntegral = true := h
    rw [plain, display, displayChars, if_pos hintegral, if_pos hintegral]
    rfl

theorem comma_not_mem_fraction (h : IsFraction cs) : ',' ∉ cs := by
  rcases h with rfl | ⟨ds, -, hds, rfl⟩
  · exact List.not_mem_nil
  · exact List.not_mem_cons_of_ne_of_not_mem (by decide) (hds.not_mem rfl)

/-- Only the integer part of a displayed number may hold commas. -/
theorem DisplayParts.filter_comma {sign whole fraction : List Char}
    (h : DisplayParts cs sign whole fraction) :
    cs.filter (· ≠ ',') = sign ++ (whole.filter (· ≠ ',') ++ fraction) := by
  have hsign : ∀ c ∈ sign, c ≠ ',' := by
    rcases h.signed with rfl | rfl <;> simp
  have hfraction : ∀ c ∈ fraction, c ≠ ',' := by
    rintro c hc rfl
    exact comma_not_mem_fraction h.point hc
  rw [h.joined, List.filter_append, List.filter_append,
    List.filter_eq_self.mpr fun c hc => decide_eq_true (hsign c hc),
    List.filter_eq_self.mpr fun c hc => decide_eq_true (hfraction c hc)]

theorem filter_displayChars (n : Number) :
    (displayChars true n).filter (· ≠ ',') = displayChars false n := by
  obtain ⟨sign, k, fraction, hparts⟩ := exists_displayParts n
  rw [(hparts true).filter_comma, (hparts false).joined, wholeChars, if_pos rfl,
    filter_groupThousands (digits_decimal k)]
  rfl

end Number

namespace Value

variable {v : Value} {n : Number}

theorem coerce_of_asNumber (h : v.asNumber = .ok (some n)) :
    Kind.number.coerce v = .ok (some (.number n)) := by
  have hempty : ¬ v.isEmpty = true := by
    intro hempty
    cases v with
    | text s =>
      rw [isEmpty, beq_iff_eq] at hempty
      subst hempty
      cases h
    | int _ | float _ => cases hempty
    | _ => cases Except.ok.inj h
  rw [Kind.coerce, if_neg hempty, Kind.convert, h]
  rfl

/-- A number is displayed in both forms for as long as its digits are within the limit, and
grouping its digits puts commas into the integer part and does nothing else.  A number
without a fraction is displayed without groups as it is searched. -/
theorem formatNumber_grouped (h : v.asNumber = .ok (some n)) (hshort : isShortNumber n = true) :
    ∃ grouped bare : String,
      v.formatNumber true = .ok grouped ∧ v.formatNumber false = .ok bare ∧
      grouped.toList.filter (· ≠ ',') = bare.toList ∧
      (∃ sign whole fraction,
        Number.DisplayParts grouped.toList sign whole fraction ∧ Grouped whole) ∧
      (n.IsWhole → Kind.number.plain v = .ok bare) := by
  have hformat : ∀ grouped, v.formatNumber grouped =
      .ok (String.ofList (Number.displayChars grouped n)) := by
    intro grouped
    rw [formatNumber, h, ok_bind]
    exact Number.display_eq_ok hshort grouped
  refine ⟨_, _, hformat true, hformat false, ?_, ?_, fun hwhole => ?_⟩
  · rw [String.toList_ofList, String.toList_ofList, Number.filter_displayChars]
  · obtain ⟨sign, k, fraction, hparts⟩ := Number.exists_displayParts n
    rw [String.toList_ofList]
    exact ⟨sign, _, fraction, hparts true, Number.grouped_groupThousands (digits_decimal k)⟩
  · rw [Kind.plain, coerce_of_asNumber h, ok_bind]
    exact (Number.plain_eq_display hwhole).trans (Number.display_eq_ok hshort false)

end Value

namespace Sample

/-- A little less in magnitude than a number with one more block of digits, to which it is
rounded. -/
def nearBlock : Number.FiniteDouble := ⟨true, 4095999 * Nat.pow 2 1062, by decide +kernel⟩

def million : Number.FiniteDouble := ⟨false, 1000000 * Number.unitsInOne, by decide +kernel⟩

end Sample

namespace Value

open Sample in
theorem formatNumber_grouped_blocks :
    ((float (.finite nearBlock)).asNumber = .ok (some (.float nearBlock)) ∧
      isShortNumber (.float nearBlock) = true ∧
      (float (.finite nearBlock)).formatNumber true = .ok "-1,000" ∧
      (float (.finite nearBlock)).formatNumber false = .ok "-1000" ∧
      "-1,000".toList.filter (· ≠ ',') = "-1000".toList ∧
      ∃ sign whole fraction,
        Number.DisplayParts "-1,000".toList sign whole fraction ∧ Grouped whole) ∧
    (Number.float million).IsWhole ∧
      Kind.number.plain (.float (.finite million)) = .ok "1000000" := by
  have hgrouped : gives ((float (.finite nearBlock)).formatNumber true) "-1,000" = true := by
    decide +kernel
  have hbare : gives ((float (.finite nearBlock)).formatNumber false) "-1000" = true := by
    decide +kernel
  have hplain : gives ((float (.finite million)).formatNumber false) "1000000" = true := by
    decide +kernel
  have hwhole : (Number.float million).IsWhole := by
    show million.isIntegral = true
    decide +kernel
  rw [gives_iff] at hgrouped hbare hplain
  obtain ⟨grouped, bare, hg, hb, hcommas, hparts, -⟩ :=
    formatNumber_grouped (v := float (.finite nearBlock)) rfl rfl
  obtain rfl := Except.ok.inj (hg.symm.trans hgrouped)
  obtain rfl := Except.ok.inj (hb.symm.trans hbare)
  obtain ⟨-, bare, -, hb, -, -, hagree⟩ :=
    formatNumber_grouped (v := float (.finite million)) rfl rfl
  obtain rfl := Except.ok.inj (hb.symm.trans hplain)
  exact ⟨⟨rfl, rfl, hgrouped, hbare, hcommas, hparts⟩, hwhole, hagree hwhole⟩

end Value
end Facets
