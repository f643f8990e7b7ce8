import Facets.Number.Numeral
import Facets.Proofs.Text.Digits
import Mathlib.Data.List.TakeWhile

/-
How numerals are spelled.

`Numeral.Spells` is the grammar: an optional sign, digits with an optional point among
them, and an optional exponent.  Reading accepts exactly the texts of the grammar, and a
text spells at most one numeral (`Numeral.read?_eq_some_iff`).
-/
namespace Facets
namespace Number

open Text

/-! ## The grammar -/

inductive Sign : Bool → List Char → Prop
  | absent : Sign false []
  | plus : Sign false ['+']
  | minus : Sign true ['-']

/-- Digits with an optional point, of which one side may be bare.  Without a point there
is no fraction. -/
inductive Mantissa : List Char → Option (List Char) → List Char → Prop
  | whole {ds : List Char} (hds : Digits ds) (hne : ds ≠ []) : Mantissa ds none ds
  | point {ds fs : List Char} (hds : Digits ds) (hfs : Digits fs) (hne : ds ≠ [] ∨ fs ≠ []) :
    Mantissa ds (some fs) (ds ++ '.' :: fs)

inductive Exponent : Option (Bool × List Char) → List Char → Prop
  | absent : Exponent none []
  | present {mark : Char} {negative : Bool} {sign ds : List Char} (hmark : mark = 'e' ∨ mark = 'E')
    (hsign : Sign negative sign) (hds : Digits ds) (hne : ds ≠ []) :
    Exponent (some (negative, ds)) (mark :: (sign ++ ds))

/-- The ways to write a numeral. -/
inductive Numeral.Spells : Numeral → List Char → Prop
  | mk {negative : Bool} {whole : List Char} {fraction : Option (List Char)}
    {exponent : Option (Bool × List Char)} {sign mantissa power : List Char}
    (hsign : Sign negative sign) (hmantissa : Mantissa whole fraction mantissa)
    (hexponent : Exponent exponent power) :
    Spells ⟨negative, whole, fraction, exponent⟩ (sign ++ (mantissa ++ power))

/-! ## Its parts -/

variable {negative : Bool} {cs ds rest sign : List Char} {exponent : Option (Bool × List Char)}

theorem sign_takeSign (cs : List Char) :
    ∃ sign, Sign (takeSign cs).1 sign ∧ cs = sign ++ (takeSign cs).2 := by
  unfold takeSign
  split
  · exact ⟨['-'], .minus, rfl⟩
  · exact ⟨['+'], .plus, rfl⟩
  · exact ⟨[], .absent, rfl⟩

/-- A sign is taken off what begins with none. -/
theorem takeSign_append (h : Sign negative sign)
    (hrest : ∀ c ∈ rest.head?, c ≠ '-' ∧ c ≠ '+') : takeSign (sign ++ rest) = (negative, rest) := by
  cases h with
  | plus => rfl
  | minus => rfl
  | absent =>
    rw [List.nil_append]
    unfold takeSign
    split
    · simp at hrest
    · simp at hrest
    · rfl

theorem digits_takeDigits (cs : List Char) :
    Digits (takeDigits cs).1 ∧ cs = (takeDigits cs).1 ++ (takeDigits cs).2 :=
  ⟨fun _ hc => List.mem_takeWhile_imp hc, List.takeWhile_append_dropWhile.symm⟩

/-- Digits are taken off what begins with none. -/
theorem takeDigits_append (hds : Digits ds) (hrest : ∀ c ∈ rest.head?, c.isDigit = false) :
    takeDigits (ds ++ rest) = (ds, rest) := by
  obtain ⟨htake, hdrop⟩ := span_append hds hrest
  rw [takeDigits, htake, hdrop]

theorem not_sign_of_isDigit {c : Char} (h : c.isDigit = true) : c ≠ '-' ∧ c ≠ '+' := by
  constructor
  · rintro rfl
    cases h
  · rintro rfl
    cases h

theorem takeExponent_eq_some_iff : takeExponent cs = some exponent ↔ Exponent exponent cs := by
  constructor
  · intro h
    unfold takeExponent at h
    split at h
    · rw [← Option.some.inj h]
      exact .absent
    · rename_i mark rest
      split at h
      · rename_i hmark
        obtain ⟨sign, hsign, hrest⟩ := sign_takeSign rest
        dsimp only at h
        split at h
        · rename_i hds
          have hexponent := Exponent.present hmark hsign (List.all_eq_true.mp hds.2) hds.1
          rw [← hrest] at hexponent
          rw [← Option.some.inj h]
          exact hexponent
        · cases h
      · cases h
  · intro h
    cases h with
    | absent => rfl
    | @present mark negative sign ds hmark hsign hds hne =>
      have htake : takeSign (sign ++ ds) = (negative, ds) := by
        refine takeSign_append hsign fun c hc => not_sign_of_isDigit (hds c ?_)
        exact List.mem_of_mem_head? hc
      rw [takeExponent, if_pos hmark, htake]
      exact if_pos ⟨hne, List.all_eq_true.mpr hds⟩

/-- An exponent begins with neither a digit nor a point. -/
theorem Exponent.head (h : Exponent exponent cs) :
    ∀ c ∈ cs.head?, c.isDigit = false ∧ c ≠ '.' := by
  cases h with
  | absent => simp
  | present hmark =>
    intro c hc
    obtain rfl := Option.some.inj hc
    rcases hmark with rfl | rfl <;> decide

/-- A mantissa begins with a digit or a point, whatever follows. -/
theorem Mantissa.head {fraction : Option (List Char)} {mantissa : List Char}
    (h : Mantissa ds fraction mantissa) (rest : List Char) :
    ∀ c ∈ (mantissa ++ rest).head?, c ≠ '-' ∧ c ≠ '+' := by
  have hpoint : '.' ≠ '-' ∧ '.' ≠ '+' := by decide
  cases h with
  | whole hds hne =>
    cases ds with
    | nil => exact absurd rfl hne
    | cons d ds =>
      intro c hc
      rw [← Option.some.inj hc]
      exact not_sign_of_isDigit (hds d List.mem_cons_self)
  | point hds =>
    intro c hc
    cases ds with
    | nil =>
      rw [← Option.some.inj hc]
      exact hpoint
    | cons d ds =>
      rw [← Option.some.inj hc]
      exact not_sign_of_isDigit (hds d List.mem_cons_self)

/-! ## Reading -/

namespace Numeral

variable {n m : Numeral}

theorem read?_of_spells (h : n.Spells cs) : read? cs = some n := by
  cases h with
  | @mk negative whole fraction exponent sign mantissa power hsign hmantissa hexponent =>
    have hpower := takeExponent_eq_some_iff.mpr hexponent
    rw [read?, takeSign_append hsign (hmantissa.head power)]
    cases hmantissa with
    | whole hds hne =>
      dsimp only
      rw [takeDigits_append hds fun c hc => (hexponent.head c hc).1]
      dsimp only
      split
      · exact absurd rfl (hexponent.head '.' rfl).2
      · rw [if_neg hne, hpower, Option.map_some]
    | @point fs hds hfs hne =>
      dsimp only
      rw [List.append_assoc, takeDigits_append hds (by simp), List.cons_append]
      have hdigit : ¬(whole = [] ∧ fs = []) := not_and_or.mpr hne
      simp only [takeDigits_append hfs fun c hc => (hexponent.head c hc).1]
      rw [if_neg hdigit, hpower, Option.map_some]

theorem spells_of_read? (h : read? cs = some n) : n.Spells cs := by
  obtain ⟨sign, hsign, hcs⟩ := sign_takeSign cs
  obtain ⟨hwhole, hunsigned⟩ := digits_takeDigits (takeSign cs).2
  unfold read? at h
  dsimp only at h
  split at h
  · rename_i afterPoint hrest
    obtain ⟨hfraction, hafter⟩ := digits_takeDigits afterPoint
    obtain ⟨hne, h⟩ := Option.ite_none_left_eq_some.mp h
    obtain ⟨exponent, hexponent, rfl⟩ := Option.map_eq_some_iff.mp h
    have hspells := Spells.mk hsign (.point hwhole hfraction (not_and_or.mp hne))
      (takeExponent_eq_some_iff.mp hexponent)
    rw [List.append_assoc, List.cons_append, ← hafter, ← hrest, ← hunsigned, ← hcs] at hspells
    exact hspells
  · obtain ⟨hne, h⟩ := Option.ite_none_left_eq_some.mp h
    obtain ⟨exponent, hexponent, rfl⟩ := Option.map_eq_some_iff.mp h
    have hspells := Spells.mk hsign (.whole hwhole hne) (takeExponent_eq_some_iff.mp hexponent)
    rw [← hunsigned, ← hcs] at hspells
    exact hspells

/-- What is read are the texts of the grammar. -/
theorem read?_eq_some_iff : read? cs = some n ↔ n.Spells cs :=
  ⟨spells_of_read?, read?_of_spells⟩

theorem Spells.digits (h : n.Spells cs) : Digits (n.whole ++ n.fraction.getD []) := by
  cases h with
  | mk _ hmantissa _ =>
    cases hmantissa with
    | whole hds => exact digits_append_iff.mpr ⟨hds, List.forall_mem_nil _⟩
    | point hds hfs => exact digits_append_iff.mpr ⟨hds, hfs⟩

theorem Spells.unique (h : n.Spells cs) (h' : m.Spells cs) : n = m :=
  Option.some.inj ((read?_of_spells h).symm.trans (read?_of_spells h'))

end Numeral
end Number
end Facets
