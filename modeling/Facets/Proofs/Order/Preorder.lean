import Facets.Proofs.Field.Coercion
import Facets.Proofs.Order.ByField

/-
The order of stored values.

Whatever form values are stored in, they are compared by what they are coerced to
(`Kind.compare_coerced`), and so by their ranks, of which there is one for each value
with a plain text.  This makes the comparison a total preorder, with all that cannot be
used at its end (`Kind.compare_isTotalPreorder`).
-/
namespace Facets

open Outcome Facets.Order

/-- A preorder in which any two items that pass a test can be compared. -/
structure Order.IsTotalPreorder {α : Type} (cmp : α → α → Except Fault Ordering) (p : α → Prop) :
    Prop extends IsPreorder cmp where
  total : ∀ {x y}, p x → p y → ∃ o, cmp x y = .ok o

namespace Kind

variable {k : Kind} {a b : Value}

theorem isPreorder_compare (k : Kind) : IsPreorder k.compare := by
  rw [← compareIn_false]
  exact k.isPreorder_compareIn false

theorem CanRank.exists_compare (ha : k.CanRank a) (hb : k.CanRank b) :
    ∃ o, k.compare a b = .ok o := by
  obtain ⟨x, hx, hrank⟩ := ha
  obtain ⟨y, hy, hrank'⟩ := hb
  rw [compare, hx, hy, ok_bind, ok_bind]
  match x, y with
  | none, none => exact ⟨.eq, rfl⟩
  | none, some y => exact ⟨.gt, rfl⟩
  | some x, none => exact ⟨.lt, rfl⟩
  | some x, some y =>
    obtain ⟨p, hp⟩ := hrank x rfl
    obtain ⟨q, hq⟩ := hrank' y rfl
    exact ⟨p.compare q, by simp only [hp, hq, ok_bind, pure_eq_ok]⟩

/-- Values are compared by nothing but what they are coerced to. -/
theorem compare_coerced {x y : Option Typed} (ha : k.coerce a = .ok x) (hb : k.coerce b = .ok y) :
    k.compare ((x.map Typed.toValue).getD .null) ((y.map Typed.toValue).getD .null) =
      k.compare a b := by
  rw [compare, compare, coerce_coerce ha, coerce_coerce hb, ha, hb]

/-- Values with a plain text are ordered by what they are coerced to.  Those that cannot
be used are equal, and come after all others. -/
theorem compare_isTotalPreorder (k : Kind) :
    IsTotalPreorder k.compare k.HasPlain ∧
      (∀ a b, k.coerce a = .ok none → k.coerce b = .ok none → k.compare a b = .ok .eq) ∧
      (∀ a b t, k.coerce a = .ok none → k.coerce b = .ok (some t) → k.compare a b = .ok .gt) ∧
      ∀ a b x y, k.coerce a = .ok x → k.coerce b = .ok y →
        k.compare ((x.map Typed.toValue).getD .null) ((y.map Typed.toValue).getD .null) =
          k.compare a b := by
  have htotal : ∀ {a b}, k.HasPlain a → k.HasPlain b → ∃ o, k.compare a b = .ok o := by
    rintro a b ⟨s, hs⟩ ⟨t, ht⟩
    exact (canRank_of_plain hs).exists_compare (canRank_of_plain ht)
  refine ⟨⟨k.isPreorder_compare, htotal⟩, fun a b ha hb => ?_, fun a b t ha hb => ?_,
    fun _ _ _ _ => compare_coerced⟩
  · rw [compare, ha, hb]
    rfl
  · rw [compare, ha, hb]
    rfl

end Kind

namespace Sample

/-- A length as a text with an exponent. -/
def writtenLength : Value := .text " 1e2 "

def noLength : Value := .text "long"

end Sample

namespace Kind

open Sample in
theorem compare_isTotalPreorder_lengths :
    (∃ o, number.compare writtenLength (.int 99) = .ok o ∧
      number.compare (.int 99) writtenLength = .ok o.swap) ∧
    number.compare noLength noLength = .ok .eq ∧
    number.compare noLength writtenLength = .ok .gt ∧
    ∃ t, number.coerce writtenLength = .ok (some t) ∧
      number.compare t.toValue .null = number.compare writtenLength noLength := by
  obtain ⟨hpre, hequal, hlast, htyped⟩ := compare_isTotalPreorder .number
  have hplain : number.HasPlain writtenLength ∧ number.HasPlain (.int 99) := by decide +kernel
  have hnone : number.coerce noLength = .ok none := rfl
  obtain ⟨o, ho⟩ := hpre.total hplain.1 hplain.2
  obtain ⟨x, hx, -⟩ := canRank_of_plain hplain.1.choose_spec
  cases x with
  | none =>
    have hread : (number.coerce writtenLength).toOption.join.isSome = true := by decide +kernel
    rw [hx] at hread
    cases hread
  | some t =>
    exact ⟨⟨o, ho, hpre.swap ho⟩, hequal _ _ hnone hnone, hlast _ _ t hnone hx,
      t, hx, htyped _ _ _ _ hx hnone⟩

end Kind

end Facets
