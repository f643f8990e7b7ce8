import Facets.Proofs.Number.Rounding
import Mathlib.Algebra.Order.Field.Basic
import Mathlib.Algebra.Order.Ring.Rat
import Mathlib.Order.WithBotTop

/-
Numbers as the rational numbers that they are.

An integer is itself, and a finite double is a whole number of units.  Comparing
counts of units is comparing these rational numbers, whatever form the numbers have
(`Number.value_le_value`), so no comparison rounds.  Bounds may be infinite; they lie
on the line of rational numbers with both ends (`Amount.below_iff`).
-/
namespace Facets

namespace Number

def value : Number → ℚ
  | .int n => n
  | .float x => x.scaled / unitsInOne

theorem unitsInOne_cast_pos : (0 : ℚ) < unitsInOne := Nat.cast_pos.mpr unitsInOne_pos

theorem value_eq (n : Number) : n.value = n.scaled / unitsInOne := by
  cases n with
  | int n =>
    show (n : ℚ) = ((n * unitsInOne : Int) : ℚ) / unitsInOne
    rw [Int.cast_mul, Int.cast_natCast, mul_div_cancel_right₀ _ unitsInOne_cast_pos.ne']
  | float x => rfl

variable {m n : Number}

theorem value_le_value : m.value ≤ n.value ↔ m.scaled ≤ n.scaled := by
  rw [value_eq, value_eq, div_le_div_iff_of_pos_right unitsInOne_cast_pos, Int.cast_le]

theorem below_iff : m.below n = true ↔ m.value < n.value := by
  rw [below, decide_eq_true_eq, ← not_le, ← not_le, value_le_value]

theorem value_inj : m.value = n.value ↔ m.scaled = n.scaled := by
  rw [le_antisymm_iff, value_le_value, value_le_value, ← le_antisymm_iff]

end Number

/-- The rational numbers with an end on either side. -/
abbrev Line := WithBotTop ℚ

namespace Amount

/-- Where an amount lies.  What is not a number lies nowhere. -/
def level? : Amount → Option Line
  | .int n => some (n : ℚ)
  | .float (.finite x) => some (Number.float x).value
  | .float (.infinite negative) => some (if negative then ⊥ else ⊤)
  | .float (.nan _) => none

theorem level?_ofNumber (n : Number) : (ofNumber n).level? = some (n.value : Line) := by
  cases n with
  | int n => rfl
  | float x => rfl

def Place.level : Place → Line
  | .bottom => ⊥
  | .at units => ((units / Number.unitsInOne : ℚ) : Line)
  | .top => ⊤

theorem level?_eq (a : Amount) : a.level? = a.place?.map Place.level := by
  match a with
  | .int n => exact congrArg (fun x : ℚ => some (x : Line)) (Number.value_eq (.int n))
  | .float (.finite x) => rfl
  | .float (.infinite true) => rfl
  | .float (.infinite false) => rfl
  | .float (.nan _) => rfl

theorem Place.below_iff {p q : Place} : p.below q = true ↔ p.level < q.level := by
  match p, q with
  | .bottom, .bottom | .at _, .bottom | .top, .bottom =>
    exact iff_of_false Bool.false_ne_true not_lt_bot
  | .bottom, .at _ | .bottom, .top => exact iff_of_true rfl (WithBot.bot_lt_coe _)
  | .top, .at _ | .top, .top => exact iff_of_false Bool.false_ne_true not_top_lt
  | .at m, .top =>
    have hlt : (Place.at m).level < Place.top.level :=
      WithBot.coe_lt_coe.mpr (WithTop.coe_lt_top _)
    exact iff_of_true rfl hlt
  | .at m, .at n =>
    show decide (m < n) = true ↔ _
    rw [decide_eq_true_eq, level, level, WithBotTop.coe_lt_coe,
      div_lt_div_iff_of_pos_right Number.unitsInOne_cast_pos, Int.cast_lt]

variable {a b : Amount} {x y : Line}

theorem below_iff (ha : a.level? = some x) (hb : b.level? = some y) :
    a.below b = true ↔ x < y := by
  rw [level?_eq] at ha hb
  obtain ⟨p, hp, rfl⟩ := Option.map_eq_some_iff.mp ha
  obtain ⟨q, hq, rfl⟩ := Option.map_eq_some_iff.mp hb
  rw [below, hp, hq]
  exact Place.below_iff

theorem atMost_iff (ha : a.level? = some x) (hb : b.level? = some y) :
    a.atMost b = true ↔ x ≤ y := by
  rw [level?_eq] at ha hb
  obtain ⟨p, hp, rfl⟩ := Option.map_eq_some_iff.mp ha
  obtain ⟨q, hq, rfl⟩ := Option.map_eq_some_iff.mp hb
  rw [atMost, hp, hq]
  show (!q.below p) = true ↔ _
  rw [Bool.not_eq_true', ← Bool.not_eq_true, Place.below_iff, not_lt]

/-- Of two amounts that lie somewhere, one is at most the other unless the other is below. -/
theorem not_below (ha : a.level? = some x) (hb : b.level? = some y) :
    (!a.below b) = b.atMost a := by
  rw [Bool.eq_iff_iff, Bool.not_eq_true', ← Bool.not_eq_true, below_iff ha hb, atMost_iff hb ha,
    not_lt]

end Amount
end Facets
