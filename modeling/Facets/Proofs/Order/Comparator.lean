import Facets.Order.Sort
import Facets.Proofs.Order.Stable

/-
The comparison of stored values as a type.

`Kind.comparator` lists how two values of each type are compared, and
`comparator_eq_rank` says that comparing ranks is comparing so.  In either
direction a value that cannot be used comes after every value that can:
`Kind.compareIn` is that order, `Kind.compare` is its ascending case, and it is a
preorder on all values that can be compared.
-/
namespace Facets

open Outcome Facets.Order

/-! ## Ranks -/

namespace Rank

instance : Std.OrientedCmp Rank.compare where
  eq_swap {p q} := by
    cases p <;> cases q <;> simp only [Rank.compare]
    · exact Std.OrientedCmp.eq_swap
    · rfl
    · rfl
    · exact Std.OrientedCmp.eq_swap

instance : Std.TransCmp Rank.compare where
  isLE_trans {p q r} hpq hqr := by
    cases p <;> cases q <;> cases r <;> simp only [Rank.compare] at * <;>
      first | exact Std.TransCmp.isLE_trans hpq hqr | trivial

end Rank

namespace Order

/-- An order read in a direction. -/
def turn (descending : Bool) (o : Ordering) : Ordering := if descending then o.swap else o

variable {descending : Bool} {p q r : Rank}

theorem mayPrecede_iff :
    mayPrecede descending p q = true ↔ (turn descending (p.compare q)).isLE = true := by
  unfold mayPrecede turn
  cases descending <;> cases p.compare q <;> simp

/-- Exchanging two ranks turns their order around, in either direction. -/
theorem turn_compare_swap (descending : Bool) (p q : Rank) :
    turn descending (q.compare p) = (turn descending (p.compare q)).swap := by
  rw [@Std.OrientedCmp.eq_swap _ Rank.compare _ q]
  cases descending <;> rfl

theorem mayPrecede_total (descending : Bool) (p q : Rank) :
    (mayPrecede descending p q || mayPrecede descending q p) = true := by
  rw [Bool.or_eq_true, mayPrecede_iff, mayPrecede_iff, turn_compare_swap descending p q]
  cases turn descending (p.compare q) <;> decide

theorem mayPrecede_trans (hpq : mayPrecede descending p q = true)
    (hqr : mayPrecede descending q r = true) : mayPrecede descending p r = true := by
  rw [mayPrecede_iff] at *
  cases descending with
  | false =>
    simp only [turn, Bool.false_eq_true, if_false] at *
    exact Std.TransCmp.isLE_trans hpq hqr
  | true =>
    simp only [turn, if_true, ← @Std.OrientedCmp.eq_swap _ Rank.compare] at *
    exact Std.TransCmp.isLE_trans hqr hpq

end Order

/-! ## Typed values -/

namespace Kind

/-- How two values of one type are compared: numbers by value, moments by their
timestamps, truth values with false first, lists by length alone, and texts and
mappings by their plain text with case folded away. -/
def comparator (k : Kind) (a b : Typed) : Except Fault Ordering :=
  match k, a, b with
  | .number, .number m, .number n => .ok (m.compare n)
  | .date, .moment m, .moment n => .ok (Ord.compare m.timestamp n.timestamp)
  | .boolean, .flag b, .flag c => .ok (Ord.compare b c)
  | .array, .items vs, .items ws => .ok (Ord.compare vs.length ws.length)
  | .labels, .labels ls, .labels ms => .ok (Ord.compare ls.length ms.length)
  | k, a, b => do
    let s ← k.folded a.toValue
    let t ← k.folded b.toValue
    pure (Ord.compare s t)

theorem kind_of_coerce {k : Kind} {v : Value} {t : Typed} (h : k.coerce v = .ok (some t)) :
    t.kind = k := by
  unfold coerce at h
  split at h
  · cases h
  cases k <;>
    simp only [convert, bind_eq_ok, pure_eq_ok, Except.ok.injEq, Option.map_eq_some_iff] at h
  case string | number | array | labels =>
    obtain ⟨_, _, _, _, rfl⟩ := h
    rfl
  case boolean | date | object =>
    obtain ⟨_, _, rfl⟩ := h
    rfl

theorem folded_text (s : String) :
    string.folded (.text s) = .ok (Text.casefold s.toList) := by
  by_cases hs : s = ""
  · subst hs
    rfl
  · simp [folded, plain, coerce, convert, Value.isEmpty, Value.asText, hs, Typed.plain]

theorem folded_mapping (ps : List (Value × Value)) :
    object.folded (.dict ps) = (do
      let text ← (Typed.mapping ps).plain
      pure (Text.casefold text.toList)) := by
  cases ps <;> rfl

theorem compare_natCast (m n : Nat) : Ord.compare (m : Int) (n : Int) = Ord.compare m n := by
  simp only [Ord.compare, compareOfLessAndEq, Int.ofNat_lt, Int.natCast_inj]

/-- Comparing the ranks of two values of one type is comparing the values. -/
theorem comparator_eq_rank {k : Kind} {a b : Typed} (ha : a.kind = k) (hb : b.kind = k) :
    k.comparator a b = (do
      let p ← a.rank
      let q ← b.rank
      pure (p.compare q)) := by
  subst ha
  cases a <;> cases b <;> try contradiction
  case text s t =>
    simp only [comparator, Typed.kind, Typed.toValue, folded_text, Typed.rank, ok_bind,
      Rank.compare]
  case number m n => rfl
  case flag b c => cases b <;> cases c <;> rfl
  case moment m n => rfl
  case items vs ws => exact congrArg Except.ok (compare_natCast vs.length ws.length).symm
  case labels ls ms => exact congrArg Except.ok (compare_natCast ls.length ms.length).symm
  case mapping ps qs =>
    simp only [comparator, Typed.kind, Typed.toValue, folded_mapping, Typed.rank, bind_assoc,
      pure_bind, Rank.compare]

/-! ## Stored values -/

/-- The order of two stored values as a type, read in a direction.  A value that
cannot be used comes after every value that can, whichever the direction. -/
def compareIn (k : Kind) (descending : Bool) (a b : Value) : Except Fault Ordering := do
  let x ← k.coerce a
  let y ← k.coerce b
  match x, y with
  | none, none => pure .eq
  | none, some _ => pure .gt
  | some _, none => pure .lt
  | some x, some y => do
    let o ← k.comparator x y
    pure (turn descending o)

/-- How a comparison of two stored values comes out. -/
inductive Compares (k : Kind) (descending : Bool) (a b : Value) : Ordering → Prop
  | neither (ha : k.coerce a = .ok none) (hb : k.coerce b = .ok none) :
    Compares k descending a b .eq
  | second {y : Typed} (ha : k.coerce a = .ok none) (hb : k.coerce b = .ok (some y)) :
    Compares k descending a b .gt
  | first {x : Typed} (ha : k.coerce a = .ok (some x)) (hb : k.coerce b = .ok none) :
    Compares k descending a b .lt
  | both {x y : Typed} {p q : Rank} (ha : k.coerce a = .ok (some x))
      (hb : k.coerce b = .ok (some y)) (hp : x.rank = .ok p) (hq : y.rank = .ok q) :
    Compares k descending a b (turn descending (p.compare q))

variable {k : Kind} {descending : Bool} {a b : Value} {o : Ordering}

theorem comparator_eq_ok {x y : Typed} (ha : k.coerce a = .ok (some x))
    (hb : k.coerce b = .ok (some y)) :
    k.comparator x y = .ok o ↔ ∃ p q, x.rank = .ok p ∧ y.rank = .ok q ∧ p.compare q = o := by
  rw [comparator_eq_rank (kind_of_coerce ha) (kind_of_coerce hb)]
  simp only [bind_eq_ok, pure_eq_ok, exists_and_left]

theorem compareIn_eq_ok : k.compareIn descending a b = .ok o ↔ Compares k descending a b o := by
  constructor
  · intro h
    obtain ⟨x, ha, h⟩ := bind_eq_ok.mp h
    obtain ⟨y, hb, h⟩ := bind_eq_ok.mp h
    match x, y with
    | none, none =>
      rw [← pure_eq_ok.mp h]
      exact .neither ha hb
    | none, some y =>
      rw [← pure_eq_ok.mp h]
      exact .second ha hb
    | some x, none =>
      rw [← pure_eq_ok.mp h]
      exact .first ha hb
    | some x, some y =>
      obtain ⟨o', ho', h⟩ := bind_eq_ok.mp h
      obtain ⟨p, q, hp, hq, rfl⟩ := (comparator_eq_ok ha hb).mp ho'
      rw [← pure_eq_ok.mp h]
      exact .both ha hb hp hq
  · intro h
    cases h with
    | neither ha hb => simp only [compareIn, ha, hb, ok_bind, pure_eq_ok]
    | second ha hb => simp only [compareIn, ha, hb, ok_bind, pure_eq_ok]
    | first ha hb => simp only [compareIn, ha, hb, ok_bind, pure_eq_ok]
    | both ha hb hp hq =>
      have hc := (comparator_eq_ok ha hb).mpr ⟨_, _, hp, hq, rfl⟩
      simp only [compareIn, ha, hb, hc, ok_bind, pure_eq_ok]

/-- Two usable values compare as typed values do, read in the direction. -/
theorem compareIn_of_some {x y : Typed} (ha : k.coerce a = .ok (some x))
    (hb : k.coerce b = .ok (some y)) :
    k.compareIn descending a b = .ok o ↔
      ∃ o', k.comparator x y = .ok o' ∧ turn descending o' = o := by
  simp only [compareIn, ha, hb, ok_bind, bind_eq_ok, pure_eq_ok]

/-- Which values are equal does not depend on the direction. -/
theorem compareIn_eq_ok_eq (descending descending' : Bool) :
    k.compareIn descending a b = .ok .eq ↔ k.compareIn descending' a b = .ok .eq := by
  have hturn (d d' : Bool) (h : k.compareIn d a b = .ok .eq) : k.compareIn d' a b = .ok .eq := by
    rw [compareIn_eq_ok] at h ⊢
    generalize ho : Ordering.eq = o at h
    cases h with
    | neither ha hb => exact .neither ha hb
    | second | first => cases ho
    | @both x y p q ha hb hp hq =>
      have heq : turn d' (p.compare q) = .eq := by
        revert ho
        unfold turn
        cases d <;> cases d' <;> cases p.compare q <;> simp
      rw [← ho, ← heq]
      exact .both ha hb hp hq
  exact ⟨hturn descending descending', hturn descending' descending⟩

/-- Of two equal values both can be used or neither. -/
theorem coerce_eq_none_of_eq (h : k.compareIn descending a b = .ok .eq)
    (hb : k.coerce b = .ok none) : k.coerce a = .ok none := by
  rw [compareIn_eq_ok] at h
  generalize ho : Ordering.eq = o at h
  cases h with
  | neither ha => exact ha
  | second | first => cases ho
  | both _ hb' =>
    rw [hb] at hb'
    cases hb'

/-- The ascending order is the order of stored values. -/
theorem compareIn_false (k : Kind) : k.compareIn false = k.compare := by
  funext a b
  unfold compareIn Kind.compare
  cases ha : k.coerce a with
  | error e => rfl
  | ok x =>
    cases hb : k.coerce b with
    | error e => rfl
    | ok y =>
      match x, y with
      | none, none => rfl
      | none, some y => rfl
      | some x, none => rfl
      | some x, some y =>
        simp only [ok_bind, comparator_eq_rank (kind_of_coerce ha) (kind_of_coerce hb), turn,
          Bool.false_eq_true, if_false, bind_pure]

theorem isPreorder_compareIn (k : Kind) (descending : Bool) :
    IsPreorder (k.compareIn descending) where
  swap {a b o} h := by
    rw [compareIn_eq_ok] at h ⊢
    cases h with
    | neither ha hb => exact .neither hb ha
    | second ha hb => exact .first hb ha
    | first ha hb => exact .second hb ha
    | both ha hb hp hq =>
      rw [← turn_compare_swap]
      exact .both hb ha hq hp
  trans {a b c} hab hbc := by
    obtain ⟨o, ho, hle⟩ := hab
    obtain ⟨o', ho', hle'⟩ := hbc
    -- The middle value is usable in both comparisons or in neither.
    cases compareIn_eq_ok.mp ho with
    | second => contradiction
    | neither ha hb =>
      cases compareIn_eq_ok.mp ho' with
      | second => contradiction
      | neither _ hc => exact ⟨.eq, compareIn_eq_ok.mpr (.neither ha hc), rfl⟩
      | first hb' | both hb' =>
        rw [hb] at hb'
        cases hb'
    | first ha hb =>
      cases compareIn_eq_ok.mp ho' with
      | second => contradiction
      | neither _ hc => exact ⟨.lt, compareIn_eq_ok.mpr (.first ha hc), rfl⟩
      | first hb' | both hb' =>
        rw [hb] at hb'
        cases hb'
    | both ha hb hp hq =>
      cases compareIn_eq_ok.mp ho' with
      | neither hb' | second hb' =>
        rw [hb] at hb'
        cases hb'
      | first _ hc => exact ⟨.lt, compareIn_eq_ok.mpr (.first ha hc), rfl⟩
      | both hb' hc hq' hr =>
        rw [hb] at hb'
        cases hb'
        rw [hq] at hq'
        cases hq'
        refine ⟨_, compareIn_eq_ok.mpr (.both ha hc hp hr), ?_⟩
        exact mayPrecede_iff.mp
          (mayPrecede_trans (mayPrecede_iff.mpr hle) (mayPrecede_iff.mpr hle'))

end Kind
end Facets
