import Facets.Proofs.Field.Coercion

/-
The values of the types.

`Kind.Owns` says which stored values are values of a type.  Coercion gives no other
ones, and it leaves these as they are (`coerceTo_owned_idempotent`), so they are
exactly the values that coercion does not change (`Kind.coerce_eq_self_iff`).
-/
namespace Facets

open Outcome

/-- A value of the type.  Numbers are finite, moments have a place, and neither texts nor
collections are empty. -/
inductive Kind.Owns : Kind → Value → Prop
  | text {s : String} (h : s ≠ "") : Owns .string (.text s)
  | integer (n : Int) : Owns .number (.int n)
  | double (x : Number.FiniteDouble) : Owns .number (.float (.finite x))
  | flag (b : Bool) : Owns .boolean (.bool b)
  | moment (clock : LocalTime) (place : Place) : Owns .date (.dateTime clock (some place))
  | items {vs : List Value} (h : vs ≠ []) : Owns .array (.list vs)
  | labels {ls : List String} (h : ls ≠ []) (hall : ∀ l ∈ ls, l ≠ "") :
    Owns .labels (.list (ls.map .text))
  | mapping {ps : List (Value × Value)} (h : ps ≠ []) : Owns .object (.dict ps)

variable {k : Kind} {v : Value} {t : Typed}

theorem Kind.Owns.isEmpty_eq_false (h : k.Owns v) : v.isEmpty = false := by
  cases h with
  | text h => simpa [Value.isEmpty] using h
  | integer _ | double _ | flag _ | moment _ _ => rfl
  | items h | mapping h => simpa [Value.isEmpty] using h
  | labels h _ => simpa [Value.isEmpty] using h

namespace Typed

/-- What can be stored is a value of its type. -/
theorem Fit.owns (h : t.Fit) : t.kind.Owns t.toValue := by
  obtain ⟨hne, hlabels⟩ := h
  cases t with
  | text s => exact .text (by simpa [toValue, Value.isEmpty] using hne)
  | number n =>
    cases n with
    | int n => exact .integer n
    | float x => exact .double x
  | flag b => exact .flag b
  | moment m => exact .moment m.clock m.place
  | items vs => exact .items (by simpa [toValue, Value.isEmpty] using hne)
  | labels ls =>
    refine .labels (by simpa [toValue, Value.isEmpty] using hne) ?_
    exact hlabels ls rfl
  | mapping ps => exact .mapping (by simpa [toValue, Value.isEmpty] using hne)

/-- Every value of a type can be stored. -/
theorem exists_fit_of_owns (h : k.Owns v) : ∃ t : Typed, t.Fit ∧ t.kind = k ∧ t.toValue = v := by
  have hne := h.isEmpty_eq_false
  cases h with
  | @text s _ => exact ⟨.text s, fit_of_kind (k := .string) rfl (by decide) hne, rfl, rfl⟩
  | integer n => exact ⟨.number (.int n), fit_of_kind (k := .number) rfl (by decide) hne, rfl, rfl⟩
  | double x =>
    exact ⟨.number (.float x), fit_of_kind (k := .number) rfl (by decide) hne, rfl, rfl⟩
  | flag b => exact ⟨.flag b, fit_of_kind (k := .boolean) rfl (by decide) hne, rfl, rfl⟩
  | moment clock place =>
    exact ⟨.moment ⟨clock, place⟩, fit_of_kind (k := .date) rfl (by decide) hne, rfl, rfl⟩
  | @items vs _ => exact ⟨.items vs, fit_of_kind (k := .array) rfl (by decide) hne, rfl, rfl⟩
  | @labels ls _ hall =>
    refine ⟨.labels ls, ⟨hne, fun ls' hls => ?_⟩, rfl, rfl⟩
    rw [← Typed.labels.inj hls]
    exact hall
  | @mapping ps _ => exact ⟨.mapping ps, fit_of_kind (k := .object) rfl (by decide) hne, rfl, rfl⟩

end Typed

namespace Kind

/-- What coercion gives is a value of the type. -/
theorem owns_of_coerce (h : k.coerce v = .ok (some t)) : k.Owns t.toValue := by
  have hkind : t.kind = k := kind_of_coerce h
  rw [← hkind]
  exact (fit_of_coerce h).owns

/-- The values of a type are those that coercion to it leaves as they are. -/
theorem coerce_eq_self_iff : (∃ t, k.coerce v = .ok (some t) ∧ t.toValue = v) ↔ k.Owns v := by
  constructor
  · rintro ⟨t, ht, rfl⟩
    exact owns_of_coerce ht
  · intro h
    obtain ⟨t, hfit, rfl, rfl⟩ := Typed.exists_fit_of_owns h
    exact ⟨t, Typed.coerce_toValue hfit, rfl⟩

theorem not_owns_of_coerce (h : k.coerce v = .ok none) : ¬ k.Owns v := by
  intro howns
  obtain ⟨t, ht, -⟩ := coerce_eq_self_iff.mpr howns
  cases h.symm.trans ht

end Kind

/-- Coercion gives nothing or a value of the type, which is not empty, and coercing
again gives the same. -/
theorem coerceTo_owned_idempotent {x : Option Typed} (h : v.coerceTo k.tag = .ok x) :
    (∀ t ∈ x, k.Owns t.toValue ∧ t.toValue.isEmpty = false) ∧
      ((x.map Typed.toValue).getD .null).coerceTo k.tag = .ok x := by
  rw [Value.coerceTo_tag] at h ⊢
  refine ⟨fun t ht => ?_, Kind.coerce_coerce h⟩
  rw [ht] at h
  have howns : k.Owns t.toValue := Kind.owns_of_coerce h
  exact ⟨howns, howns.isEmpty_eq_false⟩

namespace Sample

/-- Labels as they were typed in.  One is missing, one is a number and one a list. -/
def typedIn : Value := .tuple [.text "", .text "woods", .int 1854, .tuple [.null]]

def typedOut : List String := ["woods", "1854", "(None,)"]

end Sample

open Sample in
theorem coerceTo_owned_idempotent_labels :
    typedIn.coerceTo Kind.labels.tag = .ok (some (.labels typedOut)) ∧
      Kind.labels.Owns (.list (typedOut.map .text)) ∧
      (Value.list (typedOut.map .text)).coerceTo Kind.labels.tag =
        .ok (some (.labels typedOut)) := by
  have hgives : gives typedIn.asLabels (some typedOut) = true := by decide +kernel
  have hcoerce : typedIn.coerceTo Kind.labels.tag = .ok (some (.labels typedOut)) := by
    rw [Value.coerceTo_tag, Kind.coerce, if_neg (by decide), Kind.convert, gives_iff.mp hgives]
    rfl
  obtain ⟨howns, hagain⟩ := coerceTo_owned_idempotent hcoerce
  exact ⟨hcoerce, (howns _ rfl).1, hagain⟩

end Facets
